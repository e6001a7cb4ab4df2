import Usbutils.Lib.CString
import Usbutils.Lib.Loops

/-! `get_absolute_path` of `usbmisc.c`. The result is a buffer of exactly `result_size` bytes,
so an access outside it is `none`. -/
namespace Usbutils
open CString Loops

abbrev PathText := {bytes : List UInt8 // 0 ∉ bytes}

def slash : UInt8 := 0x2f

def dot : UInt8 := 0x2e

/-- `getcwd` fails, or puts a string that begins with a slash into the buffer. -/
abbrev Getcwd := (buf : Buffer) →
  Option {cwd : Buffer // cwd.length = buf.length ∧ 0 ∈ cwd ∧ cwd.head? = some slash}

/-- What is left of the path, `presult` and the size that is left. -/
structure Cursor where
  ppath : List UInt8
  presult : Nat
  resultSize : Nat
  result : Buffer
  deriving Repr, DecidableEq

def byteBefore (result : Buffer) : Nat → Option UInt8
  | 0 => none
  | i + 1 => load result i

/-- `*presult++ = byte; result_size--;` with the path left behind it. -/
def Cursor.put (s : Cursor) (byte : UInt8) (ppath : List UInt8) : Option Cursor := do
  let result ← store s.result s.presult byte
  return ⟨ppath, s.presult + 1, s.resultSize - 1, result⟩

def Cursor.follows (s : Cursor) (dots : List UInt8) : Option Bool :=
  if dots.isPrefixOf s.ppath then do
    return (← byteBefore s.result s.presult) == slash
  else some false

/-- `do { presult--; result_size++; } while (*(presult - 1) != '/');` -/
def goUp (result : Buffer) : Nat → Nat → Option (Nat × Nat)
  | 0, _ => none
  | presult + 1, resultSize => do
      let byte ← byteBefore result presult
      (if byte ≠ slash then goUp result presult (resultSize + 1)
      else some (presult, resultSize + 1))

def Cursor.advance (s : Cursor) : Option Cursor :=
  if s.ppath.head? = some slash then s.put slash (s.ppath.dropWhile (· == slash))
  else do
    if ← s.follows [dot, dot, slash] then
      if s.presult - 1 ≠ 0 then
        let (presult, resultSize) ← goUp s.result s.presult s.resultSize
        return ⟨s.ppath.drop 3, presult, resultSize, s.result⟩
      else return { s with ppath := s.ppath.drop 3 }
    else if ← s.follows [dot, slash] then return { s with ppath := s.ppath.drop 2 }
    else s.put (s.ppath.headD 0) s.ppath.tail

def Cursor.more (s : Cursor) : Bool := s.ppath ≠ [] && s.resultSize > 1

/-- Before the loop; the inner `none` is a failure of `getcwd`. -/
def Cursor.start (getcwd : Getcwd) (path : PathText) (result : Buffer) : Option (Option Cursor) :=
  if path.val.head? ≠ some slash then
    match getcwd result with
    | none => some none
    | some cwd =>
        let len := (contents cwd.val).length
        let s : Cursor := ⟨path.val, len, result.length - len, cwd.val⟩
        (if s.resultSize > 1 then do return some (← s.put slash path.val) else some (some s))
  else some (some ⟨path.val, 0, result.length, result⟩)

def getAbsolutePath (getcwd : Getcwd) (path : Option PathText) (result : Buffer) :
    Option (Option Buffer) := do
  let result ← store result 0 0
  match path with
  | none => return some result
  | some path =>
      match ← Cursor.start getcwd path result with
      | none => return none
      | some s =>
          let s ← whileLoop Cursor.more Cursor.advance (path.val.length + 1) s
          return some (← store s.result s.presult 0)

/-- The size that is left ends where the buffer ends, and there is a slash at the start of the
result unless the path begins with the one to be put there. -/
structure Cursor.Inside (size : Nat) (s : Cursor) : Prop where
  length : s.result.length = size
  extent : s.presult + s.resultSize = size
  room : 1 ≤ s.resultSize
  rooted : s.presult = 0 ∧ s.ppath.head? = some slash ∨
    0 < s.presult ∧ s.result.head? = some slash

def Cursor.pathLeft (s : Cursor) : Nat := s.ppath.length

section Bounds

variable {size : Nat} {s s' : Cursor} {result : Buffer} {presult resultSize i : Nat} {byte : UInt8}

theorem store_of_lt (h : i < result.length) (byte : UInt8) :
    store result i byte = some (result.set i byte) :=
  if_pos h

theorem byteBefore_eq_some (hpos : 0 < i) (hi : i ≤ result.length) :
    ∃ byte, byteBefore result i = some byte ∧ result[i - 1]? = some byte := by
  cases i with
  | zero => cases hpos
  | succ i => exact ⟨result[i], List.getElem?_eq_getElem hi, List.getElem?_eq_getElem hi⟩

theorem put_inside (hs : s.Inside size) (hmore : 1 < s.resultSize)
    (hbyte : s.presult = 0 → byte = slash) (ppath : List UInt8) :
    ∃ s', s.put byte ppath = some s' ∧ s'.Inside size ∧ s'.ppath = ppath := by
  obtain ⟨hlength, hextent, hroom, hrooted⟩ := hs
  have hput : s.put byte ppath =
      some ⟨ppath, s.presult + 1, s.resultSize - 1, s.result.set s.presult byte⟩ := by
    rw [Cursor.put, store_of_lt (by omega)]
    rfl
  refine ⟨_, hput, ⟨?_, ?_, ?_, Or.inr ⟨Nat.succ_pos _, ?_⟩⟩, rfl⟩
  · rw [List.length_set, hlength]
  · dsimp only
    omega
  · dsimp only
    omega
  · rw [List.head?_eq_getElem?]
    rcases hrooted with ⟨hzero, -⟩ | ⟨hpos, hhead⟩
    · rw [hzero, List.getElem?_set_self (by omega), hbyte hzero]
    · rw [List.getElem?_set_ne (Nat.ne_of_gt hpos), ← List.head?_eq_getElem?, hhead]

/-- The walk back stops behind a slash, at the first byte of the result if not before. -/
theorem goUp_inside (hhead : result.head? = some slash) (hpresult : 2 ≤ presult)
    (hlength : presult ≤ result.length) (resultSize : Nat) :
    ∃ up, goUp result presult resultSize = some (up, resultSize + (presult - up)) ∧
      1 ≤ up ∧ up < presult ∧ result[up - 1]? = some slash := by
  induction presult, hpresult using Nat.le_induction generalizing resultSize with
  | base =>
      refine ⟨1, ?_, Nat.le_refl 1, by omega, by rw [← hhead, List.head?_eq_getElem?]⟩
      rw [List.head?_eq_getElem?] at hhead
      simp [goUp, byteBefore, load, hhead]
  | succ presult hpresult ih =>
      obtain ⟨byte, hbefore, hbyte⟩ := @byteBefore_eq_some result presult (by omega) (by omega)
      rw [goUp, hbefore]
      simp only [Option.bind_eq_bind, Option.bind_some]
      by_cases hslash : byte = slash
      · refine ⟨presult, ?_, by omega, by omega, hslash ▸ hbyte⟩
        rw [if_neg (by simp [hslash])]
        simp
      · obtain ⟨up, hgo, hpos, hup, hat⟩ := ih (by omega) (resultSize + 1)
        refine ⟨up, ?_, hpos, by omega, hat⟩
        rw [if_pos hslash, hgo]
        congr 2
        omega

theorem follows_inside (hs : s.Inside size) (hppath : s.ppath.head? ≠ some slash)
    (dots : List UInt8) : ∃ b, s.follows dots = some b ∧ (b = true → dots <+: s.ppath) := by
  obtain ⟨hlength, hextent, hroom, hrooted⟩ := hs
  have hpos : 0 < s.presult := by
    rcases hrooted with ⟨-, hslash⟩ | ⟨hpos, -⟩
    · exact absurd hslash hppath
    · exact hpos
  obtain ⟨byte, hbefore, -⟩ := @byteBefore_eq_some s.result s.presult hpos (by omega)
  rw [Cursor.follows, hbefore]
  split
  case isTrue hdots => exact ⟨byte == slash, rfl, fun _ => List.isPrefixOf_iff_prefix.mp hdots⟩
  case isFalse => exact ⟨false, rfl, nofun⟩

theorem slash_inside (hs : s.Inside size) (hroom : 1 < s.resultSize)
    (hslash : s.ppath.head? = some slash) :
    ∃ s', s.put slash (s.ppath.dropWhile (· == slash)) = some s' ∧ s'.Inside size ∧
      s'.pathLeft < s.pathLeft := by
  obtain ⟨rest, hppath⟩ := List.head?_eq_some_iff.mp hslash
  obtain ⟨s', hput, hinside, hrest⟩ :=
    put_inside hs hroom (fun _ => rfl) (s.ppath.dropWhile (· == slash))
  refine ⟨s', hput, hinside, ?_⟩
  have hle := (List.dropWhile_suffix (l := rest) (· == slash)).length_le
  rw [Cursor.pathLeft, Cursor.pathLeft, hrest, hppath, List.dropWhile_cons_of_pos (by simp),
    List.length_cons]
  omega

theorem parent_inside (hs : s.Inside size) (hhead : s.result.head? = some slash)
    (hroot : s.presult - 1 ≠ 0) (ppath : List UInt8) :
    ∃ parent left, goUp s.result s.presult s.resultSize = some (parent, left) ∧
      Cursor.Inside size ⟨ppath, parent, left, s.result⟩ := by
  obtain ⟨hlength, hextent, hroom, -⟩ := hs
  obtain ⟨parent, hgo, hpos, hless, -⟩ :=
    @goUp_inside s.result s.presult hhead (by omega) (by omega) s.resultSize
  refine ⟨parent, _, hgo, hlength, ?_, ?_, Or.inr ⟨hpos, hhead⟩⟩
  · dsimp only
    omega
  · dsimp only
    omega

/-- One turn of the loop stays inside the result and uses up a part of the path. -/
theorem advance_inside (size : Nat) :
    Bounded Cursor.more Cursor.advance (Cursor.Inside size) Cursor.pathLeft := by
  intro s hs hmore
  obtain ⟨hne, hroom⟩ : s.ppath ≠ [] ∧ 1 < s.resultSize := by
    simpa [Cursor.more] using hmore
  rw [Cursor.advance]
  split
  case isTrue hslash => exact slash_inside hs hroom hslash
  case isFalse hslash =>
    have hpresult : 0 < s.presult ∧ s.result.head? = some slash :=
      hs.rooted.resolve_left fun h => hslash h.2
    have hdrop (n : Nat) (hn : 0 < n) : (s.ppath.drop n).length < s.ppath.length := by
      have hpos := List.length_pos_iff.mpr hne
      rw [List.length_drop]
      omega
    have hkeep (ppath : List UInt8) : Cursor.Inside size { s with ppath := ppath } :=
      ⟨hs.length, hs.extent, hs.room, Or.inr hpresult⟩
    obtain ⟨up, hup, -⟩ := follows_inside hs hslash [dot, dot, slash]
    obtain ⟨same, hsame, -⟩ := follows_inside hs hslash [dot, slash]
    rw [hup, hsame]
    simp only [Option.bind_eq_bind, Option.bind_some]
    cases up with
    | true =>
        by_cases hroot : s.presult - 1 ≠ 0
        · obtain ⟨parent, left, hgo, hinside⟩ :=
            parent_inside hs hpresult.2 hroot (s.ppath.drop 3)
          rw [if_pos rfl, if_pos hroot, hgo]
          exact ⟨_, rfl, hinside, hdrop 3 (by decide)⟩
        · rw [if_pos rfl, if_neg hroot]
          exact ⟨_, rfl, hkeep _, hdrop 3 (by decide)⟩
    | false =>
        cases same with
        | true => exact ⟨_, rfl, hkeep _, hdrop 2 (by decide)⟩
        | false =>
            obtain ⟨s', hput, hinside, hrest⟩ := @put_inside size s (s.ppath.headD 0) hs hroom
              (fun h => absurd h (Nat.ne_of_gt hpresult.1)) s.ppath.tail
            refine ⟨s', hput, hinside, ?_⟩
            rw [Cursor.pathLeft, hrest, ← List.drop_one]
            exact hdrop 1 (by decide)

def InLoop (getcwd : Getcwd) (path : PathText) (result : Buffer) (s : Cursor) : Prop :=
  ∃ cleared first, store result 0 0 = some cleared ∧
    Cursor.start getcwd path cleared = some (some first) ∧
    Reaches Cursor.more Cursor.advance first s

def Cursor.GoesUp (s : Cursor) : Prop :=
  s.more = true ∧ s.follows [dot, dot, slash] = some true ∧ s.presult - 1 ≠ 0

theorem start_inside (getcwd : Getcwd) (path : PathText) (hsize : 1 ≤ result.length) :
    Cursor.start getcwd path result = some none ∨
      ∃ s, Cursor.start getcwd path result = some (some s) ∧ s.Inside result.length ∧
        s.ppath = path.val := by
  unfold Cursor.start
  split
  case isFalse hslash =>
    refine Or.inr ⟨_, rfl, ⟨rfl, Nat.zero_add _, hsize, Or.inl ⟨rfl, ?_⟩⟩, rfl⟩
    exact Decidable.not_not.mp hslash
  case isTrue =>
    cases getcwd result with
    | none => exact Or.inl rfl
    | some cwd =>
        obtain ⟨cwd, hlength, hends, hhead⟩ := cwd
        obtain ⟨right, hright⟩ := exists_contents hends
        have hfits : (contents cwd).length + 1 + right.length = result.length := by
          have hcount := congrArg List.length hright
          rw [List.length_append, List.length_cons, hlength] at hcount
          omega
        have hpos : 0 < (contents cwd).length := by
          apply List.length_pos_iff.mpr
          intro hnil
          rw [hnil, List.nil_append] at hright
          rw [hright] at hhead
          cases hhead
        have hinside : Cursor.Inside result.length ⟨path.val, (contents cwd).length,
            result.length - (contents cwd).length, cwd⟩ :=
          ⟨hlength, by dsimp only; omega, by dsimp only; omega, Or.inr ⟨hpos, hhead⟩⟩
        dsimp only
        split
        case isTrue hroom =>
          obtain ⟨s', hput, hs', hppath⟩ :=
            @put_inside _ _ slash hinside hroom (fun _ => rfl) path.val
          exact Or.inr ⟨s', by rw [hput]; rfl, hs', hppath⟩
        case isFalse => exact Or.inr ⟨_, rfl, hinside, rfl⟩

theorem inLoop_inside {getcwd : Getcwd} {path : PathText} (hsize : 1 ≤ result.length)
    (hs : InLoop getcwd path result s) : s.Inside result.length := by
  obtain ⟨cleared, first, hclear, hstart, hrun⟩ := hs
  obtain rfl := Option.some.inj ((store_of_lt hsize 0).symm.trans hclear)
  rcases @start_inside (result.set 0 0) getcwd path (by simpa using hsize) with
    hnone | ⟨s₀, hsome, hinside, -⟩
  · rw [hnone] at hstart
    cases hstart
  · rw [hsome] at hstart
    obtain rfl := Option.some.inj (Option.some.inj hstart)
    rw [List.length_set] at hinside
    exact (advance_inside result.length).reaches hrun hinside

/-- For a result of at least one byte the function comes to its end, with every access inside
the result: it is a null pointer or ends with a NUL that is written there, and each walk back to
the directory above stops at a slash, the first one of the result or one behind it. -/
theorem getAbsolutePath_inside (getcwd : Getcwd) (hsize : 1 ≤ result.length) :
    getAbsolutePath getcwd none result = some (some (result.set 0 0)) ∧
    ∀ path : PathText,
      (getAbsolutePath getcwd (some path) result = some none ∨
        ∃ s, InLoop getcwd path result s ∧ s.more = false ∧
          s.result.length = result.length ∧ s.presult < result.length ∧
          getAbsolutePath getcwd (some path) result = some (some (s.result.set s.presult 0))) ∧
      ∀ s, InLoop getcwd path result s → s.GoesUp →
        ∃ up size, goUp s.result s.presult s.resultSize = some (up, size) ∧
          1 ≤ up ∧ s.result.idxOf slash ≤ up - 1 ∧ s.result[up - 1]? = some slash := by
  have hclear := store_of_lt hsize 0
  refine ⟨by rw [getAbsolutePath, hclear]; rfl, ?_⟩
  intro path
  constructor
  · rw [getAbsolutePath, hclear]
    simp only [Option.bind_eq_bind, Option.bind_some]
    rcases @start_inside (result.set 0 0) getcwd path (by simpa using hsize) with
      hnone | ⟨first, hsome, hinside, hppath⟩
    · exact Or.inl (by rw [hnone]; rfl)
    · rw [List.length_set] at hinside
      have hbounded := advance_inside result.length
      obtain ⟨s, hrun, hexit⟩ := hbounded.exits hinside
      have hs := hbounded.reaches hrun hinside
      have hloop : whileLoop Cursor.more Cursor.advance (path.val.length + 1) first = some s :=
        hbounded.whileLoop_of_reaches hrun hinside hexit (by simp [Cursor.pathLeft, hppath])
      have hlt : s.presult < s.result.length := by
        have := hs.length
        have := hs.extent
        have := hs.room
        omega
      refine Or.inr ⟨s, ⟨_, first, hclear, hsome, hrun⟩, hexit, hs.length, hs.length ▸ hlt, ?_⟩
      rw [hsome]
      simp only [Option.bind_some, hloop, store_of_lt hlt]
      rfl
  · intro s hs hup
    have hinside := inLoop_inside hsize hs
    obtain ⟨hmore, hfollows, hroot⟩ := hup
    have hhead : s.result.head? = some slash := by
      rcases hinside.rooted with ⟨hzero, -⟩ | ⟨-, hhead⟩
      · rw [hzero] at hroot
        exact absurd rfl hroot
      · exact hhead
    obtain ⟨up, hgo, hpos, -, hat⟩ := @goUp_inside s.result s.presult hhead (by omega)
      (by have := hinside.length; have := hinside.extent; omega) s.resultSize
    have hfirst : s.result.idxOf slash = 0 := by
      obtain ⟨rest, hrest⟩ := List.head?_eq_some_iff.mp hhead
      rw [hrest, List.idxOf_cons_self]
    exact ⟨up, _, hgo, hpos, hfirst ▸ Nat.zero_le _, hat⟩

theorem getAbsolutePath_inside_cut :
    getAbsolutePath (fun _ => none) none [1, 2, 3, 4] = some (some [0, 2, 3, 4]) ∧
    ∀ path : PathText, ∀ s, InLoop (fun _ => none) path [1, 2, 3, 4] s → s.GoesUp →
      ∃ up size, goUp s.result s.presult s.resultSize = some (up, size) ∧
        1 ≤ up ∧ s.result.idxOf slash ≤ up - 1 ∧ s.result[up - 1]? = some slash := by
  obtain ⟨hnull, hpath⟩ :=
    getAbsolutePath_inside (fun _ => none) (show 1 ≤ ([1, 2, 3, 4] : Buffer).length by decide)
  exact ⟨hnull, fun path => (hpath path).2⟩

example : getAbsolutePath (fun _ => none)
    (some ⟨[slash, 0x61, slash, dot, dot, slash, dot, slash, 0x62, 0x63, 0x64, 0x65], by decide⟩)
    [1, 2, 3, 4, 5] = some (some [slash, 0x62, 0x63, 0x64, 0]) := by
  decide

end Bounds
end Usbutils
