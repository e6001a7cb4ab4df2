import Usbutils.Lib.Walk
import Usbutils.Paths.Absolute

/-! The run of the loop of `get_absolute_path`, component by component, and the result where
it has room for all of it. -/
namespace Usbutils
open CString Loops Walk

/-- The components of a path, each with the slash behind it, and the last one. -/
def joined : List (List UInt8) → List UInt8 → List UInt8
  | [], last => last
  | c :: rest, last => c ++ slash :: joined rest last

def trunk (names : List (List UInt8)) : List UInt8 := names.flatMap (slash :: ·)

def directory (names : List (List UInt8)) : List UInt8 := trunk names ++ [slash]

/-- The loop takes a run of slashes for one, but not one that begins behind "./" or "../": that
run puts a slash of its own, as if a directory without a name came there. -/
def loopMoves (inRun : Bool) : List (List UInt8) → List (Move (List UInt8))
  | [] => []
  | c :: rest =>
      if c = [] then
        if inRun then loopMoves true rest else .down [] :: loopMoves true rest
      else if c = [dot] then loopMoves false rest
      else if c = [dot, dot] then .up :: loopMoves false rest
      else .down c :: loopMoves true rest

def pathMoves (path : List UInt8) : List (Move (List UInt8)) :=
  loopMoves true (path.splitOn slash).dropLast

def lastComponent (path : List UInt8) : List UInt8 := (path.splitOn slash).getLastD []

section Components

variable {path last : List UInt8} {components names : List (List UInt8)} {c : List UInt8}

structure SplitsInto (path : List UInt8) (components : List (List UInt8)) (last : List UInt8) :
    Prop where
  text : path = joined components last
  clean : ∀ c ∈ components, slash ∉ c
  lastClean : slash ∉ last

theorem exists_splitsInto (path : List UInt8) : ∃ components last,
    SplitsInto path components last := by
  induction path with
  | nil => exact ⟨[], [], rfl, nofun, nofun⟩
  | cons byte path ih =>
      obtain ⟨components, last, rfl, hclean, hlast⟩ := ih
      by_cases hbyte : byte = slash
      · refine ⟨[] :: components, last, by simp [joined, hbyte], ?_, hlast⟩
        simpa using hclean
      · cases components with
        | nil => exact ⟨[], byte :: last, rfl, nofun, by simp [hlast, Ne.symm hbyte]⟩
        | cons c components =>
            refine ⟨(byte :: c) :: components, last, rfl, ?_, hlast⟩
            simpa [Ne.symm hbyte] using hclean

theorem SplitsInto.splitOn (h : SplitsInto path components last) :
    path.splitOn slash = components ++ [last] := by
  obtain ⟨rfl, hclean, hlast⟩ := h
  induction components with
  | nil => exact List.splitOn_eq_singleton hlast
  | cons c components ih =>
      obtain ⟨hc, hclean⟩ := List.forall_mem_cons.mp hclean
      rw [joined, List.splitOn_append_cons_self_of_not_mem hc, ih hclean, List.cons_append]

theorem SplitsInto.pathMoves_eq (h : SplitsInto path components last) :
    pathMoves path = loopMoves true components := by
  rw [pathMoves, h.splitOn, List.dropLast_concat]

theorem SplitsInto.lastComponent_eq (h : SplitsInto path components last) :
    lastComponent path = last := by
  rw [lastComponent, h.splitOn, List.getLastD_concat]

theorem trunk_concat (names : List (List UInt8)) (c : List UInt8) :
    trunk (names ++ [c]) = trunk names ++ slash :: c := by
  simp [trunk]

theorem directory_concat (names : List (List UInt8)) (c : List UInt8) :
    directory (names ++ [c]) = directory names ++ c ++ [slash] := by
  simp [directory, trunk_concat]

theorem intercalate_trunk (names : List (List UInt8)) :
    names ≠ [] → slash :: [slash].intercalate names = trunk names := by
  induction names with
  | nil => exact fun h => absurd rfl h
  | cons c names ih =>
      intro _
      cases names with
      | nil => simp [trunk]
      | cons d names =>
          have hrest := ih (by simp)
          rw [List.intercalate_cons_cons, List.append_assoc, List.singleton_append, hrest]
          simp [trunk]

theorem directory_append (names : List (List UInt8)) (last : List UInt8) :
    directory names ++ last = slash :: joined names last := by
  induction names with
  | nil => rfl
  | cons c names ih =>
      rw [joined, ← ih]
      simp [directory, trunk]

theorem directory_inj {other : List (List UInt8)} (hnames : ∀ c ∈ names, slash ∉ c)
    (hother : ∀ c ∈ other, slash ∉ c) (hlast : slash ∉ last)
    (h : directory names ++ last = directory other ++ last) : names = other := by
  have hsplit : ∀ names, (∀ c ∈ names, slash ∉ c) →
      SplitsInto (directory names ++ last) ([] :: names) last := by
    intro names hnames
    exact ⟨directory_append names last, List.forall_mem_cons.mpr ⟨nofun, hnames⟩, hlast⟩
  have hcomponents := congrArg (List.splitOn slash) h
  rw [(hsplit names hnames).splitOn, (hsplit other hother).splitOn] at hcomponents
  exact ((List.cons_inj_right _).mp (List.append_inj_left' hcomponents rfl))

theorem exists_absolute (habs : path.head? = some slash) :
    ∃ components last, SplitsInto path ([] :: components) last := by
  obtain ⟨components, last, hsplit⟩ := exists_splitsInto path
  have hclean := hsplit.clean
  cases components with
  | nil =>
      rw [hsplit.text, joined] at habs
      exact absurd (List.mem_of_head? habs) hsplit.lastClean
  | cons c components =>
      cases c with
      | nil => exact ⟨components, last, hsplit⟩
      | cons byte c =>
          rw [hsplit.text] at habs
          obtain rfl := Option.some.inj habs
          exact absurd (List.mem_cons_self ..) (hclean _ (List.mem_cons_self ..))

end Components

/-- The loop with so much of the result written and so much of it left. -/
def cursorAt (written left ppath : List UInt8) : Cursor :=
  ⟨ppath, written.length, left.length, written ++ left⟩

/-- As long as there is room, the loop comes from one place in the path to the other. -/
def Goes (written ppath written' ppath' : List UInt8) : Prop :=
  ∀ left : List UInt8, ppath.length < left.length → ∃ left' : List UInt8,
    ppath'.length < left'.length ∧
      Reaches Cursor.more Cursor.advance (cursorAt written left ppath)
        (cursorAt written' left' ppath')

section Run

variable {written written' written'' ppath ppath' ppath'' left name : List UInt8} {b c : UInt8}

theorem Goes.refl : Goes written ppath written ppath :=
  fun left hleft => ⟨left, hleft, Reaches.refl⟩

theorem Goes.trans (first : Goes written ppath written' ppath')
    (second : Goes written' ppath' written'' ppath'') : Goes written ppath written'' ppath'' := by
  intro left hleft
  obtain ⟨left', hleft', hrun⟩ := first left hleft
  obtain ⟨left'', hleft'', hrun'⟩ := second left' hleft'
  exact ⟨left'', hleft'', hrun.trans hrun'⟩

theorem more_cursorAt (hppath : ppath ≠ []) (hleft : ppath.length < left.length) :
    (cursorAt written left ppath).more = true := by
  have hpos := List.length_pos_iff.mpr hppath
  simp [Cursor.more, cursorAt, hppath]
  omega

theorem put_cursorAt (written ppath ppath' : List UInt8) (b c : UInt8) (left : List UInt8) :
    (cursorAt written (b :: left) ppath).put c ppath' = some (cursorAt (written ++ [c]) left ppath') := by
  rw [Cursor.put, cursorAt, store_append]
  simp [cursorAt]

theorem follows_eq {s : Cursor} (h : byteBefore s.result s.presult = some b)
    (dots : List UInt8) : s.follows dots = some (dots.isPrefixOf s.ppath && b == slash) := by
  rw [Cursor.follows, h]
  by_cases hdots : dots.isPrefixOf s.ppath = true
  · rw [if_pos hdots, hdots]
    rfl
  · rw [if_neg hdots, eq_false_of_ne_true hdots]
    rfl

theorem follows_cursorAt (written left ppath dots : List UInt8) (b : UInt8) :
    (cursorAt (written ++ [b]) left ppath).follows dots =
      some (dots.isPrefixOf ppath && b == slash) := by
  apply follows_eq
  have hbefore : byteBefore (written ++ [b] ++ left) (written ++ [b]).length = some b := by
    rw [List.length_append, List.length_singleton, List.append_assoc]
    exact load_append written left b
  exact hbefore

theorem goes_put (hppath : ppath'.length < ppath.length)
    (hadvance : ∀ b left, (cursorAt written (b :: left) ppath).advance =
      (cursorAt written (b :: left) ppath).put c ppath') :
    Goes written ppath (written ++ [c]) ppath' := by
  intro left hleft
  obtain ⟨b, left, rfl⟩ : ∃ b rest, left = b :: rest :=
    List.exists_cons_of_length_pos (by omega)
  refine ⟨left, by rw [List.length_cons] at hleft; omega, Reaches.turn ?_ ?_⟩
  · exact more_cursorAt (List.ne_nil_of_length_pos (by omega)) hleft
  · rw [hadvance, put_cursorAt]

theorem goes_slash : Goes written (slash :: ppath) (written ++ [slash])
    (ppath.dropWhile (· == slash)) := by
  have hle := (List.dropWhile_suffix (l := ppath) (· == slash)).length_le
  refine goes_put (by rw [List.length_cons]; omega) ?_
  intro b left
  simp [Cursor.advance, cursorAt, slash]

theorem goes_copy (hc : c ≠ slash) (hdots : b = slash →
      ¬[dot, dot, slash] <+: c :: ppath ∧ ¬[dot, slash] <+: c :: ppath) :
    Goes (written ++ [b]) (c :: ppath) (written ++ [b] ++ [c]) ppath := by
  have hfollows : ∀ dots ∈ [[dot, dot, slash], [dot, slash]],
      (dots.isPrefixOf (c :: ppath) && b == slash) = false := by
    intro dots hmem
    by_cases hb : b = slash
    · obtain ⟨hup, hsame⟩ := hdots hb
      rw [Bool.and_eq_false_iff, ← Bool.not_eq_true, List.isPrefixOf_iff_prefix]
      rcases List.mem_pair.mp hmem with rfl | rfl
      · exact Or.inl hup
      · exact Or.inl hsame
    · simp [hb]
  refine goes_put (Nat.lt_succ_self _) ?_
  intro b' left
  have hhead : (cursorAt (written ++ [b]) (b' :: left) (c :: ppath)).ppath.head? ≠ some slash := by
    simpa [cursorAt] using hc
  rw [Cursor.advance, if_neg hhead, follows_cursorAt, follows_cursorAt, hfollows _ (by simp),
    hfollows _ (by simp)]
  rfl

theorem goes_rest (hb : b ≠ slash) (hname : slash ∉ name) (ppath : List UInt8) :
    Goes (written ++ [b]) (name ++ ppath) (written ++ [b] ++ name) ppath := by
  induction name generalizing written b with
  | nil =>
      rw [List.append_nil]
      exact Goes.refl
  | cons c name ih =>
      obtain ⟨hc, hname⟩ := List.ne_and_not_mem_of_not_mem_cons hname
      have hcopy : Goes (written ++ [b]) (c :: (name ++ ppath)) (written ++ [b] ++ [c])
          (name ++ ppath) :=
        goes_copy (Ne.symm hc) fun h => absurd h hb
      have hrest := @ih (written ++ [b]) c (Ne.symm hc) hname
      rw [List.append_assoc _ [c], List.singleton_append] at hrest
      exact hcopy.trans hrest

theorem component_of_dots {dots : List UInt8} (hdots : slash ∉ dots) (hname : slash ∉ name)
    (hend : ppath = [] ∨ ppath.head? = some slash) (h : dots ++ [slash] <+: name ++ ppath) :
    name = dots ∧ ppath ≠ [] := by
  obtain ⟨rest, hrest⟩ := h
  rcases hend with rfl | hslash
  · have hmem : slash ∈ name := by
      rw [List.append_nil] at hrest
      simp [← hrest]
    exact absurd hmem hname
  · obtain ⟨tail, rfl⟩ := List.head?_eq_some_iff.mp hslash
    have hsplit := congrArg (List.splitOn slash) hrest
    rw [List.append_assoc, List.singleton_append, List.splitOn_append_cons_self_of_not_mem hdots,
      List.splitOn_append_cons_self_of_not_mem hname] at hsplit
    exact ⟨(List.cons.inj hsplit).1.symm, by simp⟩

theorem goes_component (hname : slash ∉ name)
    (hppath : name = [dot] ∨ name = [dot, dot] → ppath = [])
    (hend : ppath = [] ∨ ppath.head? = some slash) :
    Goes (written ++ [slash]) (name ++ ppath) (written ++ [slash] ++ name) ppath := by
  cases name with
  | nil =>
      rw [List.append_nil]
      exact Goes.refl
  | cons c name =>
      have hclean := hname
      obtain ⟨hc, hname⟩ := List.ne_and_not_mem_of_not_mem_cons hname
      have hdots : ¬[dot, dot, slash] <+: c :: (name ++ ppath) ∧
          ¬[dot, slash] <+: c :: (name ++ ppath) := by
        constructor
        · intro h
          obtain ⟨hup, hne⟩ := @component_of_dots _ _ [dot, dot] (by decide) hclean hend h
          exact hne (hppath (Or.inr hup))
        · intro h
          obtain ⟨hsame, hne⟩ := @component_of_dots _ _ [dot] (by decide) hclean hend h
          exact hne (hppath (Or.inl hsame))
      have hcopy : Goes (written ++ [slash]) (c :: (name ++ ppath)) (written ++ [slash] ++ [c])
          (name ++ ppath) :=
        goes_copy (Ne.symm hc) fun _ => hdots
      have hrest := @goes_rest (written ++ [slash]) name c (Ne.symm hc) hname ppath
      rw [List.append_assoc _ [c], List.singleton_append] at hrest
      exact hcopy.trans hrest

theorem goes_dot : Goes (written ++ [slash]) (dot :: slash :: ppath) (written ++ [slash]) ppath := by
  intro left hleft
  refine ⟨left, by simp only [List.length_cons] at hleft; omega, Reaches.turn ?_ ?_⟩
  · exact more_cursorAt (by simp) hleft
  · have hhead : (cursorAt (written ++ [slash]) left (dot :: slash :: ppath)).ppath.head? ≠
        some slash := by
      simp [cursorAt, dot, slash]
    rw [Cursor.advance, if_neg hhead, follows_cursorAt, follows_cursorAt]
    simp [cursorAt, dot, slash]

theorem goUp_append (hname : slash ∉ name) (written right : List UInt8) (resultSize : Nat) :
    goUp (written ++ [slash] ++ name ++ right) (written.length + 1 + name.length + 1) resultSize =
      some (written.length + 1, resultSize + name.length + 1) := by
  induction name using List.reverseRecOn generalizing right resultSize with
  | nil =>
      have hload : load (written ++ [slash] ++ [] ++ right) written.length = some slash := by
        simp [load]
      simp only [goUp, byteBefore, List.length_nil, Nat.add_zero]
      rw [hload]
      rfl
  | append_singleton name c ih =>
      obtain ⟨hname, hc⟩ : slash ∉ name ∧ c ≠ slash := by
        simpa [eq_comm] using hname
      have hload : load (written ++ [slash] ++ name ++ c :: right)
          (written.length + 1 + name.length) = some c := by
        have h := load_append (written ++ [slash] ++ name) right c
        rwa [List.length_append, List.length_append, List.length_singleton] at h
      have hbuffer : written ++ [slash] ++ (name ++ [c]) ++ right =
          written ++ [slash] ++ name ++ c :: right := by
        simp
      have hup := ih hname (c :: right) (resultSize + 1)
      rw [hbuffer, List.length_append, List.length_singleton, ← Nat.add_assoc, goUp, byteBefore,
        hload]
      simp only [Option.bind_eq_bind, Option.bind_some]
      rw [if_pos hc, hup]
      congr 2
      omega

theorem goes_up (hname : slash ∉ name) : Goes (written ++ [slash] ++ name ++ [slash])
    (dot :: dot :: slash :: ppath) (written ++ [slash]) ppath := by
  intro left hleft
  refine ⟨name ++ slash :: left, ?_, Reaches.turn (more_cursorAt (by simp) hleft) ?_⟩
  · simp only [List.length_cons, List.length_append] at hleft ⊢
    omega
  · have hhead : (cursorAt (written ++ [slash] ++ name ++ [slash]) left
        (dot :: dot :: slash :: ppath)).ppath.head? ≠ some slash := by
      simp [cursorAt, dot, slash]
    have hup := goUp_append hname written (slash :: left) left.length
    rw [Cursor.advance, if_neg hhead, follows_cursorAt]
    have hlength : (written ++ [slash] ++ name ++ [slash]).length =
        written.length + 1 + name.length + 1 := by
      simp
      omega
    have hparent : goUp (written ++ [slash] ++ name ++ [slash] ++ left)
        (written ++ [slash] ++ name ++ [slash]).length left.length =
          some (written.length + 1, left.length + name.length + 1) := by
      rw [hlength, List.append_assoc _ [slash] left]
      exact hup
    simp [cursorAt] at hparent ⊢
    rw [hparent]
    simp
    omega

theorem goes_up_root : Goes [slash] (dot :: dot :: slash :: ppath) [slash] ppath := by
  intro left hleft
  refine ⟨left, ?_, Reaches.turn (more_cursorAt (by simp) hleft) ?_⟩
  · simp only [List.length_cons] at hleft
    omega
  · have hhead : (cursorAt [slash] left (dot :: dot :: slash :: ppath)).ppath.head? ≠
        some slash := by
      simp [cursorAt, dot, slash]
    have hfollows := follows_cursorAt [] left (dot :: dot :: slash :: ppath) [dot, dot, slash] slash
    rw [List.nil_append] at hfollows
    rw [Cursor.advance, if_neg hhead, hfollows]
    simp [cursorAt]

theorem goes_parent {place : List (List UInt8)} (hplace : ∀ c ∈ place, slash ∉ c) :
    Goes (directory place) (dot :: dot :: slash :: ppath) (directory place.dropLast) ppath := by
  rcases List.eq_nil_or_concat' place with rfl | ⟨place, c, rfl⟩
  · exact goes_up_root
  · rw [directory_concat, List.dropLast_concat]
    exact goes_up (hplace c (by simp))

/-- What is left to read: in a run of slashes the loop has read all of it. -/
def unread (inRun : Bool) (ppath : List UInt8) : List UInt8 :=
  if inRun then ppath.dropWhile (· == slash) else ppath

theorem unread_eq (inRun : Bool) (h : ppath.head? ≠ some slash) : unread inRun ppath = ppath := by
  cases inRun with
  | false => rfl
  | true =>
      cases ppath with
      | nil => rfl
      | cons c ppath =>
          have hc : c ≠ slash := by simpa using h
          simp [unread, hc]

theorem head?_append_ne {tail : List UInt8} (hname : slash ∉ name) (hne : name ≠ []) :
    (name ++ tail).head? ≠ some slash := by
  obtain ⟨c, name, rfl⟩ := List.exists_cons_of_ne_nil hne
  have hc := (List.ne_and_not_mem_of_not_mem_cons hname).1
  simpa using Ne.symm hc

/-- The loop makes the moves of the components, from any directory. -/
theorem goes_components {components place : List (List UInt8)} {last : List UInt8}
    (hcomponents : ∀ c ∈ components, slash ∉ c) (hlast : slash ∉ last)
    (hplace : ∀ c ∈ place, slash ∉ c) (inRun : Bool) :
    Goes (directory place) (unread inRun (joined components last))
      (directory (walk place (loopMoves inRun components)) ++ last) [] := by
  induction components generalizing place inRun with
  | nil =>
      have hgoes : Goes (directory place) last (directory place ++ last) [] := by
        have h := @goes_component (trunk place) [] last hlast (fun _ => rfl) (Or.inl rfl)
        rwa [List.append_nil] at h
      rwa [joined, unread_eq inRun fun h => hlast (List.mem_of_head? h)]
  | cons c components ih =>
      obtain ⟨hc, hrest⟩ := List.forall_mem_cons.mp hcomponents
      have hplace' : ∀ d ∈ place ++ [c], slash ∉ d := by
        intro d hd
        rcases List.mem_append.mp hd with hd | hd
        · exact hplace d hd
        · exact List.mem_singleton.mp hd ▸ hc
      rw [joined, loopMoves]
      by_cases hempty : c = []
      · subst hempty
        rw [if_pos rfl, List.nil_append]
        cases inRun with
        | true => exact ih hrest hplace true
        | false =>
            have hslash := @goes_slash (directory place) (joined components last)
            have hmoves := ih hrest hplace' true
            rw [directory_concat, List.append_nil] at hmoves
            exact hslash.trans hmoves
      rw [if_neg hempty, unread_eq inRun (head?_append_ne hc hempty)]
      by_cases hdot : c = [dot]
      · subst hdot
        exact goes_dot.trans (ih hrest hplace false)
      rw [if_neg hdot]
      by_cases hdots : c = [dot, dot]
      · subst hdots
        exact (goes_parent hplace).trans
          (ih hrest (fun d hd => hplace d (List.dropLast_subset place hd)) false)
      rw [if_neg hdots]
      have hname := @goes_component (trunk place) (slash :: joined components last) c hc
        (fun h => absurd h (by simp [hdot, hdots])) (Or.inr rfl)
      have hmoves := ih hrest hplace' true
      rw [directory_concat] at hmoves
      exact (hname.trans goes_slash).trans hmoves

theorem mem_loopMoves {components : List (List UInt8)} {inRun : Bool}
    (h : .down name ∈ loopMoves inRun components) : name = [] ∨ name ∈ components := by
  induction components generalizing inRun with
  | nil => cases h
  | cons c components ih =>
      have hrest {inRun : Bool} (h : .down name ∈ loopMoves inRun components) :
          name = [] ∨ name ∈ c :: components :=
        (ih h).imp_right (List.mem_cons_of_mem c)
      rw [loopMoves] at h
      split at h
      · split at h
        · exact hrest h
        · rcases List.mem_cons.mp h with h | h
          · exact Or.inl (Move.down.inj h)
          · exact hrest h
      · split at h
        · exact hrest h
        · split at h
          · rcases List.mem_cons.mp h with h | h
            · cases h
            · exact hrest h
          · rcases List.mem_cons.mp h with h | h
            · exact Or.inr (Move.down.inj h ▸ List.mem_cons_self)
            · exact hrest h

theorem notMem_walk {components place : List (List UInt8)} (hplace : ∀ c ∈ place, b ∉ c)
    (hcomponents : ∀ c ∈ components, b ∉ c) (inRun : Bool) :
    ∀ c ∈ walk place (loopMoves inRun components), b ∉ c := by
  intro c hc
  rcases mem_walk hc with hc | hc
  · exact hplace c hc
  · rcases mem_loopMoves hc with rfl | hc
    · exact nofun
    · exact hcomponents c hc

theorem notMem_joined {components : List (List UInt8)} {last : List UInt8}
    (h : b ∉ joined components last) : (∀ c ∈ components, b ∉ c) ∧ b ∉ last := by
  induction components with
  | nil => exact ⟨nofun, h⟩
  | cons c components ih =>
      rw [joined, List.mem_append, not_or] at h
      obtain ⟨hcomponents, hlast⟩ := ih fun hmem => h.2 (List.mem_cons_of_mem slash hmem)
      exact ⟨List.forall_mem_cons.mpr ⟨h.1, hcomponents⟩, hlast⟩

theorem notMem_directory {names : List (List UInt8)} {last : List UInt8} (hb : b ≠ slash)
    (hnames : ∀ c ∈ names, b ∉ c) (hlast : b ∉ last) : b ∉ directory names ++ last := by
  have htrunk : b ∉ trunk names := by
    intro h
    obtain ⟨c, hc, hbc⟩ := List.mem_flatMap.mp h
    rcases List.mem_cons.mp hbc with hbc | hbc
    · exact hb hbc
    · exact hnames c hc hbc
  simp [directory, htrunk, hb, hlast]

end Run

section Result

variable {getcwd : Getcwd} {path : PathText} {result : Buffer} {written left final : List UInt8}

/-- Where the loop has written all of its result, the string in the buffer is this. -/
theorem getAbsolutePath_of_goes (hsize : 1 ≤ result.length)
    (hstart : Cursor.start getcwd path (result.set 0 0) =
      some (some (cursorAt written left path.val)))
    (hroom : path.val.length < left.length) (hgoes : Goes written path.val final [])
    (hnul : 0 ∉ final) :
    ∃ buf, getAbsolutePath getcwd (some path) result = some (some buf) ∧ contents buf = final := by
  obtain ⟨left', hleft', hrun⟩ := hgoes left hroom
  have hinside : (cursorAt written left path.val).Inside result.length := by
    apply inLoop_inside hsize
    exact ⟨_, _, store_of_lt hsize 0, hstart, Reaches.refl⟩
  have hloop : whileLoop Cursor.more Cursor.advance (path.val.length + 1)
      (cursorAt written left path.val) = some (cursorAt final left' []) :=
    (advance_inside result.length).whileLoop_of_reaches hrun hinside rfl (Nat.lt_succ_self _)
  have hstore : store (cursorAt final left' []).result (cursorAt final left' []).presult 0 =
      some (final ++ 0 :: left'.tail) :=
    store_behind final (List.ne_nil_of_length_pos (Nat.lt_of_le_of_lt (Nat.zero_le _) hleft')) 0
  refine ⟨final ++ 0 :: left'.tail, ?_, contents_append hnul⟩
  rw [getAbsolutePath, store_of_lt hsize]
  simp only [Option.bind_eq_bind, Option.bind_some, hstart, hloop, hstore]
  rfl

theorem getAbsolutePath_absolute {components : List (List UInt8)} {last : List UInt8}
    (hfits : path.val.length < result.length) (h : SplitsInto path.val ([] :: components) last) :
    ∃ buf, getAbsolutePath getcwd (some path) result = some (some buf) ∧
      contents buf = directory (walk [] (pathMoves path.val)) ++ last := by
  have htext : path.val = slash :: joined components last := h.text
  have hclean := (List.forall_mem_cons.mp h.clean).2
  obtain ⟨hcomponents, hlast⟩ := notMem_joined (h.text ▸ path.property)
  rw [h.pathMoves_eq]
  apply @getAbsolutePath_of_goes _ _ _ [] (result.set 0 0)
  · omega
  · rw [Cursor.start, if_neg (by simp [htext])]
    rfl
  · rwa [List.length_set]
  · rw [htext]
    have hroot := @goes_slash [] (joined components last)
    exact hroot.trans (@goes_components components [] last hclean h.lastClean (by simp) true)
  · exact notMem_directory (by decide) (notMem_walk (by simp) hcomponents true) hlast

end Result
end Usbutils
