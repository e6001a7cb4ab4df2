import Usbutils.HidDump.Hex
import Usbutils.HidDump.Stream

/-! What `usbhid-dump` writes to its standard output, one dump after another, and how it is read
back. -/
namespace Usbutils
open Text

structure Dumped where
  busNumber : UInt8
  deviceAddress : UInt8
  number : UInt8
  entity : Entity
  tvSec : Nat
  tvUsec : Nat
  data : List UInt8
  deriving DecidableEq

def Dumped.header (d : Dumped) : Name :=
  dumpHeader (addrStr d.busNumber d.deviceAddress d.number) d.entity d.tvSec d.tvUsec

/-- The text of the dumps; each leaves the static buffer to the next one. -/
def dumpEach : Name → List Dumped → Name
  | _, [] => []
  | buf, d :: rest => (dump buf d.header d.data).1 ++ dumpEach (dump buf d.header d.data).2 rest

def stdoutText (dumps : List Dumped) : Name := dumpEach " XX\n".toList dumps

def readNumber (s : Name) : Option Nat :=
  if s ≠ [] ∧ s.all Char.isDigit then some (Nat.ofDigitChars 10 s 0) else none

def readEntity (s : Name) : Option Entity :=
  if s = Entity.descriptor.name then some .descriptor
  else if s = Entity.stream.name then some .stream
  else none

/-- The entity, the seconds and the microseconds, for no data and no address. -/
def readEntityTime (s : Name) : Option Dumped := do
  let entity ← readEntity (s.takeWhile (· ≠ ' '))
  match ((s.dropWhile (· ≠ ' ')).dropWhile (· = ' ')).splitOn '.' with
  | [sec, usec] =>
      let tvSec ← readNumber sec
      let tvUsec ← readNumber usec
      some {
        busNumber := 0, deviceAddress := 0, number := 0, entity, tvSec, tvUsec, data := [] }
  | _ => none

def readHeader (line : Name) : Option Dumped :=
  match line.splitOn ':' with
  | [bus, dev, number, rest] => do
      let bus ← readNumber bus
      let dev ← readNumber dev
      let number ← readNumber number
      let d ← readEntityTime rest
      some { d with
        busNumber := .ofNat bus, deviceAddress := .ofNat dev, number := .ofNat number }
  | _ => none

/-- One more line: a header, a line of bytes, or the blank line that ends the dump. -/
def readStep (st : List Dumped × Option Dumped) (line : Name) :
    Option (List Dumped × Option Dumped) :=
  match st.2 with
  | none => (readHeader line).map fun d => (st.1, some d)
  | some d =>
      if line = [] then some (st.1 ++ [d], none)
      else (readLine line).map fun bytes => (st.1, some { d with data := d.data ++ bytes })

def readOutput (text : Name) : Option (List Dumped) := do
  let st ← (lines '\n' text).foldlM readStep ([], none)
  if st.2.isNone then some st.1 else none

section ReadBack

variable {d : Dumped} {buf : Name}

theorem ofDigitChars_zeros (k : Nat) (s : Name) :
    Nat.ofDigitChars 10 (List.replicate k '0' ++ s) 0 = Nat.ofDigitChars 10 s 0 := by
  induction k with
  | zero => rfl
  | succ k ih =>
      rw [List.replicate_succ, List.cons_append, Nat.ofDigitChars_cons]
      exact ih

theorem readNumber_decimal (n k : Nat) : readNumber ((decimal n).leftpad k '0') = some n := by
  have hne : (decimal n).leftpad k '0' ≠ [] := by simp [List.leftpad, decimal_ne_nil]
  have hall : ((decimal n).leftpad k '0').all Char.isDigit = true := by
    rw [List.leftpad, List.all_append, Bool.and_eq_true, List.all_eq_true, List.all_eq_true]
    refine ⟨fun c hc => ?_, fun c hc => isDigit_of_mem_decimal hc⟩
    rw [List.eq_of_mem_replicate hc]
    rfl
  rw [readNumber, if_pos ⟨hne, hall⟩, List.leftpad, ofDigitChars_zeros]
  exact congrArg some Nat.ofDigitChars_ten_toDigits

theorem notMem_leftpad {c fill : Char} (hfill : c ≠ fill) (hc : c.isDigit = false) (n k : Nat) :
    c ∉ (decimal n).leftpad k fill := by
  rw [List.leftpad, List.mem_append, not_or]
  refine ⟨fun h => hfill (List.eq_of_mem_replicate h), fun h => ?_⟩
  rw [isDigit_of_mem_decimal h] at hc
  cases hc

theorem readEntity_name (entity : Entity) :
    readEntity entity.name = some entity ∧ ' ' ∉ entity.name ∧ ':' ∉ entity.name := by
  cases entity <;> decide

theorem decimal_digit {n : Nat} {c : Char} (hc : c.isDigit = false) : c ∉ decimal n := by
  intro h
  rw [isDigit_of_mem_decimal h] at hc
  cases hc

theorem spaces_eq (name : Name) (a b : Nat) (rest : Name) :
    name ++ List.replicate a ' ' ++ ' ' :: (List.replicate b ' ' ++ rest) =
      name ++ (' ' :: List.replicate (a + b) ' ' ++ rest) := by
  rw [List.append_assoc, ← List.replicate_succ, Nat.add_right_comm, List.replicate_add,
    List.replicate_succ', List.append_assoc, List.append_assoc, List.singleton_append]

theorem readEntityTime_header (entity : Entity) (tvSec tvUsec : Nat) :
    readEntityTime (entity.name.rightpad 16 ' ' ++ ' ' :: (decimal tvSec).leftpad 12 ' ' ++
      '.' :: (decimal tvUsec).leftpad 6 '0') = some {
        busNumber := 0, deviceAddress := 0, number := 0, entity, tvSec, tvUsec, data := [] } := by
  obtain ⟨hread, hspace, -⟩ := readEntity_name entity
  obtain ⟨k, htext⟩ : ∃ k, entity.name.rightpad 16 ' ' ++ ' ' :: (decimal tvSec).leftpad 12 ' ' ++
      '.' :: (decimal tvUsec).leftpad 6 '0' = entity.name ++ (' ' :: List.replicate k ' ' ++
        (decimal tvSec ++ '.' :: (decimal tvUsec).leftpad 6 '0')) := by
    refine ⟨_, Eq.trans ?_ (spaces_eq entity.name (16 - entity.name.length)
      (12 - (decimal tvSec).length) _)⟩
    simp [List.rightpad, List.leftpad]
  have hname : ∀ c ∈ entity.name, decide (c ≠ ' ') = true := fun c hc =>
    decide_eq_true fun heq => hspace (heq ▸ hc)
  have hspaces : ∀ c ∈ ' ' :: List.replicate k ' ', decide (c = ' ') = true := by simp
  have hsec : (decimal tvSec ++ '.' :: (decimal tvUsec).leftpad 6 '0').dropWhile (· = ' ') =
      decimal tvSec ++ '.' :: (decimal tvUsec).leftpad 6 '0' := by
    obtain ⟨c, digits, hdigits⟩ := List.exists_cons_of_ne_nil (decimal_ne_nil tvSec)
    have hc : c ≠ ' ' := by
      rintro rfl
      exact decimal_digit (by decide) (hdigits ▸ List.mem_cons_self)
    rw [hdigits]
    simp [hc]
  have hparts : (decimal tvSec ++ '.' :: (decimal tvUsec).leftpad 6 '0').splitOn '.' =
      [decimal tvSec, (decimal tvUsec).leftpad 6 '0'] := by
    rw [List.splitOn_append_cons_self_of_not_mem (decimal_digit (by decide)),
      List.splitOn_eq_singleton (notMem_leftpad (by decide) (by decide) _ _)]
  have hnumber : readNumber (decimal tvSec) = some tvSec := by
    have h := readNumber_decimal tvSec 0
    rwa [List.leftpad, Nat.zero_sub, List.replicate_zero, List.nil_append] at h
  have htake : (entity.name ++ (' ' :: List.replicate k ' ' ++
      (decimal tvSec ++ '.' :: (decimal tvUsec).leftpad 6 '0'))).takeWhile (· ≠ ' ') =
        entity.name := by
    rw [List.takeWhile_append_of_pos hname]
    simp
  have hdrop : ((entity.name ++ (' ' :: List.replicate k ' ' ++
      (decimal tvSec ++ '.' :: (decimal tvUsec).leftpad 6 '0'))).dropWhile (· ≠ ' ')).dropWhile
        (· = ' ') = decimal tvSec ++ '.' :: (decimal tvUsec).leftpad 6 '0' := by
    rw [List.dropWhile_append_of_pos hname, List.cons_append, List.dropWhile_cons_of_neg (by simp),
      ← List.cons_append, List.dropWhile_append_of_pos hspaces, hsec]
  rw [htext, readEntityTime, htake, hdrop, hparts, hread]
  simp only [hnumber, readNumber_decimal, Option.bind_eq_bind, Option.bind_some]

theorem readHeader_header : readHeader d.header = some { d with data := [] } := by
  have hcolon (n : UInt8) : ':' ∉ (decimal n.toNat).leftpad 3 '0' :=
    notMem_leftpad (by decide) (by decide) _ _
  have hrest : ':' ∉ d.entity.name.rightpad 16 ' ' ++ ' ' :: (decimal d.tvSec).leftpad 12 ' ' ++
      '.' :: (decimal d.tvUsec).leftpad 6 '0' := by
    have hname := (readEntity_name d.entity).2.2
    have hdigits (n : Nat) : ':' ∉ decimal n := decimal_digit (by decide)
    simp [List.rightpad, hname, hdigits]
  have hsplit : d.header.splitOn ':' = [(decimal d.busNumber.toNat).leftpad 3 '0',
      (decimal d.deviceAddress.toNat).leftpad 3 '0', (decimal d.number.toNat).leftpad 3 '0',
      d.entity.name.rightpad 16 ' ' ++ ' ' :: (decimal d.tvSec).leftpad 12 ' ' ++
        '.' :: (decimal d.tvUsec).leftpad 6 '0'] := by
    rw [Dumped.header, dumpHeader, addrStr]
    simp only [List.append_assoc, List.cons_append]
    rw [List.splitOn_append_cons_self_of_not_mem (hcolon _),
      List.splitOn_append_cons_self_of_not_mem (hcolon _),
      List.splitOn_append_cons_self_of_not_mem (hcolon _), List.splitOn_eq_singleton]
    simpa only [List.append_assoc, List.cons_append] using hrest
  rw [readHeader, hsplit]
  simp only [readNumber_decimal, readEntityTime_header, Option.bind_eq_bind, Option.bind_some,
    UInt8.ofNat_toNat]

theorem readStep_bytes (done : List Dumped) {parts : List (List UInt8)}
    (hne : ∀ part ∈ parts, part ≠ []) (d : Dumped) :
    (parts.map (·.flatMap encodeByte)).foldlM readStep (done, some d) =
      some (done, some { d with data := d.data ++ parts.flatten }) := by
  induction parts generalizing d with
  | nil => simp
  | cons part parts ih =>
      obtain ⟨hpart, hparts⟩ := List.forall_mem_cons.mp hne
      obtain ⟨b, rest, rfl⟩ := List.exists_cons_of_ne_nil hpart
      have hline : (b :: rest).flatMap encodeByte ≠ [] := by simp [encodeByte]
      rw [List.map_cons, List.foldlM_cons, readStep]
      simp only [if_neg hline, (readLine_encode (b :: rest)).1, Option.map_some]
      exact (ih hparts _).trans (by simp)

def IsBuffer (buf : Name) : Prop := ∃ high low, buf = [' ', high, low, '\n']

theorem IsBuffer.dump (hbuf : IsBuffer buf) (header : Name) (data : List UInt8) :
    IsBuffer (dump buf header data).2 := by
  obtain ⟨high, low, rfl⟩ := hbuf
  obtain ⟨high', low', hloop⟩ := dumpLoop_eq 1 data high low
  refine ⟨high', low', ?_⟩
  simp only [Usbutils.dump, hloop]

theorem lines_dump (hbuf : IsBuffer buf) {header : Name} (hheader : '\n' ∉ header)
    (data : List UInt8) : ∃ parts : List (List UInt8), parts.flatten = data ∧
      (∀ part ∈ parts, part ≠ []) ∧
      ∀ tail, lines '\n' ((dump buf header data).1 ++ tail) =
        header :: (parts.map (·.flatMap encodeByte) ++ [] :: lines '\n' tail) := by
  obtain ⟨high, low, rfl⟩ := hbuf
  obtain ⟨high', low', hloop⟩ := dumpLoop_eq 1 data high low
  obtain ⟨parts, hflat, hne, -, -, htext⟩ := chunkText_parts 0 data
  have hmul : 16 * 0 + 1 = 1 := rfl
  rw [hmul] at htext
  refine ⟨parts, hflat, hne, fun tail => ?_⟩
  have hfront : ∀ line ∈ parts.map (·.flatMap encodeByte), '\n' ∉ line :=
    List.forall_mem_map.mpr fun part _ => (readLine_encode part).2
  have hblank : lines '\n' (['\n'] ++ tail) = [] :: lines '\n' tail :=
    lines_cons List.not_mem_nil tail
  rw [dump]
  simp only [hloop]
  rw [List.append_assoc, List.append_assoc, List.append_assoc, List.cons_append,
    ← List.append_assoc (chunkText 1 data), htext, lines_cons hheader, lines_flatMap hfront, hblank]

theorem newline_not_mem_header (d : Dumped) : '\n' ∉ d.header :=
  newline_not_mem_dumpHeader d.busNumber d.deviceAddress d.number d.entity d.tvSec d.tvUsec

theorem readDumps (done dumps : List Dumped) (hbuf : IsBuffer buf) :
    (lines '\n' (dumpEach buf dumps)).foldlM readStep (done, none) =
      some (done ++ dumps, none) := by
  induction dumps generalizing done buf with
  | nil => simp [dumpEach]
  | cons d rest ih =>
      obtain ⟨parts, hflat, hne, hlines⟩ := lines_dump hbuf (newline_not_mem_header d) d.data
      have hblank (d : Dumped) : readStep (done, some d) [] = some (done ++ [d], none) := rfl
      have hheader : readStep (done, none) d.header = some (done, some { d with data := [] }) := by
        rw [readStep, readHeader_header]
        rfl
      have hdata : { d with data := [] ++ parts.flatten } = d := by rw [hflat, List.nil_append]
      rw [dumpEach, hlines, List.foldlM_cons, hheader, Option.bind_eq_bind, Option.bind_some,
        List.foldlM_append, readStep_bytes done hne, Option.bind_eq_bind, Option.bind_some,
        List.foldlM_cons, hdata, hblank, Option.bind_eq_bind, Option.bind_some,
        ih _ (hbuf.dump d.header d.data), List.append_assoc, List.singleton_append]

/-- All dumps are read back from the text, in their order. -/
theorem readOutput_stdoutText (dumps : List Dumped) :
    readOutput (stdoutText dumps) = some dumps := by
  have hbuf : IsBuffer " XX\n".toList := ⟨'X', 'X', by decide⟩
  rw [readOutput, stdoutText, readDumps [] dumps hbuf]
  rfl

end ReadBack

end Usbutils
