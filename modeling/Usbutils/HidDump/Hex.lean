import Mathlib.Data.Option.Basic
import Mathlib.Data.List.Induction
import Usbutils.Lib.Text
import Usbutils.Tree.Names

/-! `dump` of `usbhid-dump.c`: a chunk is written as lines of hexadecimal numbers. The text can
be read back without loss. -/
namespace Usbutils
open Text

def addrStr (busNumber deviceAddress number : UInt8) : Name :=
  (decimal busNumber.toNat).leftpad 3 '0' ++ ':' :: (decimal deviceAddress.toNat).leftpad 3 '0' ++
    ':' :: (decimal number.toNat).leftpad 3 '0'

inductive Entity where
  | descriptor
  | stream
  deriving DecidableEq, Repr

def Entity.name : Entity → Name
  | descriptor => "DESCRIPTOR".toList
  | stream => "STREAM".toList

def dumpHeader (addr : Name) (entity : Entity) (tvSec tvUsec : Nat) : Name :=
  addr ++ ':' :: entity.name.rightpad 16 ' ' ++ ' ' :: (decimal tvSec).leftpad 12 ' ' ++
    '.' :: (decimal tvUsec).leftpad 6 '0'

def xd (digit : UInt8) : Char := "0123456789ABCDEF".toList.getD digit.toNat '\x00'

/-- The loop of `dump`, with the static buffer: what is written, `pos`, and the buffer. -/
def dumpLoop : Name → Nat → List UInt8 → Name × Nat × Name
  | buf, pos, [] => ([], pos, buf)
  | buf, pos, b :: rest =>
      let buf := (buf.set 1 (xd (b >>> 4))).set 2 (xd (b &&& 0xf))
      let (output, posEnd, bufEnd) := dumpLoop buf (pos + 1) rest
      (buf.take (if pos % 16 = 0 then 4 else 3) ++ output, posEnd, bufEnd)

def dump (buf header : Name) (data : List UInt8) : Name × Name :=
  let (output, pos, buf) := dumpLoop buf 1 data
  (header ++ '\n' :: output ++ (if pos % 16 ≠ 1 then ['\n'] else []) ++ ['\n'], buf)

def dumpBuffer (earlier : List (List UInt8)) : Name :=
  earlier.foldl (fun buf data => (dump buf [] data).2) " XX\n".toList

def hexDigitValue (c : Char) : Option UInt8 :=
  ("0123456789ABCDEF".toList.idxOf? c).map UInt8.ofNat

def readLine : Name → Option (List UInt8)
  | [] => some []
  | c :: high :: low :: rest => do
      guard (c = ' ')
      let high ← hexDigitValue high
      let low ← hexDigitValue low
      return (16 * high + low) :: (← readLine rest)
  | _ => none

/-- The lines behind the header give the bytes back, 16 from each but the last, and a blank line
is behind them. -/
structure IsDump (data : List UInt8) (text : Name) : Prop where
  readBack : ∃ header front parts, lines '\n' text = header :: front ++ [[]] ∧
    front.mapM readLine = some parts ∧ parts.flatten = data ∧
    (∀ part ∈ parts.dropLast, part.length = 16) ∧
    (∀ part ∈ parts.getLast?, 1 ≤ part.length ∧ part.length ≤ 16) ∧
    (∀ line ∈ front, line ≠ []) ∧ (data = [] → front = [])

def encodeByte (b : UInt8) : Name := [' ', xd (b >>> 4), xd (b &&& 0xf)]

def chunkText : Nat → List UInt8 → Name
  | _, [] => []
  | pos, b :: rest =>
      encodeByte b ++ (if pos % 16 = 0 then ['\n'] else []) ++ chunkText (pos + 1) rest

theorem dumpLoop_eq (pos : Nat) (data : List UInt8) (high low : Char) :
    ∃ high' low', dumpLoop [' ', high, low, '\n'] pos data =
      (chunkText pos data, pos + data.length, [' ', high', low', '\n']) := by
  induction data generalizing pos high low with
  | nil => exact ⟨high, low, rfl⟩
  | cons b rest ih =>
      obtain ⟨high', low', hrest⟩ := ih (pos + 1) (xd (b >>> 4)) (xd (b &&& 0xf))
      refine ⟨high', low', ?_⟩
      simp only [dumpLoop, List.set_cons_succ, List.set_cons_zero, hrest, chunkText, List.length_cons,
        encodeByte]
      split <;> simp <;> omega

theorem dumpBuffer_eq (earlier : List (List UInt8)) :
    ∃ high low, dumpBuffer earlier = [' ', high, low, '\n'] := by
  induction earlier using List.reverseRecOn with
  | nil => exact ⟨'X', 'X', rfl⟩
  | append_singleton earlier data ih =>
      obtain ⟨high, low, hbuf⟩ := ih
      obtain ⟨high', low', hloop⟩ := dumpLoop_eq 1 data high low
      refine ⟨high', low', ?_⟩
      rw [dumpBuffer, List.foldl_append, ← dumpBuffer, hbuf]
      simp only [List.foldl_cons, List.foldl_nil, dump, hloop]

theorem chunkText_append (pos : Nat) (xs ys : List UInt8) :
    chunkText pos (xs ++ ys) = chunkText pos xs ++ chunkText (pos + xs.length) ys := by
  induction xs generalizing pos with
  | nil => rfl
  | cons b xs ih =>
      have hpos : pos + 1 + xs.length = pos + (xs.length + 1) := by omega
      rw [List.cons_append, chunkText, chunkText, ih, List.length_cons, hpos]
      simp only [List.append_assoc]

theorem chunkText_inside (q r : Nat) (data : List UInt8) (h : r + data.length ≤ 15) :
    chunkText (16 * q + r + 1) data = data.flatMap encodeByte := by
  induction data generalizing r with
  | nil => rfl
  | cons b rest ih =>
      rw [List.length_cons] at h
      have hpos : (16 * q + r + 1) % 16 ≠ 0 := by omega
      rw [chunkText, if_neg hpos, List.append_nil, List.flatMap_cons]
      exact congrArg _ (ih (r + 1) (by omega))

theorem chunkText_line (q : Nat) (data : List UInt8) (h : data.length = 16) :
    chunkText (16 * q + 1) data = data.flatMap encodeByte ++ ['\n'] := by
  have hne : data ≠ [] := by
    rintro rfl
    cases h
  have hlength : data.dropLast.length = 15 := by rw [List.length_dropLast, h]
  have hpos : (16 * q + 1 + 15) % 16 = 0 := by omega
  have hfront : chunkText (16 * q + 1) data.dropLast = data.dropLast.flatMap encodeByte :=
    chunkText_inside q 0 data.dropLast (by omega)
  rw [← List.dropLast_append_getLast hne, chunkText_append, hfront, hlength, chunkText, if_pos hpos,
    List.flatMap_append]
  simp [chunkText]

theorem chunkText_parts (q : Nat) (data : List UInt8) :
    ∃ parts : List (List UInt8), parts.flatten = data ∧ (∀ part ∈ parts, part ≠ []) ∧
      (∀ part ∈ parts.dropLast, part.length = 16) ∧
      (∀ part ∈ parts.getLast?, 1 ≤ part.length ∧ part.length ≤ 16) ∧
      chunkText (16 * q + 1) data ++ (if (16 * q + 1 + data.length) % 16 ≠ 1 then ['\n'] else []) =
        (parts.map (·.flatMap encodeByte)).flatMap (· ++ ['\n']) := by
  induction hn : data.length using Nat.strong_induction_on generalizing q data with
  | _ n ih =>
      subst hn
      rcases Nat.lt_or_ge data.length 16 with hshort | hlong
      · cases data with
        | nil => exact ⟨[], rfl, nofun, nofun, nofun, by simp [chunkText]⟩
        | cons b rest =>
            rw [List.length_cons] at hshort
            refine ⟨[b :: rest], by simp, by simp, by simp, by simp; omega, ?_⟩
            have htext : chunkText (16 * q + 1) (b :: rest) = (b :: rest).flatMap encodeByte :=
              chunkText_inside q 0 (b :: rest) (by rw [List.length_cons]; omega)
            have hpos : (16 * q + 1 + (b :: rest).length) % 16 ≠ 1 := by
              rw [List.length_cons]
              omega
            rw [if_pos hpos, htext]
            simp
      · have hline : (data.take 16).length = 16 := List.length_take_of_le hlong
        have hrest : (data.drop 16).length = data.length - 16 := List.length_drop
        obtain ⟨parts, hflat, hne, hfull, hlast, htext⟩ :=
          ih (data.drop 16).length (by omega) (q + 1) (data.drop 16) rfl
        have hpos : 16 * q + 1 + 16 = 16 * (q + 1) + 1 := by omega
        have hend : 16 * q + 1 + data.length = 16 * (q + 1) + 1 + (data.drop 16).length := by omega
        refine ⟨data.take 16 :: parts, ?_, List.forall_mem_cons.mpr ⟨?_, hne⟩, ?_, ?_, ?_⟩
        · rw [List.flatten_cons, hflat, List.take_append_drop]
        · exact List.ne_nil_of_length_eq_add_one hline
        · cases parts with
          | nil => exact nofun
          | cons second parts => exact List.forall_mem_cons.mpr ⟨hline, hfull⟩
        · cases parts with
          | nil => simp [hline]
          | cons second parts => simpa using hlast
        · have hsplit : chunkText (16 * q + 1) data = (data.take 16).flatMap encodeByte ++ ['\n'] ++
              chunkText (16 * (q + 1) + 1) (data.drop 16) := by
            have happend := chunkText_append (16 * q + 1) (data.take 16) (data.drop 16)
            rwa [List.take_append_drop, chunkText_line q _ hline, hline, hpos] at happend
          rw [hsplit, hend, List.append_assoc, htext, List.map_cons, List.flatMap_cons]

theorem hexDigitValue_xd {n : UInt8} (h : n < 16) :
    hexDigitValue (xd n) = some n ∧ xd n ≠ '\n' := by
  have hall : ∀ k ∈ List.range 16, hexDigitValue (xd (.ofNat k)) = some (.ofNat k) ∧
      xd (.ofNat k) ≠ '\n' := by
    decide
  have hn := hall n.toNat (List.mem_range.mpr (UInt8.lt_iff_toNat_lt.mp h))
  rwa [UInt8.ofNat_toNat] at hn

theorem encodeByte_digits (b : UInt8) :
    b >>> 4 < 16 ∧ b &&& 0xf < 16 ∧ (16 : UInt8) * (b >>> 4) + (b &&& 0xf) = b := by
  have hb := b.toNat_lt
  have hhigh : (b >>> 4).toNat = b.toNat / 16 := by
    simp [UInt8.toNat_shiftRight, Nat.shiftRight_eq_div_pow]
  have hlow : (b &&& 0xf).toNat = b.toNat % 16 := by
    rw [UInt8.toNat_and]
    exact Nat.and_two_pow_sub_one_eq_mod b.toNat 4
  have hsixteen : (16 : UInt8).toNat = 16 := rfl
  rw [UInt8.lt_iff_toNat_lt, UInt8.lt_iff_toNat_lt, ← UInt8.toNat_inj, UInt8.toNat_add,
    UInt8.toNat_mul, hhigh, hlow, hsixteen]
  omega

theorem readLine_encode (part : List UInt8) :
    readLine (part.flatMap encodeByte) = some part ∧ '\n' ∉ part.flatMap encodeByte := by
  induction part with
  | nil => exact ⟨rfl, nofun⟩
  | cons b part ih =>
      obtain ⟨hhigh, hlow, hb⟩ := encodeByte_digits b
      obtain ⟨hhighValue, hhighNe⟩ := hexDigitValue_xd hhigh
      obtain ⟨hlowValue, hlowNe⟩ := hexDigitValue_xd hlow
      rw [List.flatMap_cons, encodeByte]
      constructor
      · simp [readLine, hhighValue, hlowValue, ih.1, hb]
      · simp [hhighNe.symm, hlowNe.symm, ih.2]

theorem mapM_readLine (parts : List (List UInt8)) :
    (parts.map (·.flatMap encodeByte)).mapM readLine = some parts := by
  induction parts with
  | nil => rfl
  | cons part parts ih =>
      rw [List.map_cons, List.mapM_cons, (readLine_encode part).1, ih]
      rfl

theorem newline_not_mem_decimal (n : Nat) : '\n' ∉ decimal n := by
  intro h
  exact absurd (isDigit_of_mem_decimal h) (by decide)

theorem newline_not_mem_dumpHeader (busNumber deviceAddress number : UInt8) (entity : Entity)
    (tvSec tvUsec : Nat) :
    '\n' ∉ dumpHeader (addrStr busNumber deviceAddress number) entity tvSec tvUsec := by
  have hentity : '\n' ∉ entity.name := by
    cases entity <;> decide
  simp [dumpHeader, addrStr, List.leftpad, List.rightpad, newline_not_mem_decimal, hentity]

/-- Every dump can be read back, whatever was dumped before. -/
theorem dump_isDump (earlier : List (List UInt8)) (busNumber deviceAddress number : UInt8)
    (entity : Entity) (tvSec tvUsec : Nat) (data : List UInt8) :
    IsDump data (dump (dumpBuffer earlier)
      (dumpHeader (addrStr busNumber deviceAddress number) entity tvSec tvUsec) data).1 := by
  obtain ⟨high, low, hbuf⟩ := dumpBuffer_eq earlier
  obtain ⟨high', low', hloop⟩ := dumpLoop_eq 1 data high low
  obtain ⟨parts, hflat, hne, hfull, hlast, htext⟩ := chunkText_parts 0 data
  have hheader := newline_not_mem_dumpHeader busNumber deviceAddress number entity tvSec tvUsec
  have hlines : lines '\n' (dump (dumpBuffer earlier)
      (dumpHeader (addrStr busNumber deviceAddress number) entity tvSec tvUsec) data).1 =
        dumpHeader (addrStr busNumber deviceAddress number) entity tvSec tvUsec ::
          parts.map (·.flatMap encodeByte) ++ [[]] := by
    have hblank : lines '\n' (['\n'] : Name) = [[]] := by decide
    have hfront : ∀ line ∈ parts.map (·.flatMap encodeByte), '\n' ∉ line :=
      List.forall_mem_map.mpr fun part _ => (readLine_encode part).2
    have hmul : 16 * 0 + 1 = 1 := rfl
    rw [hmul] at htext
    rw [dump, hbuf]
    simp only [hloop]
    rw [List.append_assoc, List.append_assoc, List.cons_append,
      ← List.append_assoc (chunkText 1 data), htext, lines_cons hheader, lines_flatMap hfront, hblank,
      List.cons_append]
  refine ⟨_, _, parts, hlines, mapM_readLine parts, hflat, hfull, hlast, ?_, ?_⟩
  · intro line hline
    obtain ⟨part, hpart, rfl⟩ := List.mem_map.mp hline
    obtain ⟨b, rest, rfl⟩ := List.exists_cons_of_ne_nil (hne part hpart)
    exact nofun
  · rintro rfl
    cases parts with
    | nil => rfl
    | cons part parts => exact absurd (List.append_eq_nil_iff.mp hflat).1 (hne part (by simp))

end Usbutils
