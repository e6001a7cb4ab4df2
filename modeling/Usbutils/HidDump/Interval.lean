import Usbutils.Lib.Text
import Usbutils.Tree.Names

/-! `format_time_interval` of `usbhid-dump.c`. The parts of an interval are printed one behind the
other into a static buffer. -/
namespace Usbutils
open Text

/-- `snprintf(buf + p, sizeof(buf) - p, ...)` for a `p` inside of the buffer; the result is the
length of the text. -/
def snprintfBehind (buf : Name) (p : Nat) (text : Name) : Nat × Name :=
  let stored := text.take (buf.length - p - 1)
  (text.length, buf.take p ++ stored ++ '\x00' :: buf.drop (p + stored.length + 1))

def fractionText (prevSum : UInt32) (name : Name) (val : UInt32) : Name :=
  (if prevSum > 0 then [' '] else []) ++
    (decimal val.toNat ++ ' ' :: name ++ if val = 1 then [] else ['s'])

/-- `FRACTION`; an error is the buffer that is returned early. -/
def fraction (prevSum : UInt32) (name : Name) (val : UInt32) (state : Nat × Name) :
    Except Name (Nat × Name) :=
  if val > 0 then
    match snprintfBehind state.2 state.1 (fractionText prevSum name val) with
    | (rc, buf) => if state.1 + rc ≥ buf.length then .error buf else .ok (state.1 + rc, buf)
  else if state.1 ≥ state.2.length then .error state.2
  else .ok state

def fractions (h m s ms : UInt32) (buf : Name) : Except Name (Nat × Name) := do
  let state ← fraction 0 "hour".toList h (0, buf)
  let state ← fraction h "minute".toList m state
  let state ← fraction (h + m) "second".toList s state
  fraction (h + m + s) "millisecond".toList ms state

def formatTimeInterval (buf : Name) (i : UInt32) : Name :=
  match fractions (i / (60 * 60 * 1000)) (i % (60 * 60 * 1000) / (60 * 1000))
    (i % (60 * 1000) / 1000) (i % 1000) buf with
  | .error buf => buf
  | .ok (_, buf) => buf

def stringIn (buf : Name) : Name := buf.takeWhile (· ≠ '\x00')

def formatTimeout (buf : Name) (i : UInt32) : Name :=
  if i = 0 then "infinite".toList else stringIn (formatTimeInterval buf i)

def intervalParts (i : Nat) : List (Nat × Name) :=
  [(i / 3600000, "hour".toList), (i % 3600000 / 60000, "minute".toList),
    (i % 60000 / 1000, "second".toList), (i % 1000, "millisecond".toList)].filter (·.1 ≠ 0)

def partWords (part : Nat × Name) : List Name :=
  [decimal part.1, if part.1 = 1 then part.2 else part.2 ++ ['s']]

def unitValue (unit : Name) : Option Nat :=
  if unit = "hour".toList ∨ unit = "hours".toList then some 3600000
  else if unit = "minute".toList ∨ unit = "minutes".toList then some 60000
  else if unit = "second".toList ∨ unit = "seconds".toList then some 1000
  else if unit = "millisecond".toList ∨ unit = "milliseconds".toList then some 1
  else none

def readParts : List Name → Option Nat
  | [] => some 0
  | value :: unit :: rest => do
      return Nat.ofDigitChars 10 value 0 * (← unitValue unit) + (← readParts rest)
  | [_] => none

def readInterval (text : Name) : Option Nat := readParts (text.splitOn ' ')

/-- The buffer holds the parts of an interval with single spaces between them, which give the
interval back. -/
structure HoldsInterval (i : Nat) (buf : Name) : Prop where
  length : buf.length = 128
  ends : '\x00' ∈ buf
  text : stringIn buf =
    [' '].intercalate ((intervalParts i).map fun part => [' '].intercalate (partWords part))
  readBack : readInterval (stringIn buf) = some i

def partsText (parts : List (Nat × Name)) : Name :=
  [' '].intercalate (parts.map fun part => [' '].intercalate (partWords part))

/-- What is in the buffer after some of the four parts; nothing is written if all are zero. -/
structure Printed (count : Nat) (parts : List (Nat × Name)) (state : Nat × Name) : Prop where
  length : state.2.length = 128
  position : state.1 = (partsText parts).length
  short : (partsText parts).length ≤ 24 * count
  front : parts ≠ [] → ∃ rest, state.2 = partsText parts ++ '\x00' :: rest

theorem partsText_append (parts : List (Nat × Name)) (part : Nat × Name) :
    partsText (parts ++ [part]) = partsText parts ++
      ((if parts ≠ [] then [' '] else []) ++ [' '].intercalate (partWords part)) := by
  by_cases h : parts = []
  · subst h
    simp [partsText]
  · have hmap : parts.map (fun part => [' '].intercalate (partWords part)) ≠ [] := by
      simpa using h
    rw [partsText, List.map_append, intercalate_append _ hmap (by simp), if_pos h]
    simp [partsText]

theorem intercalate_partWords (part : Nat × Name) : [' '].intercalate (partWords part) =
    decimal part.1 ++ ' ' :: part.2 ++ if part.1 = 1 then [] else ['s'] := by
  rw [partWords]
  split <;> simp

theorem snprintfBehind_fits {buf text : Name} {p : Nat} (h : p + text.length < buf.length) :
    (snprintfBehind buf p text).1 = text.length ∧ (snprintfBehind buf p text).2.length = buf.length ∧
      ∃ rest, (snprintfBehind buf p text).2 = buf.take p ++ text ++ '\x00' :: rest := by
  have hstored : text.take (buf.length - p - 1) = text := List.take_of_length_le (by omega)
  refine ⟨rfl, ?_, buf.drop (p + text.length + 1), ?_⟩
  · simp only [snprintfBehind, hstored, List.length_append, List.length_cons, List.length_take,
      List.length_drop]
    omega
  · simp only [snprintfBehind, hstored]

theorem uint32_pos (n : UInt32) : n > 0 ↔ n.toNat ≠ 0 :=
  UInt32.lt_iff_toNat_lt.trans Nat.pos_iff_ne_zero

theorem fraction_printed {count : Nat} {parts : List (Nat × Name)} {state : Nat × Name}
    (h : Printed count parts state) (hcount : count < 4) (prevSum : UInt32) (name : Name)
    (val : UInt32) (hname : name.length ≤ 11) (hprev : prevSum > 0 ↔ parts ≠ []) :
    ∃ state', fraction prevSum name val state = .ok state' ∧
      Printed (count + 1) (parts ++ [(val.toNat, name)].filter (·.1 ≠ 0)) state' := by
  have hshort := h.short
  by_cases hval : val > 0
  · have hpositive : val.toNat ≠ 0 := (uint32_pos val).mp hval
    have hone : val = 1 ↔ val.toNat = 1 := UInt32.toNat_inj.symm
    have htext : fractionText prevSum name val =
        (if parts ≠ [] then [' '] else []) ++ [' '].intercalate (partWords (val.toNat, name)) := by
      simp only [fractionText, intercalate_partWords, hprev, hone]
    have happend : partsText (parts ++ [(val.toNat, name)]) =
        partsText parts ++ fractionText prevSum name val := by
      rw [partsText_append, htext]
    have hdigits : (decimal val.toNat).length ≤ 10 :=
      (Nat.length_toDigits_le_iff (by decide) (by decide)).mpr (by have := val.toNat_lt; omega)
    have hlength : (fractionText prevSum name val).length ≤ 24 := by
      rw [fractionText]
      simp only [List.length_append, List.length_cons]
      split <;> split <;> simp <;> omega
    have hfits : state.1 + (fractionText prevSum name val).length < state.2.length := by
      rw [h.position, h.length]
      omega
    obtain ⟨hrc, hbuf, rest, hrest⟩ := snprintfBehind_fits hfits
    rcases hprint : snprintfBehind state.2 state.1 (fractionText prevSum name val) with ⟨rc, buf⟩
    rw [hprint] at hrc hbuf hrest
    simp only at hrc hbuf hrest
    refine ⟨(state.1 + rc, buf), ?_, ?_⟩
    · rw [fraction, if_pos hval, hprint]
      exact if_neg (by omega)
    · have hfilter : [(val.toNat, name)].filter (·.1 ≠ 0) = [(val.toNat, name)] := by
        simp [hpositive]
      rw [hfilter]
      refine ⟨hbuf.trans h.length, ?_, ?_, fun _ => ⟨rest, ?_⟩⟩
      · rw [hrc, h.position, happend, List.length_append]
      · rw [happend, List.length_append]
        omega
      · have hfront : state.2.take state.1 = partsText parts := by
          rw [h.position]
          by_cases hparts : parts = []
          · subst hparts
            rfl
          · obtain ⟨rest', hrest'⟩ := h.front hparts
            rw [hrest', List.take_left]
        rw [hrest, hfront, happend]
  · have hzero : val.toNat = 0 := not_not.mp fun hne => hval ((uint32_pos val).mpr hne)
    have hfilter : [(val.toNat, name)].filter (·.1 ≠ 0) = [] := by
      simp [hzero]
    refine ⟨state, ?_, ?_⟩
    · rw [fraction, if_neg hval]
      exact if_neg (by rw [h.position, h.length]; omega)
    · rw [hfilter, List.append_nil]
      exact ⟨h.length, h.position, by omega, h.front⟩

structure Mixed (i : Nat) (h m s ms : UInt32) : Prop where
  hours : h.toNat = i / 3600000
  minutes : m.toNat = i % 3600000 / 60000
  seconds : s.toNat = i % 60000 / 1000
  milliseconds : ms.toNat = i % 1000

theorem mixed (i : UInt32) : Mixed i.toNat (i / (60 * 60 * 1000))
    (i % (60 * 60 * 1000) / (60 * 1000)) (i % (60 * 1000) / 1000) (i % 1000) where
  hours := by
    rw [UInt32.toNat_div]
    rfl
  minutes := by
    rw [UInt32.toNat_div, UInt32.toNat_mod]
    rfl
  seconds := by
    rw [UInt32.toNat_div, UInt32.toNat_mod]
    rfl
  milliseconds := by
    rw [UInt32.toNat_mod]
    rfl

theorem parts_ne_nil (parts : List (Nat × Name)) (v : Nat) (name : Name) :
    parts ++ [(v, name)].filter (·.1 ≠ 0) ≠ [] ↔ parts ≠ [] ∨ v ≠ 0 := by
  by_cases hv : v = 0 <;> simp [hv]

theorem fractions_printed {buf : Name} (hbuf : buf.length = 128) {i : Nat} (hi : i < 2 ^ 32)
    {h m s ms : UInt32} (hmixed : Mixed i h m s ms) :
    ∃ state, fractions h m s ms buf = .ok state ∧ Printed 4 (intervalParts i) state := by
  obtain ⟨hh, hm, hs, hms⟩ := hmixed
  have hstart : Printed 0 [] (0, buf) := ⟨hbuf, rfl, Nat.le_refl 0, fun h => absurd rfl h⟩
  have hadd : (h + m).toNat = h.toNat + m.toNat := by
    rw [UInt32.toNat_add]
    omega
  have hsum : (h + m + s).toNat = h.toNat + m.toNat + s.toNat := by
    rw [UInt32.toNat_add, hadd]
    omega
  obtain ⟨first, hfirst, hprinted⟩ :=
    fraction_printed hstart (by decide) 0 "hour".toList h (by decide) (by simp)
  obtain ⟨second, hsecond, hprinted⟩ :=
    fraction_printed hprinted (by decide) h "minute".toList m (by decide)
      (by simp only [parts_ne_nil, uint32_pos, ne_eq, not_true_eq_false, false_or])
  obtain ⟨third, hthird, hprinted⟩ :=
    fraction_printed hprinted (by decide) (h + m) "second".toList s (by decide)
      (by simp only [parts_ne_nil, uint32_pos, ne_eq, not_true_eq_false, false_or, hadd]; omega)
  obtain ⟨fourth, hfourth, hprinted⟩ :=
    fraction_printed hprinted (by decide) (h + m + s) "millisecond".toList ms (by decide)
      (by simp only [parts_ne_nil, uint32_pos, ne_eq, not_true_eq_false, false_or, hsum]; omega)
  refine ⟨fourth, ?_, ?_⟩
  · simp only [fractions, hfirst, hsecond, hthird, hfourth, bind, Except.bind]
  · rw [List.nil_append, ← List.filter_append, ← List.filter_append, ← List.filter_append, hh, hm,
      hs, hms] at hprinted
    exact hprinted

theorem partsText_words (parts : List (Nat × Name)) :
    partsText parts = [' '].intercalate (parts.flatMap partWords) := by
  rw [partsText, List.flatMap_def, ← intercalate_flatten [' '], List.map_map]
  · rfl
  · intro words hwords
    obtain ⟨part, -, rfl⟩ := List.mem_map.mp hwords
    exact nofun

theorem not_mem_word {i : Nat} {word : Name} (h : word ∈ (intervalParts i).flatMap partWords)
    {c : Char} (hdigit : c.isDigit = false) (hletter : c ∉ "hourminutesecondmillisecond".toList) :
    c ∉ word := by
  obtain ⟨part, hpart, hword⟩ := List.mem_flatMap.mp h
  have hname : c ∉ part.2 ++ ['s'] := by
    have hmem := List.mem_of_mem_filter hpart
    simp only [List.mem_cons, List.not_mem_nil, or_false] at hmem
    simp at hletter
    rcases hmem with rfl | rfl | rfl | rfl <;> simp [hletter]
  have hvalue : c ∉ decimal part.1 := by
    intro hc
    rw [isDigit_of_mem_decimal hc] at hdigit
    cases hdigit
  simp only [partWords, List.mem_cons, List.not_mem_nil, or_false] at hword
  rcases hword with rfl | rfl
  · exact hvalue
  · split
    · exact fun hc => hname (List.mem_append_left _ hc)
    · exact hname

theorem readParts_append (v u : Nat) {name : Name} (rest : List Name)
    (hunit : unitValue name = some u) (hunits : unitValue (name ++ ['s']) = some u) :
    readParts (partWords (v, name) ++ rest) = (readParts rest).map (v * u + ·) := by
  have hvalue : Nat.ofDigitChars 10 (decimal v) 0 = v := Nat.ofDigitChars_ten_toDigits
  have hword : unitValue (if v = 1 then name else name ++ ['s']) = some u := by
    split
    · exact hunit
    · exact hunits
  simp only [partWords, List.cons_append, List.nil_append, readParts, hword, hvalue]
  cases readParts rest <;> rfl

theorem readParts_interval (i : Nat) :
    readParts ((intervalParts i).flatMap partWords) = some i := by
  have hpart (v u : Nat) {name : Name} {rest : List (Nat × Name)} {n : Nat}
      (hunit : unitValue name = some u) (hunits : unitValue (name ++ ['s']) = some u)
      (hrest : readParts ((rest.filter (·.1 ≠ 0)).flatMap partWords) = some n) :
      readParts ((((v, name) :: rest).filter (·.1 ≠ 0)).flatMap partWords) = some (v * u + n) := by
    by_cases hv : v = 0
    · rw [List.filter_cons_of_neg (by simp [hv]), hrest, hv, Nat.zero_mul, Nat.zero_add]
    · rw [List.filter_cons_of_pos (by simp [hv]), List.flatMap_cons,
        readParts_append v u _ hunit hunits, hrest]
      rfl
  have hsum : readParts ((intervalParts i).flatMap partWords) =
      some (i / 3600000 * 3600000 + (i % 3600000 / 60000 * 60000 + (i % 60000 / 1000 * 1000 +
        (i % 1000 * 1 + 0)))) :=
    hpart _ _ (by decide) (by decide) (hpart _ _ (by decide) (by decide)
      (hpart _ _ (by decide) (by decide) (hpart _ _ (by decide) (by decide) rfl)))
  rw [hsum]
  congr 1
  omega

/-- Whatever the buffer held before, it holds the interval, of which no part is cut off. -/
theorem formatTimeInterval_holds {buf : Name} (hbuf : buf.length = 128) {i : UInt32} (hi : i ≠ 0) :
    HoldsInterval i.toNat (formatTimeInterval buf i) := by
  obtain ⟨state, hstate, hprinted⟩ := fractions_printed hbuf i.toNat_lt (mixed i)
  have hresult : formatTimeInterval buf i = state.2 := by
    rw [formatTimeInterval, hstate]
  have hpositive : i.toNat ≠ 0 := fun h => hi (UInt32.toNat_inj.mp h)
  have hparts : intervalParts i.toNat ≠ [] := by
    intro hnil
    simp only [intervalParts, List.filter_eq_nil_iff, List.forall_mem_cons,
      decide_eq_true_eq] at hnil
    omega
  obtain ⟨rest, hrest⟩ := hprinted.front hparts
  have hwords : (intervalParts i.toNat).flatMap partWords ≠ [] := by
    obtain ⟨part, parts, hcons⟩ := List.exists_cons_of_ne_nil hparts
    rw [hcons, List.flatMap_cons]
    exact nofun
  have htext : stringIn state.2 = partsText (intervalParts i.toNat) := by
    rw [hrest]
    have hnul : ∀ c ∈ partsText (intervalParts i.toNat), decide (c ≠ '\x00') = true := by
      rintro c hc
      refine decide_eq_true ?_
      rintro rfl
      rw [partsText_words] at hc
      rcases mem_of_mem_intercalate _ hc with hc | ⟨word, hword, hc⟩
      · exact absurd hc (by decide)
      · exact not_mem_word hword (by decide) (by decide) hc
    exact (span_append hnul (by simp)).1
  rw [hresult]
  refine ⟨hprinted.length, ?_, htext, ?_⟩
  · rw [hrest]
    simp
  · rw [htext, readInterval, partsText_words, List.splitOn_intercalate ' ' _ hwords]
    · exact readParts_interval i.toNat
    · exact fun word hword => not_mem_word hword (by decide) (by decide)

theorem formatTimeInterval_hour :
    HoldsInterval 3662000 (formatTimeInterval (List.replicate 128 'x') 3662000) :=
  @formatTimeInterval_holds (List.replicate 128 'x') List.length_replicate 3662000 (by decide)

end Usbutils
