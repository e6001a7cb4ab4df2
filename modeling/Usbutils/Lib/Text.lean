import Mathlib.Data.List.Basic
import Mathlib.Data.List.TakeWhile

/-! Texts that are put together from parts, and numerals in them as `strtol` reads them. -/
namespace Text

section Parts

variable {α : Type} (sep : List α)

def piece (earlier : Bool) (part : List α) : List α := if earlier then sep ++ part else part

def pieces (earlier : Bool) (parts : List (List α)) : List α :=
  if earlier then parts.flatMap (sep ++ ·) else sep.intercalate parts

theorem intercalate_cons (part : List α) (parts : List (List α)) :
    sep.intercalate (part :: parts) = part ++ parts.flatMap (sep ++ ·) := by
  induction parts generalizing part with
  | nil => simp
  | cons second parts ih =>
      rw [List.intercalate_cons_cons, ih, List.flatMap_cons, List.append_assoc, List.append_assoc]

@[simp] theorem pieces_nil (earlier : Bool) : pieces sep earlier [] = [] := by
  cases earlier <;> rfl

theorem pieces_cons (earlier : Bool) (part : List α) (parts : List (List α)) :
    pieces sep earlier (part :: parts) = piece sep earlier part ++ pieces sep true parts := by
  cases earlier with
  | true => exact List.flatMap_cons
  | false => exact intercalate_cons sep part parts

theorem mem_of_mem_intercalate {c : α} {parts : List (List α)} (h : c ∈ sep.intercalate parts) :
    c ∈ sep ∨ ∃ part ∈ parts, c ∈ part := by
  cases parts with
  | nil => cases h
  | cons part parts =>
      rw [intercalate_cons, List.mem_append, List.mem_flatMap] at h
      rcases h with h | ⟨second, hsecond, h⟩
      · exact Or.inr ⟨part, by simp, h⟩
      · rcases List.mem_append.mp h with h | h
        · exact Or.inl h
        · exact Or.inr ⟨second, by simp [hsecond], h⟩

theorem intercalate_append {front back : List (List α)} (hfront : front ≠ []) (hback : back ≠ []) :
    sep.intercalate (front ++ back) = sep.intercalate front ++ sep ++ sep.intercalate back := by
  obtain ⟨part, front, rfl⟩ := List.exists_cons_of_ne_nil hfront
  obtain ⟨part', back, rfl⟩ := List.exists_cons_of_ne_nil hback
  rw [List.cons_append, intercalate_cons, intercalate_cons, intercalate_cons, List.flatMap_append,
    List.flatMap_cons]
  simp only [List.append_assoc]

theorem intercalate_flatten {groups : List (List (List α))} (h : ∀ group ∈ groups, group ≠ []) :
    sep.intercalate (groups.map sep.intercalate) = sep.intercalate groups.flatten := by
  induction groups with
  | nil => rfl
  | cons group groups ih =>
      obtain ⟨hgroup, hgroups⟩ := List.forall_mem_cons.mp h
      cases groups with
      | nil => simp
      | cons second groups =>
          have hrest : (second :: groups).flatten ≠ [] := by
            simp [hgroups second List.mem_cons_self]
          rw [List.map_cons, List.map_cons, List.intercalate_cons_cons, ← List.map_cons,
            ih hgroups, ← intercalate_append sep hgroup hrest, ← List.flatten_cons]

end Parts

section Lines

variable {α : Type} [BEq α] {newline : α} {line : List α}

def lines (newline : α) (text : List α) : List (List α) := (text.splitOn newline).dropLast

@[simp] theorem lines_nil : lines newline [] = [] := by
  rw [lines, List.splitOn_nil]
  rfl

variable [LawfulBEq α]

@[simp] theorem lines_cons (h : newline ∉ line) (text : List α) :
    lines newline (line ++ newline :: text) = line :: lines newline text := by
  rw [lines, lines, List.splitOn_append_cons_self_of_not_mem h,
    List.dropLast_cons_of_ne_nil (List.splitOn_ne_nil newline text)]

theorem lines_flatMap {front : List (List α)} (h : ∀ line ∈ front, newline ∉ line)
    (text : List α) :
    lines newline (front.flatMap (· ++ [newline]) ++ text) = front ++ lines newline text := by
  induction front with
  | nil => rfl
  | cons line front ih =>
      obtain ⟨hline, hfront⟩ := List.forall_mem_cons.mp h
      have hsplit : (line :: front).flatMap (· ++ [newline]) ++ text =
          line ++ newline :: (front.flatMap (· ++ [newline]) ++ text) := by
        simp
      rw [hsplit, lines_cons hline, ih hfront, List.cons_append]

end Lines

section Numerals

variable (base : Nat)

/-- The value of a digit or a letter; no base has a digit for anything else. -/
def digitValue (c : Char) : Nat :=
  if 48 ≤ c.toNat ∧ c.toNat ≤ 57 then c.toNat - 48
  else if 97 ≤ c.toNat ∧ c.toNat ≤ 122 then c.toNat - 87
  else if 65 ≤ c.toNat ∧ c.toNat ≤ 90 then c.toNat - 55
  else 36

def isDigit (c : Char) : Bool := digitValue c < base

def value (digits : List Char) : Nat := digits.foldl (fun n c => base * n + digitValue c) 0

/-- A numeral without a sign; one in base 16 may have `0x` in front. -/
inductive IsNumeral : List Char → Nat → Prop where
  | plain {text : List Char} : text ≠ [] → (∀ c ∈ text, isDigit base c = true) →
      IsNumeral text (value base text)
  | marked {x : Char} {text : List Char} : base = 16 → x = 'x' ∨ x = 'X' → text ≠ [] →
      (∀ c ∈ text, isDigit base c = true) → IsNumeral ('0' :: x :: text) (value base text)

inductive IsNumber : List Char → Int → Prop where
  | unsigned {text : List Char} {n : Nat} : IsNumeral base text n → IsNumber text n
  | plus {text : List Char} {n : Nat} : IsNumeral base text n → IsNumber ('+' :: text) n
  | minus {text : List Char} {n : Nat} : IsNumeral base text n → IsNumber ('-' :: text) (-n)

/-- The text behind `0x`, where a digit follows. -/
def skipMark : List Char → List Char
  | '0' :: x :: c :: rest =>
      if base = 16 ∧ (x = 'x' ∨ x = 'X') ∧ isDigit base c = true then c :: rest
      else '0' :: x :: c :: rest
  | s => s

def scanNumeral (s : List Char) : Option (Nat × List Char) :=
  if (skipMark base s).takeWhile (isDigit base) = [] then none
  else some (value base ((skipMark base s).takeWhile (isDigit base)),
    (skipMark base s).dropWhile (isDigit base))

def scanNumber : List Char → Option (Int × List Char)
  | '+' :: s => (scanNumeral base s).map fun (n, rest) => ((n : Int), rest)
  | '-' :: s => (scanNumeral base s).map fun (n, rest) => (-(n : Int), rest)
  | s => (scanNumeral base s).map fun (n, rest) => ((n : Int), rest)

def Ends (rest : List Char) : Prop :=
  ∀ c ∈ rest.head?, isDigit base c = false ∧ (base = 16 → c ≠ 'x' ∧ c ≠ 'X')

variable {base} {s text rest : List Char} {n : Nat} {m : Int}

theorem span_append {p : Char → Bool} (htext : ∀ c ∈ text, p c = true)
    (hrest : ∀ c ∈ rest.head?, p c = false) :
    (text ++ rest).takeWhile p = text ∧ (text ++ rest).dropWhile p = rest := by
  rw [List.takeWhile_append_of_pos htext, List.dropWhile_append_of_pos htext]
  cases rest with
  | nil => simp
  | cons c rest => simp [hrest c rfl]

theorem skipMark_cases (s : List Char) : skipMark base s = s ∨
    ∃ x, base = 16 ∧ (x = 'x' ∨ x = 'X') ∧ s = '0' :: x :: skipMark base s := by
  fun_cases skipMark base s with
  | case1 x c rest h => exact Or.inr ⟨x, h.1, h.2.1, rfl⟩
  | case2 x c rest h => exact Or.inl rfl
  | case3 s h => exact Or.inl rfl

theorem ne_mark_of_isDigit {c : Char} (h : isDigit 16 c = true) : c ≠ 'x' ∧ c ≠ 'X' := by
  constructor
  all_goals
    rintro rfl
    revert h
    decide

theorem skipMark_plain (htext : text ≠ []) (hdigits : ∀ c ∈ text, isDigit base c = true)
    (hrest : Ends base rest) : skipMark base (text ++ rest) = text ++ rest := by
  rcases @skipMark_cases base (text ++ rest) with h | ⟨x, rfl, hx, h⟩
  · exact h
  · have hne : x ≠ 'x' ∧ x ≠ 'X' := by
      match text with
      | [] => exact absurd rfl htext
      | [c] =>
          have hhead : rest = x :: _ := (List.cons.inj h).2
          exact (hrest x (hhead ▸ rfl)).2 rfl
      | c :: d :: text =>
          obtain rfl : d = x := (List.cons.inj (List.cons.inj h).2).1
          exact ne_mark_of_isDigit (hdigits d (by simp))
    exact absurd hx (not_or.mpr hne)

theorem IsNumeral.scan (h : IsNumeral base text n) (hrest : Ends base rest) :
    scanNumeral base (text ++ rest) = some (n, rest) := by
  have hstop : ∀ c ∈ rest.head?, isDigit base c = false := fun c hc => (hrest c hc).1
  cases h with
  | plain hne hdigits =>
      obtain ⟨htake, hdrop⟩ := span_append hdigits hstop
      rw [scanNumeral, skipMark_plain hne hdigits hrest, htake, hdrop]
      exact if_neg hne
  | @marked x digits hbase hx hne hdigits =>
      obtain ⟨htake, hdrop⟩ := span_append hdigits hstop
      have hskip : skipMark base ('0' :: x :: digits ++ rest) = digits ++ rest := by
        obtain ⟨c, digits, rfl⟩ := List.exists_cons_of_ne_nil hne
        exact if_pos ⟨hbase, hx, hdigits c List.mem_cons_self⟩
      rw [scanNumeral, hskip, htake, hdrop]
      exact if_neg hne

/-- What is read is a numeral, and no digit is left behind it. -/
theorem scanNumeral_sound (h : scanNumeral base s = some (n, rest)) :
    ∃ text, s = text ++ rest ∧ IsNumeral base text n ∧ ∀ c ∈ rest.head?, isDigit base c = false := by
  have hsplit := List.takeWhile_append_dropWhile (p := isDigit base) (l := skipMark base s)
  unfold scanNumeral at h
  split at h
  · cases h
  · next hne =>
      obtain ⟨rfl, rfl⟩ := Prod.mk.inj (Option.some.inj h)
      have hall : ∀ c ∈ (skipMark base s).takeWhile (isDigit base), isDigit base c = true :=
        fun c hc => List.mem_takeWhile_imp hc
      have hstop := List.head?_dropWhile_not (isDigit base) (skipMark base s)
      have hrest : ∀ c ∈ ((skipMark base s).dropWhile (isDigit base)).head?,
          isDigit base c = false := by
        intro c hc
        rwa [hc] at hstop
      rcases @skipMark_cases base s with hskip | ⟨x, hbase, hx, hskip⟩
      · exact ⟨_, hskip.symm.trans hsplit.symm, .plain hne hall, hrest⟩
      · refine ⟨'0' :: x :: (skipMark base s).takeWhile (isDigit base), ?_,
          .marked hbase hx hne hall, hrest⟩
        rw [List.cons_append, List.cons_append, hsplit]
        exact hskip

theorem isNumeral_of_all (h : text ≠ [] ∧ text.all (isDigit base) = true) :
    IsNumeral base text (value base text) :=
  .plain h.1 (List.all_eq_true.mp h.2)

theorem IsNumeral.head (h : IsNumeral base text n) (hbase : base ≤ 36) :
    ∃ c, text.head? = some c ∧ digitValue c < 36 := by
  cases h with
  | plain hne hdigits =>
      obtain ⟨c, text, rfl⟩ := List.exists_cons_of_ne_nil hne
      have hc := of_decide_eq_true (hdigits c List.mem_cons_self)
      exact ⟨c, rfl, Nat.lt_of_lt_of_le hc hbase⟩
  | marked => exact ⟨'0', rfl, by decide⟩

theorem IsNumber.ne_nil (h : IsNumber base text m) (hbase : base ≤ 36) : text ≠ [] := by
  cases h with
  | unsigned h =>
      obtain ⟨c, hhead, -⟩ := h.head hbase
      rintro rfl
      cases hhead
  | plus h => exact nofun
  | minus h => exact nofun

theorem scanNumber_unsigned (hplus : s.head? ≠ some '+') (hminus : s.head? ≠ some '-') :
    scanNumber base s = (scanNumeral base s).map fun (n, rest) => ((n : Int), rest) := by
  unfold scanNumber
  split
  · exact absurd rfl hplus
  · exact absurd rfl hminus
  · rfl

theorem IsNumber.scan (h : IsNumber base text m) (hbase : base ≤ 36) (hrest : Ends base rest) :
    scanNumber base (text ++ rest) = some (m, rest) := by
  cases h with
  | unsigned h =>
      obtain ⟨c, hhead, hc⟩ := h.head hbase
      have hhead : (text ++ rest).head? = some c := by
        rw [List.head?_append, hhead]
        rfl
      rw [scanNumber_unsigned, h.scan hrest]
      · rfl
      · rintro hplus
        obtain rfl := Option.some.inj (hhead.symm.trans hplus)
        exact absurd hc (by decide)
      · rintro hminus
        obtain rfl := Option.some.inj (hhead.symm.trans hminus)
        exact absurd hc (by decide)
  | plus h => rw [List.cons_append, scanNumber, h.scan hrest]; rfl
  | minus h => rw [List.cons_append, scanNumber, h.scan hrest]; rfl

theorem scanNumber_sound (h : scanNumber base s = some (m, rest)) :
    ∃ text, s = text ++ rest ∧ IsNumber base text m ∧ ∀ c ∈ rest.head?, isDigit base c = false := by
  unfold scanNumber at h
  split at h
  all_goals
    obtain ⟨⟨n, rest'⟩, hscan, heq⟩ := Option.map_eq_some_iff.mp h
    obtain ⟨rfl, rfl⟩ := Prod.mk.inj heq
    obtain ⟨text, rfl, hnumeral, hrest⟩ := scanNumeral_sound hscan
  · exact ⟨'+' :: text, rfl, .plus hnumeral, hrest⟩
  · exact ⟨'-' :: text, rfl, .minus hnumeral, hrest⟩
  · exact ⟨text, rfl, .unsigned hnumeral, hrest⟩

end Numerals

end Text
