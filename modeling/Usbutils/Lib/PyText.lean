import Mathlib.Data.List.DropRight
import Mathlib.Data.Nat.Digits.Defs
import Mathlib.Logic.Function.Basic

/-! Strings, hexadecimal numbers and dictionaries as Python has them. -/
namespace PyText

abbrev Str := List Char

/-- What is known about the characters outside ASCII. -/
structure Unicode where
  isdigit : Char → Bool
  isspace : Char → Bool
  decimal : Char → Option Nat

def isAscii (c : Char) : Bool := c.toNat < 128

section Text

variable (uni : Unicode)

def isdigit (c : Char) : Bool :=
  if isAscii c then c.isDigit else uni.isdigit c

def isspace (c : Char) : Bool :=
  if isAscii c then
    [' ', '\t', '\n', '\x0b', '\x0c', '\r', '\x1c', '\x1d', '\x1e', '\x1f'].contains c
  else uni.isspace c

/-- `int` does not skip the separators of ASCII. -/
def intSpace (c : Char) : Bool :=
  if isAscii c then [' ', '\t', '\n', '\x0b', '\x0c', '\r'].contains c else uni.isspace c

def slice (s : Str) (a b : Nat) : Str := (s.take b).drop a

def trim (space : Char → Bool) (s : Str) : Str := (s.dropWhile space).rdropWhile space

def strip (s : Str) : Str := trim (isspace uni) s

def rstripNewline (s : Str) : Str := s.rdropWhile (· == '\n')

def digit (c : Char) : Option Nat :=
  if isAscii c then
    if c.isDigit then some (c.toNat - '0'.toNat)
    else if 'a' ≤ c ∧ c ≤ 'f' then some (c.toNat - 'a'.toNat + 10)
    else if 'A' ≤ c ∧ c ≤ 'F' then some (c.toNat - 'A'.toNat + 10)
    else none
  else uni.decimal c

/-- The digits that follow; `behind` says whether a digit stands before them. An underscore
stands between two digits only. -/
def digits (value : Nat) (behind : Bool) : Str → Option Nat
  | [] => if behind then some value else none
  | c :: rest =>
      if c = '_' then if behind then digits value false rest else none
      else (digit uni c).bind fun d => digits (16 * value + d) true rest

/-- `int(s, 16)`, or `none` for a `ValueError` -/
def intBase16 (s : Str) : Option Int :=
  let s := trim (intSpace uni) s
  let number := if s.head? = some '-' ∨ s.head? = some '+' then s.tail else s
  let number :=
    if slice number 0 2 = ['0', 'x'] ∨ slice number 0 2 = ['0', 'X'] then
      if slice number 2 3 = ['_'] then number.drop 3 else number.drop 2
    else number
  (digits uni 0 false number).map fun (n : Nat) => if s.head? = some '-' then -(n : Int) else n

end Text

/-- The line endings as a file that is opened for text has them. -/
def universalNewlines : Str → Str
  | [] => []
  | '\r' :: '\n' :: rest => '\n' :: universalNewlines rest
  | c :: rest => (if c = '\r' then '\n' else c) :: universalNewlines rest

def readlines : Str → List Str
  | [] => []
  | c :: rest =>
      if c = '\n' then ['\n'] :: readlines rest
      else
        match readlines rest with
        | [] => [[c]]
        | line :: lines => (c :: line) :: lines

abbrev Dict (κ υ : Type) := κ → Option υ

section Dict

variable {κ υ : Type} [DecidableEq κ]

def Dict.set (d : Dict κ υ) (k : κ) (v : υ) : Dict κ υ := Function.update d k (some v)

def Dict.setAll (d : Dict κ υ) (entries : List (κ × υ)) : Dict κ υ :=
  entries.foldl (fun d entry => d.set entry.1 entry.2) d

def Dict.ofList (entries : List (κ × υ)) : Dict κ υ := Dict.setAll (fun _ => none) entries

theorem Dict.setAll_append (d : Dict κ υ) (entries later : List (κ × υ)) :
    d.setAll (entries ++ later) = (d.setAll entries).setAll later :=
  List.foldl_append

theorem Dict.setAll_apply (d : Dict κ υ) (entries : List (κ × υ)) (k : κ) :
    d.setAll entries k = ((entries.reverse.find? (·.1 = k)).map Prod.snd).or (d k) := by
  induction entries generalizing d with
  | nil => rfl
  | cons entry rest ih =>
      rw [Dict.setAll, List.foldl_cons, ← Dict.setAll, ih, List.reverse_cons, List.find?_append]
      cases hrest : rest.reverse.find? (·.1 = k) with
      | some found => simp
      | none =>
          by_cases hk : entry.1 = k
          · simp [Dict.set, hk]
          · simp [Dict.set, hk, Ne.symm hk]

end Dict

theorem universalNewlines_eq {text : Str} (h : '\r' ∉ text) : universalNewlines text = text := by
  induction text with
  | nil => rfl
  | cons c rest ih =>
      obtain ⟨hc, hrest⟩ := not_or.mp (mt List.mem_cons.mpr h)
      have hne : c ≠ '\r' := fun heq => hc heq.symm
      unfold universalNewlines
      split
      · cases ‹_ = _›
      · exact absurd (List.cons.inj ‹_›).1 hne
      · obtain ⟨rfl, rfl⟩ := List.cons.inj ‹c :: rest = _›
        rw [if_neg hne, ih hrest]

theorem readlines_append {line : Str} (h : '\n' ∉ line) (rest : Str) :
    readlines (line ++ '\n' :: rest) = (line ++ ['\n']) :: readlines rest := by
  induction line with
  | nil => rfl
  | cons c line ih =>
      obtain ⟨hc, hline⟩ := not_or.mp (mt List.mem_cons.mpr h)
      rw [List.cons_append, readlines, if_neg (fun heq => hc heq.symm), ih hline]
      rfl

theorem readlines_last {line : Str} (h : '\n' ∉ line) :
    readlines line = if line = [] then [] else [line] := by
  induction line with
  | nil => rfl
  | cons c line ih =>
      obtain ⟨hc, hline⟩ := not_or.mp (mt List.mem_cons.mpr h)
      rw [readlines, if_neg (fun heq => hc heq.symm), ih hline]
      cases line <;> rfl

theorem rstripNewline_eq {line : Str} (h : '\n' ∉ line) : rstripNewline line = line := by
  apply List.rdropWhile_eq_self_iff.mpr
  intro hne hlast
  exact h (beq_iff_eq.mp hlast ▸ List.getLast_mem hne)

theorem rstripNewline_append {line : Str} (h : '\n' ∉ line) :
    rstripNewline (line ++ ['\n']) = line := by
  rw [rstripNewline, List.rdropWhile_concat_pos (· == '\n') line '\n' rfl]
  exact rstripNewline_eq h

theorem notMem_intercalate {c : Char} (hc : c ≠ '\n') {lines : List Str}
    (h : ∀ line ∈ lines, c ∉ line) : c ∉ ['\n'].intercalate lines := by
  induction lines with
  | nil => exact List.not_mem_nil
  | cons line rest ih =>
      obtain ⟨hline, hrest⟩ := List.forall_mem_cons.mp h
      cases rest with
      | nil => rwa [List.intercalate_singleton]
      | cons next rest =>
          rw [List.intercalate_cons_cons, List.mem_append, List.mem_append, List.mem_singleton]
          rintro ((hmem | hmem) | hmem)
          · exact hline hmem
          · exact hc hmem
          · exact ih hrest hmem

/-- What reads lines one by one, and does not look at the newline, reads the lines of a text. -/
theorem foldlM_readlines {σ : Type} {f : σ → Str → Option σ}
    (hnewline : ∀ s line, '\n' ∉ line → f s (line ++ ['\n']) = f s line)
    (hempty : ∀ s, f s [] = some s) {lines : List Str} (hlines : ∀ line ∈ lines, '\n' ∉ line) (s : σ) :
    (readlines (['\n'].intercalate lines)).foldlM f s = lines.foldlM f s := by
  induction lines generalizing s with
  | nil => rfl
  | cons line rest ih =>
      obtain ⟨hline, hrest⟩ := List.forall_mem_cons.mp hlines
      cases rest with
      | nil =>
          rw [List.intercalate_singleton, readlines_last hline]
          by_cases hnil : line = []
          · rw [if_pos hnil, hnil, List.foldlM_cons, hempty]
            rfl
          · rw [if_neg hnil]
      | cons next rest =>
          rw [List.intercalate_cons_cons, List.append_assoc, List.singleton_append,
            readlines_append hline, List.foldlM_cons, hnewline s line hline, List.foldlM_cons]
          exact congrArg _ (funext fun s' => ih hrest s')

section Hex

variable (uni : Unicode)

def hexDigit (d : Fin 16) : Char := Nat.digitChar d

def hexValue (ds : List (Fin 16)) : Nat := ds.foldl (fun value d => 16 * value + d.val) 0

@[simp] theorem isAscii_hexDigit (d : Fin 16) : isAscii (hexDigit d) = true := by
  revert d
  decide

@[simp] theorem intSpace_hexDigit (d : Fin 16) : intSpace uni (hexDigit d) = false := by
  rw [intSpace, if_pos (isAscii_hexDigit d)]
  revert d
  decide

@[simp] theorem digit_hexDigit (d : Fin 16) : digit uni (hexDigit d) = some d.val := by
  rw [digit, if_pos (isAscii_hexDigit d)]
  revert d
  decide

theorem ne_underscore (d : Fin 16) : hexDigit d ≠ '_' := by
  revert d
  decide

theorem hexDigit_ne {c : Char} (h : ∀ d, hexDigit d ≠ c) (ds : List (Fin 16)) :
    c ∉ ds.map hexDigit := by
  rw [List.mem_map]
  rintro ⟨d, -, hd⟩
  exact h d hd

theorem digits_hex (value : Nat) (ds : List (Fin 16)) :
    digits uni value true (ds.map hexDigit) =
      some (ds.foldl (fun value d => 16 * value + d.val) value) := by
  induction ds generalizing value with
  | nil => rfl
  | cons d rest ih => rw [List.map_cons, digits, if_neg (ne_underscore d), digit_hexDigit,
      Option.bind_some, ih, List.foldl_cons]

theorem trim_hex {ds : List (Fin 16)} (hne : ds ≠ []) (k : Nat) :
    trim (intSpace uni) (ds.map hexDigit ++ List.replicate k ' ') = ds.map hexDigit := by
  have hfront : (ds.map hexDigit ++ List.replicate k ' ').dropWhile (intSpace uni) =
      ds.map hexDigit ++ List.replicate k ' ' := by
    cases ds with
    | nil => exact absurd rfl hne
    | cons d rest => exact List.dropWhile_cons_of_neg (by simp)
  rw [trim, hfront]
  clear hfront
  induction k with
  | zero =>
      rw [List.replicate_zero, List.append_nil]
      apply List.rdropWhile_eq_self_iff.mpr
      intro _ hlast
      simp at hlast
  | succ k ih =>
      rw [List.replicate_succ', ← List.append_assoc, List.rdropWhile_concat_pos _ _ _ rfl]
      exact ih

theorem intBase16_hex {ds : List (Fin 16)} (hne : ds ≠ []) (k : Nat) :
    intBase16 uni (ds.map hexDigit ++ List.replicate k ' ') = some (hexValue ds : Int) := by
  have hbase (c : Char) (hc : ∀ d, hexDigit d ≠ c) : slice (ds.map hexDigit) 0 2 ≠ ['0', c] := by
    intro heq
    have hmem : c ∈ slice (ds.map hexDigit) 0 2 := by
      rw [heq]
      exact List.mem_cons_of_mem _ (List.mem_singleton_self c)
    exact hexDigit_ne hc ds (List.mem_of_mem_take hmem)
  have hsign (c : Char) (hc : ∀ d, hexDigit d ≠ c) : (ds.map hexDigit).head? ≠ some c := fun heq =>
    hexDigit_ne hc ds (List.mem_of_mem_head? heq)
  have hdigits : digits uni 0 false (ds.map hexDigit) = some (hexValue ds) := by
    cases ds with
    | nil => exact absurd rfl hne
    | cons d rest =>
        rw [List.map_cons, digits, if_neg (ne_underscore d), digit_hexDigit, Option.bind_some,
          digits_hex]
        rfl
  rw [intBase16, trim_hex uni hne k, if_neg (not_or.mpr ⟨hsign '-' (by decide), hsign '+' (by decide)⟩),
    if_neg (not_or.mpr ⟨hbase 'x' (by decide), hbase 'X' (by decide)⟩), hdigits,
    Option.map_some, if_neg (hsign '-' (by decide))]

end Hex

end PyText
