import Usbutils.Lib.PyText

/-! Numbers and fields of a fixed width as the format strings of Python write them, and the
characters of a line. -/
namespace PyText

section Text

variable (uni : Unicode) (printable : Char → Bool)

/-- `c.isprintable()`; the parameter is for the characters outside ASCII. -/
def isprintable (c : Char) : Bool :=
  if isAscii c then ' ' ≤ c && c ≤ '~' else printable c

def digit10 (c : Char) : Option Nat :=
  if isAscii c then if c.isDigit then some (c.toNat - '0'.toNat) else none else uni.decimal c

def digits10 (value : Nat) (behind : Bool) : Str → Option Nat
  | [] => if behind then some value else none
  | c :: rest =>
      if c = '_' then if behind then digits10 value false rest else none
      else (digit10 uni c).bind fun d => digits10 (10 * value + d) true rest

/-- `int(s)`, or `none` for a `ValueError` -/
def intBase10 (s : Str) : Option Int :=
  let s := trim (intSpace uni) s
  let number := if s.head? = some '-' ∨ s.head? = some '+' then s.tail else s
  (digits10 uni 0 false number).map fun (n : Nat) => if s.head? = some '-' then -(n : Int) else n

end Text

def formatInt (base width : Nat) (n : Int) : Str :=
  let sign : Str := if n < 0 then ['-'] else []
  sign ++ (Nat.toDigits base n.natAbs).leftpad (width - sign.length) '0'

def decimalFormat (n : Int) : Str := formatInt 10 0 n

def hexFormat (width : Nat) (n : Int) : Str := formatInt 16 width n

def ljust (width : Nat) (s : Str) : Str := s.rightpad width ' '

def rjust (width : Nat) (s : Str) : Str := s.leftpad width ' '

def basename (s : Str) : Str := s.rtakeWhile (· ≠ '/')

def startswith (s start : Str) : Bool := start.isPrefixOf s

/-- `re.split` at each of these characters -/
def splitAt (separators : List Char) (s : Str) : List Str := s.splitOnP (separators.contains ·)

def OneLine (s : Str) : Prop := '\n' ∉ s

instance (s : Str) : Decidable (OneLine s) := inferInstanceAs (Decidable ('\n' ∉ s))

@[simp] theorem oneLine_nil : OneLine [] := List.not_mem_nil

@[simp] theorem oneLine_append {s t : Str} : OneLine (s ++ t) ↔ OneLine s ∧ OneLine t := by
  rw [OneLine, List.mem_append, not_or]
  rfl

@[simp] theorem oneLine_cons {c : Char} {s : Str} : OneLine (c :: s) ↔ '\n' ≠ c ∧ OneLine s := by
  rw [OneLine, List.mem_cons, not_or]
  rfl

theorem oneLine_replicate {c : Char} (hc : '\n' ≠ c) (n : Nat) : OneLine (List.replicate n c) :=
  fun hmem => hc (List.eq_of_mem_replicate hmem)

theorem OneLine.of_subset {s t : Str} (h : OneLine t) (hsub : s ⊆ t) : OneLine s := mt (hsub ·) h

theorem OneLine.ljust {s : Str} (h : OneLine s) (width : Nat) : OneLine (ljust width s) :=
  oneLine_append.mpr ⟨h, oneLine_replicate (by decide) _⟩

theorem OneLine.rjust {s : Str} (h : OneLine s) (width : Nat) : OneLine (rjust width s) :=
  oneLine_append.mpr ⟨oneLine_replicate (by decide) _, h⟩

theorem OneLine.strip {s : Str} (h : OneLine s) (uni : Unicode) : OneLine (strip uni s) :=
  h.of_subset fun _ hc => (List.dropWhile_sublist _).subset ((List.rdropWhile_prefix _ _).subset hc)

theorem oneLine_flatMap {α : Type} {f : α → Str} {items : List α} (h : ∀ i ∈ items, OneLine (f i)) :
    OneLine (items.flatMap f) := by
  rw [OneLine, List.mem_flatMap]
  rintro ⟨i, hi, hmem⟩
  exact h i hi hmem

theorem digitChar_ne_newline (d : Nat) : '\n' ≠ Nat.digitChar d := by
  rcases Nat.lt_or_ge d 16 with hlt | hge
  · exact (by decide : ∀ d < 16, '\n' ≠ Nat.digitChar d) d hlt
  · have hstar : Nat.digitChar d = '*' := by simp (disch := omega) only [Nat.digitChar, if_neg]
    rw [hstar]
    decide

theorem oneLine_toDigits {base : Nat} (hbase : 1 < base) (n : Nat) :
    OneLine (Nat.toDigits base n) := by
  induction n using Nat.strongRecOn with
  | ind n ih =>
      rcases Nat.lt_or_ge n base with hlt | hge
      · rw [Nat.toDigits_of_lt_base hlt]
        exact oneLine_cons.mpr ⟨digitChar_ne_newline n, oneLine_nil⟩
      · rw [Nat.toDigits_of_base_le hbase hge]
        have hdiv : n / base < n := Nat.div_lt_self (by omega) hbase
        exact oneLine_append.mpr
          ⟨ih _ hdiv, oneLine_cons.mpr ⟨digitChar_ne_newline _, oneLine_nil⟩⟩

theorem oneLine_formatInt {base : Nat} (hbase : 1 < base) (width : Nat) (n : Int) :
    OneLine (formatInt base width n) := by
  refine oneLine_append.mpr ⟨?_, oneLine_append.mpr ⟨oneLine_replicate (by decide) _, ?_⟩⟩
  · split
    · exact oneLine_cons.mpr ⟨by decide, oneLine_nil⟩
    · exact oneLine_nil
  · exact oneLine_toDigits hbase _

@[simp] theorem oneLine_decimalFormat (n : Int) : OneLine (decimalFormat n) :=
  oneLine_formatInt (by decide) 0 n

@[simp] theorem oneLine_hexFormat (width : Nat) (n : Int) : OneLine (hexFormat width n) :=
  oneLine_formatInt (by decide) width n

theorem not_isprintable_newline (printable : Char → Bool) : isprintable printable '\n' = false := by
  rw [isprintable, if_pos (by decide)]
  decide

end PyText
