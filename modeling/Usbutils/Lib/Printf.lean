import Mathlib.Data.List.Basic
import Usbutils.Lib.Text

/-! `printf` on texts: a format is taken apart into characters and directives, and each directive
takes an argument. The numerals can be read again. -/
namespace Printf

structure Directive where
  left : Bool := false
  zero : Bool := false
  width : Nat := 0
  conversion : Char := '%'
  deriving DecidableEq, Repr

inductive Piece where
  | plain (c : Char)
  | directive (d : Directive)
  deriving DecidableEq, Repr

/-- The pieces of a format, in the middle of a directive or not. -/
def parse : Option Directive → List Char → List Piece
  | _, [] => []
  | none, c :: rest => if c = '%' then parse (some {}) rest else .plain c :: parse none rest
  | some d, c :: rest =>
      if c = '%' then .plain '%' :: parse none rest
      else if c = '-' then parse (some { d with left := true }) rest
      else if c = '0' ∧ d.width = 0 then parse (some { d with zero := true }) rest
      else if c.isDigit then parse (some { d with width := 10 * d.width + (c.toNat - 48) }) rest
      -- the size of a number
      else if c = 'h' ∨ c = 'l' then parse (some d) rest
      else .directive { d with conversion := c } :: parse none rest

inductive Value where
  | nat (n : Nat)
  | int (n : Int)
  | str (text : List Char)
  deriving DecidableEq, Repr

def numeral (conversion : Char) (n : Nat) : List Char :=
  Nat.toDigits (if conversion = 'x' then 16 else 10) n

def Directive.pad (d : Directive) (text : List Char) : List Char :=
  if d.left then text.rightpad d.width ' ' else text.leftpad d.width (if d.zero then '0' else ' ')

def Directive.text (d : Directive) : Value → List Char
  | .nat n => d.pad (numeral d.conversion n)
  | .int n =>
      if 0 ≤ n then d.pad (numeral d.conversion n.toNat)
      else if d.zero ∧ ¬d.left then
        '-' :: (numeral d.conversion n.natAbs).leftpad (d.width - 1) '0'
      else d.pad ('-' :: numeral d.conversion n.natAbs)
  | .str text => { d with zero := false } |>.pad text

def render : List Piece → List Value → List Char
  | [], _ => []
  | .plain c :: rest, args => c :: render rest args
  | .directive _ :: rest, [] => render rest []
  | .directive d :: rest, value :: args => d.text value ++ render rest args

def printf (format : List Char) (args : List Value) : List Char := render (parse none format) args

theorem render_plain (text : List Char) (rest : List Piece) (args : List Value) :
    render (text.map .plain ++ rest) args = text ++ render rest args := by
  induction text with
  | nil => rfl
  | cons c text ih => rw [List.map_cons, List.cons_append, render, ih, List.cons_append]

theorem text_zeros (width : Nat) (conversion : Char) (n : Nat) :
    Directive.text ⟨false, true, width, conversion⟩ (.nat n) =
      (numeral conversion n).leftpad width '0' := rfl

theorem text_plain (conversion : Char) (text : List Char) :
    Directive.text ⟨false, false, 0, conversion⟩ (.str text) = text := by
  change text.leftpad 0 ' ' = text
  rw [List.leftpad, Nat.zero_sub, List.replicate_zero, List.nil_append]

example : printf "%-4s|%3d|%04x".toList [.str "ab".toList, .int (-5), .nat 255] =
    "ab  | -5|00ff".toList := by decide

section Numerals

variable {base : Nat}

theorem digitValue_digitChar {d : Nat} (hd : d < 16) : Text.digitValue (Nat.digitChar d) = d := by
  have hall : ∀ d < 16, Text.digitValue (Nat.digitChar d) = d := by decide
  exact hall d hd

theorem value_append (digits : List Char) (c : Char) :
    Text.value base (digits ++ [c]) = base * Text.value base digits + Text.digitValue c := by
  rw [Text.value, List.foldl_append]
  rfl

theorem value_zeros (k : Nat) (digits : List Char) :
    Text.value base (List.replicate k '0' ++ digits) = Text.value base digits := by
  have hzeros : (List.replicate k '0').foldl (fun n c => base * n + Text.digitValue c) 0 = 0 := by
    induction k with
    | zero => rfl
    | succ k ih => rw [List.replicate_succ, List.foldl_cons]; exact ih
  rw [Text.value, List.foldl_append, hzeros]
  rfl

theorem toDigits_read (hone : 1 < base) (hbase : base ≤ 16) (n : Nat) :
    (∀ c ∈ Nat.toDigits base n, Text.isDigit base c = true) ∧
      Text.value base (Nat.toDigits base n) = n := by
  have hdigit {d : Nat} (hd : d < base) : Text.isDigit base (Nat.digitChar d) = true := by
    rw [Text.isDigit, digitValue_digitChar (hd.trans_le hbase)]
    exact decide_eq_true hd
  induction n using Nat.strongRecOn with
  | ind n ih =>
      rcases Nat.lt_or_ge n base with hlt | hge
      · rw [Nat.toDigits_of_lt_base hlt]
        refine ⟨fun c hc => ?_, ?_⟩
        · rw [List.mem_singleton.mp hc]
          exact hdigit hlt
        · change base * 0 + _ = n
          rw [digitValue_digitChar (hlt.trans_le hbase), Nat.mul_zero, Nat.zero_add]
      · obtain ⟨hfront, hvalue⟩ := ih (n / base) (Nat.div_lt_self (by omega) hone)
        have hlast : n % base < base := Nat.mod_lt _ (by omega)
        rw [Nat.toDigits_of_base_le hone hge]
        refine ⟨fun c hc => ?_, ?_⟩
        · rcases List.mem_append.mp hc with hc | hc
          · exact hfront c hc
          · rw [List.mem_singleton.mp hc]
            exact hdigit hlast
        · rw [value_append, hvalue, digitValue_digitChar (hlast.trans_le hbase)]
          exact Nat.div_add_mod n base

theorem isDigit_leftpad (hone : 1 < base) (hbase : base ≤ 16) (n width : Nat) :
    ∀ c ∈ (Nat.toDigits base n).leftpad width '0', Text.isDigit base c = true := by
  intro c hc
  rcases List.mem_append.mp hc with hc | hc
  · rw [List.eq_of_mem_replicate hc]
    exact decide_eq_true (show 0 < base by omega)
  · exact (toDigits_read hone hbase n).1 c hc

theorem value_leftpad (hone : 1 < base) (hbase : base ≤ 16) (n width : Nat) :
    Text.value base ((Nat.toDigits base n).leftpad width '0') = n := by
  rw [List.leftpad, value_zeros, (toDigits_read hone hbase n).2]

theorem isNumeral_leftpad (hone : 1 < base) (hbase : base ≤ 16) (n width : Nat) :
    Text.IsNumeral base ((Nat.toDigits base n).leftpad width '0') n := by
  have hne : (Nat.toDigits base n).leftpad width '0' ≠ [] := by
    simp [List.leftpad, Nat.toDigits_ne_nil]
  have hnumeral := Text.IsNumeral.plain hne (isDigit_leftpad hone hbase n width)
  rwa [value_leftpad hone hbase] at hnumeral

end Numerals

end Printf
