import Mathlib.Tactic.Ring
import Usbutils.Lib.LittleEndian
import Usbutils.Desc.Dump

/-! What the look-ups of `desc-dump.c` compute. Every field that a definition
refers to stands behind fields of fixed size, so the search for it reads
nothing and ends at a place known from the definition alone. -/
namespace Usbutils
open ByteProg

/-- The field of that name and its offset, if all fields before it have a fixed size. -/
def anchorFrom (field : String) : List Desc → Nat → Option (Desc × Nat)
  | [], _ => none
  | current :: rest, offset =>
      if current.field = field then some (current, offset)
      else if current.sizeField = none ∧ current.size ≠ 0 then
        anchorFrom field rest (offset + current.size)
      else none

def anchor (desc : List Desc) (field : String) : Option (Desc × Nat) := anchorFrom field desc 0

def isByte (desc : List Desc) (field : String) : Bool :=
  (anchor desc field).any fun place => place.1.size = 1

def DescType.typeField : DescType → Option String
  | .extension typeField _ => some typeField
  | _ => none

def DescType.targets : DescType → List DescId
  | .extension _ d => .undefined :: d.map Prod.snd
  | _ => []

/-- Sizes and counts come from one-byte fields, extension types from any field
with a known place; a fixed size is a size the readers support. -/
structure Desc.Grounded (desc : List Desc) (c : Desc) : Prop where
  sizeField : c.sizeField.all (isByte desc) = true
  size : c.sizeField = none → 0 < c.size ∧ c.size ≤ 8
  lengthField1 : c.array.lengthField1.all (isByte desc) = true
  lengthField2 : c.array.lengthField2.all (isByte desc) = true
  typeField : c.type.typeField.all (fun field => (anchor desc field).isSome) = true
  extension : c.type.isExtension = true → c.array.array = false

instance (desc : List Desc) (c : Desc) : Decidable (c.Grounded desc) :=
  decidable_of_iff (_ ∧ _ ∧ _ ∧ _ ∧ _ ∧ _)
    ⟨fun ⟨h₁, h₂, h₃, h₄, h₅, h₆⟩ => ⟨h₁, h₂, h₃, h₄, h₅, h₆⟩,
      fun ⟨h₁, h₂, h₃, h₄, h₅, h₆⟩ => ⟨h₁, h₂, h₃, h₄, h₅, h₆⟩⟩

theorem grounded (id : DescId) : ∀ c ∈ id.fields, c.Grounded id.fields := by
  cases id <;> decide

theorem targets_flat (id : DescId) : ∀ c ∈ id.fields, ∀ target ∈ c.type.targets,
    ∀ c' ∈ target.fields, c'.type.targets = [] := by
  cases id <;> decide

section Values

variable (m : Memory) (buf bufLen : Nat) (desc : List Desc)

def fieldValue (field : String) : Nat :=
  match anchor desc field with
  | some (c, offset) =>
      if offset + c.size ≤ bufLen then leValue m (buf + offset) (min c.size 8) else 0
  | none => 0

def entrySize (c : Desc) : Nat := c.sizeField.elim c.size (fieldValue m buf bufLen desc)

def explicitEntries (array : DescArray) (lengthField1 : String) : Nat :=
  let entries := fieldValue m buf bufLen desc lengthField1 *
    array.lengthField2.elim 1 (fieldValue m buf bufLen desc)
  if array.bits then (entries + 7) / 8 else entries

def otherSize (c : Desc) : Option Nat :=
  if c.array.array then
    c.array.lengthField1.map fun lengthField1 =>
      entrySize m buf bufLen desc c * explicitEntries m buf bufLen desc c.array lengthField1
  else some (entrySize m buf bufLen desc c)

def remaining (arrayEntry : Desc) : List Desc → Nat → Except Nat Nat
  | [], size => .ok size
  | current :: rest, size =>
      if current.field = arrayEntry.field then remaining arrayEntry rest size
      else
        match otherSize m buf bufLen desc current with
        | none => .error 0xffffffff
        | some fieldSize =>
            if fieldSize > size then .error 0 else remaining arrayEntry rest (size - fieldSize)

def arrayEntries (c : Desc) : Nat :=
  match c.array.lengthField1 with
  | some lengthField1 => explicitEntries m buf bufLen desc c.array lengthField1
  | none =>
      match remaining m buf bufLen desc c desc bufLen with
      | .error entries => entries
      | .ok size => size / entrySize m buf bufLen desc c

def entryCount (c : Desc) : Nat :=
  if c.array.array then arrayEntries m buf bufLen desc c else 1

def indexChars (c : Desc) : Nat :=
  if c.array.array then getCharCountForArrayIndex (arrayEntries m buf bufLen desc c) else 0

def nameWidth : List Desc → Nat → Nat
  | [], fieldLen => fieldLen
  | c :: rest, fieldLen =>
      nameWidth rest (max fieldLen (c.field.length + indexChars m buf bufLen desc c))

end Values

theorem nBytesAt_computes (m : Memory) {lo hi a n : Nat} (hlo : lo ≤ a) (hhi : a + n ≤ hi) :
    Prog.Computes lo hi (nBytesAt a n) m (leValue m a n) := by
  induction n with
  | zero => exact Prog.Computes.pure 0
  | succ n ih =>
      rw [nBytesAt, ← leValue_or_shift]
      apply (Prog.Computes.byte (by omega) (by omega)).bind
      exact (ih (by omega)).map _

theorem getNBytesAsUll_computes (m : Memory) {lo hi buf offset bytes : Nat}
    (hlo : lo ≤ buf + offset) (hhi : buf + offset + bytes ≤ hi) :
    Prog.Computes lo hi (getNBytesAsUll buf offset bytes) m
      (leValue m (buf + offset) (min bytes 8)) :=
  nBytesAt_computes m hlo (by omega)

theorem fieldSearch_computes {lo hi : Nat} {valueOf : String → Dump Nat} (m : Memory)
    {field : String} {place : Desc × Nat} {fields : List Desc} {offset : Nat}
    (h : anchorFrom field fields offset = some place) :
    Prog.Computes lo hi (fieldSearch (entrySizeBy valueOf) field fields offset) m
      (some place) := by
  induction fields generalizing offset with
  | nil => cases h
  | cons current rest ih =>
      rw [anchorFrom] at h
      rw [fieldSearch]
      split at h
      · next hname =>
          cases h
          rw [if_pos hname]
          exact Prog.Computes.pure _
      · next hname =>
          split at h
          · next hfixed =>
              have hsize : entrySizeBy valueOf current = pure current.size := by
                simp [entrySizeBy, hfixed]
              rw [if_neg hname, hsize]
              exact (Prog.Computes.pure _).bind (ih h)
          · cases h

/-- A bit count is rounded up to whole bytes. -/
theorem wholeBytes (n : Nat) : n / 8 + (if n &&& 0x7 ≠ 0 then 1 else 0) = (n + 7) / 8 := by
  have h : n &&& 0x7 = n % 8 := Nat.and_two_pow_sub_one_eq_mod n 3
  rw [h]
  split <;> omega

section Lookups

variable (m : Memory) (buf bufLen : Nat) {desc : List Desc}

theorem getValueFromField_computes {field : String} (h : (anchor desc field).isSome = true) :
    Prog.Computes buf (buf + bufLen) (getValueFromField buf bufLen desc field) m
      (fieldValue m buf bufLen desc field) := by
  obtain ⟨⟨c, offset⟩, hplace⟩ := Option.isSome_iff_exists.mp h
  rw [getValueFromField, lookupDepth, valueAtDepth, fieldValue, hplace]
  apply (fieldSearch_computes m hplace).bind
  dsimp only
  split
  · exact getNBytesAsUll_computes m (by omega) (by omega)
  · exact Prog.Computes.pure 0

theorem anchor_of_isByte {field : String} (h : isByte desc field = true) :
    ∃ c offset, anchor desc field = some (c, offset) ∧ c.size = 1 := by
  obtain ⟨⟨c, offset⟩, hplace, hsize⟩ := (Option.any_eq_true ..).mp h
  exact ⟨c, offset, hplace, by simpa using hsize⟩

theorem fieldValue_lt {field : String} (h : isByte desc field = true) :
    fieldValue m buf bufLen desc field < 256 := by
  obtain ⟨c, offset, hplace, hsize⟩ := anchor_of_isByte h
  rw [fieldValue, hplace]
  dsimp only
  split
  · rw [hsize]
    exact leValue_lt m _ 1
  · omega

theorem byteField_computes {field : String} (h : isByte desc field = true) :
    Prog.Computes buf (buf + bufLen) (getValueFromField buf bufLen desc field) m
      (fieldValue m buf bufLen desc field) := by
  obtain ⟨c, offset, hplace, -⟩ := anchor_of_isByte h
  exact getValueFromField_computes m buf bufLen (by rw [hplace]; rfl)

variable {c : Desc} (hc : c.Grounded desc)
include hc

theorem getEntrySize_computes :
    Prog.Computes buf (buf + bufLen) (getEntrySize buf bufLen desc c) m
      (entrySize m buf bufLen desc c) := by
  have hfield := hc.sizeField
  have hsize := hc.size
  unfold getEntrySize entrySizeBy entrySize
  cases hs : c.sizeField with
  | none =>
      obtain ⟨hpos, -⟩ := hsize hs
      simp only [Option.elim_none]
      rw [if_neg (by omega)]
      exact Prog.Computes.pure _
  | some field =>
      rw [hs, Option.all_some] at hfield
      have hlt := fieldValue_lt m buf bufLen hfield
      have hmap := (byteField_computes m buf bufLen hfield).map
        (· % 2 ^ 32)
      rwa [Nat.mod_eq_of_lt (by omega)] at hmap

theorem entrySize_lt : entrySize m buf bufLen desc c < 256 := by
  have hfield := hc.sizeField
  have hsize := hc.size
  unfold entrySize
  cases hs : c.sizeField with
  | none => exact Nat.lt_of_le_of_lt (hsize hs).2 (by decide)
  | some field =>
      rw [hs, Option.all_some] at hfield
      exact fieldValue_lt m buf bufLen hfield

theorem explicitEntries_lt {lengthField1 : String}
    (h : c.array.lengthField1 = some lengthField1) :
    explicitEntries m buf bufLen desc c.array lengthField1 < 65536 := by
  have h1 := hc.lengthField1
  have h2 := hc.lengthField2
  rw [h, Option.all_some] at h1
  have hv1 := fieldValue_lt m buf bufLen h1
  have hprod : fieldValue m buf bufLen desc lengthField1 *
      c.array.lengthField2.elim 1 (fieldValue m buf bufLen desc) ≤ 255 * 255 := by
    apply Nat.mul_le_mul (by omega)
    cases hl : c.array.lengthField2 with
    | none => simp
    | some lengthField2 =>
        rw [hl, Option.all_some] at h2
        exact Nat.le_of_lt_succ (fieldValue_lt m buf bufLen h2)
  unfold explicitEntries
  dsimp only
  split <;> omega

theorem explicitCount_computes {lengthField1 : String}
    (h : c.array.lengthField1 = some lengthField1) :
    Prog.Computes buf (buf + bufLen) (explicitCount buf bufLen desc c.array lengthField1) m
      (explicitEntries m buf bufLen desc c.array lengthField1) := by
  have h1 := hc.lengthField1
  have h2 := hc.lengthField2
  rw [h, Option.all_some] at h1
  have hv1 := fieldValue_lt m buf bufLen h1
  unfold explicitCount explicitEntries
  simp only [wholeBytes]
  apply (byteField_computes m buf bufLen h1).bind
  rw [Nat.mod_eq_of_lt (by omega)]
  apply Prog.Computes.map
  cases hl : c.array.lengthField2 with
  | none =>
      rw [Option.elim_none, Nat.mul_one]
      exact Prog.Computes.pure _
  | some lengthField2 =>
      rw [hl, Option.all_some] at h2
      have hv2 := fieldValue_lt m buf bufLen h2
      have hprod : fieldValue m buf bufLen desc lengthField1 *
          fieldValue m buf bufLen desc lengthField2 ≤ 255 * 255 :=
        Nat.mul_le_mul (by omega) (by omega)
      have hmap := (byteField_computes m buf bufLen h2).map
        (fieldValue m buf bufLen desc lengthField1 * · % 2 ^ 32)
      rwa [Nat.mod_eq_of_lt (by omega)] at hmap

theorem otherFieldSize_computes :
    Prog.Computes buf (buf + bufLen) (otherFieldSize buf bufLen desc c) m
      (otherSize m buf bufLen desc c) := by
  unfold otherFieldSize otherSize
  split
  · cases hl : c.array.lengthField1 with
    | none => exact Prog.Computes.pure _
    | some lengthField1 =>
        have hcount := explicitEntries_lt m buf bufLen hc hl
        have hsize := entrySize_lt m buf bufLen hc
        have hprod : entrySize m buf bufLen desc c *
            explicitEntries m buf bufLen desc c.array lengthField1 ≤ 255 * 65535 :=
          Nat.mul_le_mul (by omega) (by omega)
        apply (explicitCount_computes m buf bufLen hc hl).bind
        rw [if_neg (by omega)]
        have hmap := (getEntrySize_computes m buf bufLen hc).map
          fun size => some (size * explicitEntries m buf bufLen desc c.array lengthField1 % 2 ^ 32)
        rwa [Nat.mod_eq_of_lt (by omega)] at hmap
  · exact (getEntrySize_computes m buf bufLen hc).map some

omit hc in
theorem remainingSize_computes {fields : List Desc} (hfields : ∀ c ∈ fields, c.Grounded desc)
    (size : Nat) :
    Prog.Computes buf (buf + bufLen) (remainingSize buf bufLen desc c fields size) m
      (remaining m buf bufLen desc c fields size) := by
  induction fields generalizing size with
  | nil => exact Prog.Computes.pure _
  | cons current rest ih =>
      obtain ⟨hcurrent, hrest⟩ := List.forall_mem_cons.mp hfields
      rw [remainingSize, remaining]
      split
      · exact ih hrest size
      · apply (otherFieldSize_computes m buf bufLen hcurrent).bind
        cases otherSize m buf bufLen desc current with
        | none => exact Prog.Computes.pure _
        | some fieldSize =>
            dsimp only
            split
            · exact Prog.Computes.pure _
            · exact ih hrest _

theorem getArrayEntryCount_computes (hdesc : ∀ c ∈ desc, c.Grounded desc) :
    Prog.Computes buf (buf + bufLen) (getArrayEntryCount buf bufLen desc c) m
      (arrayEntries m buf bufLen desc c) := by
  unfold getArrayEntryCount arrayEntries
  cases hl : c.array.lengthField1 with
  | some lengthField1 => exact explicitCount_computes m buf bufLen hc hl
  | none =>
      apply (remainingSize_computes m buf bufLen hdesc bufLen).bind
      cases remaining m buf bufLen desc c desc bufLen with
      | error entries => exact Prog.Computes.pure _
      | ok size =>
          have hmap := (getEntrySize_computes m buf bufLen hc).map
            fun fieldSize => if fieldSize ≠ 0 then size / fieldSize else 0
          have hdiv : (if entrySize m buf bufLen desc c ≠ 0 then
              size / entrySize m buf bufLen desc c else 0) =
                size / entrySize m buf bufLen desc c := by
            split
            · rfl
            · next h => rw [Decidable.not_not.mp h, Nat.div_zero]
          rwa [hdiv] at hmap

theorem entryCount_computes (hdesc : ∀ c ∈ desc, c.Grounded desc) :
    Prog.Computes buf (buf + bufLen)
      (if c.array.array then getArrayEntryCount buf bufLen desc c else pure 1) m
      (entryCount m buf bufLen desc c) := by
  unfold entryCount
  split
  · exact getArrayEntryCount_computes m buf bufLen hc hdesc
  · exact Prog.Computes.pure 1

omit hc in
theorem columnWidth_computes (hdesc : ∀ c ∈ desc, c.Grounded desc) {fields : List Desc}
    (hfields : ∀ c ∈ fields, c.Grounded desc) (fieldLen : Nat) :
    Prog.Computes buf (buf + bufLen) (columnWidth buf bufLen desc fields fieldLen) m
      (nameWidth m buf bufLen desc fields fieldLen) := by
  induction fields generalizing fieldLen with
  | nil => exact Prog.Computes.pure _
  | cons current rest ih =>
      obtain ⟨hcurrent, hrest⟩ := List.forall_mem_cons.mp hfields
      rw [columnWidth, nameWidth]
      have hchars : Prog.Computes buf (buf + bufLen) (if current.array.array then do
            return getCharCountForArrayIndex (← getArrayEntryCount buf bufLen desc current)
          else pure 0 : Dump Nat) m (indexChars m buf bufLen desc current) := by
        unfold indexChars
        split
        · exact (getArrayEntryCount_computes m buf bufLen hcurrent hdesc).map _
        · exact Prog.Computes.pure 0
      apply hchars.bind
      rw [show (if current.field.length + indexChars m buf bufLen desc current > fieldLen then
          current.field.length + indexChars m buf bufLen desc current else fieldLen) =
        max fieldLen (current.field.length + indexChars m buf bufLen desc current) by split <;> omega]
      exact ih hrest _

end Lookups

end Usbutils
