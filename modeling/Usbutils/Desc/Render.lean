import Mathlib.Tactic.SplitIfs
import Usbutils.Desc.Layout

/-! What the renderers of `desc-dump.c` do for one field: they read its bytes
only, index their tables inside the bounds and print no warning. -/
namespace Usbutils
open ByteProg

def isWarning (format : String) : Bool :=
  format == "%*sWarning: Length insufficient for descriptor type.\n" ||
    format == "%*sWarning: Junk at end of descriptor (%zu bytes):\n"

/-- What rendering one field may do; the step marks are `desc_dump`'s own. -/
def Renders (lo hi : Nat) : Entry Effect → Prop
  | .read a => lo ≤ a ∧ a < hi
  | .act (.lookup index size) => index < size
  | .act (.subtract minuend subtrahend) => subtrahend ≤ minuend
  | .act (.print format _) => isWarning format = false
  | .act _ => False

@[simp] theorem renders_read (lo hi a : Nat) : Renders lo hi (.read a) ↔ lo ≤ a ∧ a < hi := Iff.rfl

@[simp] theorem renders_lookup (lo hi i n : Nat) :
    Renders lo hi (.act (.lookup i n)) ↔ i < n := Iff.rfl

@[simp] theorem renders_subtract (lo hi a b : Nat) :
    Renders lo hi (.act (.subtract a b)) ↔ b ≤ a := Iff.rfl

@[simp] theorem renders_print (lo hi : Nat) (format : String) (args : List Arg) :
    Renders lo hi (.act (.print format args)) ↔ isWarning format = false := Iff.rfl

theorem Renders.within {lo hi : Nat} {e : Entry Effect} (h : Renders lo hi e) :
    Within lo hi e := by
  cases e with
  | read a => exact h
  | act effect => cases effect <;> trivial

/-- The table a renderer scans has its null pointer; a counted one has that many entries. -/
def DescType.bounded : DescType → Bool
  | .bmcontrol1 strings | .bmcontrol2 strings | .numberStrings strings => strings.contains none
  | .bitmapStrings strings count => count ≤ strings.length
  | _ => true

def DescType.readsByte : DescType → Bool
  | .bcd | .strDescIndex => true
  | _ => false

theorem bounded (id : DescId) : ∀ c ∈ id.fields, c.type.bounded = true := by
  cases id <;> decide

theorem sizeField_of_readsByte (id : DescId) :
    ∀ c ∈ id.fields, c.type.readsByte = true → c.sizeField = none := by
  cases id <;> decide

section Tables

variable {m : Memory} {lo hi : Nat} {strings : StringTable}

theorem entry_of_mem {count : Nat} (h : none ∈ strings.drop count) :
    ∃ hlt : count < strings.length, strings[count] ≠ none → none ∈ strings.drop (count + 1) := by
  have hlt : count < strings.length := by
    by_contra hge
    rw [List.drop_eq_nil_of_le (by omega)] at h
    cases h
  refine ⟨hlt, fun hne => ?_⟩
  rw [List.drop_eq_getElem_cons hlt] at h
  exact (List.mem_cons.mp h).resolve_left fun heq => hne heq.symm

/-- A scan of a table goes on to the null pointer that is ahead of it. -/
@[elab_as_elim] theorem scan_induction {motive : Nat → Nat → Prop}
    (hend : ∀ fuel count (hlt : count < strings.length), strings[count] = none →
      motive (fuel + 1) count)
    (hnext : ∀ fuel count (hlt : count < strings.length) string, strings[count] = some string →
      motive fuel (count + 1) → motive (fuel + 1) count)
    {fuel count : Nat} (h : none ∈ strings.drop count) (hfuel : strings.length < count + fuel) :
    motive fuel count := by
  induction fuel generalizing count with
  | zero =>
      obtain ⟨hlt, -⟩ := entry_of_mem h
      omega
  | succ fuel ih =>
      obtain ⟨hlt, hrest⟩ := entry_of_mem h
      cases hentry : strings[count] with
      | none => exact hend fuel count hlt hentry
      | some string =>
          exact hnext fuel count hlt string hentry (ih (hrest (by simp [hentry])) (by omega))

theorem descBmcontrolFrom_run (value : Nat) (twoBits : Bool) (indent : Nat) {fuel count : Nat}
    (h : none ∈ strings.drop count) (hfuel : strings.length < count + fuel) :
    (descBmcontrolFrom value strings twoBits indent fuel count).result m = .ok () ∧
      Prog.All (Renders lo hi) (descBmcontrolFrom value strings twoBits indent fuel count) m := by
  refine scan_induction ?_ ?_ h hfuel
  · intro fuel count hlt hentry
    rw [descBmcontrolFrom]
    simp [hlt, hentry]
  · rintro fuel count hlt string hentry ⟨hresult, hall⟩
    have hsetting (n : Nat) : (n &&& 3) - 1 < 3 := by
      have : n &&& 3 ≤ 3 := Nat.and_le_right
      omega
    rw [descBmcontrolFrom]
    cases twoBits <;> simp [hlt, hentry, hresult, hall, isWarning, hsetting]

theorem numberStringsFrom_run (value : Nat) {fuel i : Nat} (h : none ∈ strings.drop i)
    (hfuel : strings.length < i + fuel) :
    (numberStringsFrom strings value fuel i).result m = .ok () ∧
      Prog.All (Renders lo hi) (numberStringsFrom strings value fuel i) m := by
  refine scan_induction ?_ ?_ h hfuel
  · intro fuel i hlt hentry
    rw [numberStringsFrom]
    simp [hlt, hentry]
  · rintro fuel i hlt string hentry ⟨hresult, hall⟩
    rw [numberStringsFrom]
    simp [hlt, hentry, hresult, hall, isWarning]

end Tables

section Renderers

variable {m : Memory} {lo hi buf offset bytes : Nat}

theorem all_getNBytesAsUll (hlo : lo ≤ buf + offset) (hhi : buf + offset + bytes ≤ hi) :
    Prog.All (Renders lo hi) (getNBytesAsUll buf offset bytes) m :=
  (getNBytesAsUll_computes m hlo hhi).all fun _ h₁ h₂ => ⟨h₁, h₂⟩

@[simp] theorem result_getNBytesAsUll (m : Memory) (buf offset bytes : Nat) :
    (getNBytesAsUll buf offset bytes).result m = .ok (leValue m (buf + offset) (min bytes 8)) :=
  (getNBytesAsUll_computes m (Nat.le_refl _) (Nat.le_refl _)).result

@[simp] theorem result_hexRenderer (width : Nat) :
    (hexRenderer buf width offset bytes).result m = .ok () := by
  simp [hexRenderer]

@[simp] theorem result_numberRenderer (width : Nat) :
    (numberRenderer buf width offset bytes).result m = .ok () := by
  simp [numberRenderer]

theorem all_hexRenderer (width : Nat) (hlo : lo ≤ buf + offset)
    (hhi : buf + offset + bytes ≤ hi) :
    Prog.All (Renders lo hi) (hexRenderer buf width offset bytes) m := by
  simp [hexRenderer, all_getNBytesAsUll hlo hhi, isWarning]

theorem all_numberRenderer (width : Nat) (hlo : lo ≤ buf + offset)
    (hhi : buf + offset + bytes ≤ hi) :
    Prog.All (Renders lo hi) (numberRenderer buf width offset bytes) m := by
  unfold numberRenderer
  split
  · simp [isWarning]
    omega
  · exact all_hexRenderer width hlo hhi

@[simp] theorem result_snowflake (snowflake : Snowflake) (value indent : Nat) :
    (snowflake.dump value indent).result m = .ok () := by
  cases snowflake with
  | uac2ClkSrcBmattr =>
      by_cases h : value &&& 0x4 = 0 <;> simp [Snowflake.dump, descSnowflakeDumpUac2ClkSrcBmattr, h]
  | uac3ClkSrcBmattr => simp [Snowflake.dump, descSnowflakeDumpUac3ClkSrcBmattr]
  | uac1AsInterfaceWformattag =>
      simp only [Snowflake.dump, descSnowflakeDumpUac1AsInterfaceWformattag, Prog.result_bind,
        Prog.result_ite, result_lookup, Prog.result_pure, result_print]
      split_ifs <;> rfl
  | uac2AsInterfaceBmformats =>
      simp [Snowflake.dump, descSnowflakeDumpUac2AsInterfaceBmformats, Prog.result_loop]
  | midiSourcePair => simp [Snowflake.dump, descSnowflakeMidiSourcePair]

theorem all_snowflake (snowflake : Snowflake) (value indent : Nat) :
    Prog.All (Renders lo hi) (snowflake.dump value indent) m := by
  cases snowflake with
  | uac2ClkSrcBmattr =>
      have h3 : value &&& 0x3 ≤ 3 := Nat.and_le_right
      simp [Snowflake.dump, descSnowflakeDumpUac2ClkSrcBmattr, isWarning, uac2ClkSrcBmattr,
        uac3ClkSrcBmattr]
      omega
  | uac3ClkSrcBmattr =>
      have h1 : value &&& 0x1 ≤ 1 := Nat.and_le_right
      have h2 : 0x2 ||| ((value &&& 0x2) >>> 1) < 2 ^ 2 := by
        apply Nat.or_lt_two_pow (by decide)
        have : value &&& 0x2 ≤ 2 := Nat.and_le_right
        rw [Nat.shiftRight_eq_div_pow]
        omega
      simp [Snowflake.dump, descSnowflakeDumpUac3ClkSrcBmattr, isWarning, uac3ClkSrcBmattr]
      omega
  | uac1AsInterfaceWformattag =>
      have h : value &&& 0xfff = value % 4096 := Nat.and_two_pow_sub_one_eq_mod value 12
      simp [Snowflake.dump, descSnowflakeDumpUac1AsInterfaceWformattag, isWarning, h]
      omega
  | uac2AsInterfaceBmformats =>
      simp [Snowflake.dump, descSnowflakeDumpUac2AsInterfaceBmformats, isWarning]
      apply Prog.all_loop
      intro i hi
      simp [isWarning, audioDataFormatTypeI]
      omega
  | midiSourcePair => simp [Snowflake.dump, descSnowflakeMidiSourcePair, isWarning]

end Renderers

section Value

variable {env : Env} {nested : DescId → Nat → Nat → Dump Unit} {desc : DescId} {c : Desc}
  {m : Memory} {size buf bufLen indent offset : Nat}

theorem result_descBmcontrolDump {strings : StringTable} (value : Nat) (twoBits : Bool)
    (indent : Nat) (h : strings.contains none = true) :
    (descBmcontrolDump value strings twoBits indent).result m = .ok () :=
  (@descBmcontrolFrom_run m 0 0 strings value twoBits indent _ _ (by simpa using h) (by omega)).1

theorem all_descBmcontrolDump {lo hi : Nat} {strings : StringTable} (value : Nat) (twoBits : Bool)
    (indent : Nat) (h : strings.contains none = true) :
    Prog.All (Renders lo hi) (descBmcontrolDump value strings twoBits indent) m :=
  (descBmcontrolFrom_run value twoBits indent (by simpa using h) (by omega)).2

theorem result_numberStrings {strings : StringTable} (value : Nat)
    (h : strings.contains none = true) :
    (numberStringsFrom strings value (strings.length + 1) 0).result m = .ok () :=
  (@numberStringsFrom_run m 0 0 strings value _ _ (by simpa using h) (by omega)).1

theorem all_numberStrings {lo hi : Nat} {strings : StringTable} (value : Nat)
    (h : strings.contains none = true) :
    Prog.All (Renders lo hi) (numberStringsFrom strings value (strings.length + 1) 0) m :=
  (numberStringsFrom_run value (by simpa using h) (by omega)).2

theorem valueRenderer_extension (hc : c ∈ desc.fields) (hext : c.type.isExtension = true) :
    ∃ target ∈ c.type.targets, Prog.AsIf buf (buf + bufLen)
      (valueRenderer env nested c size buf bufLen desc.fields indent offset)
      (nested target (buf + offset) (bufLen - offset)) m := by
  have hground := (grounded desc c hc).typeField
  unfold valueRenderer
  cases htype : c.type with
  | extension typeField d =>
      rw [htype] at hground
      have htypeField : (anchor desc.fields typeField).isSome = true := hground
      have hvalue := getValueFromField_computes m buf bufLen htypeField
      cases hfind : d.find? fun ext =>
          ext.1 = fieldValue m buf bufLen desc.fields typeField % 2 ^ 32 with
      | none =>
          refine ⟨_, List.mem_cons_self .., Prog.AsIf.of_computes hvalue ?_⟩
          dsimp only
          rw [hfind]
          exact Prog.AsIf.refl _
      | some ext =>
          have hmem := List.mem_map_of_mem (f := Prod.snd) (List.mem_of_find?_eq_some hfind)
          refine ⟨_, List.mem_cons_of_mem _ hmem, Prog.AsIf.of_computes hvalue ?_⟩
          dsimp only
          rw [hfind]
          exact Prog.AsIf.refl _
  | _ =>
      rw [htype] at hext
      cases hext

theorem result_valueRenderer (hc : c ∈ desc.fields)
    (hnested : ∀ target ∈ c.type.targets, ∀ buf bufLen,
      (nested target buf bufLen).result m = .ok ()) :
    (valueRenderer env nested c size buf bufLen desc.fields indent offset).result m = .ok () := by
  have hbounded := bounded desc c hc
  unfold valueRenderer
  cases htype : c.type with
  | bcd => simp [Prog.result_loop]
  | bmcontrol1 strings =>
      rw [htype] at hbounded
      simp [result_descBmcontrolDump _ false _ hbounded]
  | bmcontrol2 strings =>
      rw [htype] at hbounded
      simp [result_descBmcontrolDump _ true _ hbounded]
  | strDescIndex =>
      simp only [Prog.result_bind, result_numberRenderer, Prog.result_byte]
      split <;> rfl
  | bitmapStrings strings count =>
      simp only [Prog.result_bind, result_getNBytesAsUll, result_hexRenderer, result_print]
      apply Prog.result_loop
      intro i
      rw [Prog.result_bind, result_lookup]
      cases strings[i]?.join <;> simp
  | numberStrings strings =>
      rw [htype] at hbounded
      simp [result_numberStrings _ hbounded]
  | extension typeField d =>
      have hext : c.type.isExtension = true := by rw [htype]; rfl
      obtain ⟨target, htarget, hrun⟩ := @valueRenderer_extension env nested desc c m size buf
        bufLen indent offset hc hext
      have hresult := hrun.result
      unfold valueRenderer at hresult
      rw [htype] at hresult
      rw [hresult]
      exact hnested target htarget _ _
  | _ => simp

theorem all_valueRenderer (hc : c ∈ desc.fields) (hext : c.type.isExtension = false)
    (hsize : size = entrySize m buf bufLen desc.fields c) (hfit : offset + size ≤ bufLen) :
    Prog.All (Renders buf (buf + bufLen))
      (valueRenderer env nested c size buf bufLen desc.fields indent offset) m := by
  have hbounded := bounded desc c hc
  have hpos : c.type.readsByte = true → 0 < size := by
    intro hreads
    have hnone := sizeField_of_readsByte desc c hc hreads
    rw [hsize, entrySize, hnone]
    exact ((grounded desc c hc).size hnone).1
  have hread := @all_getNBytesAsUll m buf (buf + bufLen) buf offset size (by omega) (by omega)
  have hnumber := @all_numberRenderer m buf (buf + bufLen) buf offset size 4 (by omega) (by omega)
  have hhex := @all_hexRenderer m buf (buf + bufLen) buf offset size 4 (by omega) (by omega)
  unfold valueRenderer
  cases htype : c.type with
  | constant => simp [hnumber, isWarning]
  | number => simp [hnumber, isWarning]
  | numberPostfix text => simp [hnumber, isWarning]
  | bitmap => simp [hhex, isWarning]
  | bcd =>
      rw [htype] at hpos
      have := hpos rfl
      simp [isWarning]
      refine ⟨by omega, Prog.all_loop _ fun i hi => ?_⟩
      simp [isWarning]
      omega
  | bmcontrol1 strings =>
      rw [htype] at hbounded
      simp [hhex, hread, isWarning, all_descBmcontrolDump _ false _ hbounded]
  | bmcontrol2 strings =>
      rw [htype] at hbounded
      simp [hhex, hread, isWarning, all_descBmcontrolDump _ true _ hbounded]
  | strDescIndex =>
      rw [htype] at hpos
      have := hpos rfl
      simp [hnumber]
      refine ⟨by omega, ?_⟩
      split <;> simp [isWarning]
  | csStrDescId => simp [hnumber, isWarning]
  | terminalStr => simp [hnumber, hread, isWarning]
  | bitmapStrings strings count =>
      rw [htype] at hbounded
      have hcount : count ≤ strings.length := by simpa [DescType.bounded] using hbounded
      simp [hhex, hread, isWarning]
      apply Prog.all_loop
      intro i hi
      simp
      refine ⟨by omega, ?_⟩
      split <;> simp [isWarning]
  | numberStrings strings =>
      rw [htype] at hbounded
      simp [hnumber, hread, isWarning, all_numberStrings _ hbounded, result_numberStrings _ hbounded]
  | extension typeField d =>
      rw [htype] at hext
      cases hext
  | snowflake snowflake => simp [hnumber, hread, all_snowflake]

end Value

end Usbutils
