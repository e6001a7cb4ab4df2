import Usbutils.Desc.Complete
import Usbutils.Lsusb.Audio

/-! Which definition an AudioControl descriptor is dumped by. The subtype says which unit
it is, differently in each version of the Audio Device Class; the unit has a definition for
each version that supports it. -/
namespace Usbutils
open ByteProg

inductive AudioVersion where
  | uac1
  | uac2
  | uac3
  deriving DecidableEq, Repr

namespace AudioVersion

def protocol : AudioVersion → Nat
  | uac1 => usbAudioClass1
  | uac2 => usbAudioClass2
  | uac3 => usbAudioClass3

def column : AudioVersion → Nat
  | uac1 => 0
  | uac2 => 1
  | uac3 => 2

end AudioVersion

open UacInterfaceSubtype in
/-- The table in the comment before `get_uac_interface_subtype`. -/
def remapping : List (List (Option UacInterfaceSubtype)) := [
  [some acDescriptorUndefined, some acDescriptorUndefined, some acDescriptorUndefined],
  [some header, some header, some header],
  [some inputTerminal, some inputTerminal, some inputTerminal],
  [some outputTerminal, some outputTerminal, some outputTerminal],
  [some mixerUnit, some mixerUnit, some extendedTerminal],
  [some selectorUnit, some selectorUnit, some mixerUnit],
  [some featureUnit, some featureUnit, some selectorUnit],
  [some processingUnit, some effectUnit, some featureUnit],
  [some extensionUnit, some processingUnit, some effectUnit],
  [none, some extensionUnit, some processingUnit],
  [none, some clockSource, some extensionUnit],
  [none, some clockSelector, some clockSource],
  [none, some clockMultiplier, some clockSelector],
  [none, some sampleRateConverter, some clockMultiplier],
  [none, none, some sampleRateConverter],
  [none, none, some connectors],
  [none, none, some powerDomain]]

def assignedUnit (version : AudioVersion) (bDescriptorSubtype : Nat) : Option UacInterfaceSubtype :=
  (remapping[bDescriptorSubtype]?.bind (·[version.column]?)).join

def unitDefinitions : UacInterfaceSubtype → List (Option DescId)
  | .header => descAudioAcHeader
  | .inputTerminal => descAudioAcInputTerminal
  | .outputTerminal => descAudioAcOutputTerminal
  | .extendedTerminal => descAudioAcExtendedTerminal
  | .mixerUnit => descAudioAcMixerUnit
  | .selectorUnit => descAudioAcSelectorUnit
  | .featureUnit => descAudioAcFeatureUnit
  | .effectUnit => descAudioAcEffectUnit
  | .processingUnit => descAudioAcProcessingUnit
  | .extensionUnit => descAudioAcExtensionUnit
  | .clockSource => descAudioAcClockSource
  | .clockSelector => descAudioAcClockSelector
  | .clockMultiplier => descAudioAcClockMultiplier
  | .sampleRateConverter => descAudioAcSampleRateConverter
  | .powerDomain => descAudioAcPowerDomain
  | .acDescriptorUndefined | .connectors | .unnamed _ => []

def unitDefinition (version : AudioVersion) (unit : UacInterfaceSubtype) : Option DescId :=
  (unitDefinitions unit)[version.column]?.join

def Desc.IsFixed (c : Desc) : Prop :=
  c.array.array = false ∧ c.sizeField = none ∧ c.type.isExtension = false

def DescId.IsFixed (id : DescId) : Prop := ∀ c ∈ id.fields, c.IsFixed

instance (c : Desc) : Decidable c.IsFixed := inferInstanceAs (Decidable (_ ∧ _ ∧ _))

instance (id : DescId) : Decidable id.IsFixed := inferInstanceAs (Decidable (∀ c ∈ _, _))

def payloadLength (id : DescId) : Nat := (id.fields.map Desc.size).sum

def fieldsAt (id : DescId) : List Desc → Nat → List Effect
  | [], _ => []
  | c :: rest, address => .field id c 0 address c.size :: fieldsAt id rest (address + c.size)

def Effect.isField : Effect → Bool
  | .field .. => true
  | _ => false

/-- All fields of the definition are rendered from their own bytes, nothing else is
rendered, and there is no warning about the length. -/
def RendersWhole (acts : List Effect) (id : DescId) (address : Nat) : Prop :=
  acts.filter Effect.isField = fieldsAt id id.fields address ∧ ∀ e ∈ acts, e.warns = false

instance (acts : List Effect) (id : DescId) (address : Nat) :
    Decidable (RendersWhole acts id address) := inferInstanceAs (Decidable (_ ∧ _))

section Fixed

variable {m : Memory} {id : DescId} {buf len : Nat}

def fixedSlot (c : Desc) : Slot := { current := c, entries := 1, size := c.size, entry := 0 }

@[simp] theorem size_fixedSlot (c : Desc) : (fixedSlot c).size = c.size := rfl

theorem slots_fixed (h : id.IsFixed) :
    slots m buf len id.fields = id.fields.map fixedSlot := by
  unfold slots
  rw [List.map_eq_flatMap]
  apply List.flatMap_congr
  intro c hc
  obtain ⟨harray, hsize, -⟩ := h c hc
  simp [slotsOf, slotsFrom, fixedSlot, entryCount, entrySize, harray, hsize]

theorem targets_fixed (h : id.IsFixed) : ∀ c ∈ id.fields, c.type.targets = [] := by
  intro c hc
  obtain ⟨-, -, hext⟩ := h c hc
  cases htype : c.type with
  | extension typeField d =>
      rw [htype] at hext
      cases hext
  | _ => rfl

theorem placed_fixed {fields : List Desc} {offset : Nat}
    (hext : ∀ c ∈ fields, c.type.isExtension = false)
    (hfit : offset + (fields.map Desc.size).sum ≤ len) :
    ((packing len).placed (fields.map fixedSlot) offset).map (fieldMark id buf) =
      fieldsAt id fields (buf + offset) := by
  induction fields generalizing offset with
  | nil => rfl
  | cons c rest ih =>
      obtain ⟨hc, hrest⟩ := List.forall_mem_cons.mp hext
      rw [List.map_cons, List.sum_cons] at hfit
      have hfits : ¬ (packing len).limit < offset + (packing len).need (fixedSlot c) := by
        rw [packing_need, packing_limit, size_fixedSlot]
        omega
      have hnext : (packing len).next (fixedSlot c) offset = offset + c.size := by
        simp [Packing.Rule.next, packing, fixedSlot, hc]
      rw [List.map_cons, Packing.Rule.placed, if_neg hfits, List.map_cons, hnext,
        ih hrest (by omega), fieldsAt, Nat.add_assoc]
      rfl

theorem not_isField_of_owner {e : Effect} (h : e.owner = none) : e.isField = false := by
  cases e with
  | field => cases h
  | _ => rfl

theorem filter_isField_of_owner {acts : List Effect} (h : ∀ e ∈ acts, e.owner = none) :
    acts.filter Effect.isField = [] := by
  apply List.filter_eq_nil_iff.mpr
  intro e he
  simp [not_isField_of_owner (h e he)]

variable {env : Env} {indent depth fieldLen : Nat}

theorem filter_isField_dumpSlot {nested : DescId → Nat → Nat → Dump Unit} {slot : Slot}
    {offset : Nat} (hslot : slot ∈ slots m buf len id.fields)
    (hext : slot.current.type.isExtension = false) (hfit : offset + slot.size ≤ len) :
    ((dumpSlot env nested id buf len indent fieldLen slot offset).acts m).filter Effect.isField =
      [fieldMark id buf (slot, offset)] := by
  obtain ⟨before, after, hacts, hbefore, hafter⟩ := @acts_dumpSlot env nested id m buf len indent
    fieldLen offset slot hslot hext hfit
  rw [hacts, List.filter_append, List.filter_cons,
    filter_isField_of_owner fun e he => (hbefore e he).2.2,
    filter_isField_of_owner fun e he => (hafter e he).2.2]
  rfl

theorem filter_isField_descDump (hfixed : id.IsFixed) (hlen : len < descBufLenFromBuf) :
    ((descDump env id buf len indent).acts m).filter Effect.isField =
      ((packing len).placed (slots m buf len id.fields) 0).map (fieldMark id buf) := by
  have hacts := @acts_descDumpAtDepth env indent 1 id m buf len
    (flat_nested (targets_fixed hfixed))
  rw [effectiveLength_of_lt hlen] at hacts
  rw [descDump, hacts, List.filter_cons, List.filter_append,
    filter_isField_of_owner owner_dumpEnding, List.filter_flatMap, List.append_nil,
    List.map_eq_flatMap]
  apply List.flatMap_congr
  intro place hplace
  obtain ⟨hslot, hfit⟩ := mem_placed_slots hplace
  exact filter_isField_dumpSlot hslot
    (not_extension_of_flat (targets_fixed hfixed) hslot) hfit

theorem descDump_fixed (hfixed : id.IsFixed) (hlen : payloadLength id < descBufLenFromBuf) :
    RendersWhole ((descDump env id buf (payloadLength id) indent).acts m) id buf := by
  have hext : ∀ c ∈ id.fields, c.type.isExtension = false := fun c hc => (hfixed c hc).2.2
  have hslots := @slots_fixed m id buf (payloadLength id) hfixed
  have hrest : ∀ slot ∈ id.fields.map fixedSlot,
      (packing (payloadLength id)).takesRest slot = false := by
    intro slot hslot
    obtain ⟨c, hc, rfl⟩ := List.mem_map.mp hslot
    exact hext c hc
  have hneed : ((id.fields.map fixedSlot).map (packing (payloadLength id)).need).sum =
      payloadLength id := by
    rw [List.map_map]
    rfl
  have hfits : (packing (payloadLength id)).fits (id.fields.map fixedSlot) 0 = true := by
    rw [Packing.Rule.fits_of_no_rest hrest (Nat.zero_le _), hneed, packing_limit, Nat.zero_add]
  constructor
  · rw [filter_isField_descDump hfixed hlen, hslots]
    exact placed_fixed hext (by rw [Nat.zero_add]; exact Nat.le_refl _)
  · have hflat := targets_fixed hfixed
    intro e he
    have hcases := mem_descDumpAtDepth (flat_nested hflat) he
    rw [effectiveLength_of_lt hlen] at hcases
    rcases hcases with rfl | ⟨place, -, -, rfl⟩ | hplain | hending | ⟨place, hplace, hisext, -⟩
    · rfl
    · rfl
    · exact hplain.2.1
    · refine warns_dumpEnding.mpr ⟨by rw [hslots, hfits], ?_⟩ e hending
      rw [hslots, Packing.Rule.stop_of_no_rest hrest hfits, hneed, Nat.zero_add]
    · rw [not_extension_of_flat hflat (mem_placed_slots hplace).1] at hisext
      cases hisext

theorem isField_descDump (hfixed : id.IsFixed) (hlen : len < descBufLenFromBuf) {e : Effect}
    (he : e ∈ ((descDump env id buf len indent).acts m).filter Effect.isField) :
    e.owner = some id := by
  rw [filter_isField_descDump hfixed hlen] at he
  obtain ⟨place, -, rfl⟩ := List.mem_map.mp he
  rfl

end Fixed

section Around

variable {m : Memory} {buf : Nat}

def Effect.Quiet (e : Effect) : Prop := e.owner = none ∧ e.warns = false

theorem rendersWhole_after {before acts : List Effect} (hbefore : ∀ e ∈ before, e.Quiet)
    {id : DescId} {address : Nat} :
    RendersWhole (before ++ acts) id address ↔ RendersWhole acts id address := by
  have hnone := filter_isField_of_owner fun e he => (hbefore e he).1
  unfold RendersWhole
  rw [List.filter_append, hnone, List.nil_append, List.forall_mem_append]
  constructor
  · exact fun ⟨hfields, _, hwarns⟩ => ⟨hfields, hwarns⟩
  · exact fun ⟨hfields, hwarns⟩ => ⟨hfields, fun e he => (hbefore e he).2, hwarns⟩

theorem quiet_checkType (type : Nat) : ∀ e ∈ (checkType buf type).acts m, e.Quiet := by
  intro e he
  rw [checkType, Prog.acts_bind_ok (Prog.result_byte _ _)] at he
  unfold Prog.when at he
  split at he
  · obtain rfl := List.mem_singleton.mp he
    exact ⟨rfl, rfl⟩
  · cases he

theorem quiet_interfaceHeading {title : String} (htitle : isWarning title = false) :
    ∀ e ∈ (interfaceHeading title buf).acts m, e.Quiet := by
  simpa [interfaceHeading, Prog.acts_bind, Effect.Quiet, Effect.owner, Effect.warns,
    isWarning] using htitle

theorem owner_dumpPayload (bLength : Nat) :
    ∀ e ∈ (dumpPayload buf bLength).acts m, e.owner = none := by
  have hbyte (i : Nat) : ∀ e ∈ (do print " %02x" [← u8 (buf + 3 + i)] : Dump Unit).acts m,
      e.owner = none := by
    simp [Prog.acts_bind, Effect.owner]
  unfold dumpPayload dumpBytes
  split
  · have hloop : (Prog.loop (bLength - 3) fun i => do
        print " %02x" [← u8 (buf + 3 + i)] : Dump Unit).result m = .ok () :=
      Prog.result_loop _ (by simp)
    rw [Prog.acts_bind_ok hloop, Prog.acts_loop _ (by simp)]
    intro e he
    rcases List.mem_append.mp he with he | he
    · obtain ⟨i, -, he⟩ := List.mem_flatMap.mp he
      exact hbyte i e he
    · obtain rfl := List.mem_singleton.mp he
      rfl
  · simp [Effect.owner]

end Around

section Dispatch

variable {version : AudioVersion} {unit : UacInterfaceSubtype} {id : DescId}

theorem lt_of_assignedUnit {bDescriptorSubtype : Nat}
    (h : assignedUnit version bDescriptorSubtype = some unit) : bDescriptorSubtype < 17 := by
  by_contra hge
  have hnone : remapping[bDescriptorSubtype]? = none :=
    List.getElem?_eq_none (Nat.not_lt.mp hge)
  rw [assignedUnit, hnone] at h
  cases h

/-- `get_uac_interface_subtype` follows the table. -/
theorem getUacInterfaceSubtype_of_assigned {bDescriptorSubtype : Nat}
    (h : assignedUnit version bDescriptorSubtype = some unit) :
    getUacInterfaceSubtype bDescriptorSubtype version.protocol = unit := by
  have hall : ∀ version ∈ [AudioVersion.uac1, .uac2, .uac3], ∀ subtype < 17,
      ∀ unit ∈ assignedUnit version subtype,
        getUacInterfaceSubtype subtype version.protocol = unit := by
    decide
  exact hall version (by cases version <;> decide) _ (lt_of_assignedUnit h) unit h

theorem audiocontrolUnit_definitions (hdef : unitDefinitions unit ≠ [])
    (hext : unit ≠ .extendedTerminal) :
    ∃ name, audiocontrolUnit unit = some (name,
      if unit = .sampleRateConverter then descAudioAcClockMultiplier else unitDefinitions unit) := by
  cases unit <;> first
    | exact ⟨_, rfl⟩
    | exact absurd rfl hext
    | exact absurd rfl hdef

theorem definitions_ne_nil (h : unitDefinition version unit = some id) :
    unitDefinitions unit ≠ [] := by
  intro hnil
  rw [unitDefinition, hnil] at h
  cases h

variable {env : Env} {m : Memory} {buf : Nat}

theorem rendersWhole_dumpAudioSubtype (name : String) {desc : List (Option DescId)}
    (indent : Nat) {address : Nat} {id' : DescId} (hdesc : desc[version.column]?.join = some id')
    (hlen : 3 ≤ (m buf).toNat) :
    RendersWhole ((dumpAudioSubtype env name desc buf version.protocol indent).acts m) id address ↔
      RendersWhole ((descDump env id' (buf + 3) ((m buf).toNat - 3) indent).acts m) id address := by
  have hbyte := (m buf).toNat_lt
  have hcolumn : (if version.protocol = usbAudioClass2 then 1
      else if version.protocol = usbAudioClass3 then 2 else 0) = version.column := by
    cases version <;> rfl
  have hmod : ((m buf).toNat + 2 ^ 32 - 3) % 2 ^ 32 = (m buf).toNat - 3 := by omega
  rw [dumpAudioSubtype]
  simp only [hcolumn, hdesc]
  rw [Prog.acts_bind_ok (result_print _ _), dumpBehindSubtype,
    Prog.acts_bind_ok (Prog.result_byte _ _), hmod]
  exact rendersWhole_after (by simp [Effect.Quiet, Effect.owner, Effect.warns, isWarning])

theorem rendersWhole_dumpAudiocontrolInterface (protocol : Nat) {address : Nat}
    (hlen : 3 ≤ (m buf).toNat) :
    RendersWhole ((dumpAudiocontrolInterface env buf protocol).acts m) id address ↔
      RendersWhole ((match audiocontrolUnit (getUacInterfaceSubtype (m (buf + 2)).toNat protocol) with
        | some (name, desc) => dumpAudioSubtype env name desc buf protocol 4
        | none => do
            print "(unknown)\n" []
            print "        Invalid desc subtype:" []
            dumpPayload buf (m buf).toNat : Dump Unit).acts m) id address := by
  rw [dumpAudiocontrolInterface, Prog.acts_bind_ok (result_checkType ..),
    Prog.acts_bind_ok (Prog.result_byte _ _), Prog.acts_byte, List.nil_append, guardLength,
    if_neg (by omega), Prog.acts_bind_ok (result_interfaceHeading ..),
    Prog.acts_bind_ok (Prog.result_byte _ _), Prog.acts_byte, List.nil_append,
    rendersWhole_after (quiet_checkType _)]
  exact rendersWhole_after (quiet_interfaceHeading (by decide))

theorem not_rendersWhole {acts : List Effect} {address : Nat} (hid : id.fields ≠ [])
    (hacts : ∀ e ∈ acts.filter Effect.isField, e.owner ≠ some id) :
    ¬ RendersWhole acts id address := by
  rintro ⟨hfields, -⟩
  rw [hfields] at hacts
  cases hlist : id.fields with
  | nil => exact hid hlist
  | cons c rest =>
      rw [hlist, fieldsAt] at hacts
      exact hacts _ List.mem_cons_self rfl

theorem fields_extendedTerminal (h : unitDefinition version .extendedTerminal = some id) :
    id.fields ≠ [] := by
  cases version with
  | uac1 => cases h
  | uac2 => cases h
  | uac3 =>
      obtain rfl : .audio3AcExtendedTerminalHeader = id := Option.some.inj h
      decide

theorem clockMultiplier_of_converter
    (h : unitDefinition version .sampleRateConverter = some id) :
    ∃ id', descAudioAcClockMultiplier[version.column]?.join = some id' ∧ id'.IsFixed ∧ id' ≠ id ∧
      id.fields ≠ [] := by
  cases version with
  | uac1 => cases h
  | uac2 =>
      obtain rfl : .audio2AcSampleRateConverter = id := Option.some.inj h
      exact ⟨_, rfl, by decide, by decide, by decide⟩
  | uac3 =>
      obtain rfl : .audio3AcSampleRateConverter = id := Option.some.inj h
      exact ⟨_, rfl, by decide, by decide, by decide⟩

/-- Each unit but two is dumped by its own definition: the sample rate converter by that
of the clock multiplier, and the extended terminal not at all. -/
theorem dumpAudiocontrolInterface_renders_iff (env : Env) (m : Memory) (buf : Nat)
    (version : AudioVersion) (unit : UacInterfaceSubtype) (id : DescId)
    (hunit : assignedUnit version (m (buf + 2)).toNat = some unit)
    (hdef : unitDefinition version unit = some id) (hfixed : id.IsFixed)
    (hlen : (m buf).toNat = 3 + payloadLength id) :
    RendersWhole ((dumpAudiocontrolInterface env buf version.protocol).acts m) id (buf + 3) ↔
      unit ≠ .sampleRateConverter ∧ unit ≠ .extendedTerminal := by
  have hbyte := (m buf).toNat_lt
  have hpayload : payloadLength id < descBufLenFromBuf := by
    unfold descBufLenFromBuf
    omega
  rw [rendersWhole_dumpAudiocontrolInterface _ (by omega),
    getUacInterfaceSubtype_of_assigned hunit]
  by_cases hext : unit = .extendedTerminal
  · refine iff_of_false ?_ (fun h => h.2 hext)
    subst hext
    apply not_rendersWhole (fields_extendedTerminal hdef)
    have hlines : ∀ e ∈ (do
        print "(unknown)\n" []
        print "        Invalid desc subtype:" []
        dumpPayload buf (m buf).toNat : Dump Unit).acts m, e.owner = none := by
      simpa [Prog.acts_bind, Effect.owner] using owner_dumpPayload _
    intro e he
    rw [hlines e (List.mem_filter.mp he).1]
    exact Option.some_ne_none _ ∘ Eq.symm
  · obtain ⟨name, hname⟩ := audiocontrolUnit_definitions (definitions_ne_nil hdef) hext
    rw [hname]
    by_cases hsrc : unit = .sampleRateConverter
    · refine iff_of_false ?_ (fun h => h.1 hsrc)
      obtain ⟨id', hmultiplier, hfixed', hne, hid⟩ := clockMultiplier_of_converter (hsrc ▸ hdef)
      simp only [if_pos hsrc]
      rw [rendersWhole_dumpAudioSubtype name 4 hmultiplier (by omega), hlen,
        Nat.add_sub_cancel_left]
      apply not_rendersWhole hid
      intro e he
      rw [isField_descDump hfixed' hpayload he]
      exact fun h => hne (Option.some.inj h)
    · simp only [if_neg hsrc]
      rw [rendersWhole_dumpAudioSubtype name 4 hdef (by omega), hlen, Nat.add_sub_cancel_left]
      exact iff_of_true (descDump_fixed hfixed hpayload) ⟨hsrc, hext⟩

def clockSourceDescriptor : Memory := fun a => [8, 0x24, 0x0a, 1, 3, 7, 2, 0].getD a 0

theorem dumpAudiocontrolInterface_clockSource :
    RendersWhole ((dumpAudiocontrolInterface default 0 AudioVersion.uac2.protocol).acts
      clockSourceDescriptor) .audio2AcClockSource 3 :=
  (dumpAudiocontrolInterface_renders_iff default clockSourceDescriptor 0 .uac2 .clockSource
    .audio2AcClockSource (by decide) rfl (by decide) (by decide)).mpr (by decide)

def converterDescriptor : Memory := fun a => [8, 0x24, 0x0d, 1, 2, 3, 4, 5].getD a 0

/-- The definition of the clock multiplier has four bytes: the fifth one is called junk. -/
theorem dumpAudiocontrolInterface_converter :
    assignedUnit .uac2 (converterDescriptor 2).toNat = some .sampleRateConverter ∧
      unitDefinition .uac2 .sampleRateConverter = some .audio2AcSampleRateConverter ∧
      DescId.audio2AcSampleRateConverter.IsFixed ∧
      (converterDescriptor 0).toNat = 3 + payloadLength .audio2AcSampleRateConverter ∧
      ¬ RendersWhole ((dumpAudiocontrolInterface default 0 AudioVersion.uac2.protocol).acts
        converterDescriptor) .audio2AcSampleRateConverter 3 := by
  decide +kernel

end Dispatch

end Usbutils
