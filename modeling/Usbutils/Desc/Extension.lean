import Usbutils.Desc.Inferred

/-! The field with the process-specific bytes of a processing unit, which stands behind all
other fields: its own size of one byte is checked before it takes all that is left. -/
namespace Usbutils
open ByteProg

theorem extension_last (id : DescId) : ∀ ext ∈ id.fields, ext.type.isExtension = true →
    id.fields = id.fields.dropLast ++ [ext] ∧
      id.fields.filter (fun c => c.field ≠ ext.field) = id.fields.dropLast ∧
      (∀ c ∈ id.fields.dropLast, c.type.isExtension = false) ∧ ext.size = 1 ∧
      ext.sizeField = none := by
  cases id <;> decide

section Extension

variable {m : Memory} {id : DescId} {buf len : Nat} {ext : Desc}

theorem slotsOf_extension (hext : ext ∈ id.fields) (hextension : ext.type.isExtension = true) :
    slotsOf m buf len id.fields ext = [{ current := ext, entries := 1, size := 1, entry := 0 }] := by
  obtain ⟨-, -, -, hsize, hfield⟩ := extension_last id ext hext hextension
  have hcount : entryCount m buf len id.fields ext = 1 := by
    simp [entryCount, (grounded id ext hext).extension hextension]
  have hentry : entrySize m buf len id.fields ext = 1 := by
    simp [entrySize, hfield, hsize]
  rw [slotsOf, hcount, hentry]
  rfl

theorem fits_extension (hext : ext ∈ id.fields) (hextension : ext.type.isExtension = true) :
    (packing len).fits (slots m buf len id.fields) 0 = true ↔
      otherBytes m id buf len ext < len := by
  obtain ⟨hlast, hfilter, hflat, -⟩ := extension_last id ext hext hextension
  have hfront : slots m buf len id.fields =
      id.fields.dropLast.flatMap (slotsOf m buf len id.fields) ++
        [{ current := ext, entries := 1, size := 1, entry := 0 }] := by
    have hslots := congrArg (List.flatMap (slotsOf m buf len id.fields)) hlast
    rwa [List.flatMap_append, List.flatMap_singleton, slotsOf_extension hext hextension] at hslots
  have hrest : ∀ slot ∈ id.fields.dropLast.flatMap (slotsOf m buf len id.fields),
      (packing len).takesRest slot = false := by
    intro slot hslot
    obtain ⟨c, hc, hslot⟩ := List.mem_flatMap.mp hslot
    obtain ⟨entry, -, rfl⟩ := List.mem_map.mp hslot
    exact hflat c hc
  have hfits := Packing.Rule.fits_of_no_rest hrest (Nat.zero_le (packing len).limit)
  rw [sum_slots, packing_limit, Nat.zero_add] at hfits
  have hone (offset : Nat) : (packing len).fits
      [{ current := ext, entries := 1, size := 1, entry := 0 }] offset = true ↔ offset < len := by
    have hneed : (packing len).need { current := ext, entries := 1, size := 1, entry := 0 } = 1 :=
      rfl
    rw [Packing.Rule.fits, hneed, packing_limit]
    by_cases hfull : offset + 1 > len
    · rw [if_pos hfull]
      simp
      omega
    · rw [if_neg hfull]
      simp [Packing.Rule.fits]
      omega
  rw [otherBytes_eq, hfilter, hfront, Packing.Rule.fits_append, Bool.and_eq_true, hfits, hone]
  constructor
  · rintro ⟨hle, hroom⟩
    rwa [Packing.Rule.stop_of_no_rest hrest (hfits.mpr hle), sum_slots, Nat.zero_add] at hroom
  · intro hroom
    have hle := Nat.le_of_lt hroom
    refine ⟨hle, ?_⟩
    rwa [Packing.Rule.stop_of_no_rest hrest (hfits.mpr hle), sum_slots, Nat.zero_add]

/-- Where the extension does not fit, the dump ends with the warning. -/
theorem lengthWarning_of_not_fits {env : Env} {bufLen indent : Nat}
    (h : ¬(packing (effectiveLength m id buf bufLen)).fits
      (slots m buf (effectiveLength m id buf bufLen) id.fields) 0 = true) :
    ∃ e ∈ (descDump env id buf bufLen indent).acts m, e.lengthWarning = true := by
  refine ⟨.print "%*sWarning: Length insufficient for descriptor type.\n"
    [.num ((indent - 1) * 2), .str ""], ?_, rfl⟩
  rw [descDump, acts_descDumpAtDepth (result_nested id)]
  apply List.mem_cons_of_mem
  apply List.mem_append_right
  rw [dumpEnding, if_neg h]
  simp [insufficient, Prog.acts_bind]

end Extension

theorem extension_processingUnits (id : DescId) :
    (∃ ext ∈ id.fields, ext.type.isExtension = true) ↔ some id ∈ descAudioAcProcessingUnit := by
  cases id <;> decide

/-- Where the fields before the process-specific ones fill the buffer of a processing unit, the
dump always warns of an insufficient length, whatever the process type is. -/
theorem descDump_emptyExtension (env : Env) (id : DescId) (m : Memory) (buf bufLen indent : Nat)
    (ext : Desc) (hext : ext ∈ id.fields) (hextension : ext.type.isExtension = true)
    (hfill : otherBytes m id buf (effectiveLength m id buf bufLen) ext =
      effectiveLength m id buf bufLen) :
    ¬∀ e ∈ (descDump env id buf bufLen indent).acts m, e.lengthWarning = false := by
  intro hquiet
  obtain ⟨e, he, hwarning⟩ := @lengthWarning_of_not_fits m id buf env bufLen indent (by
    rw [fits_extension hext hextension, hfill]
    exact Nat.lt_irrefl _)
  rw [hquiet e he] at hwarning
  cases hwarning

theorem descDump_emptyExtension_undefined :
    ¬∀ e ∈ (descDump default .audio1AcProcessingUnit 0 10 3).acts fun _ => 0,
      e.lengthWarning = false :=
  descDump_emptyExtension default .audio1AcProcessingUnit (fun _ => 0) 0 10 3
    ((DescId.fields .audio1AcProcessingUnit).get ⟨10, by decide⟩) (by decide) (by decide)
    (by decide)

theorem descDump_undefinedProcess :
    (∀ ext ∈ descAudio1AcProcUnitSpecific, ext.1 ≠ 0) ∧
    (∃ ext ∈ descAudio1AcProcessingUnit, ext.type.isExtension = true ∧
      otherBytes (fun _ => 0) .audio1AcProcessingUnit 0 10 ext = 10) ∧
    ¬∀ e ∈ (descDump default .audio1AcProcessingUnit 0 10 3).acts fun _ => 0,
      e.lengthWarning = false := by
  refine ⟨by decide, by decide, ?_⟩
  intro hquiet
  obtain ⟨e, he, hwarning⟩ := @lengthWarning_of_not_fits (fun _ => 0) .audio1AcProcessingUnit 0
    default 10 3 (by decide)
  rw [hquiet e he] at hwarning
  cases hwarning

end Usbutils
