import Mathlib.Data.List.TakeWhile
import Usbutils.Desc.Complete

/-! Where `get_value_from_field` looks for a field and where `desc_dump` renders
it. The search counts an array as one entry, the rendering as many as it has. -/
namespace Usbutils
open ByteProg

def referenced (id : DescId) : List String := id.fields.flatMap Desc.refs

def before (desc : List Desc) (field : String) : List Desc :=
  desc.takeWhile fun c => c.field ≠ field

/-- The look-up of a field agrees with every rendering of it, in offset and value. -/
def LookupAgrees (m : Memory) (id : DescId) (buf len : Nat) (effects : List Effect)
    (field : String) : Prop :=
  ∀ c entry address size, .field id c entry address size ∈ effects → c.field = field →
    (fieldOffset buf len id.fields field).result m = .ok (some (c, address - buf)) ∧
      (getValueFromField buf len id.fields field).result m = .ok (leValue m address size)

/-- An array of counted entries in front of a field that the definition refers to. -/
structure Gap where
  /-- Offset of the byte that counts the entries; the array comes right behind it. -/
  count : Nat
  /-- Bytes of one entry. -/
  stride : Nat
  /-- Bytes from the end of the array through the field. -/
  tail : Nat
  deriving DecidableEq

def DescId.gap : DescId → Option Gap
  | .audio1AcMixerUnit | .audio2AcMixerUnit => some { count := 1, stride := 1, tail := 1 }
  | .audio1AcProcessingUnit | .audio1AcExtensionUnit => some { count := 3, stride := 1, tail := 5 }
  | .midiMsElement => some { count := 1, stride := 2, tail := 4 }
  | _ => none

def Gap.matches (gap : Gap) (desc : List Desc) (field : String) : Bool :=
  let front := (before desc field).takeWhile fun c => !c.array.array
  match (before desc field).dropWhile (fun c => !c.array.array), anchor desc field with
  | array :: between, some (c, _) =>
      between.all (fun c => !c.array.array) &&
      (front.map Desc.size).sum == gap.count + 1 && array.size == gap.stride &&
      (between.map Desc.size).sum + c.size == gap.tail &&
      array.array.lengthField1.any (fun field => (anchor desc field).any fun place =>
        place.1.size == 1 && place.2 == gap.count) &&
      array.array.lengthField2 == none && !array.array.bits
  | _, _ => false

theorem referenced_fixed (id : DescId) : ∀ field ∈ referenced id,
    ∃ place ∈ anchor id.fields field, place.1.sizeField = none ∧ place.1.array.array = false ∧
      place.1.type.isExtension = false ∧ (before id.fields field).all (fun c =>
        c.sizeField == none && !c.type.isExtension) = true := by
  cases id <;> decide

theorem names_nodup (id : DescId) : (id.fields.map Desc.field).Nodup := by
  cases id <;> decide

theorem referenced_gap (id : DescId) : ∀ field ∈ referenced id,
    (before id.fields field).all (fun c => !c.array.array) = true ∨
      id.gap.any (fun gap => gap.matches id.fields field) = true := by
  cases id <;> decide

theorem gap_referenced (id : DescId) : ∀ gap ∈ id.gap,
    ∃ field ∈ referenced id, gap.matches id.fields field = true := by
  cases id <;> decide

theorem anchorFrom_spec {field : String} {c : Desc} {offset : Nat} {desc : List Desc} {first : Nat}
    (h : anchorFrom field desc first = some (c, offset)) :
    c.field = field ∧ offset = first + ((before desc field).map Desc.size).sum ∧
      ∃ after, desc = before desc field ++ c :: after := by
  induction desc generalizing first with
  | nil => cases h
  | cons current rest ih =>
      rw [anchorFrom] at h
      split at h
      · next hname =>
          cases h
          refine ⟨hname, ?_, rest, ?_⟩ <;> simp [before, hname]
      · next hname =>
          split at h
          · obtain ⟨hfield, hoffset, after, hsplit⟩ := ih h
            have hbefore : before (current :: rest) field = current :: before rest field := by
              simp [before, hname]
            refine ⟨hfield, ?_, after, ?_⟩
            · rw [hbefore, hoffset, List.map_cons, List.sum_cons]
              omega
            · rw [hbefore, List.cons_append, ← hsplit]
          · cases h

def renderedSize (m : Memory) (buf len : Nat) (desc front : List Desc) : Nat :=
  (front.map fun c => entryCount m buf len desc c * entrySize m buf len desc c).sum

section Marks

variable {env : Env} {id : DescId} {m : Memory} {buf bufLen indent len : Nat} {desc : List Desc}

theorem sum_slots (front : List Desc) :
    ((front.flatMap (slotsOf m buf len desc)).map (packing len).need).sum =
      renderedSize m buf len desc front := by
  induction front with
  | nil => rfl
  | cons c front ih =>
      rw [List.flatMap_cons, List.map_append, List.sum_append, ih, renderedSize, renderedSize,
        List.map_cons, List.sum_cons]
      simp [slotsOf, slotsFrom, packing, Function.comp_def]

theorem field_mem_of_mem_slotsOf {front : List Desc} {slot : Slot}
    (h : slot ∈ front.flatMap (slotsOf m buf len desc)) : slot.current ∈ front := by
  obtain ⟨c, hc, hslot⟩ := List.mem_flatMap.mp h
  obtain ⟨entry, -, rfl⟩ := List.mem_map.mp hslot
  exact hc

theorem mem_fieldMark {c : Desc} {entry address size : Nat}
    (hlen : effectiveLength m id buf bufLen = len) :
    .field id c entry address size ∈ (descDump env id buf bufLen indent).acts m ↔
      ∃ place ∈ (packing len).placed (slots m buf len id.fields) 0,
        .field id c entry address size = fieldMark id buf place := by
  subst hlen
  constructor
  · intro h
    rcases mem_descDumpAtDepth (result_nested id) h with
      heq | ⟨place, hplace, -, heq⟩ | hplain | hending | ⟨place, hplace, hext, hslot⟩
    · cases heq
    · exact ⟨place, hplace, heq⟩
    · cases hplain.2.2
    · cases owner_dumpEnding _ hending
    · obtain ⟨target, htarget, left, right, hslotActs, -⟩ :=
        @split_extension env indent id m buf bufLen _ rfl place hplace hext
      rw [hslotActs] at hslot
      rcases List.mem_cons.mp hslot with heq | hnested
      · exact ⟨place, hplace, heq⟩
      · have hcurrent := (mem_slots (mem_placed_slots hplace).1).1
        exact absurd rfl (nested_foreign _ hcurrent target htarget _ _ _ hnested)
  · rintro ⟨place, hplace, heq⟩
    rw [heq, descDump, acts_descDumpAtDepth (result_nested id)]
    refine List.mem_cons_of_mem _ (List.mem_append_left _ (List.mem_flatMap.mpr ⟨place, hplace, ?_⟩))
    simp [dumpSlot, dumpEntry, Prog.acts_bind, fieldMark]

theorem mem_referenced {field : String} {c c' : Desc} {offset entry address size : Nat}
    (hfield : field ∈ referenced id) (hanchor : anchor id.fields field = some (c, offset))
    (hlen : effectiveLength m id buf bufLen = len) :
    .field id c' entry address size ∈ (descDump env id buf bufLen indent).acts m ∧
        c'.field = field ↔
      c' = c ∧ entry = 0 ∧ size = c.size ∧
        address = buf + renderedSize m buf len id.fields (before id.fields field) ∧
        renderedSize m buf len id.fields (before id.fields field) + c.size ≤ len := by
  obtain ⟨place, hplace, hfixed, harray, hext, hfront⟩ := referenced_fixed id field hfield
  rw [hanchor] at hplace
  cases hplace
  dsimp only at hfixed harray hext
  obtain ⟨hname, -, after, hsplit⟩ := anchorFrom_spec hanchor
  have hslot : slotsOf m buf len id.fields c =
      [{ current := c, entries := 1, size := c.size, entry := 0 }] := by
    simp [slotsOf, slotsFrom, entryCount, entrySize, harray, hfixed]
  have hslots : slots m buf len id.fields =
      (before id.fields field).flatMap (slotsOf m buf len id.fields) ++
        { current := c, entries := 1, size := c.size, entry := 0 } ::
          after.flatMap (slotsOf m buf len id.fields) := by
    have h : slots m buf len id.fields =
        (before id.fields field ++ c :: after).flatMap (slotsOf m buf len id.fields) := by
      rw [← hsplit]
      rfl
    rw [h, List.flatMap_append, List.flatMap_cons, hslot, List.singleton_append]
  have hbefore : ∀ slot ∈ (before id.fields field).flatMap (slotsOf m buf len id.fields),
      slot.current.field ≠ field := by
    intro slot hslot
    simpa using List.mem_takeWhile_imp (field_mem_of_mem_slotsOf hslot)
  have hafter : ∀ slot ∈ after.flatMap (slotsOf m buf len id.fields),
      slot.current.field ≠ field := by
    intro slot hslot heq
    have hnodup := names_nodup id
    rw [hsplit, List.map_append, List.map_cons] at hnodup
    have hcons := (List.nodup_append.mp hnodup).2.1
    refine (List.nodup_cons.mp hcons).1 ?_
    rw [hname, ← heq]
    exact List.mem_map_of_mem (field_mem_of_mem_slotsOf hslot)
  have hrest : ∀ slot ∈ (before id.fields field).flatMap (slotsOf m buf len id.fields),
      (packing len).takesRest slot = false := by
    intro slot hslot
    have h := List.all_eq_true.mp hfront _ (field_mem_of_mem_slotsOf hslot)
    simp only [Bool.and_eq_true, Bool.not_eq_eq_eq_not, Bool.not_true] at h
    exact h.2
  have hfits := Packing.Rule.fits_of_no_rest hrest (Nat.zero_le _)
  rw [sum_slots, packing_limit, Nat.zero_add] at hfits
  rw [mem_fieldMark hlen, hslots]
  constructor
  · rintro ⟨⟨⟨slot, offset⟩, hplaced, heq⟩, hc'⟩
    cases heq
    rw [Packing.Rule.mem_placed_between (fun h => hbefore slot h hc')
      (fun h => hafter slot h hc')] at hplaced
    obtain ⟨rfl, hfit, rfl, hneed⟩ := hplaced
    rw [Packing.Rule.stop_of_no_rest hrest hfit, sum_slots, Nat.zero_add] at hneed ⊢
    exact ⟨rfl, rfl, rfl, rfl, hneed⟩
  · rintro ⟨rfl, rfl, rfl, rfl, hneed⟩
    have hfit := hfits.mpr (by omega)
    refine ⟨⟨_, (Packing.Rule.mem_placed_between (fun h => hbefore _ h hname)
      (fun h => hafter _ h hname)).mpr ⟨rfl, hfit, rfl, ?_⟩, ?_⟩, hname⟩
    · rw [Packing.Rule.stop_of_no_rest hrest hfit, sum_slots, Nat.zero_add]
      exact hneed
    · rw [fieldMark, Packing.Rule.stop_of_no_rest hrest hfit, sum_slots, Nat.zero_add]

/-- The look-up agrees with the rendering unless an array moves the field. -/
theorem lookupAgrees_iff {field : String} {c : Desc} {offset : Nat}
    (hfield : field ∈ referenced id) (hanchor : anchor id.fields field = some (c, offset))
    (hlen : effectiveLength m id buf bufLen = len) :
    LookupAgrees m id buf len ((descDump env id buf bufLen indent).acts m) field ↔
      (renderedSize m buf len id.fields (before id.fields field) + c.size ≤ len →
        renderedSize m buf len id.fields (before id.fields field) = offset) := by
  have hsearch : (fieldOffset buf len id.fields field).result m = .ok (some (c, offset)) :=
    (@fieldSearch_computes 0 0 _ m _ _ _ _ hanchor).result
  have hvalue := (getValueFromField_computes m buf len (Option.isSome_of_eq_some hanchor)).result
  constructor
  · intro hagrees hneed
    have hrendered : .field id c 0
          (buf + renderedSize m buf len id.fields (before id.fields field)) c.size ∈
          (descDump env id buf bufLen indent).acts m ∧ c.field = field :=
      (mem_referenced hfield hanchor hlen).mpr ⟨rfl, rfl, rfl, rfl, hneed⟩
    obtain ⟨hmem, hname⟩ := hrendered
    have hoffset := (hagrees c 0 _ _ hmem hname).1
    rw [hsearch] at hoffset
    simp only [Except.ok.injEq, Option.some.injEq, Prod.mk.injEq, true_and] at hoffset
    omega
  · intro h c' entry address size hmem hname
    obtain ⟨place, hplace, hfixed, -⟩ := referenced_fixed id field hfield
    rw [hanchor] at hplace
    cases hplace
    obtain ⟨-, -, after, hsplit⟩ := anchorFrom_spec hanchor
    have hmem' : c ∈ id.fields := by
      rw [hsplit]
      simp
    obtain ⟨rfl, rfl, rfl, rfl, hneed⟩ := (mem_referenced hfield hanchor hlen).mp ⟨hmem, hname⟩
    have hoffset := h hneed
    rw [hoffset] at hneed ⊢
    have hsize := ((grounded id c' hmem').size hfixed).2
    refine ⟨?_, ?_⟩
    · rw [hsearch, Nat.add_sub_cancel_left]
    · rw [hvalue, fieldValue, hanchor]
      dsimp only
      rw [if_pos hneed, Nat.min_eq_left hsize]

theorem renderedSize_append (left right : List Desc) :
    renderedSize m buf len desc (left ++ right) =
      renderedSize m buf len desc left + renderedSize m buf len desc right := by
  simp [renderedSize]

theorem renderedSize_of_no_array {front : List Desc}
    (h : ∀ c ∈ front, c.sizeField = none ∧ c.array.array = false) :
    renderedSize m buf len desc front = (front.map Desc.size).sum := by
  unfold renderedSize
  congr 1
  apply List.map_congr_left
  intro c hc
  obtain ⟨hfixed, harray⟩ := h c hc
  simp [entryCount, entrySize, hfixed, harray]

theorem before_sizeField {field : String} (hfield : field ∈ referenced id) :
    ∀ c ∈ before id.fields field, c.sizeField = none := by
  obtain ⟨place, -, -, -, -, hfront⟩ := referenced_fixed id field hfield
  intro c hc
  have h := List.all_eq_true.mp hfront c hc
  simp only [Bool.and_eq_true, beq_iff_eq] at h
  exact h.1

theorem renderedSize_of_gap {field : String} {gap : Gap} {c : Desc} {offset : Nat}
    (hfield : field ∈ referenced id) (hgap : gap.matches id.fields field = true)
    (hanchor : anchor id.fields field = some (c, offset)) :
    ∃ pins between,
      pins = (if gap.count + 1 ≤ len then (m (buf + gap.count)).toNat else 0) ∧
      0 < gap.stride ∧ between + c.size = gap.tail ∧
      renderedSize m buf len id.fields (before id.fields field) =
        gap.count + 1 + gap.stride * pins + between ∧
      offset = gap.count + 1 + gap.stride + between := by
  have hfixed := before_sizeField hfield
  obtain ⟨-, hoffset, after, hsplit⟩ := anchorFrom_spec hanchor
  have hparts := (List.takeWhile_append_dropWhile (p := fun c : Desc => !c.array.array)
    (l := before id.fields field)).symm
  unfold Gap.matches at hgap
  rw [hanchor] at hgap
  have hfront : ∀ c ∈ (before id.fields field).takeWhile (fun c => !c.array.array),
      c.array.array = false := by
    intro c hc
    simpa using List.mem_takeWhile_imp hc
  generalize (before id.fields field).takeWhile (fun c => !c.array.array) = front at *
  cases hrest : (before id.fields field).dropWhile fun c => !c.array.array with
  | nil =>
      rw [hrest] at hgap
      cases hgap
  | cons array between =>
      rw [hrest] at hgap hparts
      simp only [Bool.and_eq_true, beq_iff_eq, List.all_eq_true, Bool.not_eq_eq_eq_not,
        Bool.not_true] at hgap
      obtain ⟨⟨⟨⟨⟨⟨hbetween, hcount⟩, hstride⟩, htail⟩, hlength⟩, hlength2⟩, hbits⟩ := hgap
      have harray : array.array.array = true := by
        have hhead := List.head?_dropWhile_not (fun c : Desc => !c.array.array)
          (before id.fields field)
        rw [hrest] at hhead
        simpa using hhead
      rw [hparts] at hfixed hoffset hsplit ⊢
      have hmem : array ∈ id.fields := by
        rw [hsplit]
        simp
      have harraySize := hfixed array (by simp)
      have hpos := ((grounded id array hmem).size harraySize).1
      obtain ⟨lengthField1, hlength1, hplace⟩ := (Option.any_eq_true ..).mp hlength
      obtain ⟨⟨byte, offset'⟩, hbyte, hsize⟩ := (Option.any_eq_true ..).mp hplace
      simp only [Bool.and_eq_true, beq_iff_eq] at hsize
      obtain ⟨hsize, rfl⟩ := hsize
      have hentries : entryCount m buf len id.fields array =
          if gap.count + 1 ≤ len then (m (buf + gap.count)).toNat else 0 := by
        simp only [entryCount, harray, if_true, arrayEntries, hlength1, explicitEntries, hbits,
          hlength2, Option.elim_none, Nat.mul_one, fieldValue, hbyte, hsize, Bool.false_eq_true,
          if_false, Nat.min_eq_left (show 1 ≤ 8 by decide), leValue_one]
      refine ⟨_, (between.map Desc.size).sum, rfl, by omega, by omega, ?_, ?_⟩
      · rw [renderedSize_append, renderedSize_of_no_array fun c hc =>
          ⟨hfixed c (List.mem_append_left _ hc), hfront c hc⟩]
        have hcons : renderedSize m buf len id.fields (array :: between) =
            entryCount m buf len id.fields array * gap.stride +
              renderedSize m buf len id.fields between := by
          simp [renderedSize, entrySize, harraySize, hstride]
        rw [hcons, hentries, renderedSize_of_no_array fun c hc =>
          ⟨hfixed c (by simp [hc]), hbetween c hc⟩, hcount, Nat.mul_comm]
        omega
      · rw [hoffset, List.map_append, List.map_cons, List.sum_append, List.sum_cons, hcount,
          hstride]
        omega

/-- With a gap the look-up agrees where the array has one entry or the field is not reached. -/
theorem lookupAgrees_gap {field : String} {gap : Gap} (hfield : field ∈ referenced id)
    (hgap : gap.matches id.fields field = true)
    (hlen : effectiveLength m id buf bufLen = len) :
    LookupAgrees m id buf len ((descDump env id buf bufLen indent).acts m) field ↔
      (m (buf + gap.count)).toNat = 1 ∨
        len < gap.count + 1 + gap.stride * (m (buf + gap.count)).toNat + gap.tail := by
  obtain ⟨⟨c, offset⟩, hanchor, -⟩ := referenced_fixed id field hfield
  obtain ⟨pins, between, hpins, hstride, htail, hsize, hoffset⟩ :=
    @renderedSize_of_gap id m buf len field gap c offset hfield hgap hanchor
  rw [lookupAgrees_iff hfield hanchor hlen, hsize, hoffset]
  have hone : gap.stride * pins = gap.stride ↔ pins = 1 :=
    ⟨fun h => Nat.eq_of_mul_eq_mul_left hstride (by rw [h, Nat.mul_one]), fun h => by
      rw [h, Nat.mul_one]⟩
  by_cases hreach : gap.count + 1 ≤ len
  · rw [if_pos hreach] at hpins
    rw [← hpins]
    omega
  · constructor
    · intro _
      right
      omega
    · intro _ _
      omega

theorem lookupAgrees_direct {field : String} (hfield : field ∈ referenced id)
    (hdirect : (before id.fields field).all (fun c => !c.array.array) = true)
    (hlen : effectiveLength m id buf bufLen = len) :
    LookupAgrees m id buf len ((descDump env id buf bufLen indent).acts m) field := by
  obtain ⟨⟨c, offset⟩, hanchor, -⟩ := referenced_fixed id field hfield
  obtain ⟨-, hoffset, -⟩ := anchorFrom_spec hanchor
  refine (lookupAgrees_iff hfield hanchor hlen).mpr fun _ => ?_
  rw [hoffset, Nat.zero_add]
  apply renderedSize_of_no_array
  intro c hc
  exact ⟨before_sizeField hfield c hc, by simpa using List.all_eq_true.mp hdirect c hc⟩

end Marks

/-- Look-ups and rendering agree for every field a definition refers to, unless
the definition has a gap whose array has no entry or several and whose field is
still inside the buffer. -/
theorem lookups_agree (env : Env) (id : DescId) (m : Memory) (buf bufLen indent : Nat) :
    (∀ field ∈ referenced id, LookupAgrees m id buf (effectiveLength m id buf bufLen)
        ((descDump env id buf bufLen indent).acts m) field) ↔
      ∀ gap ∈ id.gap, (m (buf + gap.count)).toNat = 1 ∨
        effectiveLength m id buf bufLen <
          gap.count + 1 + gap.stride * (m (buf + gap.count)).toNat + gap.tail := by
  constructor
  · intro h gap hgap
    obtain ⟨field, hfield, hmatches⟩ := gap_referenced id gap hgap
    exact (lookupAgrees_gap hfield hmatches rfl).mp (h field hfield)
  · intro h field hfield
    rcases referenced_gap id field hfield with hdirect | hany
    · exact lookupAgrees_direct hfield hdirect rfl
    · obtain ⟨gap, hgap, hmatches⟩ := (Option.any_eq_true ..).mp hany
      exact (lookupAgrees_gap hfield hmatches rfl).mpr (h gap hgap)

theorem mixer_lookup_reads_source :
    ¬∀ (env : Env) (id : DescId) (m : Memory) (buf bufLen indent : Nat),
      ∀ field ∈ referenced id, ∀ c entry address size,
        .field id c entry address size ∈ (descDump env id buf bufLen indent).acts m →
        c.field = field →
          (getValueFromField buf (effectiveLength m id buf bufLen) id.fields field).result m =
            .ok (leValue m address size) := by
  intro h
  have hvalue := h default .audio1AcMixerUnit (fun a => [1, 2, 3, 4, 5, 0, 0, 0, 0, 0].getD a 0)
    0 10 3 "bNrChannels" (by decide) { field := "bNrChannels", size := 1, type := .number } 0 4 1
    (by decide) rfl
  exact absurd (Except.ok.inj hvalue) (by decide)

end Usbutils
