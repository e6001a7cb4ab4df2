import Usbutils.Desc.Accounting

/-! A dump prints no warning exactly when every entry of the definitions it used
was rendered and together they fill the buffer. -/
namespace Usbutils
open ByteProg

def entriesIn (m : Memory) (desc : DescId) (buf len : Nat) (c : Desc) : Nat :=
  if c.array.array then
    match (getArrayEntryCount buf len desc.fields c).result m with
    | .ok entries => entries
    | .error _ => 0
  else 1

def allEntries (m : Memory) (desc : DescId) (buf len : Nat) : List (Desc × Nat) :=
  desc.fields.flatMap fun c => (List.range (entriesIn m desc buf len c)).map fun entry => (c, entry)

/-- All entries of the definition were rendered and together they fill the buffer. -/
def Complete (m : Memory) (effects : List Effect) (desc : DescId) (buf len : Nat) : Prop :=
  effects.filterMap (Effect.renders desc) = allEntries m desc buf len ∧
    effects.flatMap (Effect.covers desc (buf + len)) = List.range' buf len

theorem entriesIn_eq {m : Memory} {desc : DescId} {buf len : Nat} {c : Desc}
    (hc : c ∈ desc.fields) : entriesIn m desc buf len c = entryCount m buf len desc.fields c := by
  unfold entriesIn entryCount
  split
  · rw [(getArrayEntryCount_computes m buf len (grounded desc c hc) (grounded desc)).result]
  · rfl

theorem allEntries_eq (m : Memory) (desc : DescId) (buf len : Nat) :
    allEntries m desc buf len =
      (slots m buf len desc.fields).map fun slot => (slot.current, slot.entry) := by
  unfold allEntries slots
  rw [List.map_flatMap]
  apply List.flatMap_congr
  intro c hc
  rw [entriesIn_eq hc, slotsOf, slotsFrom, List.map_map, List.range_eq_range']
  rfl

theorem extension_unique (id : DescId) :
    (id.fields.filter fun c => c.type.isExtension).length ≤ 1 := by
  cases id <;> decide

section Ending

variable {m : Memory} {buf bufLen indent offset : Nat} {items : List Slot}

theorem owner_trailingBytes : ∀ e ∈ (trailingBytes buf bufLen offset).acts m, e.owner = none := by
  rw [trailingBytes, Prog.acts_loop _ (by simp)]
  intro e he
  obtain ⟨i, -, he⟩ := List.mem_flatMap.mp he
  simp [Prog.acts_bind] at he
  rcases he with rfl | rfl <;> rfl

theorem owner_dumpEnding : ∀ e ∈ (dumpEnding buf bufLen indent items).acts m, e.owner = none := by
  have htrailing := @owner_trailingBytes m buf bufLen ((packing bufLen).stop items 0)
  unfold dumpEnding
  split
  · by_cases hjunk : (packing bufLen).stop items 0 < bufLen
    · simpa [Prog.when, hjunk, junkAtEnd, Prog.acts_bind, result_trailingBytes, or_imp,
        forall_and, Effect.owner] using htrailing
    · simp [Prog.when, hjunk]
  · simpa [insufficient, Prog.acts_bind, result_trailingBytes, or_imp, forall_and,
      Effect.owner] using htrailing

theorem warns_dumpEnding :
    (∀ e ∈ (dumpEnding buf bufLen indent items).acts m, e.warns = false) ↔
      (packing bufLen).fits items 0 = true ∧ (packing bufLen).stop items 0 = bufLen := by
  have hbounds := @Packing.Rule.stop_bounds _ (packing bufLen) items 0 (Nat.zero_le _)
  rw [packing_limit] at hbounds
  unfold dumpEnding
  cases hfits : (packing bufLen).fits items 0 with
  | false => simp [insufficient, Prog.acts_bind, Effect.warns, isWarning]
  | true =>
      by_cases hjunk : (packing bufLen).stop items 0 < bufLen
      · simp [Prog.when, hjunk, junkAtEnd, Prog.acts_bind, Effect.warns, isWarning]
        omega
      · simp [Prog.when, hjunk]
        omega

end Ending

section Slots

variable {env : Env} {nested : DescId → Nat → Nat → Dump Unit} {id : DescId} {m : Memory}
  {buf bufLen indent fieldLen offset : Nat} {slot : Slot}

theorem owner_of_plain {E : List Effect} {desc : DescId} (h : ∀ e ∈ E, e.plain) :
    ∀ e ∈ E, e.owner ≠ some desc := by
  intro e he
  rw [(h e he).2.2]
  nofun

theorem marks_dumpSlot (hslot : slot ∈ slots m buf bufLen id.fields)
    (hfit : offset + slot.size ≤ bufLen)
    (hforeign : ∀ target ∈ slot.current.type.targets,
      ∀ e ∈ (nested target (buf + offset) (bufLen - offset)).acts m, e.owner ≠ some id) :
    ((dumpSlot env nested id buf bufLen indent fieldLen slot offset).acts m).filterMap
        (Effect.renders id) = [(slot.current, slot.entry)] ∧
      ((dumpSlot env nested id buf bufLen indent fieldLen slot offset).acts m).flatMap
        (Effect.covers id (buf + bufLen)) =
          List.range' (buf + offset) ((packing bufLen).span slot offset) := by
  unfold Packing.Rule.span
  cases hext : slot.current.type.isExtension with
  | false =>
      obtain ⟨before, after, hacts, hbefore, hafter⟩ := @acts_dumpSlot env nested id m buf bufLen
        indent fieldLen offset slot hslot hext hfit
      rw [hacts, List.filterMap_append, List.filterMap_cons, List.flatMap_append,
        List.flatMap_cons, filterMap_renders_of_owner (owner_of_plain hbefore),
        filterMap_renders_of_owner (owner_of_plain hafter),
        flatMap_covers_of_owner (owner_of_plain hbefore),
        flatMap_covers_of_owner (owner_of_plain hafter)]
      simp [Effect.renders, Effect.covers, hext, packing]
  | true =>
      obtain ⟨target, htarget, hacts⟩ := @acts_dumpSlot_extension env nested id m buf bufLen
        indent fieldLen offset slot (mem_slots hslot).1 hext
      rw [hacts, List.filterMap_cons, List.flatMap_cons,
        filterMap_renders_of_owner (hforeign target htarget),
        flatMap_covers_of_owner (hforeign target htarget)]
      simp [Effect.renders, Effect.covers, hext, packing, Nat.add_sub_add_left]

end Slots

section Complete

variable {env : Env} {indent depth : Nat} {id : DescId} {m : Memory} {buf bufLen : Nat}
  (hreturns : ∀ c ∈ id.fields, ∀ target ∈ c.type.targets, ∀ buf bufLen,
    (descDumpAtDepth env indent depth target buf bufLen).result m = .ok ())
include hreturns

theorem marks_descDumpAtDepth
    (hforeign : ∀ c ∈ id.fields, ∀ target ∈ c.type.targets, ∀ buf bufLen,
      ∀ e ∈ (descDumpAtDepth env indent depth target buf bufLen).acts m, e.owner ≠ some id) :
    let len := effectiveLength m id buf bufLen
    ((descDumpAtDepth env indent (depth + 1) id buf bufLen).acts m).filterMap
        (Effect.renders id) = ((packing len).placed (slots m buf len id.fields) 0).map
          (fun place => (place.1.current, place.1.entry)) ∧
      ((descDumpAtDepth env indent (depth + 1) id buf bufLen).acts m).flatMap
        (Effect.covers id (buf + len)) =
          List.range' buf ((packing len).stop (slots m buf len id.fields) 0) := by
  have hacts := @acts_descDumpAtDepth env indent depth id m buf bufLen hreturns
  generalize effectiveLength m id buf bufLen = len at hacts ⊢
  have hmarks : ∀ place ∈ (packing len).placed (slots m buf len id.fields) 0, _ :=
    fun place hplace => @marks_dumpSlot env (descDumpAtDepth env indent depth) id m buf len indent
      (nameWidth m buf len id.fields id.fields 18) place.2 place.1
      (mem_placed_slots hplace).1 (mem_placed_slots hplace).2
      (fun target htarget => hforeign _ (mem_slots (mem_placed_slots hplace).1).1 target htarget _ _)
  have hending : ∀ e ∈ (dumpEnding buf len indent (slots m buf len id.fields)).acts m,
      e.owner ≠ some id := by
    intro e he
    rw [owner_dumpEnding e he]
    nofun
  constructor
  · rw [hacts, List.filterMap_cons, List.filterMap_append, filterMap_renders_of_owner hending,
      List.filterMap_flatMap, List.flatMap_congr fun place hplace => (hmarks place hplace).1]
    simp [Effect.renders, List.map_eq_flatMap]
  · rw [hacts, List.flatMap_cons, List.flatMap_append, flatMap_covers_of_owner hending,
      List.flatMap_assoc, List.flatMap_congr fun place hplace => (hmarks place hplace).2,
      Packing.Rule.tiles (R := packing len) buf (Nat.zero_le _)]
    simp [Effect.covers]

theorem complete_descDumpAtDepth
    (hforeign : ∀ c ∈ id.fields, ∀ target ∈ c.type.targets, ∀ buf bufLen,
      ∀ e ∈ (descDumpAtDepth env indent depth target buf bufLen).acts m, e.owner ≠ some id) :
    Complete m ((descDumpAtDepth env indent (depth + 1) id buf bufLen).acts m) id buf
        (effectiveLength m id buf bufLen) ↔
      (packing (effectiveLength m id buf bufLen)).fits
          (slots m buf (effectiveLength m id buf bufLen) id.fields) 0 = true ∧
        (packing (effectiveLength m id buf bufLen)).stop
          (slots m buf (effectiveLength m id buf bufLen) id.fields) 0 =
            effectiveLength m id buf bufLen := by
  obtain ⟨hrendered, hcovered⟩ := @marks_descDumpAtDepth env indent depth id m buf bufLen
    hreturns hforeign
  generalize effectiveLength m id buf bufLen = len at hrendered hcovered ⊢
  rw [Complete, hrendered, hcovered, allEntries_eq]
  constructor
  · rintro ⟨hplaced, hfill⟩
    refine ⟨Packing.Rule.fits_of_placed ?_, ?_⟩
    · have := congrArg List.length hplaced
      simp only [List.length_map] at this
      omega
    · simpa using congrArg List.length hfill
  · rintro ⟨hfits, hstop⟩
    refine ⟨?_, by rw [hstop]⟩
    have hfst := Packing.Rule.placed_of_fits hfits
    conv_rhs => rw [← hfst]
    rw [List.map_map]
    rfl

theorem mem_descDumpAtDepth {e : Effect}
    (he : e ∈ (descDumpAtDepth env indent (depth + 1) id buf bufLen).acts m) :
    let len := effectiveLength m id buf bufLen
    e = .dump id buf len ∨
      (∃ place ∈ (packing len).placed (slots m buf len id.fields) 0,
        place.1.current.type.isExtension = false ∧ e = fieldMark id buf place) ∨
      e.plain ∨ e ∈ (dumpEnding buf len indent (slots m buf len id.fields)).acts m ∨
      ∃ place ∈ (packing len).placed (slots m buf len id.fields) 0,
        place.1.current.type.isExtension = true ∧
        e ∈ (dumpSlot env (descDumpAtDepth env indent depth) id buf len indent
          (nameWidth m buf len id.fields id.fields 18) place.1 place.2).acts m := by
  intro len
  rw [@acts_descDumpAtDepth env indent depth id m buf bufLen hreturns] at he
  rcases List.mem_cons.mp he with rfl | he
  · exact Or.inl rfl
  right
  rcases List.mem_append.mp he with hslots | hending
  · obtain ⟨place, hplace, he⟩ := List.mem_flatMap.mp hslots
    obtain ⟨hslot, hfit⟩ := mem_placed_slots hplace
    cases hext : place.1.current.type.isExtension with
    | false =>
        rcases mem_acts_dumpSlot hslot hext hfit he with hmark | hplain
        · exact Or.inl ⟨place, hplace, hext, hmark⟩
        · exact Or.inr (Or.inl hplain)
    | true => exact Or.inr (Or.inr (Or.inr ⟨place, hplace, hext, he⟩))
  · exact Or.inr (Or.inr (Or.inl hending))

end Complete

section Flat

variable {env : Env} {indent : Nat} {id : DescId} {m : Memory} {buf bufLen : Nat}
  (hflat : ∀ c ∈ id.fields, c.type.targets = [])
include hflat

theorem not_extension_of_flat {slot : Slot} {len : Nat} (hslot : slot ∈ slots m buf len id.fields) :
    slot.current.type.isExtension = false := by
  have htargets := hflat _ (mem_slots hslot).1
  cases htype : slot.current.type with
  | extension typeField d =>
      rw [htype] at htargets
      cases htargets
  | _ => rfl

theorem flat_nested {P : DescId → Prop} : ∀ c ∈ id.fields, ∀ target ∈ c.type.targets, P target := by
  intro c hc target htarget
  rw [hflat c hc] at htarget
  cases htarget

theorem mem_flat {e : Effect} (he : e ∈ (descDumpAtDepth env indent 1 id buf bufLen).acts m) :
    let len := effectiveLength m id buf bufLen
    e = .dump id buf len ∨ (∃ place, e = fieldMark id buf place) ∨
      e.plain ∨ e ∈ (dumpEnding buf len indent (slots m buf len id.fields)).acts m := by
  have hcases := mem_descDumpAtDepth (flat_nested hflat) he
  rcases hcases with h | ⟨place, -, -, h⟩ | h | h | ⟨place, hplace, hext, -⟩
  · exact Or.inl h
  · exact Or.inr (Or.inl ⟨place, h⟩)
  · exact Or.inr (Or.inr (Or.inl h))
  · exact Or.inr (Or.inr (Or.inr h))
  · rw [not_extension_of_flat hflat (mem_placed_slots hplace).1] at hext
    cases hext

theorem owner_flat {e : Effect} (he : e ∈ (descDumpAtDepth env indent 1 id buf bufLen).acts m) :
    e.owner = none ∨ e.owner = some id := by
  rcases mem_flat hflat he with rfl | ⟨place, rfl⟩ | hplain | hending
  · exact Or.inr rfl
  · exact Or.inr rfl
  · exact Or.inl hplain.2.2
  · exact Or.inl (owner_dumpEnding e hending)

theorem warns_flat :
    (∀ e ∈ (descDumpAtDepth env indent 1 id buf bufLen).acts m, e.warns = false) ↔
      Complete m ((descDumpAtDepth env indent 1 id buf bufLen).acts m) id buf
        (effectiveLength m id buf bufLen) := by
  rw [complete_descDumpAtDepth (flat_nested hflat) (flat_nested hflat),
    ← @warns_dumpEnding m buf _ indent]
  constructor
  · intro h e he
    apply h
    rw [acts_descDumpAtDepth (flat_nested hflat)]
    exact List.mem_cons_of_mem _ (List.mem_append_right _ he)
  · intro h e he
    rcases mem_flat hflat he with rfl | ⟨place, rfl⟩ | hplain | hending
    · rfl
    · rfl
    · exact hplain.2.1
    · exact h e hending

end Flat

section Nested

variable {env : Env} {indent : Nat} {id : DescId} {m : Memory} {buf bufLen : Nat}

theorem length_extension_slots {fields : List Desc} (hfields : ∀ c ∈ fields, c ∈ id.fields)
    (len : Nat) :
    ((fields.flatMap (slotsOf m buf len id.fields)).filter
      fun slot => slot.current.type.isExtension).length =
        (fields.filter fun c => c.type.isExtension).length := by
  induction fields with
  | nil => rfl
  | cons c rest ih =>
      obtain ⟨hc, hrest⟩ := List.forall_mem_cons.mp hfields
      rw [List.flatMap_cons, List.filter_append, List.length_append, ih hrest, List.filter_cons]
      cases hext : c.type.isExtension with
      | false =>
          have hnone : (slotsOf m buf len id.fields c).filter
              (fun slot => slot.current.type.isExtension) = [] := by
            simp [slotsOf, slotsFrom, hext]
          simp [hnone]
      | true =>
          have hone : entryCount m buf len id.fields c = 1 := by
            simp [entryCount, (grounded id c hc).extension hext]
          have hslots : ((slotsOf m buf len id.fields c).filter
              fun slot => slot.current.type.isExtension).length = 1 := by
            simp [slotsOf, slotsFrom, hext, hone]
          rw [hslots, if_pos rfl, List.length_cons, Nat.add_comm]

theorem split_placed {len : Nat} {place : Slot × Nat}
    (hplace : place ∈ (packing len).placed (slots m buf len id.fields) 0)
    (hext : place.1.current.type.isExtension = true) :
    ∃ before after,
      (packing len).placed (slots m buf len id.fields) 0 = before ++ place :: after ∧
      (∀ p ∈ before, p.1.current.type.isExtension = false) ∧
      ∀ p ∈ after, p.1.current.type.isExtension = false := by
  obtain ⟨before, after, hsplit⟩ := List.append_of_mem hplace
  have hunique := @length_extension_slots id m buf id.fields (fun c hc => hc) len
  have hfirst := Packing.Rule.placed_isFirst (R := packing len) (slots m buf len id.fields) 0
  have hle := (hfirst.sublist.filter fun slot => slot.current.type.isExtension).length_le
  rw [hsplit, slots] at hle
  rw [hunique] at hle
  have hone := extension_unique id
  simp only [List.map_append, List.map_cons, List.filter_append, List.filter_cons, hext, if_true,
    List.length_append, List.length_cons] at hle
  have hbefore : ((before.map Prod.fst).filter
      fun slot => slot.current.type.isExtension) = [] := List.eq_nil_of_length_eq_zero (by omega)
  have hafter : ((after.map Prod.fst).filter
      fun slot => slot.current.type.isExtension) = [] := List.eq_nil_of_length_eq_zero (by omega)
  rw [List.filter_eq_nil_iff] at hbefore hafter
  refine ⟨before, after, hsplit, fun p hp => ?_, fun p hp => ?_⟩
  · simpa using hbefore p.1 (List.mem_map_of_mem hp)
  · simpa using hafter p.1 (List.mem_map_of_mem hp)

theorem split_extension {len : Nat} (hlen : effectiveLength m id buf bufLen = len)
    {place : Slot × Nat} (hplace : place ∈ (packing len).placed (slots m buf len id.fields) 0)
    (hext : place.1.current.type.isExtension = true) :
    ∃ target ∈ place.1.current.type.targets, ∃ left right,
      (dumpSlot env (descDumpAtDepth env indent 1) id buf len indent
        (nameWidth m buf len id.fields id.fields 18) place.1 place.2).acts m =
          .field id place.1.current place.1.entry (buf + place.2) place.1.size ::
            (descDumpAtDepth env indent 1 target (buf + place.2) (len - place.2)).acts m ∧
      (descDump env id buf bufLen indent).acts m = left ++
        (descDumpAtDepth env indent 1 target (buf + place.2) (len - place.2)).acts m ++ right ∧
      (∀ e ∈ left, e.owner = none ∨ e.owner = some id) ∧
      ∀ e ∈ right, e.owner = none ∨ e.owner = some id := by
  have hacts := @acts_descDumpAtDepth env indent 1 id m buf bufLen (result_nested id)
  dsimp only at hacts
  rw [hlen] at hacts
  obtain ⟨before, after, hsplit, hbefore, hafter⟩ := split_placed hplace hext
  obtain ⟨hslot, -⟩ := mem_placed_slots hplace
  obtain ⟨target, htarget, hnested⟩ := @acts_dumpSlot_extension env
    (descDumpAtDepth env indent 1) id m buf len indent (nameWidth m buf len id.fields id.fields 18)
    place.2 place.1 (mem_slots hslot).1 hext
  have howner : ∀ p ∈ (packing len).placed (slots m buf len id.fields) 0,
      p.1.current.type.isExtension = false →
      ∀ e ∈ (dumpSlot env (descDumpAtDepth env indent 1) id buf len indent
        (nameWidth m buf len id.fields id.fields 18) p.1 p.2).acts m,
      e.owner = none ∨ e.owner = some id := by
    intro p hp hflat e he
    obtain ⟨hmem, hfit⟩ := mem_placed_slots hp
    rcases mem_acts_dumpSlot hmem hflat hfit he with rfl | hplain
    · exact Or.inr rfl
    · exact Or.inl hplain.2.2
  simp only [hsplit] at hacts howner
  refine ⟨target, htarget, .dump id buf len :: (before.flatMap fun p =>
      (dumpSlot env (descDumpAtDepth env indent 1) id buf len indent
        (nameWidth m buf len id.fields id.fields 18) p.1 p.2).acts m) ++
      [.field id place.1.current place.1.entry (buf + place.2) place.1.size],
    (after.flatMap fun p => (dumpSlot env (descDumpAtDepth env indent 1) id buf len indent
        (nameWidth m buf len id.fields id.fields 18) p.1 p.2).acts m) ++
      (dumpEnding buf len indent (slots m buf len id.fields)).acts m, hnested, ?_, ?_, ?_⟩
  · rw [descDump, hacts, List.flatMap_append, List.flatMap_cons, hnested]
    simp
  · intro e he
    simp only [List.cons_append, List.mem_cons, List.mem_append, List.mem_flatMap,
      List.not_mem_nil, or_false] at he
    rcases he with rfl | ⟨p, hp, he⟩ | rfl
    · exact Or.inr rfl
    · exact howner p (by simp [hp]) (hbefore p hp) e he
    · exact Or.inr rfl
  · intro e he
    simp only [List.mem_append, List.mem_flatMap] at he
    rcases he with ⟨p, hp, he⟩ | he
    · exact howner p (by simp [hp]) (hafter p hp) e he
    · exact Or.inl (owner_dumpEnding e he)

theorem complete_around {left nested right : List Effect} {target : DescId} {address len : Nat}
    (hne : target ≠ id) (hleft : ∀ e ∈ left, e.owner = none ∨ e.owner = some id)
    (hright : ∀ e ∈ right, e.owner = none ∨ e.owner = some id) :
    Complete m (left ++ nested ++ right) target address len ↔
      Complete m nested target address len := by
  have hforeign : ∀ e : Effect, e.owner = none ∨ e.owner = some id → e.owner ≠ some target := by
    rintro e (h | h) heq
    · rw [h] at heq
      cases heq
    · rw [h] at heq
      exact hne (Option.some.inj heq).symm
  have hleft' := fun e he => hforeign e (hleft e he)
  have hright' := fun e he => hforeign e (hright e he)
  unfold Complete
  rw [List.filterMap_append, List.filterMap_append, List.flatMap_append, List.flatMap_append,
    filterMap_renders_of_owner hleft', filterMap_renders_of_owner hright',
    flatMap_covers_of_owner hleft', flatMap_covers_of_owner hright']
  simp

theorem target_ne {c : Desc} (hc : c ∈ id.fields) {target : DescId}
    (htarget : target ∈ c.type.targets) : target ≠ id := by
  rintro rfl
  exact no_target hc htarget hc htarget

theorem nested_foreign : ∀ c ∈ id.fields, ∀ target ∈ c.type.targets, ∀ buf bufLen,
    ∀ e ∈ (descDumpAtDepth env indent 1 target buf bufLen).acts m, e.owner ≠ some id := by
  intro c hc target htarget buf bufLen e he heq
  rcases owner_flat (targets_flat id c hc target htarget) he with h | h
  · rw [h] at heq
    cases heq
  · rw [h] at heq
    exact target_ne hc htarget (Option.some.inj heq)

theorem warns_descDump :
    (∀ e ∈ (descDump env id buf bufLen indent).acts m, e.warns = false) ↔
      ∀ desc address len, .dump desc address len ∈ (descDump env id buf bufLen indent).acts m →
        Complete m ((descDump env id buf bufLen indent).acts m) desc address len := by
  have hcomplete := @complete_descDumpAtDepth env indent 1 id m buf bufLen (result_nested id)
    nested_foreign
  have hacts := @acts_descDumpAtDepth env indent 1 id m buf bufLen (result_nested id)
  rw [← @warns_dumpEnding m buf _ indent] at hcomplete
  constructor
  · intro hquiet desc address len hdump
    rcases mem_descDumpAtDepth (result_nested id) hdump with
      heq | ⟨place, -, -, heq⟩ | hplain | hending | ⟨place, hplace, hext, hslot⟩
    · cases heq
      refine hcomplete.mpr fun e he => hquiet e ?_
      rw [descDump, hacts]
      exact List.mem_cons_of_mem _ (List.mem_append_right _ he)
    · cases heq
    · cases hplain.2.2
    · cases owner_dumpEnding _ hending
    · obtain ⟨target, htarget, left, right, hslotActs, hsplit, hleft, hright⟩ :=
        @split_extension env indent id m buf bufLen _ rfl place hplace hext
      have hcurrent := (mem_slots (mem_placed_slots hplace).1).1
      have hflat := targets_flat id _ hcurrent target htarget
      rw [hslotActs] at hslot
      have hnested := (List.mem_cons.mp hslot).resolve_left (by simp)
      have hown : ∃ address' len', Effect.dump desc address len = .dump target address' len' ∧
          len' = effectiveLength m target address' (effectiveLength m id buf bufLen - place.2) ∧
          address' = buf + place.2 := by
        rcases mem_flat hflat hnested with heq | ⟨place, heq⟩ | hplain | hending
        · exact ⟨_, _, heq, rfl, rfl⟩
        · cases heq
        · cases hplain.2.2
        · cases owner_dumpEnding _ hending
      obtain ⟨address', len', heq, rfl, rfl⟩ := hown
      cases heq
      rw [hsplit, complete_around (target_ne hcurrent htarget) hleft hright]
      refine (warns_flat hflat).mp fun e he => hquiet e ?_
      rw [hsplit]
      simp [he]
  · intro hall e he
    rcases mem_descDumpAtDepth (result_nested id) he with
      rfl | ⟨place, -, -, rfl⟩ | hplain | hending | ⟨place, hplace, hext, hslot⟩
    · rfl
    · rfl
    · exact hplain.2.1
    · refine hcomplete.mp (hall _ _ _ ?_) e hending
      rw [descDump, hacts]
      exact List.mem_cons_self ..
    · obtain ⟨target, htarget, left, right, hslotActs, hsplit, hleft, hright⟩ :=
        @split_extension env indent id m buf bufLen _ rfl place hplace hext
      have hcurrent := (mem_slots (mem_placed_slots hplace).1).1
      have hflat := targets_flat id _ hcurrent target htarget
      have hmark : Effect.dump target (buf + place.2)
          (effectiveLength m target (buf + place.2) (effectiveLength m id buf bufLen - place.2)) ∈
            (descDump env id buf bufLen indent).acts m := by
        rw [hsplit, acts_descDumpAtDepth (flat_nested hflat)]
        simp
      have hnested := hall _ _ _ hmark
      rw [hsplit, complete_around (target_ne hcurrent htarget) hleft hright] at hnested
      rw [hslotActs] at hslot
      rcases List.mem_cons.mp hslot with rfl | hinside
      · rfl
      · exact (warns_flat hflat).mpr hnested e hinside

end Nested

/-- The rendered entries, the entries of extension data and the bytes behind a
warning partition the buffer in order, and there is no warning exactly when
every entry of every definition used was rendered and fills its part. -/
theorem descDump_accounts (env : Env) (id : DescId) (m : Memory) (buf bufLen indent : Nat)
    (hlen : bufLen < 2 ^ 32) :
    ((descDump env id buf bufLen indent).acts m).flatMap Effect.shown =
        List.range' buf (effectiveLength m id buf bufLen) ∧
      ((∀ e ∈ (descDump env id buf bufLen indent).acts m, e.warns = false) ↔
        ∀ desc address len, .dump desc address len ∈ (descDump env id buf bufLen indent).acts m →
          Complete m ((descDump env id buf bufLen indent).acts m) desc address len) :=
  ⟨descDump_shown env id m buf bufLen indent hlen, warns_descDump⟩

theorem descDump_accounts_summary :
    ((descDump default .usb3DcConfigurationSummary 0 3 3).acts fun _ => 3).flatMap Effect.shown =
      [0, 1, 2] :=
  (descDump_accounts default .usb3DcConfigurationSummary (fun _ => 3) 0 3 3 (by decide)).1

end Usbutils
