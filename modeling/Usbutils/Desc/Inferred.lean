import Usbutils.Desc.Complete
import Usbutils.Desc.RoundTrip

/-! An array without a length field: how many entries it gets from what the other
fields leave of the buffer. -/
namespace Usbutils
open ByteProg

def entryBytes (m : Memory) (desc : DescId) (buf len : Nat) (c : Desc) : Nat :=
  match (getEntrySize buf len desc.fields c).result m with
  | .ok size => size
  | .error _ => 0

def otherBytes (m : Memory) (desc : DescId) (buf len : Nat) (array : Desc) : Nat :=
  ((desc.fields.filter fun c => c.field ≠ array.field).map fun c =>
    entriesIn m desc buf len c * entryBytes m desc buf len c).sum

def entriesOf (c : Desc) (rendered : List (Desc × Nat)) : List Nat :=
  rendered.filterMap fun p => if p.1 = c then some p.2 else none

def Effect.junk? : Effect → Option Nat
  | .trailing address => some address
  | _ => none

def junkShown (effects : List Effect) : List Nat := effects.filterMap Effect.junk?

def Effect.lengthWarning : Effect → Bool
  | .print format _ => format == "%*sWarning: Length insufficient for descriptor type.\n"
  | _ => false

theorem inferred_flat (id : DescId) : ∀ c ∈ id.fields, c.inferred = true →
    ∀ c' ∈ id.fields, c'.type.isExtension = false := by
  cases id <;> decide

theorem pieces_behind {len fixed k n : Nat} (h : n = if fixed ≤ len then (len - fixed) / k else 0) :
    (len < fixed → n = 0) ∧ (k = 0 → n = 0) ∧ (fixed ≤ len → fixed + n * k ≤ len) ∧
      (fixed ≤ len → 0 < k → len < fixed + (n + 1) * k) := by
  by_cases hle : fixed ≤ len
  · rw [if_pos hle] at h
    have hfloor := Nat.div_mul_le_self (len - fixed) k
    rw [← h] at hfloor
    refine ⟨by omega, ?_, by omega, ?_⟩
    · rintro rfl
      rw [h, Nat.div_zero]
    · intro _ hpos
      have hnext := Nat.lt_div_mul_add (a := len - fixed) hpos
      rw [← h] at hnext
      rw [Nat.add_mul, Nat.one_mul]
      omega
  · rw [if_neg hle] at h
    exact ⟨fun _ => h, fun _ => h, fun h => absurd h hle, fun h => absurd h hle⟩

section Sizes

variable {m : Memory} {id : DescId} {buf len : Nat} {c : Desc} (hc : c ∈ id.fields)
include hc

theorem entryBytes_eq : entryBytes m id buf len c = entrySize m buf len id.fields c := by
  rw [entryBytes, (getEntrySize_computes m buf len (grounded id c hc)).result]

omit hc in
theorem otherBytes_eq : otherBytes m id buf len c =
    renderedSize m buf len id.fields (id.fields.filter fun c' => c'.field ≠ c.field) := by
  unfold otherBytes renderedSize
  congr 1
  apply List.map_congr_left
  intro c' hc'
  have hmem := (List.mem_filter.mp hc').1
  rw [entriesIn_eq hmem, entryBytes_eq hmem]

theorem renderedSize_split : renderedSize m buf len id.fields id.fields =
    otherBytes m id buf len c + entriesIn m id buf len c * entryBytes m id buf len c := by
  obtain ⟨left, right, hsplit, hfilter⟩ := fields_split hc
  have hsum : renderedSize m buf len id.fields (left ++ c :: right) =
      renderedSize m buf len id.fields (left ++ right) +
        entryCount m buf len id.fields c * entrySize m buf len id.fields c := by
    simp only [renderedSize, List.map_append, List.map_cons, List.sum_append, List.sum_cons]
    omega
  rw [otherBytes_eq, hfilter, entriesIn_eq hc, entryBytes_eq hc, ← hsum, ← hsplit]

theorem entriesIn_inferred (hinferred : c.inferred = true) : entriesIn m id buf len c =
    if otherBytes m id buf len c ≤ len then
      (len - otherBytes m id buf len c) / entryBytes m id buf len c else 0 := by
  have hkind := hinferred
  rw [Desc.inferred, Bool.and_eq_true, Option.isNone_iff_eq_none] at hkind
  rw [entriesIn_eq hc, entryBytes_eq hc, otherBytes_eq, entryCount, if_pos hkind.1, arrayEntries,
    hkind.2, remaining_eq (inferred_unique id c hc hinferred)]
  generalize renderedSize m buf len id.fields _ = fixed
  by_cases hle : fixed ≤ len
  · simp only [hle, if_true]
  · simp only [hle, if_false]

theorem entriesOf_allEntries :
    entriesOf c (allEntries m id buf len) = List.range (entriesIn m id buf len c) := by
  obtain ⟨left, right, hsplit, hfilter⟩ := fields_split hc
  have hothers : ∀ c' ∈ left ++ right,
      entriesOf c ((List.range (entriesIn m id buf len c')).map fun entry => (c', entry)) = [] := by
    intro c' hc'
    rw [← hfilter, List.mem_filter] at hc'
    have hne : c' ≠ c := by
      rintro rfl
      simp at hc'
    simp [entriesOf, hne]
  have hown : entriesOf c ((List.range (entriesIn m id buf len c)).map fun entry => (c, entry)) =
      List.range (entriesIn m id buf len c) := by
    simp [entriesOf]
  have happ (left right : List (Desc × Nat)) :
      entriesOf c (left ++ right) = entriesOf c left ++ entriesOf c right := by
    simp [entriesOf]
  have hnone {front : List Desc} (hfront : ∀ c' ∈ front, c' ∈ left ++ right) :
      entriesOf c (front.flatMap fun c' =>
        (List.range (entriesIn m id buf len c')).map fun entry => (c', entry)) = [] := by
    induction front with
    | nil => rfl
    | cons c' front ih =>
        obtain ⟨hc', hrest⟩ := List.forall_mem_cons.mp hfront
        rw [List.flatMap_cons, happ, hothers c' hc', ih hrest, List.append_nil]
  rw [allEntries, hsplit, List.flatMap_append, List.flatMap_cons, happ, happ, hown,
    hnone fun c' hc' => List.mem_append_left _ hc',
    hnone fun c' hc' => List.mem_append_right _ hc', List.nil_append, List.append_nil]

end Sizes

section Run

variable {env : Env} {m : Memory} {id : DescId} {buf bufLen indent : Nat}

theorem fits_flat {len : Nat} (hflat : ∀ c ∈ id.fields, c.type.isExtension = false) :
    (packing len).fits (slots m buf len id.fields) 0 = true ↔
      renderedSize m buf len id.fields id.fields ≤ len := by
  have hrest : ∀ slot ∈ slots m buf len id.fields, (packing len).takesRest slot = false :=
    fun slot hslot => hflat _ (mem_slots hslot).1
  rw [Packing.Rule.fits_of_no_rest hrest (Nat.zero_le _), slots, sum_slots, Nat.zero_add,
    packing_limit]

theorem stop_flat {len : Nat} (hflat : ∀ c ∈ id.fields, c.type.isExtension = false)
    (hfits : (packing len).fits (slots m buf len id.fields) 0 = true) :
    (packing len).stop (slots m buf len id.fields) 0 =
      renderedSize m buf len id.fields id.fields := by
  have hrest : ∀ slot ∈ slots m buf len id.fields, (packing len).takesRest slot = false :=
    fun slot hslot => hflat _ (mem_slots hslot).1
  rw [Packing.Rule.stop_of_no_rest hrest hfits, slots, sum_slots, Nat.zero_add]

theorem renders_descDump :
    let len := effectiveLength m id buf bufLen
    let rendered := ((descDump env id buf bufLen indent).acts m).filterMap (Effect.renders id)
    rendered <+: allEntries m id buf len ∧
      ((packing len).fits (slots m buf len id.fields) 0 = true →
        rendered = allEntries m id buf len) := by
  have hmarks := (@marks_descDumpAtDepth env indent 1 id m buf bufLen (result_nested id)
    nested_foreign).1
  intro len rendered
  have hrendered : rendered = (((packing len).placed (slots m buf len id.fields) 0).map
      Prod.fst).map fun slot => (slot.current, slot.entry) := by
    rw [List.map_map]
    exact hmarks
  rw [hrendered, allEntries_eq]
  constructor
  · exact (Packing.Rule.placed_isFirst _ 0).map _
  · intro hfits
    rw [Packing.Rule.placed_of_fits hfits]

theorem junk?_of_plain {e : Effect} (h : e.plain) : e.junk? = none := by
  cases e with
  | trailing address => cases h.1
  | _ => rfl

theorem lengthWarning_of_plain {e : Effect} (h : e.plain) : e.lengthWarning = false := by
  cases e with
  | print format args =>
      have hwarns := h.2.1
      rw [Effect.warns, isWarning, Bool.or_eq_false_iff] at hwarns
      exact hwarns.1
  | _ => rfl

theorem lengthWarning_dumpEnding {items : List Slot} {len : Nat}
    (hfits : (packing len).fits items 0 = true) :
    ∀ e ∈ (dumpEnding buf len indent items).acts m, e.lengthWarning = false := by
  have htrailing : ∀ e ∈ (trailingBytes buf len ((packing len).stop items 0)).acts m,
      e.lengthWarning = false := by
    rw [trailingBytes, Prog.acts_loop _ (by simp)]
    intro e he
    obtain ⟨i, -, he⟩ := List.mem_flatMap.mp he
    simp [Prog.acts_bind] at he
    rcases he with rfl | rfl <;> rfl
  rw [dumpEnding, if_pos hfits]
  by_cases hjunk : (packing len).stop items 0 < len
  · simpa [Prog.when, hjunk, junkAtEnd, Prog.acts_bind, result_trailingBytes, or_imp, forall_and,
      Effect.lengthWarning] using htrailing
  · simp [Prog.when, hjunk]

theorem junkShown_dumpEnding {items : List Slot} {len : Nat} :
    junkShown ((dumpEnding buf len indent items).acts m) =
      List.range' (buf + (packing len).stop items 0) (len - (packing len).stop items 0) := by
  have hshown := @shown_dumpEnding m buf len indent items
  rw [← hshown, junkShown]
  have howner := @owner_dumpEnding m buf len indent items
  generalize (dumpEnding buf len indent items).acts m = effects at howner ⊢
  induction effects with
  | nil => rfl
  | cons e effects ih =>
      obtain ⟨he, hrest⟩ := List.forall_mem_cons.mp howner
      rw [List.flatMap_cons, ← ih hrest]
      cases e with
      | trailing address => rfl
      | field desc current entry address size => cases he
      | _ => rfl

theorem ending_flat (hflat : ∀ c ∈ id.fields, c.type.isExtension = false) :
    let len := effectiveLength m id buf bufLen
    let effects := (descDump env id buf bufLen indent).acts m
    let ending := (dumpEnding buf len indent (slots m buf len id.fields)).acts m
    junkShown effects = junkShown ending ∧
      ((∀ e ∈ ending, e.lengthWarning = false) → ∀ e ∈ effects, e.lengthWarning = false) := by
  have hacts := @acts_descDumpAtDepth env indent 1 id m buf bufLen (result_nested id)
  intro len effects ending
  have heffects : effects = _ := hacts
  have hslot : ∀ place ∈ (packing len).placed (slots m buf len id.fields) 0,
      ∀ e ∈ (dumpSlot env (descDumpAtDepth env indent 1) id buf len indent
        (nameWidth m buf len id.fields id.fields 18) place.1 place.2).acts m,
        e.junk? = none ∧ e.lengthWarning = false := by
    intro place hplace e he
    obtain ⟨hmem, hfit⟩ := mem_placed_slots hplace
    rcases mem_acts_dumpSlot hmem (hflat _ (mem_slots hmem).1) hfit he with rfl | hplain
    · exact ⟨rfl, rfl⟩
    · exact ⟨junk?_of_plain hplain, lengthWarning_of_plain hplain⟩
  constructor
  · have hquiet : (((packing len).placed (slots m buf len id.fields) 0).flatMap fun place =>
        (dumpSlot env (descDumpAtDepth env indent 1) id buf len indent
          (nameWidth m buf len id.fields id.fields 18) place.1 place.2).acts m).filterMap
            Effect.junk? = [] := by
      rw [List.filterMap_eq_nil_iff]
      intro e he
      obtain ⟨place, hplace, he⟩ := List.mem_flatMap.mp he
      exact (hslot place hplace e he).1
    rw [junkShown, heffects, List.filterMap_cons, List.filterMap_append, hquiet, List.nil_append]
    rfl
  · intro hending e he
    rw [heffects] at he
    rcases List.mem_cons.mp he with rfl | he
    · rfl
    · rcases List.mem_append.mp he with he | he
      · obtain ⟨place, hplace, he⟩ := List.mem_flatMap.mp he
        exact (hslot place hplace e he).2
      · exact hending e he

end Run

/-- An array without a length field has no entries if the other fields need more than the
buffer or its own entries are empty. Else it has as many as fit behind them: then every entry
of every field is rendered and what is left is less than one entry. -/
theorem descDump_inferred (env : Env) (id : DescId) (m : Memory) (buf bufLen indent : Nat)
    (c : Desc) (hc : c ∈ id.fields) (hinferred : c.inferred = true) :
    let len := effectiveLength m id buf bufLen
    let effects := (descDump env id buf bufLen indent).acts m
    let rendered := effects.filterMap (Effect.renders id)
    let fixed := otherBytes m id buf len c
    let k := entryBytes m id buf len c
    ∃ n, (getArrayEntryCount buf len id.fields c).result m = .ok n ∧
      entriesOf c rendered = List.range n ∧ (len < fixed → n = 0) ∧ (k = 0 → n = 0) ∧
      (fixed ≤ len → 0 < k → fixed + n * k ≤ len ∧ len < fixed + (n + 1) * k ∧
        rendered = allEntries m id buf len ∧ (∀ e ∈ effects, e.lengthWarning = false) ∧
        (junkShown effects).length < k) := by
  have hflat := inferred_flat id c hc hinferred
  obtain ⟨hfirst, hall⟩ := @renders_descDump env m id buf bufLen indent
  obtain ⟨hjunk, hwarning⟩ := @ending_flat env m id buf bufLen indent hflat
  intro len effects rendered fixed k
  have hcount := @entriesIn_inferred m id buf len c hc hinferred
  have htotal := @renderedSize_split m id buf len c hc
  have hlist := @entriesOf_allEntries m id buf len c hc
  have hresult : (getArrayEntryCount buf len id.fields c).result m =
      .ok (entriesIn m id buf len c) := by
    rw [(getArrayEntryCount_computes m buf len (grounded id c hc) (grounded id)).result,
      entriesIn_eq hc, entryCount, if_pos (Bool.and_eq_true_iff.mp hinferred).1]
  have hnone : entriesIn m id buf len c = 0 → entriesOf c rendered = [] := by
    intro hzero
    rw [hzero, List.range_zero] at hlist
    rw [entriesOf, List.filterMap_eq_nil_iff] at hlist ⊢
    exact fun p hp => hlist p (hfirst.subset hp)
  obtain ⟨hshort, hempty, hroom, hnext⟩ := pieces_behind hcount
  have hfits (hle : fixed ≤ len) : (packing len).fits (slots m buf len id.fields) 0 = true := by
    rw [fits_flat hflat, htotal]
    exact hroom hle
  refine ⟨entriesIn m id buf len c, hresult, ?_, hshort, hempty, ?_⟩
  · by_cases hle : fixed ≤ len
    · rw [← hlist]
      exact congrArg (entriesOf c) (hall (hfits hle))
    · have hzero := hshort (Nat.not_le.mp hle)
      rw [hnone hzero, hzero, List.range_zero]
  · intro hle hpos
    have hstop := (stop_flat hflat (hfits hle)).trans htotal
    have hlast := hnext hle hpos
    refine ⟨hroom hle, hlast, hall (hfits hle),
      hwarning (lengthWarning_dumpEnding (hfits hle)), ?_⟩
    rw [hjunk, junkShown_dumpEnding, List.length_range', hstop]
    rw [Nat.add_mul, Nat.one_mul] at hlast
    omega

theorem descDump_inferred_featureUnit :
    ((descDump default .audio1AcFeatureUnit 0 10 3).acts fun _ => 2).filterMap
      (Effect.renders .audio1AcFeatureUnit) =
        allEntries (fun _ => 2) .audio1AcFeatureUnit 0 10 := by
  obtain ⟨n, -, -, -, -, hbehind⟩ := descDump_inferred default .audio1AcFeatureUnit (fun _ => 2)
    0 10 3 ((DescId.fields .audio1AcFeatureUnit).get ⟨3, by decide⟩) (by decide) (by decide)
  exact (hbehind (by decide) (by decide)).2.2.1

end Usbutils
