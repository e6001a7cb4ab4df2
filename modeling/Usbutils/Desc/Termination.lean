import Usbutils.Desc.Layout

/-! `get_entry_size` and `get_value_from_field` call each other. They come to an end for each
entry of a definition exactly if no entry has its size in a later field, or in none. -/
namespace Usbutils
open ByteProg

def NeverStops {α : Type} (stop : Stop) (p : Dump α) (m : Memory) : Prop := p.result m ≠ .error stop

abbrev Halts {α : Type} (p : Dump α) (m : Memory) : Prop := NeverStops .endless p m

/-- Each `size_field` names a field at the same or an earlier position. -/
def EarlierSizes (desc : List Desc) : Prop :=
  ∀ k, ∀ h : k < desc.length, ∀ field ∈ desc[k].sizeField,
    ∃ target ∈ desc.take (k + 1), target.field = field

instance (desc : List Desc) : Decidable (EarlierSizes desc) :=
  inferInstanceAs (Decidable (∀ k, ∀ h : k < desc.length, ∀ field ∈ desc[k].sizeField,
    ∃ target ∈ desc.take (k + 1), target.field = field))

section Lookup

variable {m : Memory} {buf bufLen : Nat} {desc : List Desc} {α β : Type}

theorem returns_neverStops {p : Dump α} (h : Prog.Returns p m) (stop : Stop) :
    NeverStops stop p m := by
  obtain ⟨a, ha⟩ := h
  rw [NeverStops, ha]
  exact nofun

theorem neverStops_stop {stop other : Stop} (h : other ≠ stop) :
    NeverStops stop (Prog.stop other : Dump α) m := by
  rw [NeverStops, Prog.result_stop]
  exact fun heq => h (Except.error.inj heq)

theorem NeverStops.bind {stop : Stop} {p : Dump α} {f : α → Dump β} (hp : NeverStops stop p m)
    (hf : ∀ a, NeverStops stop (f a) m) : NeverStops stop (p >>= f) m := by
  unfold NeverStops at hp ⊢
  rw [Prog.result_bind]
  cases hresult : p.result m with
  | error other =>
      rw [hresult] at hp
      exact fun h => hp (congrArg Except.error (Except.error.inj h))
  | ok a => exact hf a

theorem NeverStops.ite {stop : Stop} {c : Prop} [Decidable c] {p q : Dump α}
    (hp : NeverStops stop p m) (hq : NeverStops stop q m) :
    NeverStops stop (if c then p else q) m := by
  split
  · exact hp
  · exact hq

theorem returns_pure (a : α) : Prog.Returns (pure a : Dump α) m := .of_result rfl

theorem neverStops_pure (stop : Stop) (a : α) : NeverStops stop (pure a : Dump α) m :=
  returns_neverStops (returns_pure a) stop

theorem getNBytesAsUll_returns (buf offset bytes : Nat) :
    Prog.Returns (getNBytesAsUll buf offset bytes) m :=
  .of_result (getNBytesAsUll_computes m (Nat.le_refl _) (Nat.le_refl _)).result

theorem fieldSearch_returns {sizeOf : Desc → Dump Nat} {field : String} {fields : List Desc}
    (offset : Nat)
    (h : ∀ c ∈ fields.takeWhile (·.field ≠ field), Prog.Returns (sizeOf c) m) :
    Prog.Returns (fieldSearch sizeOf field fields offset) m := by
  induction fields generalizing offset with
  | nil => exact returns_pure _
  | cons current rest ih =>
      rw [fieldSearch]
      apply Prog.Returns.ite
      · exact fun _ => returns_pure _
      · intro hne
        rw [List.takeWhile_cons_of_pos (by simpa using hne)] at h
        obtain ⟨hcurrent, hrest⟩ := List.forall_mem_cons.mp h
        exact hcurrent.bind fun size _ => ih _ hrest

theorem before_target {field : String} {front rest : List Desc} {entry target : Desc}
    (htarget : target ∈ front ++ [entry]) (hfield : target.field = field) :
    ∀ c ∈ (front ++ entry :: rest).takeWhile (·.field ≠ field), c ∈ front := by
  induction front with
  | nil =>
      obtain rfl : target = entry := by simpa using htarget
      rw [List.nil_append, List.takeWhile_cons_of_neg (by simpa using hfield)]
      exact List.forall_mem_nil _
  | cons first front ih =>
      rw [List.cons_append]
      by_cases hfirst : first.field = field
      · rw [List.takeWhile_cons_of_neg (by simpa using hfirst)]
        exact List.forall_mem_nil _
      · rw [List.takeWhile_cons_of_pos (by simpa using hfirst)]
        have hrest : target ∈ front ++ [entry] := by
          rcases List.mem_cons.mp htarget with rfl | h
          · exact absurd hfield hfirst
          · exact h
        refine List.forall_mem_cons.mpr ⟨List.mem_cons_self, fun c hc => ?_⟩
        exact List.mem_cons_of_mem first (ih hrest c hc)

theorem valueAtDepth_returns {depth : Nat} {field : String}
    (h : ∀ c ∈ desc.takeWhile (·.field ≠ field),
      Prog.Returns (entrySizeBy (valueAtDepth buf bufLen desc depth) c) m) :
    Prog.Returns (valueAtDepth buf bufLen desc (depth + 1) field) m := by
  rw [valueAtDepth]
  apply (fieldSearch_returns 0 h).bind
  rintro (_ | ⟨current, offset⟩) -
  · exact returns_pure 0
  · exact .ite (fun _ => getNBytesAsUll_returns ..) fun _ => returns_pure 0

variable (hpositive : ∀ entry ∈ desc, entry.sizeField = none → 0 < entry.size)
include hpositive

/-- One level of calls is enough for one more field: its size is in a field that has only the
fields at smaller positions before it. -/
theorem entrySize_returns (hearlier : EarlierSizes desc) (depth : Nat) :
    ∀ c ∈ desc.take depth, Prog.Returns (entrySizeBy (valueAtDepth buf bufLen desc depth) c) m := by
  induction depth with
  | zero => exact List.forall_mem_nil _
  | succ depth ih =>
      intro c hc
      obtain ⟨k, hk, rfl⟩ := List.mem_take_iff_getElem.mp hc
      have hlength : k < desc.length := by omega
      unfold entrySizeBy
      cases hsize : desc[k].sizeField with
      | none =>
          have hne : desc[k].size ≠ 0 := by
            have := hpositive desc[k] (List.getElem_mem hlength) hsize
            omega
          simp only [hne, if_false]
          exact returns_pure _
      | some field =>
          obtain ⟨target, htarget, hfield⟩ := hearlier k hlength field hsize
          rw [List.take_succ_eq_append_getElem hlength] at htarget
          have hbefore :=
            @before_target field (desc.take k) (desc.drop (k + 1)) _ target htarget hfield
          rw [List.getElem_cons_drop, List.take_append_drop] at hbefore
          have hvalue : Prog.Returns (valueAtDepth buf bufLen desc (depth + 1) field) m := by
            apply valueAtDepth_returns
            intro c hc
            exact ih c (List.take_subset_take_left desc (by omega) (hbefore c hc))
          exact hvalue.bind fun value _ => returns_pure _

theorem lookups_return (hearlier : EarlierSizes desc) :
    (∀ field, Prog.Returns (getValueFromField buf bufLen desc field) m) ∧
      ∀ entry ∈ desc, Prog.Returns (getEntrySize buf bufLen desc entry) m := by
  constructor
  · intro field
    apply valueAtDepth_returns
    intro c hc
    apply entrySize_returns hpositive hearlier desc.length
    rw [List.take_length]
    exact List.takeWhile_subset _ hc
  · intro entry hentry
    apply entrySize_returns hpositive hearlier (desc.length + 1)
    rwa [List.take_of_length_le (by omega)]

omit hpositive in
theorem explicitCount_returns
    (hvalue : ∀ field, Prog.Returns (getValueFromField buf bufLen desc field) m)
    (array : DescArray) (lengthField1 : String) :
    Prog.Returns (explicitCount buf bufLen desc array lengthField1) m := by
  unfold explicitCount
  apply (hvalue lengthField1).bind
  rintro entries -
  cases array.lengthField2 with
  | none => exact (returns_pure _).bind fun entries _ => returns_pure _
  | some lengthField2 =>
      have hproduct := (hvalue lengthField2).bind fun n _ =>
        returns_pure (m := m) (entries % 2 ^ 32 * n % 2 ^ 32)
      exact hproduct.bind fun entries _ => returns_pure _

theorem getArrayEntryCount_halts (hearlier : EarlierSizes desc) {arrayEntry : Desc}
    (harray : arrayEntry ∈ desc) : Halts (getArrayEntryCount buf bufLen desc arrayEntry) m := by
  obtain ⟨hvalue, hsize⟩ := @lookups_return m buf bufLen desc hpositive hearlier
  have hcount := explicitCount_returns hvalue
  have hother : ∀ c ∈ desc, Halts (otherFieldSize buf bufLen desc c) m := by
    intro c hc
    unfold otherFieldSize
    have hentry : Halts (getEntrySize buf bufLen desc c) m := returns_neverStops (hsize c hc) _
    apply NeverStops.ite
    · cases c.array.lengthField1 with
      | none => exact neverStops_pure _ _
      | some lengthField1 =>
          refine (returns_neverStops (hcount c.array lengthField1) _).bind fun count => ?_
          have hprint : Halts (printError
              "Bad descriptor definition; multiple inferred-length arrays.\n" []) m :=
            returns_neverStops (.of_result rfl) _
          refine .ite (hprint.bind fun _ => neverStops_stop (by decide)) ?_
          exact hentry.bind fun size => neverStops_pure _ _
    · exact hentry.bind fun size => neverStops_pure _ _
  have hremaining : ∀ (fields : List Desc), fields ⊆ desc → ∀ size,
      Halts (remainingSize buf bufLen desc arrayEntry fields size) m := by
    intro fields hfields
    induction fields with
    | nil => exact fun size => neverStops_pure _ _
    | cons current rest ih =>
        obtain ⟨hcurrent, hrest⟩ := List.cons_subset.mp hfields
        intro size
        rw [remainingSize]
        apply NeverStops.ite (ih hrest size)
        refine (hother current hcurrent).bind fun fieldSize => ?_
        cases fieldSize with
        | none => exact neverStops_pure _ _
        | some fieldSize => exact .ite (neverStops_pure _ _) (ih hrest _)
  unfold getArrayEntryCount
  cases arrayEntry.array.lengthField1 with
  | some lengthField1 => exact returns_neverStops (hcount _ lengthField1) _
  | none =>
      refine (hremaining desc (List.Subset.refl desc) bufLen).bind fun size => ?_
      cases size with
      | error entries => exact neverStops_pure _ _
      | ok size =>
          exact (returns_neverStops (hsize arrayEntry harray) _).bind fun _ => neverStops_pure _ _

omit hpositive in
theorem fieldSearch_neverStops {stop : Stop} {sizeOf : Desc → Dump Nat} (field : String)
    {fields : List Desc} (offset : Nat) (h : ∀ c ∈ fields, NeverStops stop (sizeOf c) m) :
    NeverStops stop (fieldSearch sizeOf field fields offset) m := by
  induction fields generalizing offset with
  | nil => exact neverStops_pure _ _
  | cons current rest ih =>
      obtain ⟨hcurrent, hrest⟩ := List.forall_mem_cons.mp h
      rw [fieldSearch]
      exact .ite (neverStops_pure _ _) (hcurrent.bind fun size => ih _ hrest)

theorem entrySizeBy_neverExits {valueOf : String → Dump Nat}
    (hvalue : ∀ field, NeverStops .exit (valueOf field) m) {entry : Desc} (hentry : entry ∈ desc) :
    NeverStops .exit (entrySizeBy valueOf entry) m := by
  unfold entrySizeBy
  cases hsize : entry.sizeField with
  | some field => exact (hvalue field).bind fun value => neverStops_pure _ _
  | none =>
      have hne : entry.size ≠ 0 := Nat.pos_iff_ne_zero.mp (hpositive entry hentry hsize)
      simp only [hne, if_false]
      exact neverStops_pure _ _

theorem valueAtDepth_neverExits (depth : Nat) (field : String) :
    NeverStops .exit (valueAtDepth buf bufLen desc depth field) m := by
  induction depth generalizing field with
  | zero => exact neverStops_stop (by decide)
  | succ depth ih =>
      rw [valueAtDepth]
      refine (fieldSearch_neverStops field 0 fun c hc =>
        entrySizeBy_neverExits hpositive ih hc).bind ?_
      rintro (_ | ⟨current, offset⟩)
      · exact neverStops_pure _ _
      · exact .ite (returns_neverStops (getNBytesAsUll_returns ..) _) (neverStops_pure _ _)

omit hpositive in
theorem fieldSearch_endless {sizeOf : Desc → Dump Nat} {field : String} {front rest : List Desc}
    {entry : Desc} (offset : Nat) (hfield : ∀ c ∈ front ++ [entry], c.field ≠ field)
    (hfront : ∀ c ∈ front, NeverStops .exit (sizeOf c) m)
    (hentry : (sizeOf entry).result m = .error .endless) :
    (fieldSearch sizeOf field (front ++ entry :: rest) offset).result m = .error .endless := by
  induction front generalizing offset with
  | nil =>
      rw [List.nil_append, fieldSearch, if_neg (hfield entry (by simp)), Prog.result_bind, hentry]
  | cons current front ih =>
      obtain ⟨hcurrent, hfront⟩ := List.forall_mem_cons.mp hfront
      obtain ⟨hne, hfield⟩ := List.forall_mem_cons.mp hfield
      rw [List.cons_append, fieldSearch, if_neg hne, Prog.result_bind]
      cases hresult : (sizeOf current).result m with
      | ok size => exact ih _ hfield hfront
      | error stop =>
          cases stop with
          | exit => exact absurd hresult hcurrent
          | endless => rfl

omit hpositive in
theorem entrySizeBy_endless {valueOf : String → Dump Nat} {entry : Desc} {field : String}
    (hsize : entry.sizeField = some field) (hvalue : (valueOf field).result m = .error .endless) :
    (entrySizeBy valueOf entry).result m = .error .endless := by
  unfold entrySizeBy
  simp only [hsize]
  rw [Prog.result_bind, hvalue]

theorem entrySize_endless {k : Nat} (hk : k < desc.length) {field : String}
    (hsize : desc[k].sizeField = some field) (hfield : ∀ c ∈ desc.take (k + 1), c.field ≠ field)
    (depth : Nat) :
    (entrySizeBy (valueAtDepth buf bufLen desc depth) desc[k]).result m = .error .endless := by
  apply entrySizeBy_endless hsize
  induction depth with
  | zero => rfl
  | succ depth ih =>
      rw [List.take_succ_eq_append_getElem hk] at hfield
      have hsearch := @fieldSearch_endless m _ field (desc.take k) (desc.drop (k + 1)) desc[k] 0
        hfield (fun c hc => entrySizeBy_neverExits hpositive
          (valueAtDepth_neverExits hpositive depth) (List.mem_of_mem_take hc))
        (entrySizeBy_endless hsize ih)
      rw [List.getElem_cons_drop, List.take_append_drop] at hsearch
      rw [valueAtDepth, Prog.result_bind, hsearch]

end Lookup

theorem earlierSizes (id : DescId) : EarlierSizes id.fields := by
  cases id <;> decide

/-- The size of every entry is found at some depth of calls exactly if the sizes are in earlier
fields, as they are in all definitions; then all look-ups come to their end. -/
theorem getEntrySize_halts_iff (m : Memory) (buf bufLen : Nat) {desc : List Desc}
    (hpositive : ∀ entry ∈ desc, entry.sizeField = none → 0 < entry.size) :
    ((∀ entry ∈ desc, ∃ depth, Halts (entrySizeBy (valueAtDepth buf bufLen desc depth) entry) m) ↔
      EarlierSizes desc) ∧
    (EarlierSizes desc →
      (∀ entry ∈ desc, Halts (getEntrySize buf bufLen desc entry) m) ∧
      (∀ field, Halts (getValueFromField buf bufLen desc field) m) ∧
      ∀ entry ∈ desc, Halts (getArrayEntryCount buf bufLen desc entry) m) ∧
    ∀ id : DescId, EarlierSizes id.fields := by
  refine ⟨⟨?_, ?_⟩, ?_, earlierSizes⟩
  · intro h k hk field hfield
    by_contra hnone
    obtain ⟨depth, hhalts⟩ := h desc[k] (List.getElem_mem hk)
    push Not at hnone
    exact hhalts (entrySize_endless hpositive hk hfield hnone depth)
  · intro hearlier entry hentry
    obtain ⟨-, hsize⟩ := @lookups_return m buf bufLen desc hpositive hearlier
    exact ⟨_, returns_neverStops (hsize entry hentry) _⟩
  · intro hearlier
    obtain ⟨hvalue, hsize⟩ := @lookups_return m buf bufLen desc hpositive hearlier
    exact ⟨fun entry hentry => returns_neverStops (hsize entry hentry) _,
      fun field => returns_neverStops (hvalue field) _,
      fun entry hentry => getArrayEntryCount_halts hpositive hearlier hentry⟩

theorem getEntrySize_halts_feature :
    EarlierSizes DescId.audio1AcFeatureUnit.fields ∧
      ∀ entry ∈ DescId.audio1AcFeatureUnit.fields, ∃ depth,
        Halts (entrySizeBy (valueAtDepth 0 9 DescId.audio1AcFeatureUnit.fields depth) entry)
          fun _ => 0 :=
  have hearlier := earlierSizes .audio1AcFeatureUnit
  ⟨hearlier, (getEntrySize_halts_iff (fun _ => 0) 0 9 (by decide)).1.mpr hearlier⟩

end Usbutils
