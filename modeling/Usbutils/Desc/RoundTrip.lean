import Usbutils.Desc.Reference
import Usbutils.Desc.Show

/-! Encoding values by a definition and dumping the bytes shows the values. -/
namespace Usbutils
open ByteProg

/-- The values of the entries of every field, by the name of the field. -/
abbrev Values := String → List Nat

def Desc.inferred (c : Desc) : Bool := c.array.array && c.array.lengthField1.isNone

namespace Values

variable (v : Values)

def scalar (field : String) : Nat := (v field).headD 0

def size (c : Desc) : Nat := c.sizeField.elim c.size v.scalar

def count (c : Desc) : Option Nat :=
  if c.array.array then
    c.array.lengthField1.map fun lengthField1 =>
      let entries := v.scalar lengthField1 * c.array.lengthField2.elim 1 v.scalar
      if c.array.bits then (entries + 7) / 8 else entries
  else some 1

structure Fit (id : DescId) : Prop where
  count : ∀ c ∈ id.fields, ∀ n ∈ v.count c, (v c.field).length = n
  size : ∀ c ∈ id.fields, c.sizeField ≠ none → 1 ≤ v.size c ∧ v.size c ≤ 8
  value : ∀ c ∈ id.fields, ∀ x ∈ v c.field, x < 256 ^ v.size c

def encodeField (c : Desc) : List UInt8 := (v c.field).flatMap (leBytes (v.size c))

/-- The little-endian concatenation of the values. -/
def encode (id : DescId) : List UInt8 := id.fields.flatMap v.encodeField

def nameChars (c : Desc) : Nat :=
  c.field.length + if c.array.array then getCharCountForArrayIndex (v c.field).length else 0

def width (id : DescId) : Nat := id.fields.foldl (fun width c => max width (v.nameChars c)) 18

/-- What is printed for the values of a definition: each name and each value, in order. -/
def shown (env : Env) (id : DescId) (indent : Nat) : List Effect :=
  id.fields.flatMap fun c => (v c.field).zipIdx.flatMap fun (x, entry) =>
    (do
      fieldRender entry (v c.field).length (v.width id) c indent
      showValue env c.type (v.size c) x indent : Dump Unit).acts fun _ => 0

def entries (id : DescId) : List (String × Nat × Nat) :=
  id.fields.flatMap fun c => (v c.field).zipIdx.map fun (x, entry) => (c.field, entry, x)

end Values

def Values.slots (v : Values) (id : DescId) : List (Slot × Nat) :=
  id.fields.flatMap fun c => (v c.field).zipIdx.map fun (x, entry) =>
    ({ current := c, entries := (v c.field).length, size := v.size c, entry }, x)

/-- No extension, and no reference to a field behind an array. -/
def DescId.Direct (id : DescId) : Prop :=
  (∀ c ∈ id.fields, c.type.isExtension = false) ∧
    ∀ field ∈ referenced id, ∀ c ∈ before id.fields field, c.array.array = false

instance (id : DescId) : Decidable id.Direct := inferInstanceAs (Decidable (_ ∧ _))

def Effect.rendering (m : Memory) : Effect → Option (String × Nat × Nat)
  | .field _ current entry address size => some (current.field, entry, leValue m address size)
  | _ => none

theorem inferred_unique (id : DescId) : ∀ c ∈ id.fields, c.inferred = true →
    ∀ c' ∈ id.fields, c'.field ≠ c.field → c'.inferred = false := by
  cases id <;> decide

theorem fields_split {id : DescId} {c : Desc} (hc : c ∈ id.fields) :
    ∃ left right, id.fields = left ++ c :: right ∧
      id.fields.filter (fun c' => c'.field ≠ c.field) = left ++ right := by
  obtain ⟨left, right, hsplit⟩ := List.append_of_mem hc
  have hnodup := names_nodup id
  rw [hsplit, List.map_append, List.map_cons, List.nodup_append] at hnodup
  obtain ⟨-, hcons, hdisjoint⟩ := hnodup
  have hleft : ∀ c' ∈ left, c'.field ≠ c.field := fun c' hc' =>
    hdisjoint _ (List.mem_map_of_mem hc') _ (List.mem_cons_self ..)
  have hright : ∀ c' ∈ right, c'.field ≠ c.field := fun c' hc' heq =>
    (List.nodup_cons.mp hcons).1 (heq ▸ List.mem_map_of_mem hc')
  refine ⟨left, right, hsplit, ?_⟩
  rw [hsplit, List.filter_append, List.filter_cons_of_neg (by simp),
    List.filter_eq_self.mpr (by simpa using hleft), List.filter_eq_self.mpr (by simpa using hright)]

theorem otherSize_eq {m : Memory} {buf len : Nat} {desc : List Desc} {c : Desc}
    (h : c.inferred = false) :
    otherSize m buf len desc c =
      some (entryCount m buf len desc c * entrySize m buf len desc c) := by
  unfold otherSize entryCount arrayEntries
  by_cases harray : c.array.array = true
  · cases hlength : c.array.lengthField1 with
    | none => simp [Desc.inferred, harray, hlength] at h
    | some lengthField1 => simp [harray, Nat.mul_comm]
  · simp [harray]

theorem remaining_eq {m : Memory} {buf len : Nat} {desc : List Desc} {array : Desc}
    {rest : List Desc} {size : Nat}
    (hother : ∀ c ∈ rest, c.field ≠ array.field → c.inferred = false) :
    remaining m buf len desc array rest size =
      if renderedSize m buf len desc (rest.filter fun c => c.field ≠ array.field) ≤ size then
        .ok (size - renderedSize m buf len desc (rest.filter fun c => c.field ≠ array.field))
      else .error 0 := by
  induction rest generalizing size with
  | nil => rfl
  | cons c rest ih =>
      obtain ⟨hc, hrest⟩ := List.forall_mem_cons.mp hother
      rw [remaining]
      by_cases hname : c.field = array.field
      · rw [if_pos hname, ih hrest, List.filter_cons_of_neg (by simp [hname])]
      · rw [if_neg hname, otherSize_eq (hc hname), List.filter_cons_of_pos (by simp [hname]),
          renderedSize, List.map_cons, List.sum_cons, ← renderedSize]
        dsimp only
        split
        · rw [if_neg (by omega)]
        · rw [ih hrest, Nat.sub_sub]
          split
          · rw [if_pos (by omega)]
          · rw [if_neg (by omega)]

section Encoded

variable {v : Values} {id : DescId} {m : Memory} {buf : Nat}

theorem length_encodeField (c : Desc) :
    (v.encodeField c).length = (v c.field).length * v.size c := by
  unfold Values.encodeField
  induction v c.field with
  | nil => simp
  | cons x rest ih =>
      rw [List.flatMap_cons, List.length_append, ih, length_leBytes, List.length_cons,
        Nat.succ_mul, Nat.add_comm]

theorem mem_referenced_of_refs {c : Desc} (hc : c ∈ id.fields) {field : String}
    (h : field ∈ c.refs) : field ∈ referenced id :=
  List.mem_flatMap.mpr ⟨c, hc, h⟩

theorem length_encode_fixed (hv : v.Fit id) {front : List Desc}
    (hfront : ∀ c ∈ front, c ∈ id.fields ∧ c.sizeField = none ∧ c.array.array = false) :
    (front.flatMap v.encodeField).length = (front.map Desc.size).sum := by
  induction front with
  | nil => rfl
  | cons c front ih =>
      obtain ⟨⟨hc, hfixed, harray⟩, hrest⟩ := List.forall_mem_cons.mp hfront
      have hcount := hv.count c hc 1 (by simp [Values.count, harray])
      rw [List.flatMap_cons, List.length_append, ih hrest, length_encodeField, hcount,
        List.map_cons, List.sum_cons, Values.size, hfixed, Option.elim_none, Nat.one_mul]

theorem fieldValue_encode (hdirect : id.Direct) (hv : v.Fit id)
    (hm : Holds m buf (v.encode id)) {field : String} (hfield : field ∈ referenced id) :
    fieldValue m buf (v.encode id).length id.fields field = v.scalar field := by
  obtain ⟨⟨c, offset⟩, hanchor, hfixed, harray, -⟩ := referenced_fixed id field hfield
  dsimp only at hfixed harray
  obtain ⟨hname, hoffset, after, hsplit⟩ := anchorFrom_spec hanchor
  have hc : c ∈ id.fields := by
    rw [hsplit]
    simp
  have hsub : ∀ c' ∈ before id.fields field, c' ∈ id.fields :=
    fun c' hc' => (List.takeWhile_sublist _).subset hc'
  have hlength := length_encode_fixed hv fun c' hc' =>
    ⟨hsub c' hc', before_sizeField hfield c' hc', hdirect.2 field hfield c' hc'⟩
  have hcount := hv.count c hc 1 (by simp [Values.count, harray])
  obtain ⟨x, hx⟩ := List.length_eq_one_iff.mp hcount
  have hsize : v.size c = c.size := by simp [Values.size, hfixed]
  have hencode : v.encode id = (before id.fields field).flatMap v.encodeField ++
      (leBytes c.size x ++ after.flatMap v.encodeField) := by
    have h : v.encode id = (before id.fields field ++ c :: after).flatMap v.encodeField := by
      rw [← hsplit]
      rfl
    rw [h, List.flatMap_append, List.flatMap_cons, Values.encodeField, hx, hsize]
    simp
  have htotal := congrArg List.length hencode
  simp only [List.length_append, length_leBytes, hlength] at htotal
  rw [hencode, holds_append, holds_append, hlength] at hm
  have hxlt := hv.value c hc x (by rw [hx]; simp)
  rw [hsize] at hxlt
  have hvalue := hm.2.1.leValue_eq hxlt
  have hle := ((grounded id c hc).size hfixed).2
  rw [Nat.zero_add] at hoffset
  rw [fieldValue, hanchor]
  dsimp only
  rw [if_pos (by omega), Nat.min_eq_left hle, hoffset, hvalue, Values.scalar, ← hname, hx]
  rfl

theorem length_encode_split {array : Desc} (harray : array ∈ id.fields) :
    ((id.fields.filter fun c => c.field ≠ array.field).flatMap v.encodeField).length +
      (v.encodeField array).length = (v.encode id).length := by
  obtain ⟨left, right, hsplit, hfilter⟩ := fields_split harray
  have hencode : v.encode id = (left ++ array :: right).flatMap v.encodeField := by
    rw [← hsplit]
    rfl
  rw [hfilter, hencode, List.flatMap_append, List.flatMap_append, List.flatMap_cons]
  simp only [List.length_append]
  omega

theorem size_pos (hv : v.Fit id) {c : Desc} (hc : c ∈ id.fields) : 0 < v.size c ∧ v.size c ≤ 8 := by
  cases hs : c.sizeField with
  | none =>
      rw [Values.size, hs]
      exact (grounded id c hc).size hs
  | some field => exact hv.size c hc (by simp [hs])

section Counts

variable (hdirect : id.Direct) (hv : v.Fit id) (hm : Holds m buf (v.encode id))
include hdirect hv hm

theorem entrySize_encode {c : Desc} (hc : c ∈ id.fields) :
    entrySize m buf (v.encode id).length id.fields c = v.size c := by
  unfold entrySize Values.size
  cases hs : c.sizeField with
  | none => rfl
  | some field =>
      exact fieldValue_encode hdirect hv hm (mem_referenced_of_refs hc (by simp [Desc.refs, hs]))

theorem explicitEntries_encode {c : Desc} (hc : c ∈ id.fields) (harray : c.array.array = true)
    {lengthField1 : String} (hlength : c.array.lengthField1 = some lengthField1) :
    explicitEntries m buf (v.encode id).length id.fields c.array lengthField1 =
      (v c.field).length := by
  have hfirst := fieldValue_encode hdirect hv hm
    (mem_referenced_of_refs hc (by simp [Desc.refs, hlength]) : lengthField1 ∈ referenced id)
  have hsecond : c.array.lengthField2.elim 1
      (fieldValue m buf (v.encode id).length id.fields) =
        c.array.lengthField2.elim 1 v.scalar := by
    cases h2 : c.array.lengthField2 with
    | none => rfl
    | some lengthField2 =>
        exact fieldValue_encode hdirect hv hm
          (mem_referenced_of_refs hc (by simp [Desc.refs, h2]))
  have hcount := hv.count c hc _ (by rw [Values.count, if_pos harray, hlength]; rfl)
  rw [hcount, explicitEntries, hfirst, hsecond]

theorem remaining_encode {array : Desc} (hinferred : ∀ c ∈ id.fields, c.field ≠ array.field →
      c.inferred = false) {rest : List Desc} (hrest : ∀ c ∈ rest, c ∈ id.fields) {size : Nat}
    (hsize : ((rest.filter fun c => c.field ≠ array.field).flatMap v.encodeField).length ≤ size) :
    remaining m buf (v.encode id).length id.fields array rest size =
      .ok (size - ((rest.filter fun c => c.field ≠ array.field).flatMap v.encodeField).length) := by
  have hother : ∀ c ∈ rest.filter fun c => c.field ≠ array.field,
      entryCount m buf (v.encode id).length id.fields c *
        entrySize m buf (v.encode id).length id.fields c = (v.encodeField c).length := by
    intro c hc
    obtain ⟨hmem, hname⟩ := List.mem_filter.mp hc
    have hnot := hinferred c (hrest c hmem) (by simpa using hname)
    rw [length_encodeField, entrySize_encode hdirect hv hm (hrest c hmem), entryCount]
    by_cases harray : c.array.array = true
    · rw [if_pos harray, arrayEntries]
      cases hlength : c.array.lengthField1 with
      | none => simp [Desc.inferred, harray, hlength] at hnot
      | some lengthField1 =>
          exact congrArg (· * v.size c)
            (explicitEntries_encode hdirect hv hm (hrest c hmem) harray hlength)
    · have hone := hv.count c (hrest c hmem) 1 (by simp [Values.count, harray])
      rw [if_neg harray, hone]
  have hsum : renderedSize m buf (v.encode id).length id.fields
      (rest.filter fun c => c.field ≠ array.field) =
        ((rest.filter fun c => c.field ≠ array.field).flatMap v.encodeField).length := by
    rw [renderedSize, List.map_congr_left hother, List.length_flatMap]
  rw [remaining_eq fun c hc => hinferred c (hrest c hc), hsum, if_pos hsize]

theorem entryCount_encode {c : Desc} (hc : c ∈ id.fields) :
    entryCount m buf (v.encode id).length id.fields c = (v c.field).length := by
  unfold entryCount
  by_cases harray : c.array.array = true
  · rw [if_pos harray, arrayEntries]
    cases hlength : c.array.lengthField1 with
    | some lengthField1 => exact explicitEntries_encode hdirect hv hm hc harray hlength
    | none =>
        have hinferred : c.inferred = true := by simp [Desc.inferred, harray, hlength]
        have hsplit := @length_encode_split v id c hc
        have hleft : (v.encode id).length -
            ((id.fields.filter fun c' => c'.field ≠ c.field).flatMap v.encodeField).length =
              (v.encodeField c).length := by omega
        dsimp only
        rw [remaining_encode hdirect hv hm (inferred_unique id c hc hinferred) (fun _ h => h)
          (by omega), hleft]
        dsimp only
        rw [length_encodeField, entrySize_encode hdirect hv hm hc]
        exact Nat.mul_div_cancel _ (size_pos hv hc).1
  · rw [if_neg harray]
    exact (hv.count c hc 1 (by simp [Values.count, harray])).symm

theorem slots_encode :
    slots m buf (v.encode id).length id.fields = (v.slots id).map Prod.fst := by
  unfold slots Values.slots
  rw [List.map_flatMap]
  apply List.flatMap_congr
  intro c hc
  rw [slotsOf, entryCount_encode hdirect hv hm hc, entrySize_encode hdirect hv hm hc, slotsFrom,
    ← List.zipIdx_map_snd 0 (v c.field), List.map_map, List.map_map]
  rfl

end Counts

theorem encode_eq : v.encode id = (v.slots id).flatMap fun p => leBytes p.1.size p.2 := by
  unfold Values.encode Values.slots
  rw [List.flatMap_assoc]
  apply List.flatMap_congr
  intro c hc
  rw [Values.encodeField, List.flatMap_map]
  conv_lhs => rw [← List.zipIdx_map_fst 0 (v c.field), List.flatMap_map]

/-- A dump meets every entry where its value was encoded. -/
theorem placed_values {β : Type} {limit : Nat} {f : Slot → Nat → List β} {g : Slot × Nat → List β}
    {items : List (Slot × Nat)} {offset : Nat}
    (hext : ∀ p ∈ items, p.1.current.type.isExtension = false)
    (hm : Holds m (buf + offset) (items.flatMap fun p => leBytes p.1.size p.2))
    (hfit : offset + (items.flatMap fun p => leBytes p.1.size p.2).length ≤ limit)
    (hfg : ∀ p ∈ items, ∀ o, Holds m (buf + o) (leBytes p.1.size p.2) → o + p.1.size ≤ limit →
      f p.1 o = g p) :
    ((packing limit).placed (items.map Prod.fst) offset).flatMap (fun place => f place.1 place.2) =
      items.flatMap g := by
  induction items generalizing offset with
  | nil => rfl
  | cons p items ih =>
      obtain ⟨hp, hrest⟩ := List.forall_mem_cons.mp hext
      obtain ⟨hfp, hfrest⟩ := List.forall_mem_cons.mp hfg
      rw [List.flatMap_cons, List.length_append, length_leBytes] at hfit
      rw [List.flatMap_cons, holds_append, length_leBytes, Nat.add_assoc] at hm
      have hnext : (packing limit).next p.1 offset = offset + p.1.size := by
        simp [Packing.Rule.next, packing, hp]
      have hroom : ¬offset + (packing limit).need p.1 > (packing limit).limit := by
        rw [packing_need, packing_limit]
        omega
      rw [List.map_cons, Packing.Rule.placed, if_neg hroom, List.flatMap_cons, List.flatMap_cons,
        hnext, ih hrest hm.2 (by omega) hfrest, hfp offset hm.1 (by omega)]

theorem mem_slots_values {p : Slot × Nat} (h : p ∈ v.slots id) :
    p.1.current ∈ id.fields ∧ p.1.entries = (v p.1.current.field).length ∧
      p.1.size = v.size p.1.current ∧ p.2 ∈ v p.1.current.field := by
  obtain ⟨c, hc, hp⟩ := List.mem_flatMap.mp h
  obtain ⟨⟨x, entry⟩, hx, rfl⟩ := List.mem_map.mp hp
  exact ⟨hc, rfl, rfl, List.fst_mem_of_mem_zipIdx hx⟩

theorem blind_fieldRender (entry entries fieldLen : Nat) (c : Desc) (indent : Nat) :
    Prog.Blind (fieldRender entry entries fieldLen c indent) := by
  constructor
  intro m m'
  unfold fieldRender
  split <;> rfl

theorem filter_plain {E : List Effect} (h : ∀ e ∈ E, e.plain) :
    E.filter (fun e => e.owner.isNone) = E :=
  List.filter_eq_self.mpr fun e he => by rw [(h e he).2.2]; rfl

section Dump

variable {env : Env} {nested : DescId → Nat → Nat → Dump Unit} {indent : Nat}
  (hdirect : id.Direct) (hv : v.Fit id)
include hdirect hv

theorem dumpSlot_value {slot : Slot} {x offset len : Nat} (hmem : (slot, x) ∈ v.slots id)
    (hslot : slot ∈ slots m buf len id.fields)
    (hx : Holds m (buf + offset) (leBytes slot.size x)) (hfit : offset + slot.size ≤ len) :
    let acts := (dumpSlot env nested id buf len indent (v.width id) slot offset).acts m
    acts.filter (fun e => e.owner.isNone) = (do
        fieldRender slot.entry slot.entries (v.width id) slot.current indent
        showValue env slot.current.type slot.size x indent : Dump Unit).acts (fun _ => 0) ∧
      acts.filterMap (Effect.rendering m) = [(slot.current.field, slot.entry, x)] := by
  intro acts
  obtain ⟨hc, -, hsize, hxmem⟩ := mem_slots_values hmem
  have hext := hdirect.1 _ hc
  obtain ⟨hpos, hle⟩ := size_pos hv hc
  have hxlt := hv.value _ hc x hxmem
  rw [← hsize] at hpos hle hxlt
  have hvalue := hx.leValue_eq hxlt
  have hrun := @valueRenderer_asIf env nested id slot.current m slot.size buf len indent offset hc
    hext hpos hle (fun hfixed => by rw [hsize, Values.size, hfixed]; rfl)
  rw [hvalue] at hrun
  have hacts : acts = (fieldRender slot.entry slot.entries (v.width id) slot.current indent).acts m ++
      fieldMark id buf (slot, offset) ::
        (showValue env slot.current.type slot.size x indent).acts m := by
    rw [← hrun.acts]
    exact acts_dumpSlot_eq hext
  have hplain := @plain_valueRenderer env nested id m buf len indent offset slot hslot hext hfit
  rw [hrun.acts] at hplain
  have hname := @plain_fieldRender m slot.entry slot.entries (v.width id) indent slot.current
  constructor
  · rw [hacts, List.filter_append, List.filter_cons_of_neg (by simp [fieldMark, Effect.owner]),
      filter_plain hname, filter_plain hplain, Prog.acts_bind_ok (result_fieldRender ..),
      (blind_fieldRender ..).acts_eq m fun _ => 0, (blind_showValue ..).acts_eq m fun _ => 0]
  · have hnone : ∀ e : Effect, e.plain → e.rendering m = none := by
      intro e he
      cases e with
      | field desc current entry address size => cases he.2.2
      | _ => rfl
    rw [hacts, List.filterMap_append, List.filterMap_cons,
      List.filterMap_eq_nil_iff.mpr fun e he => hnone e (hname e he),
      List.filterMap_eq_nil_iff.mpr fun e he => hnone e (hplain e he)]
    simp [fieldMark, Effect.rendering, hvalue]

end Dump

theorem nameWidth_encode (hdirect : id.Direct) (hv : v.Fit id) (hm : Holds m buf (v.encode id))
    {rest : List Desc} (hrest : ∀ c ∈ rest, c ∈ id.fields) (start : Nat) :
    nameWidth m buf (v.encode id).length id.fields rest start =
      rest.foldl (fun width c => max width (v.nameChars c)) start := by
  induction rest generalizing start with
  | nil => rfl
  | cons c rest ih =>
      obtain ⟨hc, hrest⟩ := List.forall_mem_cons.mp hrest
      have hcount := entryCount_encode hdirect hv hm hc
      have hchars : c.field.length + indexChars m buf (v.encode id).length id.fields c =
          v.nameChars c := by
        unfold indexChars Values.nameChars
        unfold entryCount at hcount
        split
        · next harray => rw [if_pos harray] at hcount; rw [hcount]
        · rfl
      rw [nameWidth, List.foldl_cons, hchars, ih hrest]

theorem dumpEnding_encode (hdirect : id.Direct) (hv : v.Fit id) (hm : Holds m buf (v.encode id))
    (indent : Nat) : (dumpEnding buf (v.encode id).length indent
      (slots m buf (v.encode id).length id.fields)).acts m = [] := by
  have hrest : ∀ slot ∈ slots m buf (v.encode id).length id.fields,
      (packing (v.encode id).length).takesRest slot = false :=
    fun slot hslot => hdirect.1 _ (mem_slots hslot).1
  have hsum : ((slots m buf (v.encode id).length id.fields).map
      (packing (v.encode id).length).need).sum = (v.encode id).length := by
    rw [slots_encode hdirect hv hm, List.map_map, congrArg List.length encode_eq, List.length_flatMap]
    simp [packing, Function.comp_def]
  have hfits := (Packing.Rule.fits_of_no_rest hrest (Nat.zero_le _)).mpr (by rw [hsum]; simp [packing])
  have hstop := Packing.Rule.stop_of_no_rest hrest hfits
  rw [hsum, Nat.zero_add] at hstop
  rw [dumpEnding, if_pos hfits, Prog.when, if_neg (by omega)]
  rfl

theorem acts_descDump_encode (env : Env) (hdirect : id.Direct) (hv : v.Fit id)
    (hlen : (v.encode id).length < descBufLenFromBuf) (hm : Holds m buf (v.encode id)) (indent : Nat) :
    (descDump env id buf (v.encode id).length indent).acts m =
      .dump id buf (v.encode id).length ::
        ((packing (v.encode id).length).placed (slots m buf (v.encode id).length id.fields) 0).flatMap
          fun place => (dumpSlot env (descDumpAtDepth env indent 1) id buf (v.encode id).length indent
            (v.width id) place.1 place.2).acts m := by
  have hwidth : nameWidth m buf (v.encode id).length id.fields id.fields 18 = v.width id :=
    nameWidth_encode hdirect hv hm (fun _ h => h) 18
  refine (@acts_descDumpAtDepth env indent 1 id m buf _ (result_nested id)).trans ?_
  rw [effectiveLength_of_lt hlen, hwidth, dumpEnding_encode hdirect hv hm, List.append_nil]

end Encoded

/-- Dumping the encoding of some values prints each name and value in order, and
no warning. -/
theorem descDump_encode (env : Env) (id : DescId) (v : Values) (m : Memory) (buf indent : Nat)
    (hdirect : id.Direct) (hv : v.Fit id) (hlen : (v.encode id).length < descBufLenFromBuf)
    (hm : Holds m buf (v.encode id)) :
    let acts := (descDump env id buf (v.encode id).length indent).acts m
    acts.filter (fun e => e.owner.isNone) = v.shown env id indent ∧
      acts.filterMap (Effect.rendering m) = v.entries id ∧ ∀ e ∈ acts, e.warns = false := by
  intro acts
  have hslots := slots_encode hdirect hv hm
  have hacts : acts = _ := acts_descDump_encode env hdirect hv hlen hm indent
  have hext : ∀ p ∈ v.slots id, p.1.current.type.isExtension = false :=
    fun p hp => hdirect.1 _ (mem_slots_values hp).1
  have hvalue : ∀ p ∈ v.slots id, ∀ o, Holds m (buf + o) (leBytes p.1.size p.2) →
      o + p.1.size ≤ (v.encode id).length → _ :=
    fun p hp o hx hfit => @dumpSlot_value v id m buf env (descDumpAtDepth env indent 1) indent
      hdirect hv p.1 p.2 o (v.encode id).length hp
      (by rw [hslots]; exact List.mem_map_of_mem hp) hx hfit
  have hm' : Holds m (buf + 0) ((v.slots id).flatMap fun p => leBytes p.1.size p.2) := by
    rwa [← encode_eq, Nat.add_zero]
  have hroom : 0 + ((v.slots id).flatMap fun p => leBytes p.1.size p.2).length ≤
      (v.encode id).length := by
    rw [← encode_eq, Nat.zero_add]
  refine ⟨?_, ?_, ?_⟩
  · have hshown := placed_values (f := fun slot o => (dumpSlot env (descDumpAtDepth env indent 1) id
        buf (v.encode id).length indent (v.width id) slot o).acts m |>.filter fun e => e.owner.isNone)
      hext hm' hroom fun p hp o hx hfit => (hvalue p hp o hx hfit).1
    rw [hacts, List.filter_cons_of_neg (by simp [Effect.owner]), List.filter_flatMap, hslots, hshown,
      Values.slots, Values.shown, List.flatMap_assoc]
    simp only [List.flatMap_map]
  · have hentries := placed_values (f := fun slot o => (dumpSlot env (descDumpAtDepth env indent 1) id
        buf (v.encode id).length indent (v.width id) slot o).acts m |>.filterMap (Effect.rendering m))
      hext hm' hroom fun p hp o hx hfit => (hvalue p hp o hx hfit).2
    rw [hacts, List.filterMap_cons_none (by rfl), List.filterMap_flatMap, hslots, hentries,
      Values.slots, Values.entries, List.flatMap_assoc]
    simp only [List.map_eq_flatMap, List.flatMap_assoc, List.flatMap_cons, List.flatMap_nil,
      List.append_nil]
  · intro e he
    rcases mem_descDumpAtDepth (result_nested id) he with
      rfl | ⟨place, -, -, rfl⟩ | hplain | hend | ⟨place, hplace, hext', -⟩
    · rfl
    · rfl
    · exact hplain.2.1
    · rw [effectiveLength_of_lt hlen, dumpEnding_encode hdirect hv hm] at hend
      cases hend
    · have := hdirect.1 _ (mem_slots (mem_placed_slots hplace).1).1
      rw [this] at hext'
      cases hext'

def featureUnitValues : Values
  | "bUnitID" => [7]
  | "bSourceID" => [1]
  | "bControlSize" => [2]
  | "bmaControls" => [259, 2, 0]
  | _ => [0]

theorem descDump_encode_feature_unit :
    let m : Memory := fun a => [7, 1, 2, 3, 1, 2, 0, 0, 0, 0].getD a 0
    ((descDump default .audio1AcFeatureUnit 0 10 3).acts m).filterMap (Effect.rendering m) =
      [("bUnitID", 0, 7), ("bSourceID", 0, 1), ("bControlSize", 0, 2), ("bmaControls", 0, 259),
        ("bmaControls", 1, 2), ("bmaControls", 2, 0), ("iFeature", 0, 0)] :=
  (descDump_encode default .audio1AcFeatureUnit featureUnitValues
    (fun a => [7, 1, 2, 3, 1, 2, 0, 0, 0, 0].getD a 0) 0 3 (by decide)
    ⟨by decide, by decide, by decide⟩ (by decide) (by decide)).2.1

def zeroHeader (n : Nat) : Values := fun field =>
  if field = "baInterfaceNr" then List.replicate n 0 else [0]

theorem zeroHeader_fit (n : Nat) : (zeroHeader n).Fit .audio1AcHeader := by
  constructor <;> intro c hc <;>
    simp [DescId.fields, descAudio1AcHeader] at hc <;> rcases hc with rfl | rfl | rfl | rfl <;>
      simp [zeroHeader, Values.count, Values.size]

theorem encode_zeroHeader (n : Nat) :
    (zeroHeader n).encode .audio1AcHeader = List.replicate (n + 5) 0 := by
  have harray : (List.replicate n 0).flatMap (leBytes 1) = List.replicate n 0 := by
    induction n with
    | zero => rfl
    | succ n ih => rw [List.replicate_succ, List.flatMap_cons, ih]; rfl
  have hfields : (zeroHeader n).encode .audio1AcHeader =
      List.replicate 5 0 ++ (List.replicate n 0).flatMap (leBytes 1) := by
    simp [Values.encode, Values.encodeField, DescId.fields, descAudio1AcHeader, zeroHeader,
      Values.size, leBytes, List.replicate]
  rw [hfields, harray, List.replicate_append_replicate, Nat.add_comm]

theorem descDump_encode_from_buf :
    ¬∀ (env : Env) (id : DescId) (v : Values) (m : Memory) (buf indent : Nat), id.Direct →
      v.Fit id → Holds m buf (v.encode id) →
      ∀ e ∈ (descDump env id buf (v.encode id).length indent).acts m, e.warns = false := by
  intro h
  obtain ⟨n, hn⟩ : ∃ n, n + 5 = descBufLenFromBuf := ⟨4294967290, rfl⟩
  have hlen : ((zeroHeader n).encode .audio1AcHeader).length = descBufLenFromBuf := by
    rw [encode_zeroHeader, List.length_replicate, hn]
  have hholds : Holds (fun _ => 0) 0 ((zeroHeader n).encode .audio1AcHeader) := by
    rw [encode_zeroHeader, Holds, List.length_replicate]
    exact List.eq_replicate_iff.mpr ⟨by simp, by simp⟩
  have hquiet := h default .audio1AcHeader (zeroHeader n) (fun _ => 0) 0 1 (by decide)
    (zeroHeader_fit n) hholds
  rw [hlen] at hquiet
  exact absurd hquiet (by decide)

end Usbutils
