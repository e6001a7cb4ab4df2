import Usbutils.Desc.Run

/-! Which bytes of its buffer a dump accounts for, and when it prints no warning. -/
namespace Usbutils
open ByteProg

/-- The bytes an effect stands for: those of a rendered entry, or one byte
behind a warning. An extension leaves its bytes to the nested dump. -/
def Effect.shown : Effect → List Nat
  | .field _ current _ address size =>
      if current.type.isExtension then [] else List.range' address size
  | .trailing address => [address]
  | _ => []

def Effect.warns : Effect → Bool
  | .print format _ => isWarning format
  | _ => false

def Effect.owner : Effect → Option DescId
  | .dump desc _ _ => some desc
  | .field desc _ _ _ _ => some desc
  | _ => none

def Effect.renders (desc : DescId) : Effect → Option (Desc × Nat)
  | .field desc' current entry _ _ => if desc' = desc then some (current, entry) else none
  | _ => none

/-- The bytes that an entry of a definition takes up in a buffer ending at `limit`. -/
def Effect.covers (desc : DescId) (limit : Nat) : Effect → List Nat
  | .field desc' current _ address size =>
      if desc' = desc then
        List.range' address (if current.type.isExtension then limit - address else size)
      else []
  | _ => []

def Effect.plain (e : Effect) : Prop :=
  e.shown = [] ∧ e.warns = false ∧ e.owner = none

section Plain

variable {E : List Effect} {m : Memory}

theorem Effect.renders_of_owner {desc : DescId} {e : Effect} (h : e.owner ≠ some desc) :
    e.renders desc = none := by
  cases e with
  | field desc' current entry address size =>
      simp only [Effect.owner, ne_eq, Option.some.injEq] at h
      simp [Effect.renders, h]
  | _ => rfl

theorem Effect.covers_of_owner {desc : DescId} {limit : Nat} {e : Effect}
    (h : e.owner ≠ some desc) : e.covers desc limit = [] := by
  cases e with
  | field desc' current entry address size =>
      simp only [Effect.owner, ne_eq, Option.some.injEq] at h
      simp [Effect.covers, h]
  | _ => rfl

theorem filterMap_renders_of_owner {desc : DescId} (h : ∀ e ∈ E, e.owner ≠ some desc) :
    E.filterMap (Effect.renders desc) = [] :=
  List.filterMap_eq_nil_iff.mpr fun e he => Effect.renders_of_owner (h e he)

theorem flatMap_covers_of_owner {desc : DescId} {limit : Nat} (h : ∀ e ∈ E, e.owner ≠ some desc) :
    E.flatMap (Effect.covers desc limit) = [] :=
  List.flatMap_eq_nil_iff.mpr fun e he => Effect.covers_of_owner (h e he)

theorem Renders.plain {lo hi : Nat} {e : Effect} (h : Renders lo hi (.act e)) : e.plain := by
  cases e with
  | print format args => exact ⟨rfl, h, rfl⟩
  | lookup index size => exact ⟨rfl, rfl, rfl⟩
  | subtract minuend subtrahend => exact ⟨rfl, rfl, rfl⟩
  | _ => cases h

theorem plain_fieldRender {entry entries fieldLen indent : Nat} {c : Desc} :
    ∀ e ∈ (fieldRender entry entries fieldLen c indent).acts m, e.plain := by
  have hall : Prog.All (fun entry => ∀ e, entry = .act e → e.plain)
      (fieldRender entry entries fieldLen c indent) m := by
    unfold fieldRender
    split <;> simp [minus, Effect.plain, Effect.shown, Effect.warns, Effect.owner, isWarning]
  intro e he
  exact hall _ (Prog.mem_acts.mp he) e rfl

end Plain

def fieldMark (id : DescId) (buf : Nat) (place : Slot × Nat) : Effect :=
  .field id place.1.current place.1.entry (buf + place.2) place.1.size

section Slot

variable {env : Env} {nested : DescId → Nat → Nat → Dump Unit} {id : DescId} {m : Memory}
  {buf bufLen indent fieldLen offset : Nat} {slot : Slot}

theorem acts_dumpSlot_eq (hext : slot.current.type.isExtension = false) :
    (dumpSlot env nested id buf bufLen indent fieldLen slot offset).acts m =
      (fieldRender slot.entry slot.entries fieldLen slot.current indent).acts m ++
        fieldMark id buf (slot, offset) :: (valueRenderer env nested slot.current slot.size buf
          bufLen id.fields indent offset).acts m := by
  have hname : (Prog.when (slot.current.type.isExtension = false)
      (fieldRender slot.entry slot.entries fieldLen slot.current indent)).result m = .ok () := by
    simp
  rw [dumpSlot, dumpEntry, Prog.acts_bind_ok hname, Prog.acts_bind_ok (Prog.result_emit _ _),
    Prog.acts_emit, Prog.when, if_pos hext]
  rfl

theorem plain_valueRenderer (hslot : slot ∈ slots m buf bufLen id.fields)
    (hext : slot.current.type.isExtension = false) (hfit : offset + slot.size ≤ bufLen) :
    ∀ e ∈ (valueRenderer env nested slot.current slot.size buf bufLen id.fields indent
      offset).acts m, e.plain := by
  obtain ⟨hcurrent, -, hsize⟩ := mem_slots hslot
  intro e he
  exact (all_valueRenderer hcurrent hext hsize hfit _ (Prog.mem_acts.mp he)).plain

theorem acts_dumpSlot (hslot : slot ∈ slots m buf bufLen id.fields)
    (hext : slot.current.type.isExtension = false) (hfit : offset + slot.size ≤ bufLen) :
    ∃ before after,
      (dumpSlot env nested id buf bufLen indent fieldLen slot offset).acts m = before ++
        .field id slot.current slot.entry (buf + offset) slot.size :: after ∧
      (∀ e ∈ before, e.plain) ∧ ∀ e ∈ after, e.plain :=
  ⟨_, _, acts_dumpSlot_eq hext, plain_fieldRender, plain_valueRenderer hslot hext hfit⟩

theorem mem_acts_dumpSlot (hslot : slot ∈ slots m buf bufLen id.fields)
    (hext : slot.current.type.isExtension = false) (hfit : offset + slot.size ≤ bufLen) {e : Effect}
    (he : e ∈ (dumpSlot env nested id buf bufLen indent fieldLen slot offset).acts m) :
    e = .field id slot.current slot.entry (buf + offset) slot.size ∨ e.plain := by
  obtain ⟨before, after, hacts, hbefore, hafter⟩ := @acts_dumpSlot env nested id m buf bufLen
    indent fieldLen offset slot hslot hext hfit
  rw [hacts] at he
  rcases List.mem_append.mp he with hleft | hright
  · exact Or.inr (hbefore e hleft)
  · rcases List.mem_cons.mp hright with hmark | hright
    · exact Or.inl hmark
    · exact Or.inr (hafter e hright)

theorem acts_dumpSlot_extension (hcurrent : slot.current ∈ id.fields)
    (hext : slot.current.type.isExtension = true) :
    ∃ target ∈ slot.current.type.targets,
      (dumpSlot env nested id buf bufLen indent fieldLen slot offset).acts m =
        .field id slot.current slot.entry (buf + offset) slot.size ::
          (nested target (buf + offset) (bufLen - offset)).acts m := by
  obtain ⟨target, htarget, hrun⟩ := @valueRenderer_extension env nested id slot.current m
    slot.size buf bufLen indent offset hcurrent hext
  refine ⟨target, htarget, ?_⟩
  have hname : Prog.when (slot.current.type.isExtension = false)
      (fieldRender slot.entry slot.entries fieldLen slot.current indent) = pure () :=
    if_neg (by simp [hext])
  rw [dumpSlot, dumpEntry, hname, pure_bind, Prog.acts_bind_ok (Prog.result_emit _ _),
    Prog.acts_emit, hrun.acts]
  rfl

end Slot

section Shown

variable {env : Env} {nested : DescId → Nat → Nat → Dump Unit} {id : DescId} {m : Memory}
  {buf bufLen indent fieldLen offset : Nat}

theorem shown_of_plain {E : List Effect} (h : ∀ e ∈ E, e.plain) : E.flatMap Effect.shown = [] :=
  List.flatMap_eq_nil_iff.mpr fun e he => (h e he).1

theorem shown_trailingBytes :
    ((trailingBytes buf bufLen offset).acts m).flatMap Effect.shown =
      List.range' (buf + offset) (bufLen - offset) := by
  have hbody (i : Nat) : (do
      let byte ← Prog.byte (buf + (offset + i))
      Prog.emit (.trailing (buf + (offset + i)))
      print "%02x " [.num byte] : Dump Unit).acts m =
        [.trailing (buf + offset + i), .print "%02x " [.num (m (buf + offset + i)).toNat]] := by
    simp [Prog.acts_bind, Nat.add_assoc]
  rw [trailingBytes, Prog.acts_loop _ (by simp), List.flatMap_assoc]
  simp only [hbody, List.flatMap_cons, Effect.shown, List.flatMap_nil, List.append_nil]
  rw [← List.map_eq_flatMap, List.range'_eq_map_range]

theorem shown_dumpEnding {items : List Slot} :
    ((dumpEnding buf bufLen indent items).acts m).flatMap Effect.shown =
      List.range' (buf + (packing bufLen).stop items 0)
        (bufLen - (packing bufLen).stop items 0) := by
  unfold dumpEnding
  split
  · by_cases hjunk : (packing bufLen).stop items 0 < bufLen
    · simp [Prog.when, hjunk, junkAtEnd, Prog.acts_bind, result_trailingBytes,
        shown_trailingBytes, Effect.shown]
    · rw [Prog.when, if_neg hjunk, Nat.sub_eq_zero_of_le (by omega)]
      rfl
  · simp [insufficient, Prog.acts_bind, result_trailingBytes, shown_trailingBytes, Effect.shown]

theorem shown_dumpSlot {slot : Slot} (hslot : slot ∈ slots m buf bufLen id.fields)
    (hfit : offset + slot.size ≤ bufLen)
    (hnested : ∀ target ∈ slot.current.type.targets,
      ((nested target (buf + offset) (bufLen - offset)).acts m).flatMap Effect.shown =
        List.range' (buf + offset) (bufLen - offset)) :
    ((dumpSlot env nested id buf bufLen indent fieldLen slot offset).acts m).flatMap Effect.shown =
      List.range' (buf + offset) ((packing bufLen).span slot offset) := by
  unfold Packing.Rule.span
  cases hext : slot.current.type.isExtension with
  | false =>
      obtain ⟨before, after, hacts, hbefore, hafter⟩ := @acts_dumpSlot env nested id m buf bufLen
        indent fieldLen offset slot hslot hext hfit
      rw [hacts, List.flatMap_append, List.flatMap_cons, shown_of_plain hbefore,
        shown_of_plain hafter]
      simp [Effect.shown, hext, packing]
  | true =>
      obtain ⟨target, htarget, hacts⟩ := @acts_dumpSlot_extension env nested id m buf bufLen
        indent fieldLen offset slot (mem_slots hslot).1 hext
      rw [hacts, List.flatMap_cons, hnested target htarget]
      simp [Effect.shown, hext, packing]

theorem shown_descDumpAtDepth {depth : Nat}
    (hreturns : ∀ c ∈ id.fields, ∀ target ∈ c.type.targets, ∀ buf bufLen,
      (descDumpAtDepth env indent depth target buf bufLen).result m = .ok ())
    (hnested : ∀ c ∈ id.fields, ∀ target ∈ c.type.targets,
      ∀ offset ≤ effectiveLength m id buf bufLen,
        ((descDumpAtDepth env indent depth target (buf + offset)
          (effectiveLength m id buf bufLen - offset)).acts m).flatMap Effect.shown =
        List.range' (buf + offset) (effectiveLength m id buf bufLen - offset)) :
    ((descDumpAtDepth env indent (depth + 1) id buf bufLen).acts m).flatMap Effect.shown =
      List.range' buf (effectiveLength m id buf bufLen) := by
  have hacts := @acts_descDumpAtDepth env indent depth id m buf bufLen hreturns
  generalize effectiveLength m id buf bufLen = len at hacts hnested ⊢
  have hbounds := @Packing.Rule.stop_bounds _ (packing len) (slots m buf len id.fields) 0
    (Nat.zero_le _)
  have hslot : ∀ place ∈ (packing len).placed (slots m buf len id.fields) 0,
      ((dumpSlot env (descDumpAtDepth env indent depth) id buf len indent
        (nameWidth m buf len id.fields id.fields 18) place.1 place.2).acts m).flatMap Effect.shown =
      List.range' (buf + place.2) ((packing len).span place.1 place.2) := by
    rintro ⟨slot, offset⟩ hplace
    obtain ⟨hmem, hfit⟩ := mem_placed_slots hplace
    apply shown_dumpSlot hmem hfit
    intro target htarget
    exact hnested _ (mem_slots hmem).1 target htarget offset (by omega)
  rw [packing_limit] at hbounds
  rw [hacts, List.flatMap_cons, List.flatMap_append, List.flatMap_assoc, shown_dumpEnding,
    List.flatMap_congr hslot, Packing.Rule.tiles (R := packing len) buf (Nat.zero_le _)]
  simp only [Effect.shown, List.nil_append, Nat.add_zero, Nat.sub_zero, List.range'_append_1]
  congr 1
  omega

/-- A dump accounts for every byte of its buffer once and in order. -/
theorem descDump_shown (env : Env) (id : DescId) (m : Memory) (buf bufLen indent : Nat)
    (hlen : bufLen < 2 ^ 32) :
    ((descDump env id buf bufLen indent).acts m).flatMap Effect.shown =
      List.range' buf (effectiveLength m id buf bufLen) := by
  apply shown_descDumpAtDepth (result_nested id)
  intro c hc target htarget offset hoffset
  have hflat := @shown_descDumpAtDepth env target m (buf + offset)
    (effectiveLength m id buf bufLen - offset) indent 0
    (fun c' hc' _ h => (no_target hc htarget hc' h).elim)
    (fun c' hc' _ h => (no_target hc htarget hc' h).elim)
  rwa [effectiveLength_target hlen hc htarget] at hflat

end Shown

end Usbutils
