import Usbutils.Lib.Packing
import Usbutils.Desc.Layout

/-! The two nested loops of `desc_dump` as one: the entries of all fields are
placed one after another until one does not fit. -/
namespace Usbutils
open ByteProg

structure Slot where
  current : Desc
  entries : Nat
  size : Nat
  entry : Nat

/-- An entry takes its size, an extension all that is left. -/
def packing (bufLen : Nat) : Packing.Rule Slot where
  need := Slot.size
  takesRest slot := slot.current.type.isExtension
  limit := bufLen

theorem packing_need (bufLen : Nat) (slot : Slot) : (packing bufLen).need slot = slot.size := rfl

theorem packing_limit (bufLen : Nat) : (packing bufLen).limit = bufLen := rfl

def slotsFrom (current : Desc) (entries size first count : Nat) : List Slot :=
  (List.range' first count).map fun entry => { current, entries, size, entry }

section Slots

variable (m : Memory) (buf bufLen : Nat) (desc : List Desc)

def slotsOf (c : Desc) : List Slot :=
  slotsFrom c (entryCount m buf bufLen desc c) (entrySize m buf bufLen desc c) 0
    (entryCount m buf bufLen desc c)

def slots : List Slot := desc.flatMap (slotsOf m buf bufLen desc)

variable {m buf bufLen desc}

theorem mem_slots {slot : Slot} (h : slot ∈ slots m buf bufLen desc) :
    slot.current ∈ desc ∧ slot.entries = entryCount m buf bufLen desc slot.current ∧
      slot.size = entrySize m buf bufLen desc slot.current := by
  obtain ⟨c, hc, hslot⟩ := List.mem_flatMap.mp h
  obtain ⟨entry, -, rfl⟩ := List.mem_map.mp hslot
  exact ⟨hc, rfl, rfl⟩

theorem mem_placed_slots {slot : Slot} {offset : Nat}
    (h : (slot, offset) ∈ (packing bufLen).placed (slots m buf bufLen desc) 0) :
    slot ∈ slots m buf bufLen desc ∧ offset + slot.size ≤ bufLen := by
  obtain ⟨before, after, hitems, -, -, hfit⟩ := Packing.Rule.mem_placed.mp h
  refine ⟨?_, hfit⟩
  rw [hitems]
  simp

end Slots

section Loops

variable (env : Env) (nested : DescId → Nat → Nat → Dump Unit) (desc : DescId)
  (buf bufLen indent fieldLen : Nat)

def insufficient (offset : Nat) : Dump Unit := do
  print "%*sWarning: Length insufficient for descriptor type.\n"
    [.num ((indent - 1) * 2), .str ""]
  trailingBytes buf bufLen offset
  print "\n" []

def junkAtEnd (offset : Nat) : Dump Unit := do
  print "%*sWarning: Junk at end of descriptor (%zu bytes):\n"
    [.num ((indent - 1) * 2), .str "", .num (bufLen - offset)]
  print "%*s" [.num (indent * 2), .str ""]
  trailingBytes buf bufLen offset
  print "\n" []

def dumpSlot (slot : Slot) (offset : Nat) : Dump Unit :=
  dumpEntry env nested desc buf bufLen indent fieldLen slot.current slot.entries slot.size
    slot.entry offset

/-- The loop over the entries of all fields, without the look-ups between fields. -/
def dumpSlots : List Slot → Nat → Dump (Option Nat)
  | [], offset => pure (some offset)
  | slot :: rest, offset =>
      if offset + slot.size > bufLen then do
        insufficient buf bufLen indent offset
        return none
      else do
        dumpSlot env nested desc buf bufLen indent fieldLen slot offset
        dumpSlots rest ((packing bufLen).next slot offset)

def dumpAll (items : List Slot) : Dump Unit := do
  Prog.emit (.dump desc buf bufLen)
  match ← dumpSlots env nested desc buf bufLen indent fieldLen items 0 with
  | none => pure ()
  | some offset => Prog.when (offset < bufLen) (junkAtEnd buf bufLen indent offset)

variable {env nested desc buf bufLen indent fieldLen} {m : Memory}

theorem result_trailingBytes (offset : Nat) :
    (trailingBytes buf bufLen offset).result m = .ok () := by
  simp [trailingBytes, Prog.result_loop]

@[simp] theorem result_insufficient (buf bufLen indent offset : Nat) :
    (insufficient buf bufLen indent offset).result m = .ok () := by
  simp [insufficient, result_trailingBytes]

@[simp] theorem result_junkAtEnd (buf bufLen indent offset : Nat) :
    (junkAtEnd buf bufLen indent offset).result m = .ok () := by
  simp [junkAtEnd, result_trailingBytes]

theorem dumpSlots_append (left right : List Slot) (offset : Nat) :
    dumpSlots env nested desc buf bufLen indent fieldLen (left ++ right) offset = (do
      match ← dumpSlots env nested desc buf bufLen indent fieldLen left offset with
      | none => return none
      | some offset => dumpSlots env nested desc buf bufLen indent fieldLen right offset) := by
  induction left generalizing offset with
  | nil => simp [dumpSlots]
  | cons slot left ih =>
      rw [List.cons_append, dumpSlots, dumpSlots]
      split
      · simp
      · simp [ih]

theorem dumpEntries_eq (c : Desc) (entries size count first offset : Nat) :
    dumpEntries env nested desc buf bufLen indent fieldLen c entries size count first offset =
      dumpSlots env nested desc buf bufLen indent fieldLen (slotsFrom c entries size first count)
        offset := by
  induction count generalizing first offset with
  | zero => rfl
  | succ count ih =>
      have hitems : slotsFrom c entries size first (count + 1) =
          { current := c, entries, size, entry := first } ::
            slotsFrom c entries size (first + 1) count := by
        simp [slotsFrom, List.range'_succ]
      rw [hitems, dumpEntries, dumpSlots]
      simp only [ih, insufficient, bind_assoc]
      rfl

/-- Both loops go over the entries of all fields. -/
theorem dumpFields_asIf {fields : List Desc} (hfields : ∀ c ∈ fields, c.Grounded desc.fields)
    (offset : Nat) :
    Prog.AsIf buf (buf + bufLen)
      (dumpFields env nested desc buf bufLen indent fieldLen fields offset)
      (dumpSlots env nested desc buf bufLen indent fieldLen
        (fields.flatMap (slotsOf m buf bufLen desc.fields)) offset) m := by
  induction fields generalizing offset with
  | nil => exact Prog.AsIf.refl _
  | cons c rest ih =>
      obtain ⟨hc, hrest⟩ := List.forall_mem_cons.mp hfields
      rw [dumpFields, List.flatMap_cons, dumpSlots_append]
      apply Prog.AsIf.of_computes (entryCount_computes m buf bufLen hc (grounded desc))
      apply Prog.AsIf.of_computes (getEntrySize_computes m buf bufLen hc)
      rw [dumpEntries_eq]
      apply (Prog.AsIf.refl _).bind
      intro stop
      cases stop with
      | none => exact Prog.AsIf.refl _
      | some offset => exact ih hrest offset

section Run

variable {items : List Slot} (hitems : ∀ slot ∈ items, ∀ offset, (dumpSlot env nested desc buf
  bufLen indent fieldLen slot offset).result m = .ok ())
include hitems

theorem result_dumpSlots (offset : Nat) :
    (dumpSlots env nested desc buf bufLen indent fieldLen items offset).result m =
      .ok (if (packing bufLen).fits items offset = true then
        some ((packing bufLen).stop items offset) else none) := by
  induction items generalizing offset with
  | nil => rfl
  | cons slot rest ih =>
      obtain ⟨hslot, hrest⟩ := List.forall_mem_cons.mp hitems
      rw [dumpSlots, Packing.Rule.fits, Packing.Rule.stop]
      simp only [packing_need, packing_limit]
      by_cases hfull : offset + slot.size > bufLen
      · simp only [hfull, if_true, Prog.result_bind, result_insufficient]
        rfl
      · simp only [hfull, if_false, Prog.result_bind, hslot, ih hrest]

theorem acts_dumpSlots (offset : Nat) :
    (dumpSlots env nested desc buf bufLen indent fieldLen items offset).acts m =
      ((packing bufLen).placed items offset).flatMap (fun place =>
        (dumpSlot env nested desc buf bufLen indent fieldLen place.1 place.2).acts m) ++
      if (packing bufLen).fits items offset = true then []
        else (insufficient buf bufLen indent ((packing bufLen).stop items offset)).acts m := by
  induction items generalizing offset with
  | nil => rfl
  | cons slot rest ih =>
      obtain ⟨hslot, hrest⟩ := List.forall_mem_cons.mp hitems
      rw [dumpSlots, Packing.Rule.placed, Packing.Rule.fits, Packing.Rule.stop]
      simp only [packing_need, packing_limit]
      by_cases hfull : offset + slot.size > bufLen
      · simp only [hfull, if_true, Prog.acts_bind_ok (result_insufficient buf bufLen indent offset),
          Prog.acts_pure, List.append_nil]
        rfl
      · simp only [hfull, if_false, Prog.acts_bind_ok (hslot _), ih hrest, List.flatMap_cons,
          List.append_assoc]

end Run

theorem all_dumpSlots {E : Entry Effect → Prop} {items : List Slot} {offset : Nat}
    (hslots : ∀ place ∈ (packing bufLen).placed items offset, Prog.All E
      (dumpSlot env nested desc buf bufLen indent fieldLen place.1 place.2) m)
    (hend : Prog.All E
      (insufficient buf bufLen indent ((packing bufLen).stop items offset)) m) :
    Prog.All E (dumpSlots env nested desc buf bufLen indent fieldLen items offset) m := by
  induction items generalizing offset with
  | nil => exact Prog.all_pure _
  | cons slot rest ih =>
      rw [Packing.Rule.placed] at hslots
      rw [Packing.Rule.stop] at hend
      simp only [packing_need, packing_limit] at hslots hend
      rw [dumpSlots]
      by_cases hfull : offset + slot.size > bufLen
      · simp only [hfull, if_true] at hend
        simpa [hfull] using hend
      · simp only [hfull, if_false] at hslots hend
        rw [if_neg hfull]
        obtain ⟨hslot, hrest⟩ := List.forall_mem_cons.mp hslots
        exact (Prog.all_bind ..).mpr ⟨hslot, fun _ _ => ih hrest hend⟩

end Loops

end Usbutils
