import Usbutils.Desc.Render
import Usbutils.Desc.Slots

/-! Whole runs of `desc_dump`: what they return, what they leave in the log and
which bytes they read. -/
namespace Usbutils
open ByteProg

def firstSize (id : DescId) : Nat := id.fields.head?.elim 0 Desc.size

/-- The buffer length that a call of `desc_dump` works with. -/
def effectiveLength (m : Memory) (id : DescId) (buf bufLen : Nat) : Nat :=
  if bufLen = descBufLenFromBuf then leValue m buf (firstSize id) else bufLen

theorem firstSize_le (id : DescId) : firstSize id ≤ 4 := by
  cases id <;> decide

theorem firstSize_le_of_extension (id : DescId) :
    ∀ c ∈ id.fields, c.type.isExtension = true → firstSize id ≤ 2 := by
  cases id <;> decide

theorem leValue_firstSize_lt (m : Memory) (id : DescId) (buf : Nat) :
    leValue m buf (firstSize id) < 2 ^ 32 :=
  calc leValue m buf (firstSize id) < 256 ^ firstSize id := leValue_lt ..
    _ ≤ 256 ^ 4 := Nat.pow_le_pow_right (by decide) (firstSize_le id)
    _ = 2 ^ 32 := by decide

/-- Where there is an extension, what is left for it is never mistaken for the
request to read the length. -/
theorem effectiveLength_lt {m : Memory} {id : DescId} {buf bufLen : Nat} (h : bufLen < 2 ^ 32)
    {c : Desc} (hc : c ∈ id.fields) (hext : c.type.isExtension = true) :
    effectiveLength m id buf bufLen < descBufLenFromBuf := by
  have hfirst : leValue m buf (firstSize id) < 256 ^ 2 :=
    Nat.lt_of_lt_of_le (leValue_lt ..)
      (Nat.pow_le_pow_right (by decide) (firstSize_le_of_extension id c hc hext))
  unfold effectiveLength descBufLenFromBuf
  split <;> omega

theorem effectiveLength_of_lt {m : Memory} {id : DescId} {buf bufLen : Nat}
    (h : bufLen < descBufLenFromBuf) : effectiveLength m id buf bufLen = bufLen :=
  if_neg (by omega)

theorem isExtension_of_target {t : DescType} {target : DescId} (h : target ∈ t.targets) :
    t.isExtension = true := by
  cases t with
  | extension typeField d => rfl
  | _ => cases h

theorem no_target {id target target' : DescId} {c c' : Desc} (hc : c ∈ id.fields)
    (htarget : target ∈ c.type.targets) (hc' : c' ∈ target.fields)
    (htarget' : target' ∈ c'.type.targets) : False := by
  rw [targets_flat id c hc target htarget c' hc'] at htarget'
  cases htarget'

theorem effectiveLength_target {m : Memory} {id : DescId} {buf bufLen : Nat}
    (hlen : bufLen < 2 ^ 32) {c : Desc} (hc : c ∈ id.fields) {target : DescId}
    (htarget : target ∈ c.type.targets) (offset : Nat) :
    effectiveLength m target (buf + offset) (effectiveLength m id buf bufLen - offset) =
      effectiveLength m id buf bufLen - offset :=
  effectiveLength_of_lt (Nat.lt_of_le_of_lt (Nat.sub_le _ offset)
    (effectiveLength_lt hlen hc (isExtension_of_target htarget)))

theorem bufferLength_computes (m : Memory) (id : DescId) (buf bufLen : Nat) {hi : Nat}
    (hhi : bufLen = descBufLenFromBuf → buf + firstSize id ≤ hi) :
    Prog.Computes buf hi (bufferLength id buf bufLen) m (effectiveLength m id buf bufLen) := by
  unfold bufferLength effectiveLength
  split
  · next hfrom =>
      have hsize := firstSize_le id
      have hread := (@getNBytesAsUll_computes m buf hi buf 0 (firstSize id) (Nat.le_refl _)
        (hhi hfrom)).map (· % 2 ^ 32)
      rwa [Nat.min_eq_left (by omega), Nat.add_zero, Nat.mod_eq_of_lt (leValue_firstSize_lt m id buf)] at hread
  · exact Prog.Computes.pure _

section Run

variable {env : Env} {indent depth : Nat} {id : DescId} {m : Memory} {buf bufLen : Nat}

theorem descDumpAtDepth_asIf {hi : Nat}
    (hhi : buf + effectiveLength m id buf bufLen ≤ hi)
    (hfrom : bufLen = descBufLenFromBuf → buf + firstSize id ≤ hi) :
    let len := effectiveLength m id buf bufLen
    Prog.AsIf buf hi (descDumpAtDepth env indent (depth + 1) id buf bufLen)
      (dumpAll env (descDumpAtDepth env indent depth) id buf len indent
        (nameWidth m buf len id.fields id.fields 18) (slots m buf len id.fields)) m := by
  intro len
  rw [descDumpAtDepth]
  unfold dumpAll
  apply Prog.AsIf.of_computes (bufferLength_computes m id buf bufLen hfrom)
  apply (Prog.AsIf.refl _).bind
  intro _
  apply Prog.AsIf.of_computes ((columnWidth_computes m buf _ (grounded id) (grounded id) 18).mono
    (Nat.le_refl _) hhi)
  apply ((dumpFields_asIf (grounded id) 0).mono (Nat.le_refl _) hhi).bind
  intro stop
  cases stop with
  | none => exact Prog.AsIf.refl _
  | some offset => exact Prog.AsIf.refl _

end Run

section Results

variable {env : Env} {nested : DescId → Nat → Nat → Dump Unit} {id : DescId} {m : Memory}
  {buf bufLen indent fieldLen : Nat}

@[simp] theorem result_fieldRender (entry entries : Nat) (c : Desc) :
    (fieldRender entry entries fieldLen c indent).result m = .ok () := by
  unfold fieldRender
  split <;> simp [minus]

theorem result_dumpSlot (slot : Slot) (offset : Nat) (hcurrent : slot.current ∈ id.fields)
    (hnested : ∀ target ∈ slot.current.type.targets, ∀ buf bufLen,
      (nested target buf bufLen).result m = .ok ()) :
    (dumpSlot env nested id buf bufLen indent fieldLen slot offset).result m = .ok () := by
  have hvalue := @result_valueRenderer env nested id slot.current m slot.size buf bufLen indent
    offset hcurrent hnested
  simp [dumpSlot, dumpEntry, hvalue]

def dumpEnding (buf bufLen indent : Nat) (items : List Slot) : Dump Unit :=
  if (packing bufLen).fits items 0 = true then
    Prog.when ((packing bufLen).stop items 0 < bufLen)
      (junkAtEnd buf bufLen indent ((packing bufLen).stop items 0))
  else insufficient buf bufLen indent ((packing bufLen).stop items 0)

theorem result_dumpAll {items : List Slot} (hitems : ∀ slot ∈ items, ∀ offset,
      (dumpSlot env nested id buf bufLen indent fieldLen slot offset).result m = .ok ()) :
    (dumpAll env nested id buf bufLen indent fieldLen items).result m = .ok () := by
  unfold dumpAll
  rw [Prog.result_bind, Prog.result_emit, Prog.result_bind, result_dumpSlots hitems]
  cases (packing bufLen).fits items 0 <;> simp

theorem acts_dumpAll {items : List Slot} (hitems : ∀ slot ∈ items, ∀ offset,
      (dumpSlot env nested id buf bufLen indent fieldLen slot offset).result m = .ok ()) :
    (dumpAll env nested id buf bufLen indent fieldLen items).acts m =
      .dump id buf bufLen ::
        (((packing bufLen).placed items 0).flatMap (fun place =>
          (dumpSlot env nested id buf bufLen indent fieldLen place.1 place.2).acts m) ++
        (dumpEnding buf bufLen indent items).acts m) := by
  unfold dumpAll dumpEnding
  rw [Prog.acts_bind_ok (Prog.result_emit _ _), Prog.acts_bind_ok (result_dumpSlots hitems 0),
    acts_dumpSlots hitems]
  cases (packing bufLen).fits items 0 <;> simp

end Results

section Depth

variable {env : Env} {indent depth : Nat} {id : DescId} {m : Memory} {buf bufLen : Nat}
  (hnested : ∀ c ∈ id.fields, ∀ target ∈ c.type.targets, ∀ buf bufLen,
    (descDumpAtDepth env indent depth target buf bufLen).result m = .ok ())
include hnested

theorem result_slots {len fieldLen : Nat} :
    ∀ slot ∈ slots m buf len id.fields, ∀ offset,
      (dumpSlot env (descDumpAtDepth env indent depth) id buf len indent fieldLen slot
        offset).result m = .ok () := by
  intro slot hslot offset
  obtain ⟨hcurrent, -⟩ := mem_slots hslot
  exact result_dumpSlot slot offset hcurrent (hnested _ hcurrent)

theorem result_descDumpAtDepth :
    (descDumpAtDepth env indent (depth + 1) id buf bufLen).result m = .ok () := by
  have hrun := @descDumpAtDepth_asIf env indent depth id m buf bufLen _
    (Nat.le_max_left _ (buf + firstSize id)) (fun _ => Nat.le_max_right ..)
  rw [hrun.result]
  exact result_dumpAll (result_slots hnested)

/-- A dump marks its start, shows the entries that fit and ends with its warning. -/
theorem acts_descDumpAtDepth :
    let len := effectiveLength m id buf bufLen
    (descDumpAtDepth env indent (depth + 1) id buf bufLen).acts m =
      .dump id buf len ::
        (((packing len).placed (slots m buf len id.fields) 0).flatMap (fun place =>
          (dumpSlot env (descDumpAtDepth env indent depth) id buf len indent
            (nameWidth m buf len id.fields id.fields 18) place.1 place.2).acts m) ++
        (dumpEnding buf len indent (slots m buf len id.fields)).acts m) := by
  have hrun := @descDumpAtDepth_asIf env indent depth id m buf bufLen _
    (Nat.le_max_left _ (buf + firstSize id)) (fun _ => Nat.le_max_right ..)
  intro len
  rw [hrun.acts]
  exact acts_dumpAll (result_slots hnested)

end Depth

variable {env : Env} {indent : Nat} {id : DescId} {m : Memory} {buf bufLen : Nat}

theorem result_nested (id : DescId) : ∀ c ∈ id.fields, ∀ target ∈ c.type.targets, ∀ buf bufLen,
    (descDumpAtDepth env indent 1 target buf bufLen).result m = .ok () := by
  intro c hc target htarget buf bufLen
  exact result_descDumpAtDepth fun c' hc' _ h => (no_target hc htarget hc' h).elim

theorem result_descDump : (descDump env id buf bufLen indent).result m = .ok () :=
  result_descDumpAtDepth (result_nested id)

end Usbutils
