import Usbutils.Ccan.ForEach
import Usbutils.Tree.Print

/-! The memory of `lsusb_t`: which structures are allocated, the rings of `usbdevlist` and
`interfacelist`, and `cleanup` at the end. -/
namespace Usbutils
open Linked Ccan Rings

inductive ListHead where
  | usbdevlist
  | interfacelist
  deriving DecidableEq

inductive Structure where
  | usbdevice (d : Nat)
  | usbinterface (i : Nat)
  | usbbusnode (b : Nat)
  deriving DecidableEq

/-- The memory, and the results of the calls of `malloc`, in order. -/
structure Storage where
  memory : ListMemory ListHead Structure
  mallocs : List Structure

namespace Storage

def initial : Storage := ⟨initialMemory ListHead Structure, []⟩

variable (m : Storage)

def malloc (s : Structure) : Storage := ⟨m.memory.alloc (.entry s), m.mallocs ++ [s]⟩

def free (s : Structure) : Option Storage := do
  let memory ← m.memory.free (.entry s)
  return { m with memory }

@[simp] theorem live_malloc (s : Structure) :
    (m.malloc s).memory.live = Function.update m.memory.live (.entry s) true := rfl

@[simp] theorem freed_malloc (s : Structure) : (m.malloc s).memory.freed = m.memory.freed := rfl

@[simp] theorem mallocs_malloc (s : Structure) : (m.malloc s).mallocs = m.mallocs ++ [s] := rfl

def addTail (h : ListHead) (s : Structure) : Option Storage := do
  let memory ← listAddTail (.head h) (.entry s) m.memory
  return { m with memory }

end Storage

section Walk

variable (dName : Name) (st : State) (m : Storage)

/-- The calls of `add_usb_interface`; a structure without a number is freed at once. -/
def storeUsbInterface : Option Storage :=
  let p := afterFirst ':' dName
  let configuration := strtoul p
  if configuration.2 = p then some m
  else
    let e := Structure.usbinterface st.interfaces.length
    let p := configuration.2.tail
    if (strtoul p).2 = p then (m.malloc e).free e
    else (m.malloc e).addTail .interfacelist e

def storeUsbDevice : Option Storage :=
  let d := Structure.usbdevice st.devices.length
  if (strtoul dName).2 = dName then some m else (m.malloc d).addTail .usbdevlist d

def storeUsbBus : Storage := m.malloc (.usbbusnode st.buses.length)

def storeBusEntry : Option Storage :=
  if dName = ['.'] ∨ dName = ['.', '.'] then some m
  else if dName[0]? = some 'u' ∧ dName[1]? = some 's' ∧ dName[2]? = some 'b' ∧
      dName[3]?.any Char.isDigit then some (storeUsbBus st m)
  else if dName[0]?.any Char.isDigit then
    if ':' ∈ dName then storeUsbInterface dName st m else storeUsbDevice dName st m
  else some m

end Walk

def inspectStored (env : SysfsEnv) (s : State × Storage) (dName : Name) :
    Option (State × Storage) := do
  let st ← inspectBusEntry env dName s.1
  let m ← storeBusEntry dName s.1 s.2
  return (st, m)

def walkStored (env : SysfsEnv) (names : List Name) : Option (State × Storage) :=
  names.foldlM (inspectStored env) (.initial, .initial)

/-- The loop over the buses: the next one is read before the bus is freed. -/
def Storage.cleanupBusses (m : Storage) (busLinks : Links BusCell Nat) (bus : Option Nat) :
    Option Storage := do
  match bus with
  | none => return m
  | some b =>
      if m.memory.live (.entry (.usbbusnode b)) then
        let tempb := busLinks (.next b)
        let m ← m.free (.usbbusnode b)
        m |>.cleanupBusses busLinks tempb
      else none
partial_fixpoint

def Storage.cleanup (m : Storage) (busLinks : Links BusCell Nat) : Option Storage := do
  let memory ← (freeing (.head .usbdevlist) .next).listForEachSafeOffDir m.memory
  let memory ← (freeing (.head .interfacelist) .next).listForEachSafeOffDir memory
  ({ m with memory } : Storage).cleanupBusses busLinks (busLinks .usbbuslist)

def lsusbTStored (env : SysfsEnv) (names : List Name) : Option (List Effect × Storage) := do
  let (st, m) ← walkStored env names
  let w ← connectDevices st
  let w ← sortDevices st w
  let busLinks ← sortBusses st st.busLinks
  let tree ← printTree env st w busLinks
  let m ← m.cleanup busLinks
  return (st.printed ++ tree, m)

def structures (st : State) : List Structure :=
  st.usbdevlist.map .usbdevice ++ st.interfacelist.map .usbinterface ++
    (List.range st.buses.length).map .usbbusnode

def storedLists (st : State) : Lists ListHead Structure where
  items
    | .usbdevlist => st.usbdevlist.map .usbdevice
    | .interfacelist => st.interfacelist.map .usbinterface
  resting := ∅
  allocated := {s | s ∈ structures st}

structure Stored (st : State) (m : Storage) : Prop where
  lists : Represents m.memory (storedLists st)
  chain : Chain .next st.busLinks .usbbuslist (List.range st.buses.length)
  unused : ∀ b, st.buses.length ≤ b → st.busLinks (.next b) = none
  live : ∀ s, m.memory.live (.entry s) = true → s ∈ structures st
  balance : (m.memory.freed ++ (structures st).map ListNode.entry).Perm (m.mallocs.map .entry)

theorem stored_initial : Stored .initial .initial where
  lists := by
    have heq : storedLists .initial = .initial ListHead Structure := by
      rw [storedLists, Lists.initial, Lists.mk.injEq]
      refine ⟨funext fun h => ?_, rfl, ?_⟩
      · cases h <;> rfl
      · ext s
        simp [structures, State.initial, State.usbdevlist, State.interfacelist]
    rw [heq]
    exact represents_initial
  chain := rfl
  unused := fun _ _ => rfl
  live := fun _ h => by cases h
  balance := .refl _

section Walked

variable {env : SysfsEnv} {dName : Name} {st st' : State} {m : Storage}

theorem mem_structures {s : Structure} : s ∈ structures st ↔
    (∃ d < st.devices.length, s = .usbdevice d) ∨
      (∃ i < st.interfaces.length, s = .usbinterface i) ∨
      ∃ b < st.buses.length, s = .usbbusnode b := by
  simp only [structures, State.usbdevlist, State.interfacelist, List.mem_append, List.mem_map,
    List.mem_range, or_assoc]
  grind

theorem Stored.malloc_free (h : Stored st m) {s : Structure} (hs : s ∉ structures st) :
    ∃ m', (m.malloc s).free s = some m' ∧ Stored st m' := by
  have hmalloc : Represents (m.malloc s).memory _ := h.lists.malloc hs
  have hloose : Lists.Loose
      { storedLists st with allocated := insert s (storedLists st).allocated } s :=
    ⟨Set.mem_insert .., fun _ hmem => hs (h.lists.placed hmem)⟩
  obtain ⟨memory, hfree, hrep⟩ := hmalloc.free hloose
  obtain ⟨hdead, hfreed⟩ := Memory.free_keeps hfree
  have hallocated : insert s {t | t ∈ structures st} \ {s} = {t | t ∈ structures st} := by
    ext t
    simp only [Set.mem_sdiff, Set.mem_insert_iff, Set.mem_ofPred_eq, Set.mem_singleton_iff]
    grind
  have hresting : (∅ : Set Structure) \ {s} = ∅ := Set.empty_sdiff _
  simp only [storedLists, hallocated, hresting] at hrep
  refine ⟨{ m.malloc s with memory }, ?_, hrep, h.chain, h.unused, fun t ht => ?_, ?_⟩
  · rw [Storage.free, hfree]
    rfl
  · by_cases hts : t = s
    · rw [hts, hdead, Function.update_self] at ht
      cases ht
    · rw [hdead, Function.update_of_ne (by simpa using hts)] at ht
      rw [Storage.live_malloc, Function.update_of_ne (by simpa using hts)] at ht
      exact h.live t ht
  · rw [hfreed]
    simp only [Storage.freed_malloc, Storage.mallocs_malloc, List.map_append, List.map_cons,
      List.map_nil, List.append_assoc]
    exact (List.perm_append_comm.append_left _).trans
      (by simpa using h.balance.append_right [ListNode.entry s])

theorem Stored.malloc_addTail (h : Stored st m) {list : ListHead} {s : Structure}
    (hs : s ∉ structures st) (hstructures : (structures st').Perm (structures st ++ [s]))
    (hitems : (storedLists st').items =
      Function.update (storedLists st).items list ((storedLists st).items list ++ [s]))
    (hbuses : st'.buses = st.buses) (hlinks : st'.busLinks = st.busLinks) :
    ∃ m', (m.malloc s).addTail list s = some m' ∧ Stored st' m' := by
  have hmalloc : Represents (m.malloc s).memory _ := h.lists.malloc hs
  have hloose : Lists.Loose
      { storedLists st with allocated := insert s (storedLists st).allocated } s :=
    ⟨Set.mem_insert .., fun _ hmem => hs (h.lists.placed hmem)⟩
  obtain ⟨memory, hadd, hrep⟩ := hmalloc.listAddBefore (p := .head list) trivial hloose
  obtain ⟨hlive, hfreed⟩ := listAddBefore_keeps hadd
  have hlists : storedLists st' =
      ⟨Function.update (storedLists st).items list ((storedLists st).items list ++ [s]),
        (storedLists st).resting \ {s}, insert s (storedLists st).allocated⟩ := by
    have hresting : (∅ : Set Structure) = ∅ \ {s} := (Set.empty_sdiff _).symm
    have hallocated : {t | t ∈ structures st'} = insert s {t | t ∈ structures st} := by
      ext t
      simp [hstructures.mem_iff, or_comm]
    rw [← hitems]
    simp only [storedLists, Lists.mk.injEq]
    exact ⟨trivial, hresting, hallocated⟩
  refine ⟨{ m.malloc s with memory }, ?_, hlists ▸ hrep, ?_, ?_, fun t ht => ?_, ?_⟩
  · rw [Storage.addTail, listAddTail, hadd]
    rfl
  · rw [hbuses, hlinks]
    exact h.chain
  · rw [hbuses, hlinks]
    exact h.unused
  · rw [hstructures.mem_iff, List.mem_append, List.mem_singleton]
    by_cases hts : t = s
    · exact .inr hts
    · rw [hlive, Storage.live_malloc, Function.update_of_ne (by simpa using hts)] at ht
      exact .inl (h.live t ht)
  · rw [hfreed]
    refine ((hstructures.map _).append_left _).trans ?_
    simp only [Storage.freed_malloc, Storage.mallocs_malloc, List.map_append, List.map_cons,
      List.map_nil]
    rw [← List.append_assoc]
    exact h.balance.append_right _

theorem range_concat {α : Type} (f : Nat → α) (n : Nat) :
    (List.range (n + 1)).map f = (List.range n).map f ++ [f n] := by
  rw [List.range_succ, List.map_append, List.map_singleton]

theorem storeUsbDevice_stored (h : Stored st m) (hadd : addUsbDevice env dName st = some st') :
    ∃ m', storeUsbDevice dName st m = some m' ∧ Stored st' m' := by
  rw [addUsbDevice] at hadd
  rw [storeUsbDevice]
  split at hadd
  · obtain rfl := Option.some.inj hadd
    rw [if_pos ‹_›]
    exact ⟨m, rfl, h⟩
  · rw [if_neg ‹_›]
    simp only [Option.bind_eq_bind, Option.bind_eq_some_iff] at hadd
    obtain ⟨ports, -, hst⟩ := hadd
    obtain rfl := Option.some.inj hst
    refine h.malloc_addTail (fun hs => ?_) ?_ (funext fun list => ?_) rfl rfl
    · rw [mem_structures] at hs
      grind
    · simp only [structures, State.usbdevlist, State.interfacelist, List.length_append,
        List.length_singleton, range_concat, List.append_assoc]
      refine List.Perm.append_left _ ?_
      rw [← List.append_assoc (List.map _ _)]
      exact List.perm_append_comm
    · cases list <;> simp [storedLists, State.usbdevlist, range_concat, State.interfacelist]

theorem storeUsbInterface_stored (h : Stored st m) :
    ∃ m', storeUsbInterface dName st m = some m' ∧ Stored (addUsbInterface env dName st) m' := by
  rw [addUsbInterface, storeUsbInterface]
  by_cases hconfiguration : (strtoul (afterFirst ':' dName)).2 = afterFirst ':' dName
  · exact ⟨m, if_pos hconfiguration, by rwa [if_pos hconfiguration]⟩
  · have hnew : Structure.usbinterface st.interfaces.length ∉ structures st := fun hs => by
      rw [mem_structures] at hs
      grind
    simp only [if_neg hconfiguration]
    split
    · exact h.malloc_free hnew
    · refine h.malloc_addTail hnew ?_ (funext fun list => ?_) rfl rfl
      · simp only [structures, State.usbdevlist, State.interfacelist, List.length_append,
          List.length_singleton, range_concat, List.append_assoc]
        refine List.Perm.append_left _ (List.Perm.append_left _ ?_)
        exact List.perm_append_comm
      · cases list <;> simp [storedLists, State.usbdevlist, range_concat, State.interfacelist]

/-- A bus comes at the end of `usbbuslist`, whatever its name. -/
theorem addUsbBus_chain (env : SysfsEnv) (dName : Name)
    (hchain : Chain .next st.busLinks .usbbuslist (List.range st.buses.length))
    (hunused : ∀ b, st.buses.length ≤ b → st.busLinks (.next b) = none) :
    ∃ st', addUsbBus env dName st = some st' ∧ st'.devices = st.devices ∧
      st'.interfaces = st.interfaces ∧ st'.buses.length = st.buses.length + 1 ∧
      Chain .next st'.busLinks .usbbuslist (List.range st'.buses.length) ∧
      ∀ b, st'.buses.length ≤ b → st'.busLinks (.next b) = none := by
  have happend := appendAt_eq hchain (fun _ _ => rfl) st.buses.length
  have hfresh : BusCell.next st.buses.length ∉
      cells BusCell.next .usbbuslist (List.range st.buses.length) := by
    simp [cells]
  have hchain' := chain_snoc hchain (hunused _ (Nat.le_refl _)) hfresh
  rw [addUsbBus, appendBusnode]
  simp only [happend]
  refine ⟨_, rfl, rfl, rfl, by simp, ?_, fun b hb => ?_⟩
  · simpa [List.range_succ] using hchain'
  · simp only [List.length_append, List.length_singleton] at hb
    have hne : BusCell.next b ≠
        lastCell BusCell.next .usbbuslist (List.range st.buses.length) := by
      have hlast := @lastCell_mem _ _ BusCell.next .usbbuslist (List.range st.buses.length)
      intro heq
      rw [← heq] at hlast
      simp [cells] at hlast
      omega
    exact (Function.update_of_ne hne ..).trans (hunused b (by omega))

theorem storeUsbBus_stored (h : Stored st m) (hadd : addUsbBus env dName st = some st') :
    Stored st' (storeUsbBus st m) := by
  obtain ⟨new, hrun, hdevices, hinterfaces, hbuses, hchain, hunused⟩ :=
    addUsbBus_chain env dName h.chain h.unused
  obtain rfl : new = st' := Option.some.inj (hrun.symm.trans hadd)
  have hnew : Structure.usbbusnode st.buses.length ∉ structures st := fun hs => by
    rw [mem_structures] at hs
    grind
  have hstructures : structures new = structures st ++ [.usbbusnode st.buses.length] := by
    simp [structures, State.usbdevlist, State.interfacelist, hdevices, hinterfaces, hbuses,
      range_concat]
  have hmalloc : Represents (m.malloc (.usbbusnode st.buses.length)).memory _ :=
    h.lists.malloc hnew
  have hlists : storedLists new =
      { storedLists st with
        allocated := insert (.usbbusnode st.buses.length) (storedLists st).allocated } := by
    simp only [storedLists, Lists.mk.injEq]
    refine ⟨funext fun list => ?_, trivial, ?_⟩
    · cases list <;> simp [State.usbdevlist, State.interfacelist, hdevices, hinterfaces]
    · ext t
      simp [hstructures, or_comm]
  refine ⟨hlists ▸ hmalloc, hchain, hunused, fun t ht => ?_, ?_⟩
  · rw [hstructures, List.mem_append, List.mem_singleton]
    by_cases hts : t = .usbbusnode st.buses.length
    · exact .inr hts
    · rw [storeUsbBus, Storage.live_malloc, Function.update_of_ne (by simpa using hts)] at ht
      exact .inl (h.live t ht)
  · simp only [storeUsbBus, Storage.freed_malloc, Storage.mallocs_malloc, hstructures,
      List.map_append, List.map_cons, List.map_nil]
    rw [← List.append_assoc]
    exact h.balance.append_right _

theorem storeBusEntry_stored (h : Stored st m) (hinspect : inspectBusEntry env dName st = some st') :
    ∃ m', storeBusEntry dName st m = some m' ∧ Stored st' m' := by
  rw [inspectBusEntry] at hinspect
  rw [storeBusEntry]
  split at hinspect
  · obtain rfl := Option.some.inj hinspect
    exact ⟨m, if_pos ‹_›, h⟩
  rw [if_neg ‹_›]
  split at hinspect
  · exact ⟨_, if_pos ‹_›, storeUsbBus_stored h hinspect⟩
  rw [if_neg ‹_›]
  split at hinspect
  · rw [if_pos ‹_›]
    split at hinspect
    · obtain rfl := Option.some.inj hinspect
      rw [if_pos ‹_›]
      exact storeUsbInterface_stored h
    · rw [if_neg ‹_›]
      exact storeUsbDevice_stored h hinspect
  · obtain rfl := Option.some.inj hinspect
    exact ⟨m, if_neg ‹_›, h⟩

theorem inspectStored_stored (h : Stored st m)
    (hinspect : inspectBusEntry env dName st = some st') :
    ∃ m', inspectStored env (st, m) dName = some (st', m') ∧ Stored st' m' := by
  obtain ⟨m', hstore, h'⟩ := storeBusEntry_stored h hinspect
  refine ⟨m', ?_, h'⟩
  rw [inspectStored]
  simp only [hinspect, Option.bind_eq_bind, Option.bind_some, hstore]
  rfl

theorem foldlM_stored {names : List Name} (h : Stored st m)
    (hwalk : names.foldlM (fun st dName => inspectBusEntry env dName st) st = some st') :
    ∃ m', names.foldlM (inspectStored env) (st, m) = some (st', m') ∧ Stored st' m' := by
  induction names generalizing st m with
  | nil =>
      obtain rfl := Option.some.inj hwalk
      exact ⟨m, rfl, h⟩
  | cons dName names ih =>
      rw [List.foldlM_cons] at hwalk
      simp only [Option.bind_eq_bind, Option.bind_eq_some_iff] at hwalk
      obtain ⟨st₁, hinspect, hrest⟩ := hwalk
      obtain ⟨m₁, hstep, h₁⟩ := inspectStored_stored h hinspect
      obtain ⟨m', hrun, h'⟩ := ih h₁ hrest
      refine ⟨m', ?_, h'⟩
      rw [List.foldlM_cons, hstep]
      exact hrun

theorem walkStored_stored {names : List Name} (hwalk : walkUsbDevices env names = some st) :
    ∃ m, walkStored env names = some (st, m) ∧ Stored st m :=
  foldlM_stored stored_initial hwalk

theorem cleanupBusses_chain {busLinks : Links BusCell Nat} {cell : BusCell} {buses : List Nat}
    (hchain : Chain .next busLinks cell buses) (hnodup : buses.Nodup)
    (hlive : ∀ b ∈ buses, m.memory.live (.entry (.usbbusnode b)) = true) :
    ∃ m', m.cleanupBusses busLinks (busLinks cell) = some m' ∧ m'.mallocs = m.mallocs ∧
      m'.memory.freed = m.memory.freed ++ buses.map (.entry ∘ .usbbusnode) ∧
      ∀ s, m'.memory.live (.entry s) = true →
        m.memory.live (.entry s) = true ∧ ∀ b ∈ buses, s ≠ .usbbusnode b := by
  induction buses generalizing cell m with
  | nil =>
      rw [chain_nil.mp hchain, Storage.cleanupBusses]
      exact ⟨m, rfl, rfl, by simp, fun s hs => ⟨hs, by simp⟩⟩
  | cons b rest ih =>
      obtain ⟨hb, hrest⟩ := chain_cons.mp hchain
      obtain ⟨hnew, hnodup⟩ := List.nodup_cons.mp hnodup
      have hliveB := hlive b (List.mem_cons_self ..)
      rw [hb, Storage.cleanupBusses]
      simp only [hliveB, if_true]
      obtain ⟨memory, hfree⟩ : ∃ memory, m.memory.free (.entry (.usbbusnode b)) = some memory :=
        ⟨_, if_pos hliveB⟩
      obtain ⟨hdead, hfreed⟩ := Memory.free_keeps hfree
      have hliveRest : ∀ c ∈ rest, memory.live (.entry (.usbbusnode c)) = true := fun c hc => by
        have hcb : c ≠ b := fun heq => hnew (heq ▸ hc)
        rw [hdead, Function.update_of_ne (by simpa using hcb)]
        exact hlive c (List.mem_cons_of_mem b hc)
      obtain ⟨m', hrun, hmallocs, hfreed', hlive'⟩ :=
        ih (m := { m with memory }) hrest hnodup hliveRest
      refine ⟨m', ?_, hmallocs, ?_, fun s hs => ?_⟩
      · rw [Storage.free, hfree]
        exact hrun
      · rw [hfreed', hfreed]
        simp
      · obtain ⟨hs, hothers⟩ := hlive' s hs
        have hsb : s ≠ .usbbusnode b := by
          rintro rfl
          rw [hdead, Function.update_self] at hs
          cases hs
        rw [hdead, Function.update_of_ne (by simpa using hsb)] at hs
        exact ⟨hs, List.forall_mem_cons.mpr ⟨hsb, hothers⟩⟩

theorem cleanup_stored (h : Stored st m) {busLinks : Links BusCell Nat} {buses : List Nat}
    (hchain : Chain .next busLinks .usbbuslist buses)
    (hperm : buses.Perm (List.range st.buses.length)) :
    ∃ m', m.cleanup busLinks = some m' ∧ (∀ s, m'.memory.live (.entry s) = false) ∧
      m'.memory.freed.Perm (m'.mallocs.map .entry) := by
  have hdevices : Ring m.memory (.head .usbdevlist :: (st.usbdevlist.map .usbdevice).map .entry) :=
    h.lists.ring .usbdevlist
  have hinterfaces : Ring m.memory
      (.head .interfacelist :: (st.interfacelist.map .usbinterface).map .entry) :=
    h.lists.ring .interfacelist
  obtain ⟨memory₁, hrun₁, hfreed₁, hnext₁, hprev₁, hlive₁⟩ :=
    listForEachSafe_freeing hdevices .next
  have hinterfaces₁ : Ring memory₁
      (.head .interfacelist :: (st.interfacelist.map .usbinterface).map .entry) := by
    refine hinterfaces.of_agree fun p hp => ⟨by rw [hnext₁], by rw [hprev₁], ?_⟩
    have hapart : p ∉ (st.usbdevlist.map .usbdevice).map ListNode.entry := fun hp' =>
      @Represents.rings_apart _ _ _ _ .interfacelist .usbdevlist h.lists (by decide) _ hp
        (List.mem_cons_of_mem _ hp')
    rw [hlive₁, decide_eq_false hapart, Bool.not_false, Bool.and_true]
  obtain ⟨memory₂, hrun₂, hfreed₂, -, -, hlive₂⟩ := listForEachSafe_freeing hinterfaces₁ .next
  have hlive : ∀ s, memory₂.live (.entry s) =
      (m.memory.live (.entry s) && !decide (s ∈ st.usbdevlist.map .usbdevice) &&
        !decide (s ∈ st.interfacelist.map .usbinterface)) := fun s => by
    simp [hlive₂, hlive₁]
  have hlivebuses : ∀ b ∈ buses, memory₂.live (.entry (.usbbusnode b)) = true := fun b hb => by
    have hused : Structure.usbbusnode b ∈ structures st := by
      refine mem_structures.mpr (.inr (.inr ⟨b, ?_, rfl⟩))
      exact List.mem_range.mp (hperm.mem_iff.mp hb)
    have hbus := h.lists.live _ hused
    simp [hlive, hbus]
  have hnodup : buses.Nodup := hperm.nodup_iff.mpr List.nodup_range
  obtain ⟨m', hrun, hmallocs, hfreed, hlive'⟩ :=
    cleanupBusses_chain (m := { m with memory := memory₂ }) hchain hnodup hlivebuses
  refine ⟨m', ?_, fun s => ?_, ?_⟩
  · rw [Storage.cleanup, hrun₁]
    simp only [Option.bind_eq_bind, Option.bind_some]
    rw [hrun₂]
    exact hrun
  · by_contra hs
    obtain ⟨hs, hnobus⟩ := hlive' s (Bool.of_not_eq_false hs)
    simp only [hlive, Bool.and_eq_true, Bool.not_eq_true', decide_eq_false_iff_not] at hs
    rcases mem_structures.mp (h.live s hs.1.1) with ⟨d, hd, rfl⟩ | ⟨i, hi, rfl⟩ | ⟨b, hb, rfl⟩
    · exact hs.1.2 (List.mem_map_of_mem (List.mem_range.mpr hd))
    · exact hs.2 (List.mem_map_of_mem (List.mem_range.mpr hi))
    · exact hnobus b (hperm.mem_iff.mpr (List.mem_range.mpr hb)) rfl
  · have hbuses : (buses.map (ListNode.entry ∘ Structure.usbbusnode)).Perm
        (((List.range st.buses.length).map .usbbusnode).map
          (.entry : Structure → ListNode ListHead Structure)) := by
      rw [List.map_map]
      exact hperm.map _
    rw [hfreed, hfreed₂, hfreed₁, hmallocs]
    refine List.Perm.trans ?_ h.balance
    simp only [Dir.order, structures, List.map_append, List.append_assoc]
    exact (((hbuses.append_left _).append_left _).append_left _)

theorem foldlM_inspectStored {names : List Name} {m' : Storage}
    (hwalk : names.foldlM (inspectStored env) (st, m) = some (st', m')) :
    names.foldlM (fun st dName => inspectBusEntry env dName st) st = some st' := by
  induction names generalizing st m with
  | nil =>
      obtain ⟨rfl, -⟩ := Prod.mk.inj (Option.some.inj hwalk)
      rfl
  | cons dName names ih =>
      rw [List.foldlM_cons, inspectStored] at hwalk
      simp only [Option.bind_eq_bind, Option.bind_eq_some_iff] at hwalk
      obtain ⟨⟨st₁, m₁⟩, ⟨st₁', hinspect, _, -, heq⟩, hrest⟩ := hwalk
      obtain ⟨rfl, -⟩ := Prod.mk.inj (Option.some.inj heq)
      rw [List.foldlM_cons, hinspect]
      exact ih hrest

theorem walkStored_fst (env : SysfsEnv) (names : List Name) :
    (walkStored env names).map Prod.fst = walkUsbDevices env names := by
  cases hwalk : walkUsbDevices env names with
  | some st =>
      obtain ⟨m, hstored, -⟩ := walkStored_stored hwalk
      rw [hstored]
      rfl
  | none =>
      cases hstored : walkStored env names with
      | none => rfl
      | some s => cases (foldlM_inspectStored hstored).symm.trans hwalk

/-- The walk with its memory ends when the walk does. Its two rings then hold the devices and the
interfaces in the order of their allocation. -/
theorem walkStored_represents (env : SysfsEnv) (names : List Name) :
    (walkStored env names).map Prod.fst = walkUsbDevices env names ∧
      ∀ st m, walkStored env names = some (st, m) → Represents m.memory (storedLists st) := by
  refine ⟨walkStored_fst env names, fun st m hrun => ?_⟩
  have hwalk : walkUsbDevices env names = some st := by
    rw [← walkStored_fst, hrun]
    rfl
  obtain ⟨m', hrun', h⟩ := walkStored_stored hwalk
  obtain ⟨-, rfl⟩ := Prod.mk.inj (Option.some.inj (hrun.symm.trans hrun'))
  exact h.lists

/-- `cleanup` reads no freed structure, and frees what `lsusb_t` has allocated, each structure
once: for every directory, the program with its memory prints what the program prints, and ends
with nothing allocated. -/
theorem lsusbTStored_cleanup (env : SysfsEnv) (names : List Name) :
    (lsusbTStored env names).map Prod.fst = lsusbT env names ∧
      ∀ printed m, lsusbTStored env names = some (printed, m) →
        (∀ s, m.memory.live (.entry s) = false) ∧
          m.memory.freed.Perm (m.mallocs.map .entry) := by
  cases hwalk : walkUsbDevices env names with
  | none =>
      have hstored : walkStored env names = none := by
        simpa [hwalk] using walkStored_fst env names
      rw [lsusbTStored, lsusbT, hstored, hwalk]
      exact ⟨rfl, fun _ _ h => by cases h⟩
  | some st =>
      obtain ⟨m, hstored, h⟩ := walkStored_stored hwalk
      obtain ⟨busLinks, hsort, hchain⟩ := sortBusses_sorted h.chain
      obtain ⟨m', hcleanup, hdead, hbalance⟩ :=
        cleanup_stored h hchain (Bubble.byKey_perm _ _)
      have hrun : lsusbTStored env names = (lsusbT env names).map fun printed => (printed, m') := by
        rw [lsusbTStored, lsusbT, hstored, hwalk]
        simp only [Option.bind_eq_bind, Option.bind_some, hsort, hcleanup]
        cases connectDevices st with
        | none => rfl
        | some w =>
            cases hw : sortDevices st w with
            | none => simp [hw]
            | some w' => cases htree : printTree env st w' busLinks <;> simp [hw, htree]
      refine ⟨?_, fun printed m'' hm => ?_⟩
      · rw [hrun, Option.map_map]
        exact Option.map_id'
      · rw [hrun, Option.map_eq_some_iff] at hm
        obtain ⟨_, -, heq⟩ := hm
        obtain ⟨-, rfl⟩ := Prod.mk.inj heq
        exact ⟨hdead, hbalance⟩

end Walked

end Usbutils
