import Usbutils.Tree.Devices

/-! `connect_devices` of `lsusb-t.c`: each device is appended to the children of its
hub or root hub, and each interface to those of its device, which are found by their
names in whatever order the entries came. -/
namespace Usbutils
open Linked

section Connect

variable (st : State)

/-- `append_dev_sibling`, or `first_child` where there is none yet. -/
def appendChild (links : Links DeviceCell Nat) (parent : DeviceCell) (d : Nat) :
    Option (Links DeviceCell Nat) :=
  appendAt .next (fun _ => false) links parent d

def appendDevInterface (links : Links IfaceCell Nat) (owner : IfaceCell) (new : Nat) :
    Option (Links IfaceCell Nat) :=
  appendAt .next (· == new) links owner new

def assignDevToBus (d : Nat) (links : Links DeviceCell Nat) : Option (Links DeviceCell Nat) :=
  Links.forEach .next st.busLinks
    (fun b links =>
      if (st.bus b).busnum = (st.device d).busnum then appendChild links (.root b) d
      else some links)
    .usbbuslist links

def assignDevToParentFrom (d : Nat) (links : Links DeviceCell Nat) :
    List Nat → Option (Links DeviceCell Nat)
  | [] => some links
  | pd :: rest =>
      if pd = d then assignDevToParentFrom d links rest
      else if (st.device pd).busnum = (st.device d).busnum ∧
          (st.device pd).portnum = (st.device d).parentPortnum then
        match beforeLast '.' (st.device d).name with
        | some n =>
            if n ≠ (st.device pd).name then assignDevToParentFrom d links rest
            else appendChild links (.child pd) d
        | none => assignDevToParentFrom d links rest
      else assignDevToParentFrom d links rest

def assignDevToParent (d : Nat) (links : Links DeviceCell Nat) : Option (Links DeviceCell Nat) :=
  assignDevToParentFrom st d links st.usbdevlist

def State.appendBusinterface (st : State) (busnum new : Nat) (links : Links IfaceCell Nat)
    (cell : BusCell) : Option (Links IfaceCell Nat) :=
  match st.busLinks cell with
  | none => some links
  | some b =>
      if (st.bus b).busnum = busnum then appendDevInterface links (.ofBus b) new
      else st |>.appendBusinterface busnum new links (.next b)
partial_fixpoint

def ownerName (i : Nat) : Name := (st.interface i).name.takeWhile (· ≠ ':')

def assignInterfaceToParent (d i : Nat) (w : Wires) : Option Wires :=
  if ':' ∈ (st.interface i).name then
    if (st.device d).name = ownerName st i then do
      let ifaces ← appendDevInterface w.ifaces (.ofDevice d) i
      return { w with ifaces, ifaceParent := Function.update w.ifaceParent i (some d) }
    else
      let busnum := strtoul (ownerName st i)
      if busnum.2 ≠ ownerName st i ∧ busnum.2[1]? = some '0' then do
        let ifaces ← st.appendBusinterface (busnum.1 % 2 ^ 32) i w.ifaces .usbbuslist
        return { w with ifaces }
      else some w
  else some w

def assignInterfaces (d : Nat) (interfaces : List Nat) (w : Wires) : Option Wires :=
  interfaces.foldlM
    (fun w i => if w.ifaceParent i = none then assignInterfaceToParent st d i w else some w) w

def assignDev (d : Nat) (links : Links DeviceCell Nat) : Option (Links DeviceCell Nat) :=
  if (st.device d).parentPortnum ≠ 0 then assignDevToParent st d links else assignDevToBus st d links

def connectDevices : Option Wires :=
  st.usbdevlist.foldlM
    (fun w d => do
      let devices ← assignDev st d w.devices
      assignInterfaces st d st.interfacelist { w with devices })
    .null

end Connect

section Homes

variable {st : State} {d : Nat} {links : Links DeviceCell Nat} {buses : List Nat}

/-- `pd` is the hub that `d` says it hangs on. -/
def isParent (st : State) (d pd : Nat) : Bool :=
  decide (pd ≠ d ∧ ((st.device pd).busnum = (st.device d).busnum ∧
    (st.device pd).portnum = (st.device d).parentPortnum) ∧
      beforeLast '.' (st.device d).name = some (st.device pd).name)

def home (st : State) (d : Nat) : Option DeviceCell :=
  if (st.device d).parentPortnum ≠ 0 then (st.usbdevlist.find? (isParent st d)).map .child
  else ((List.range st.buses.length).find? fun b =>
    decide ((st.bus b).busnum = (st.device d).busnum)).map .root

theorem assignDevToParentFrom_eq (pds : List Nat) :
    assignDevToParentFrom st d links pds =
      match pds.find? (isParent st d) with
      | none => some links
      | some pd => appendChild links (.child pd) d := by
  induction pds with
  | nil => rfl
  | cons pd rest ih =>
      rw [assignDevToParentFrom, ih, List.find?_cons]
      by_cases hself : pd = d
      · simp [isParent, hself]
      by_cases hport : (st.device pd).busnum = (st.device d).busnum ∧
          (st.device pd).portnum = (st.device d).parentPortnum
      · rw [if_neg hself, if_pos hport]
        cases hname : beforeLast '.' (st.device d).name with
        | none => simp [isParent, hname]
        | some n =>
            by_cases hn : n = (st.device pd).name
            · simp [isParent, hname, hn, hport, hself]
            · simp [isParent, hname, hn]
      · simp [isParent, hself, hport]

theorem assignDevToBus_eq (hchain : Chain .next st.busLinks .usbbuslist buses)
    (hbuses : (buses.map fun b => (st.bus b).busnum).Nodup) :
    assignDevToBus st d links =
      match buses.find? fun b => decide ((st.bus b).busnum = (st.device d).busnum) with
      | none => some links
      | some b => appendChild links (.root b) d := by
  rw [assignDevToBus, forEach_chain hchain]
  clear hchain
  induction buses generalizing links with
  | nil => rfl
  | cons b rest ih =>
      rw [List.map_cons, List.nodup_cons] at hbuses
      rw [List.foldlM_cons, List.find?_cons]
      by_cases hb : (st.bus b).busnum = (st.device d).busnum
      · have hrest : rest.find? (fun b => decide ((st.bus b).busnum = (st.device d).busnum)) = none := by
          rw [List.find?_eq_none]
          intro b' hb' heq
          exact hbuses.1 (List.mem_map.mpr ⟨b', hb', by rw [of_decide_eq_true heq, hb]⟩)
        simp only [hb, decide_true]
        cases hrun : appendChild links (.root b) d with
        | none => rfl
        | some links' =>
            have := @ih links' hbuses.2
            rw [hrest] at this
            exact this
      · simp only [if_neg hb, decide_eq_false hb]
        exact ih hbuses.2

/-- The interface belongs to a root hub: its name goes on with `-0`. -/
def isRootInterface (st : State) (i : Nat) : Bool :=
  decide ((strtoul (ownerName st i)).2 ≠ ownerName st i) &&
    (strtoul (ownerName st i)).2[1]? == some '0'

def owns (st : State) (d i : Nat) : Bool :=
  decide (':' ∈ (st.interface i).name ∧ (st.device d).name = ownerName st i)

/-- Every bus has its own number and every device its own name. -/
structure Proper (st : State) : Prop where
  chain : Chain .next st.busLinks .usbbuslist (List.range st.buses.length)
  busnums : ((List.range st.buses.length).map fun b => (st.bus b).busnum).Nodup
  names : (st.usbdevlist.map fun d => (st.device d).name).Nodup
  roots : ∀ d ∈ st.usbdevlist, ∀ i ∈ st.interfacelist, owns st d i = true →
    isRootInterface st i = false

theorem home_ne_next (i : Nat) : home st d ≠ some (.next i) := by
  unfold home
  split_ifs <;> simp

theorem appendChild_eq {lists : DeviceCell → List Nat} (h : Lists .next links lists)
    {parent : DeviceCell} (hparent : ∀ i, parent ≠ .next i) :
    appendChild links parent d =
      some (Function.update links (lastCell .next parent (lists parent)) (some d)) :=
  appendAt_eq (h.chain parent hparent) (fun _ _ => rfl) d

theorem assignDev_lists {lists : DeviceCell → List Nat} (hproper : Proper st)
    (h : Lists .next links lists) (hd : ∀ c, d ∉ lists c) :
    ∃ links', assignDev st d links = some links' ∧
      Lists .next links' fun c => if home st d = some c then lists c ++ [d] else lists c := by
  have hassign : assignDev st d links =
      match home st d with
      | none => some links
      | some c => appendChild links c d := by
    unfold assignDev home
    split_ifs
    · rw [assignDevToParent, assignDevToParentFrom_eq]
      cases st.usbdevlist.find? (isParent st d) <;> rfl
    · rw [assignDevToBus_eq hproper.chain hproper.busnums]
      cases (List.range st.buses.length).find? _ <;> rfl
  rw [hassign]
  cases hhome : home st d with
  | none => exact ⟨links, rfl, by simpa using h⟩
  | some c =>
      have hc : ∀ i, c ≠ .next i := by
        rintro i rfl
        exact home_ne_next i hhome
      refine ⟨_, appendChild_eq h hc, ?_⟩
      have happend := h.append (fun a b hab => by cases hab; rfl) hc hd
      convert happend using 1
      funext c'
      by_cases hc' : c' = c
      · simp [hc']
      · simp [hc', Ne.symm hc']

end Homes

section Interfaces

variable {st : State} {d i : Nat} {links : Links IfaceCell Nat} {buses : List Nat} {w : Wires}

def ifaceHome (st : State) (i : Nat) : Option IfaceCell :=
  match st.usbdevlist.find? fun d => owns st d i with
  | some d => some (.ofDevice d)
  | none =>
      if ':' ∈ (st.interface i).name ∧ isRootInterface st i then
        ((List.range st.buses.length).find? fun b =>
          decide ((st.bus b).busnum = (strtoul (ownerName st i)).1 % 2 ^ 32)).map .ofBus
      else none

theorem appendBusinterface_eq {cell : BusCell} (hchain : Chain .next st.busLinks cell buses)
    (busnum new : Nat) :
    st.appendBusinterface busnum new links cell =
      match buses.find? fun b => decide ((st.bus b).busnum = busnum) with
      | none => some links
      | some b => appendDevInterface links (.ofBus b) new := by
  induction buses generalizing cell with
  | nil =>
      rw [State.appendBusinterface, chain_nil.mp hchain]
      rfl
  | cons b rest ih =>
      have hrest := ih hchain.2
      rw [State.appendBusinterface, hchain.1, List.find?_cons]
      by_cases hb : (st.bus b).busnum = busnum <;> simp [hb, hrest]

theorem ifaceHome_ofDevice (hproper : Proper st) :
    ifaceHome st i = some (.ofDevice d) ↔ d ∈ st.usbdevlist ∧ owns st d i = true := by
  unfold ifaceHome
  cases hfind : st.usbdevlist.find? fun d => owns st d i with
  | none =>
      rw [List.find?_eq_none] at hfind
      constructor
      · intro h
        split_ifs at h
        simp at h
      · exact fun h => absurd h.2 (hfind d h.1)
  | some d' =>
      have hmem := List.mem_of_find?_eq_some hfind
      have howns := List.find?_some hfind
      constructor
      · intro h
        cases h
        exact ⟨hmem, howns⟩
      · intro h
        have hname : (st.device d').name = (st.device d).name := by
          simp only [owns, decide_eq_true_eq] at howns h
          rw [howns.2, h.2.2]
        rw [List.inj_on_of_nodup_map hproper.names hmem h.1 hname]

/-- The interface is in its list when the devices `done` have been dealt with, and for
`d` the interfaces `before`. The first device puts those of the root hubs in place. -/
def placed (st : State) (done : List Nat) (d : Nat) (before : List Nat) (i : Nat) : Bool :=
  match ifaceHome st i with
  | some (.ofDevice d') => decide (d' ∈ done ∨ d' = d ∧ i ∈ before)
  | some (.ofBus _) => decide (done ≠ [] ∨ i ∈ before)
  | _ => false

def ifaceLists (st : State) (isPlaced : Nat → Bool) (c : IfaceCell) : List Nat :=
  st.interfacelist.filter fun i => isPlaced i && decide (ifaceHome st i = some c)

structure Placing (st : State) (isPlaced : Nat → Bool) (w : Wires) : Prop where
  lists : Lists .next w.ifaces (ifaceLists st isPlaced)
  parent : ∀ i ∈ st.interfacelist, w.ifaceParent i = none ↔
    ¬(isPlaced i = true ∧ ∃ d, ifaceHome st i = some (.ofDevice d))

theorem mem_ifaceLists {isPlaced : Nat → Bool} {c : IfaceCell} {j : Nat} :
    j ∈ ifaceLists st isPlaced c ↔
      j ∈ st.interfacelist ∧ isPlaced j = true ∧ ifaceHome st j = some c := by
  simp [ifaceLists]

theorem ifaceLists_congr {isPlaced isPlaced' : Nat → Bool}
    (h : ∀ j ∈ st.interfacelist, isPlaced' j = isPlaced j) :
    ifaceLists st isPlaced' = ifaceLists st isPlaced := by
  funext c
  apply List.filter_congr
  intro j hj
  rw [h j hj]

theorem ifaceLists_snoc {isPlaced isPlaced' : Nat → Bool} {c : IfaceCell} {before after : List Nat}
    (hsplit : st.interfacelist = before ++ i :: after) (hi : isPlaced i = false)
    (hi' : isPlaced' i = true) (hother : ∀ j, j ≠ i → isPlaced' j = isPlaced j)
    (hhome : ifaceHome st i = some c)
    (hafter : ∀ j ∈ after, isPlaced j = true → ifaceHome st j ≠ some c) :
    ifaceLists st isPlaced' =
      Function.update (ifaceLists st isPlaced) c (ifaceLists st isPlaced c ++ [i]) := by
  have hnodup : (before ++ i :: after).Nodup := hsplit ▸ List.nodup_range
  have hmiddle := List.perm_middle.nodup_iff.mp hnodup
  simp only [List.nodup_cons, List.mem_append, not_or] at hmiddle
  obtain ⟨⟨hbefore, hnotafter⟩, -⟩ := hmiddle
  funext c'
  by_cases hc : c' = c
  · subst hc
    have hnone : ∀ p : Nat → Bool, (∀ j ∈ after, p j = isPlaced j) →
        after.filter (fun j => p j && decide (ifaceHome st j = some c')) = [] := by
      intro p hp
      rw [List.filter_eq_nil_iff]
      intro j hj hjp
      simp only [Bool.and_eq_true, decide_eq_true_eq] at hjp
      exact hafter j hj (hp j hj ▸ hjp.1) hjp.2
    have hsame : before.filter (fun j => isPlaced' j && decide (ifaceHome st j = some c')) =
        before.filter fun j => isPlaced j && decide (ifaceHome st j = some c') := by
      apply List.filter_congr
      intro j hj
      rw [hother j fun heq => hbefore (heq ▸ hj)]
    rw [Function.update_self]
    simp only [ifaceLists, hsplit, List.filter_append, List.filter_cons, hi, hi', hhome, hsame]
    rw [hnone isPlaced fun _ _ => rfl,
      hnone isPlaced' fun j hj => hother j fun heq => hnotafter (heq ▸ hj)]
    simp
  · rw [Function.update_of_ne hc]
    apply List.filter_congr
    intro j hj
    by_cases hj : j = i
    · subst hj
      simp [hhome, Ne.symm hc]
    · rw [hother j hj]

theorem placed_other {done before : List Nat} {j : Nat} (h : j ≠ i) :
    placed st done d (before ++ [i]) j = placed st done d before j := by
  unfold placed
  simp [h]

theorem Placing.congr {isPlaced isPlaced' : Nat → Bool} (h : Placing st isPlaced w)
    (hsame : ∀ j ∈ st.interfacelist, isPlaced' j = isPlaced j) : Placing st isPlaced' w := by
  refine ⟨?_, fun j hj => ?_⟩
  · rw [ifaceLists_congr hsame]
    exact h.lists
  · rw [hsame j hj]
    exact h.parent j hj

theorem assignInterface_owned (h : owns st d i = true) :
    assignInterfaceToParent st d i w =
      (appendDevInterface w.ifaces (.ofDevice d) i).map fun ifaces =>
        { w with ifaces, ifaceParent := Function.update w.ifaceParent i (some d) } := by
  simp only [owns, decide_eq_true_eq] at h
  rw [assignInterfaceToParent, if_pos h.1, if_pos h.2]
  cases appendDevInterface w.ifaces (.ofDevice d) i <;> rfl

theorem assignInterface_root (h : owns st d i = false) (hcolon : ':' ∈ (st.interface i).name)
    (hroot : isRootInterface st i = true) :
    assignInterfaceToParent st d i w =
      (st.appendBusinterface ((strtoul (ownerName st i)).1 % 2 ^ 32) i w.ifaces .usbbuslist).map
        fun ifaces => { w with ifaces } := by
  simp only [owns, decide_eq_false_iff_not, not_and] at h
  simp only [isRootInterface, Bool.and_eq_true, decide_eq_true_eq, beq_iff_eq] at hroot
  rw [assignInterfaceToParent, if_pos hcolon, if_neg (h hcolon), if_pos hroot]
  cases st.appendBusinterface ((strtoul (ownerName st i)).1 % 2 ^ 32) i w.ifaces .usbbuslist <;> rfl

theorem assignInterface_other (h : owns st d i = false)
    (hroot : ':' ∈ (st.interface i).name → isRootInterface st i = false) :
    assignInterfaceToParent st d i w = some w := by
  simp only [owns, decide_eq_false_iff_not, not_and] at h
  rw [assignInterfaceToParent]
  dsimp only
  split_ifs with hcolon howns hzero
  · exact absurd howns (h hcolon)
  · have := hroot hcolon
    simp [isRootInterface, hzero] at this
  · rfl
  · rfl

theorem Placing.append {isPlaced isPlaced' : Nat → Bool} {c : IfaceCell} {before after : List Nat}
    {parent : Nat → Option Nat} (h : Placing st isPlaced w)
    (hsplit : st.interfacelist = before ++ i :: after) (hi : isPlaced i = false)
    (hi' : isPlaced' i = true) (hother : ∀ j, j ≠ i → isPlaced' j = isPlaced j)
    (hhome : ifaceHome st i = some c) (hc : ∀ j, c ≠ .next j)
    (hafter : ∀ j ∈ after, isPlaced j = true → ifaceHome st j ≠ some c)
    (hparent : ∀ j, j ≠ i → parent j = w.ifaceParent j)
    (hparenti : parent i = none ↔ ∀ d, c ≠ .ofDevice d) :
    ∃ ifaces, appendDevInterface w.ifaces c i = some ifaces ∧
      Placing st isPlaced' { w with ifaces, ifaceParent := parent } := by
  have hnew : ∀ c, i ∉ ifaceLists st isPlaced c := by
    intro c hmem
    rw [mem_ifaceLists, hi] at hmem
    cases hmem.2.1
  have hstop : ∀ j ∈ ifaceLists st isPlaced c, (j == i) = false := by
    intro j hj
    rw [beq_eq_false_iff_ne]
    rintro rfl
    exact hnew c hj
  refine ⟨_, appendAt_eq (h.lists.chain c hc) hstop i, ?_, fun j hj => ?_⟩
  · rw [ifaceLists_snoc hsplit hi hi' hother hhome hafter]
    exact h.lists.append (fun a b hab => by cases hab; rfl) hc hnew
  · by_cases hij : j = i
    · subst hij
      simp only [hi', hhome, Option.some.injEq, true_and, not_exists]
      exact hparenti
    · rw [hother j hij, ← h.parent j hj]
      simp only [hparent j hij]

section Round

variable {done before after : List Nat}

theorem interfacelist_split (hsplit : st.interfacelist = before ++ i :: after) :
    i ∈ st.interfacelist ∧ i ∉ before ∧ ∀ j ∈ after, j ∉ before := by
  have hnodup : (before ++ i :: after).Nodup := hsplit ▸ List.nodup_range
  obtain ⟨-, -, hapart⟩ := List.nodup_append.mp hnodup
  refine ⟨?_, ?_, ?_⟩
  · rw [hsplit]
    exact List.mem_append_right before List.mem_cons_self
  · intro hi
    exact hapart i hi i List.mem_cons_self rfl
  · intro j hj hj'
    exact hapart j hj' j (List.mem_cons_of_mem i hj) rfl

theorem Placing.stay (h : Placing st (placed st done d before) w)
    (heq : placed st done d (before ++ [i]) i = placed st done d before i) :
    Placing st (placed st done d (before ++ [i])) w := by
  apply h.congr
  intro j _
  by_cases hj : j = i
  · rw [hj, heq]
  · exact placed_other hj

theorem owns_eq_false (hproper : Proper st) (hd : d ∈ st.usbdevlist)
    (hne : ifaceHome st i ≠ some (.ofDevice d)) : owns st d i = false := by
  by_contra howns
  exact hne ((ifaceHome_ofDevice hproper).mpr ⟨hd, Bool.eq_true_of_not_eq_false howns⟩)

theorem assignInterface_homeless (hproper : Proper st) (hd : d ∈ st.usbdevlist)
    (hhome : ifaceHome st i = none) : assignInterfaceToParent st d i w = some w := by
  have howns := owns_eq_false hproper hd (i := i) (by rw [hhome]; simp)
  by_cases hroot : ':' ∈ (st.interface i).name ∧ isRootInterface st i = true
  · rw [assignInterface_root howns hroot.1 hroot.2, appendBusinterface_eq hproper.chain]
    unfold ifaceHome at hhome
    split at hhome
    · cases hhome
    · rw [if_pos hroot, Option.map_eq_none_iff] at hhome
      rw [hhome]
      rfl
  · apply assignInterface_other howns
    intro hcolon
    exact Bool.eq_false_iff.mpr fun h => hroot ⟨hcolon, h⟩

theorem root_of_ifaceHome {b : Nat} (hhome : ifaceHome st i = some (.ofBus b)) :
    ':' ∈ (st.interface i).name ∧ isRootInterface st i = true ∧
      ((List.range st.buses.length).find? fun b =>
        decide ((st.bus b).busnum = (strtoul (ownerName st i)).1 % 2 ^ 32)) = some b := by
  unfold ifaceHome at hhome
  split at hhome
  · cases hhome
  · split_ifs at hhome with hroot
    simp only [Option.map_eq_some_iff, IfaceCell.ofBus.injEq, exists_eq_right] at hhome
    exact ⟨hroot.1, hroot.2, hhome⟩

theorem ifaceHome_ne_next (j : Nat) : ifaceHome st i ≠ some (.next j) := by
  unfold ifaceHome
  split
  · simp
  · split_ifs <;> simp

theorem assignInterface_taken (hproper : Proper st) (hdone : d ∉ done)
    (hsplit : st.interfacelist = before ++ i :: after)
    (h : Placing st (placed st done d before) w) (hhome : ifaceHome st i = some (.ofDevice d)) :
    ∃ w', (if w.ifaceParent i = none then assignInterfaceToParent st d i w else some w) = some w' ∧
      w'.devices = w.devices ∧ Placing st (placed st done d (before ++ [i])) w' := by
  obtain ⟨hi, hbefore, hafter⟩ := interfacelist_split hsplit
  have howns := ((ifaceHome_ofDevice hproper).mp hhome).2
  have hnot : placed st done d before i = false := by simp [placed, hhome, hdone, hbefore]
  have hunset : w.ifaceParent i = none := (h.parent i hi).mpr (by simp [hnot])
  obtain ⟨ifaces, hrun, hplacing⟩ := @Placing.append st i w _ (placed st done d (before ++ [i]))
    (.ofDevice d) before after (Function.update w.ifaceParent i (some d)) h hsplit hnot
    (by simp [placed, hhome]) (fun j hj => placed_other hj) hhome (by simp)
    (fun j hj hplaced hj' => by simp [placed, hj', hdone, hafter j hj] at hplaced)
    (fun j hj => Function.update_of_ne hj ..) (by simp)
  refine ⟨{ w with ifaces, ifaceParent := Function.update w.ifaceParent i (some d) }, ?_, rfl, hplacing⟩
  rw [if_pos hunset, assignInterface_owned howns, hrun]
  rfl

theorem assignInterface_left (hproper : Proper st) (hd : d ∈ st.usbdevlist) {d' : Nat}
    (hi : i ∈ st.interfacelist) (hhome : ifaceHome st i = some (.ofDevice d')) (hne : d' ≠ d) :
    (if w.ifaceParent i = none then assignInterfaceToParent st d i w else some w) = some w := by
  obtain ⟨hd', howns⟩ := (ifaceHome_ofDevice hproper).mp hhome
  split_ifs
  · apply assignInterface_other (owns_eq_false hproper hd (by rw [hhome]; simpa using hne))
    exact fun _ => hproper.roots d' hd' i hi howns
  · rfl

/-- The first device puts the interface of a root hub in place, and each other one finds it there. -/
theorem assignInterface_ofBus (hproper : Proper st) (hd : d ∈ st.usbdevlist) {b : Nat}
    (hsplit : st.interfacelist = before ++ i :: after)
    (h : Placing st (placed st done d before) w) (hhome : ifaceHome st i = some (.ofBus b)) :
    ∃ w', (if w.ifaceParent i = none then assignInterfaceToParent st d i w else some w) = some w' ∧
      w'.devices = w.devices ∧ Placing st (placed st done d (before ++ [i])) w' := by
  obtain ⟨hi, hbefore, hafter⟩ := interfacelist_split hsplit
  obtain ⟨hcolon, hroot, hfind⟩ := root_of_ifaceHome hhome
  have howns := owns_eq_false hproper hd (i := i) (by rw [hhome]; simp)
  have hunset : w.ifaceParent i = none := (h.parent i hi).mpr (by simp [hhome])
  rw [if_pos hunset, assignInterface_root howns hcolon hroot, appendBusinterface_eq hproper.chain, hfind]
  by_cases hfirst : done = []
  case pos =>
    have hnot : placed st done d before i = false := by simp [placed, hhome, hfirst, hbefore]
    obtain ⟨ifaces, hrun, hplacing⟩ := @Placing.append st i w _ (placed st done d (before ++ [i]))
      (.ofBus b) before after w.ifaceParent h hsplit hnot
      (by simp [placed, hhome]) (fun j hj => placed_other hj) hhome (by simp)
      (fun j hj hplaced hj' => by simp [placed, hj', hfirst, hafter j hj] at hplaced)
      (fun _ _ => rfl) (by simp [hunset])
    refine ⟨{ w with ifaces }, ?_, rfl, hplacing⟩
    dsimp only
    rw [hrun]
    rfl
  case neg =>
    have hplaced : placed st done d before i = true := by simp [placed, hhome, hfirst]
    have hstop : ∃ j ∈ ifaceLists st (placed st done d before) (.ofBus b), (j == i) = true :=
      ⟨i, mem_ifaceLists.mpr ⟨hi, hplaced, hhome⟩, by simp⟩
    have hrun : appendDevInterface w.ifaces (.ofBus b) i = some w.ifaces :=
      appendAt_stop (h.lists.chain (.ofBus b) (by simp)) hstop i
    refine ⟨w, ?_, rfl, h.stay (by simp [placed, hhome, hfirst])⟩
    dsimp only
    rw [hrun]
    rfl

theorem assignInterface_step (hproper : Proper st) (hd : d ∈ st.usbdevlist) (hdone : d ∉ done)
    (hsplit : st.interfacelist = before ++ i :: after)
    (h : Placing st (placed st done d before) w) :
    ∃ w', (if w.ifaceParent i = none then assignInterfaceToParent st d i w else some w) = some w' ∧
      w'.devices = w.devices ∧ Placing st (placed st done d (before ++ [i])) w' := by
  have hi := (interfacelist_split hsplit).1
  cases hhome : ifaceHome st i with
  | none =>
      have hunset : w.ifaceParent i = none := (h.parent i hi).mpr (by simp [hhome])
      refine ⟨w, ?_, rfl, h.stay (by simp [placed, hhome])⟩
      rw [if_pos hunset]
      exact assignInterface_homeless hproper hd hhome
  | some c =>
      cases c with
      | next j => exact absurd hhome (ifaceHome_ne_next j)
      | ofBus b => exact assignInterface_ofBus hproper hd hsplit h hhome
      | ofDevice d' =>
          by_cases heq : d' = d
          · subst heq
            exact assignInterface_taken hproper hdone hsplit h hhome
          · exact ⟨w, assignInterface_left hproper hd hi hhome heq, rfl,
              h.stay (by simp [placed, hhome, heq])⟩

end Round

theorem assignInterfaces_placing (hproper : Proper st) (hd : d ∈ st.usbdevlist) {done : List Nat}
    (hdone : d ∉ done) {before after : List Nat} (hsplit : st.interfacelist = before ++ after)
    (h : Placing st (placed st done d before) w) :
    ∃ w', assignInterfaces st d after w = some w' ∧ w'.devices = w.devices ∧
      Placing st (placed st done d st.interfacelist) w' := by
  induction after generalizing before w with
  | nil =>
      rw [List.append_nil] at hsplit
      exact ⟨w, rfl, rfl, hsplit ▸ h⟩
  | cons i rest ih =>
      obtain ⟨w₁, hfirst, hdevices, h₁⟩ := assignInterface_step hproper hd hdone hsplit h
      obtain ⟨w₂, hrest, hdevices₂, h₂⟩ := ih (hsplit.trans (List.append_cons ..)) h₁
      refine ⟨w₂, ?_, hdevices₂.trans hdevices, h₂⟩
      rw [assignInterfaces, List.foldlM_cons, hfirst]
      exact hrest

theorem placed_next {done : List Nat} {d' : Nat} (hi : i ∈ st.interfacelist) :
    placed st (done ++ [d]) d' [] i = placed st done d st.interfacelist i := by
  unfold placed
  cases ifaceHome st i with
  | none => rfl
  | some c => cases c <;> simp [hi]

structure Connected (st : State) (done : List Nat) (w : Wires) : Prop where
  devices : Lists .next w.devices fun c => done.filter fun d => decide (home st d = some c)
  ifaces : ∀ d, Placing st (placed st done d []) w

theorem connected_null (st : State) : Connected st [] .null := by
  have hnone : ∀ d, placed st [] d [] = fun _ => false := by
    intro d
    funext i
    unfold placed
    cases ifaceHome st i with
    | none => rfl
    | some c => cases c <;> simp
  constructor
  · exact lists_empty
  · intro d
    rw [hnone]
    refine ⟨?_, fun _ _ => by simp [Wires.null]⟩
    have hempty : ifaceLists st (fun _ => false) = fun _ => [] := by
      funext c
      simp [ifaceLists]
    rw [hempty]
    exact lists_empty

theorem connectDevice_step (hproper : Proper st) (hd : d ∈ st.usbdevlist) {done : List Nat}
    (hdone : d ∉ done) (h : Connected st done w) :
    ∃ w', (do
        let devices ← assignDev st d w.devices
        assignInterfaces st d st.interfacelist { w with devices }) = some w' ∧
      Connected st (done ++ [d]) w' := by
  obtain ⟨devices, hassign, hlists⟩ := assignDev_lists hproper h.devices
    fun c hmem => hdone (List.mem_filter.mp hmem).1
  have hplacing : Placing st (placed st done d []) { w with devices } :=
    ⟨(h.ifaces d).lists, (h.ifaces d).parent⟩
  obtain ⟨w', hrun, hdevices, hplacing'⟩ :=
    assignInterfaces_placing hproper hd hdone (List.nil_append _).symm hplacing
  refine ⟨w', ?_, ?_, fun d' => ?_⟩
  · rw [hassign]
    exact hrun
  · rw [hdevices]
    convert hlists using 1
    funext c
    by_cases hhome : home st d = some c <;> simp [List.filter_append, hhome]
  · exact hplacing'.congr fun j hj => placed_next hj

/-- After `connect_devices` each list holds its members in the order they were found in. -/
theorem connectDevices_connected (hproper : Proper st) :
    ∃ w, connectDevices st = some w ∧ Connected st st.usbdevlist w := by
  have hfold : ∀ rest done w, st.usbdevlist = done ++ rest → Connected st done w →
      ∃ w', rest.foldlM (fun w d => do
        let devices ← assignDev st d w.devices
        assignInterfaces st d st.interfacelist { w with devices }) w = some w' ∧
          Connected st st.usbdevlist w' := by
    intro rest
    induction rest with
    | nil =>
        intro done w hsplit h
        rw [List.append_nil] at hsplit
        exact ⟨w, rfl, hsplit ▸ h⟩
    | cons d rest ih =>
        intro done w hsplit h
        have hnodup : (done ++ d :: rest).Nodup := hsplit ▸ List.nodup_range
        have hdone : d ∉ done := fun hmem =>
          (List.nodup_append.mp hnodup).2.2 d hmem d (List.mem_cons_self ..) rfl
        have hd : d ∈ st.usbdevlist := by
          rw [hsplit]
          simp
        obtain ⟨w₁, hfirst, h₁⟩ := connectDevice_step hproper hd hdone h
        obtain ⟨w₂, hrest, h₂⟩ := ih (done ++ [d]) w₁ (hsplit.trans (List.append_cons ..)) h₁
        refine ⟨w₂, ?_, h₂⟩
        rw [List.foldlM_cons, hfirst]
        exact hrest
  exact hfold st.usbdevlist [] .null rfl (connected_null st)

end Interfaces

end Usbutils
