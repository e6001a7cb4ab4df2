import Mathlib.Order.Lattice.Nat
import Mathlib.Data.Finset.Lattice.Fold
import Mathlib.Data.Finset.Option
import Mathlib.Data.Finset.Sort
import Mathlib.Data.Finset.Union
import Usbutils.Tree.Entries
import Usbutils.Tree.Print

/-! The tree that `lsusb -t` prints for a set of entries: the buses by number and below
each the devices on it, every hub before what hangs on it and all of that before the next
port. The order of the directory has no part in it. -/
namespace Usbutils
open Linked

section Tree

variable (env : SysfsEnv) (S : Finset SysfsEntry)

def pick {α : Type} [DecidableEq α] (kind : SysfsEntry → Option α) : Finset α :=
  S.biUnion fun e => (kind e).toFinset

def treeBuses : List Nat := (pick S SysfsEntry.asRootHub).sort

def childPort (busnum : Nat) (ports : List Nat) : SysfsEntry → Option Nat
  | .device busnum' ports' =>
      if busnum' = busnum ∧ ports'.dropLast = ports then ports'.getLast? else none
  | _ => none

def treePorts (busnum : Nat) (ports : List Nat) : List Nat := (pick S (childPort busnum ports)).sort

def ownInterface (busnum : Nat) (ports : List Nat) : SysfsEntry → Option (Nat ×ₗ Nat)
  | .interface busnum' ports' configuration ifnum =>
      if busnum' = busnum ∧ ports' = ports then some (toLex (ifnum, configuration)) else none
  | _ => none

def treeInterfaces (busnum : Nat) (ports : List Nat) : List (Nat ×ₗ Nat) :=
  (pick S (ownInterface busnum ports)).sort

/-- The bus or hub, and then the devices that hang on it, port by port. -/
def treeFrom (busnum : Nat) : Nat → List Nat → List (List Nat)
  | 0, _ => []
  | depth + 1, ports =>
      ports :: (treePorts S busnum ports).flatMap fun p => treeFrom busnum depth (ports ++ [p])

def treeDepth : Nat := S.sup fun e => (e.asDevice.getD (0, [])).2.length

/-- The buses and the devices in the order of the tree: the bus itself has no ports. -/
def treeNodes : List (Nat × List Nat) :=
  (treeBuses S).flatMap fun busnum => (treeFrom S busnum (treeDepth S + 1) []).map (busnum, ·)

def deviceLines (busnum : Nat) (ports : List Nat) : List Effect :=
  let indent := 4 * ports.length + 3
  let ifaces := (treeInterfaces S busnum ports).map fun i =>
    some (readInterface env busnum ports (ofLex i).2 (ofLex i).1)
  (if ifaces = [] then [none] else ifaces).flatMap fun i =>
    indentation indent "|__ " :: printUsbdevice env indent (readDevice env busnum ports) i

def nodeLines : Nat × List Nat → List Effect
  | (busnum, []) => printUsbbusnode env (readBusnode env busnum)
  | (busnum, ports) => deviceLines env S busnum ports

def tree : List Effect := (treeNodes S).flatMap (nodeLines env S)

end Tree

section Members

variable {S : Finset SysfsEntry} {busnum depth p : Nat} {ports path : List Nat}

theorem mem_pick {α : Type} [DecidableEq α] {kind : SysfsEntry → Option α} {a : α} :
    a ∈ pick S kind ↔ ∃ e ∈ S, kind e = some a := by
  simp [pick]

theorem mem_treeBuses : busnum ∈ treeBuses S ↔ .rootHub busnum ∈ S := by
  rw [treeBuses, Finset.mem_sort, mem_pick]
  simp

theorem childPort_eq {e : SysfsEntry} :
    childPort busnum ports e = some p ↔ e = .device busnum (ports ++ [p]) := by
  cases e with
  | rootHub b => simp [childPort]
  | interface b ps c i => simp [childPort]
  | device b ps =>
      rw [childPort, SysfsEntry.device.injEq]
      rcases List.eq_nil_or_concat' ps with rfl | ⟨init, q, rfl⟩
      · simp
      · rw [List.dropLast_concat, List.getLast?_concat]
        split_ifs with h
        · simp [h]
        · simp only [false_iff]
          rintro ⟨hb, hports⟩
          exact h ⟨hb, List.append_inj_left' hports rfl⟩

theorem mem_treePorts : p ∈ treePorts S busnum ports ↔ .device busnum (ports ++ [p]) ∈ S := by
  rw [treePorts, Finset.mem_sort, mem_pick]
  simp [childPort_eq]

theorem ownInterface_eq {e : SysfsEntry} {i : Nat ×ₗ Nat} : ownInterface busnum ports e = some i ↔
    e = .interface busnum ports (ofLex i).2 (ofLex i).1 := by
  cases e with
  | rootHub b => simp [ownInterface]
  | device b ps => simp [ownInterface]
  | interface b ps c n =>
      rw [ownInterface, SysfsEntry.interface.injEq]
      split_ifs with h
      · rw [Option.some.injEq, and_iff_right h.1, and_iff_right h.2]
        constructor
        · rintro rfl
          exact ⟨rfl, rfl⟩
        · rintro ⟨rfl, rfl⟩
          rfl
      · simp only [false_iff]
        exact fun heq => h ⟨heq.1, heq.2.1⟩

theorem mem_treeInterfaces {i : Nat ×ₗ Nat} : i ∈ treeInterfaces S busnum ports ↔
    .interface busnum ports (ofLex i).2 (ofLex i).1 ∈ S := by
  rw [treeInterfaces, Finset.mem_sort, mem_pick]
  simp [ownInterface_eq]

theorem mem_treeFrom : path ∈ treeFrom S busnum depth ports ↔
    ∃ rest, path = ports ++ rest ∧ rest.length < depth ∧
      ∀ way, way <+: rest → way ≠ [] → .device busnum (ports ++ way) ∈ S := by
  induction depth generalizing ports with
  | zero => simp [treeFrom]
  | succ depth ih =>
      rw [treeFrom, List.mem_cons, List.mem_flatMap]
      constructor
      · rintro (rfl | ⟨p, hp, hpath⟩)
        · exact ⟨[], by simp, by simp, fun way hway hne => absurd (List.prefix_nil.mp hway) hne⟩
        · obtain ⟨rest, rfl, hlength, hrest⟩ := ih.mp hpath
          refine ⟨p :: rest, by simp, Nat.succ_lt_succ hlength, fun way hway hne => ?_⟩
          obtain ⟨q, way, rfl⟩ := List.exists_cons_of_ne_nil hne
          obtain ⟨rfl, hbehind⟩ := List.cons_prefix_cons.mp hway
          cases way with
          | nil => exact mem_treePorts.mp hp
          | cons q' way =>
              have := hrest (q' :: way) hbehind (by simp)
              rwa [List.append_assoc, List.singleton_append] at this
      · rintro ⟨rest, rfl, hlength, hrest⟩
        cases rest with
        | nil => exact Or.inl (List.append_nil ports)
        | cons p rest =>
            refine Or.inr ⟨p, mem_treePorts.mpr (hrest [p] (by simp) (by simp)), ih.mpr ?_⟩
            refine ⟨rest, by simp, Nat.lt_of_succ_lt_succ hlength, fun way hway hne => ?_⟩
            rw [List.append_assoc, List.singleton_append]
            exact hrest (p :: way) (List.cons_prefix_cons.mpr ⟨rfl, hway⟩) (by simp)

theorem prefix_of_mem_treeFrom (h : path ∈ treeFrom S busnum depth ports) : ports <+: path := by
  obtain ⟨rest, rfl, -⟩ := mem_treeFrom.mp h
  exact List.prefix_append ports rest

theorem treeFrom_nodup : (treeFrom S busnum depth ports).Nodup := by
  induction depth generalizing ports with
  | zero => exact List.nodup_nil
  | succ depth ih =>
      rw [treeFrom, List.nodup_cons, List.nodup_flatMap]
      refine ⟨fun hmem => ?_, fun p _ => ih, ?_⟩
      · obtain ⟨p, -, hp⟩ := List.mem_flatMap.mp hmem
        have hlength := (prefix_of_mem_treeFrom hp).length_le
        rw [List.length_append, List.length_singleton] at hlength
        exact absurd hlength (Nat.not_succ_le_self _)
      · -- the paths below two ports differ at the port
        apply (Finset.sort_nodup _ _).imp
        intro p p' hne path hp hp'
        have hsame := List.prefix_of_prefix_length_le (prefix_of_mem_treeFrom hp)
          (prefix_of_mem_treeFrom hp') (by simp)
        have heq := hsame.eq_of_length (by simp)
        exact hne (List.singleton_inj.mp (List.append_cancel_left heq))

theorem length_le_treeDepth (h : .device busnum ports ∈ S) : ports.length ≤ treeDepth S :=
  Finset.le_sup (f := fun e => (SysfsEntry.asDevice e |>.getD (0, [])).2.length) h

/-- In the tree are the buses, and the devices whose bus and whose hubs are all there. -/
theorem mem_treeNodes : (busnum, ports) ∈ treeNodes S ↔
    .rootHub busnum ∈ S ∧ ∀ way, way <+: ports → way ≠ [] → .device busnum way ∈ S := by
  rw [treeNodes, List.mem_flatMap]
  constructor
  · rintro ⟨b, hb, hmem⟩
    obtain ⟨path, hpath, heq⟩ := List.mem_map.mp hmem
    obtain ⟨rfl, rfl⟩ := Prod.mk.inj heq
    obtain ⟨rest, rfl, -, hrest⟩ := mem_treeFrom.mp hpath
    exact ⟨mem_treeBuses.mp hb, hrest⟩
  · rintro ⟨hb, hway⟩
    refine ⟨busnum, mem_treeBuses.mpr hb, List.mem_map.mpr ⟨ports, ?_, rfl⟩⟩
    refine mem_treeFrom.mpr ⟨ports, rfl, Nat.lt_succ_of_le ?_, hway⟩
    by_cases hne : ports = []
    · simp [hne]
    · exact length_le_treeDepth (hway ports (List.prefix_refl _) hne)

theorem treeNodes_nodup : (treeNodes S).Nodup := by
  rw [treeNodes, List.nodup_flatMap]
  constructor
  · exact fun b _ => treeFrom_nodup.map fun _ _ heq => (Prod.mk.inj heq).2
  · apply (Finset.sort_nodup _ _).imp
    intro b b' hne node hb hb'
    obtain ⟨path, -, rfl⟩ := List.mem_map.mp hb
    obtain ⟨path', -, heq⟩ := List.mem_map.mp hb'
    exact hne (Prod.mk.inj heq).1.symm

end Members

section Printed

variable {env : SysfsEnv} {order : List SysfsEntry} {st : State} {S : Finset SysfsEntry}
  {busnum depth d b p : Nat} {ports children : List Nat}

def ifnumOf (st : State) (i : Nat) : Nat := (st.interface i).ifnum

theorem nodeLines_device (h : ports ≠ []) :
    nodeLines env S (busnum, ports) = deviceLines env S busnum ports := by
  obtain ⟨p, rest, rfl⟩ := List.exists_cons_of_ne_nil h
  rfl

variable (hwalked : Walked env order st) (hdirectory : Directory order)

include hwalked in
theorem port_eq (hd : d ∈ st.usbdevlist) (h : deviceAt order d = (busnum, ports ++ [p])) :
    port st d = p := by
  rw [port, device_eq hwalked hd, h]
  change (lastPorts (ports ++ [p])).2 = p
  rw [lastPorts_concat]

variable (hS : ∀ e, e ∈ order ↔ e ∈ S)
include hwalked hdirectory hS

theorem map_interface (hd : d ∈ st.usbdevlist) :
    (Bubble.byKey (ifnumOf st) (connectedIfaces st (.ofDevice d))).map st.interface =
      (treeInterfaces S (deviceAt order d).1 (deviceAt order d).2).map fun i =>
        readInterface env (deviceAt order d).1 (deviceAt order d).2 (ofLex i).2 (ofLex i).1 := by
  have hsortable := sortable_of_walked hwalked hdirectory
  have hmem := fun i => mem_connectedIfaces hwalked hdirectory (i := i) hd
  have hvalues : (Bubble.byKey (ifnumOf st) (connectedIfaces st (.ofDevice d))).map
      (fun i => toLex (ifnumOf st i, (st.interface i).configuration)) =
        treeInterfaces S (deviceAt order d).1 (deviceAt order d).2 := by
    apply Bubble.map_byKey
    · intro a ha b hb hle
      have hsame := hsortable.configuration d a ha b hb
      rw [Prod.Lex.toLex_le_toLex]
      exact hle.lt_or_eq.imp_right fun heq => ⟨heq, hsame.le⟩
    · have hifnums : ((connectedIfaces st (.ofDevice d)).map (ifnumOf st)).Nodup :=
        hsortable.ifnums d
      apply List.Nodup.of_map fun v => (ofLex v).1
      rw [List.map_map]
      exact hifnums
    · intro v
      simp only [mem_pick, ownInterface_eq, exists_eq_right, ← hS, List.mem_map]
      constructor
      · intro hv
        obtain ⟨i, hi, hat⟩ := exists_interfaceAt hwalked hv
        refine ⟨i, (hmem i).mpr ⟨hi, by rw [hat], by rw [hat]⟩, ?_⟩
        rw [ifnumOf, interface_ifnum hwalked hdirectory hi,
          interface_configuration hwalked hdirectory hi, hat]
        rfl
      · rintro ⟨i, hi, rfl⟩
        obtain ⟨hi, hbus, hports⟩ := (hmem i).mp hi
        have hentry := interfaceAt_mem hwalked hi
        rw [hbus, hports] at hentry
        rw [ifnumOf, interface_ifnum hwalked hdirectory hi,
          interface_configuration hwalked hdirectory hi]
        exact hentry
  rw [← hvalues, List.map_map]
  apply List.map_congr_left
  intro i hi
  obtain ⟨hi, hbus, hports⟩ := (hmem i).mp ((Bubble.byKey_perm _ _).subset hi)
  have hifnum := interface_ifnum hwalked hdirectory hi
  have hconfiguration := interface_configuration hwalked hdirectory hi
  simp only [Function.comp_apply, ofLex_toLex, ifnumOf]
  rw [hifnum, hconfiguration, interface_eq hwalked hi, hbus, hports]

theorem devicePart_eq (hd : d ∈ st.usbdevlist) (h : deviceAt order d = (busnum, ports)) :
    devicePart env st (Bubble.byKey (ifnumOf st) (connectedIfaces st (.ofDevice d)))
      (4 * ports.length + 3) d = deviceLines env S busnum ports := by
  have hifaces := map_interface hwalked hdirectory hS hd
  have hdevice := device_eq hwalked hd
  rw [h] at hifaces hdevice
  have hnil : (Bubble.byKey (ifnumOf st) (connectedIfaces st (.ofDevice d)) = []) ↔
      (treeInterfaces S busnum ports).map (fun i =>
        some (readInterface env busnum ports (ofLex i).2 (ofLex i).1)) = [] := by
    rw [List.map_eq_nil_iff, ← List.map_eq_nil_iff (f := st.interface), hifaces, List.map_eq_nil_iff]
  have hsome : (Bubble.byKey (ifnumOf st) (connectedIfaces st (.ofDevice d))).map
      (some ∘ st.interface) = (treeInterfaces S busnum ports).map fun i =>
        some (readInterface env busnum ports (ofLex i).2 (ofLex i).1) := by
    rw [← List.map_map, hifaces, List.map_map]
    rfl
  rw [devicePart, deviceLines, hdevice]
  simp only [hnil, hsome]

theorem map_port (h : AreChildren st order busnum ports children) :
    (Bubble.byKey (port st) children).map (port st) = treePorts S busnum ports := by
  have hport : ∀ d ∈ children, deviceAt order d = (busnum, ports ++ [port st d]) := by
    intro d hd
    obtain ⟨hd, p, hp⟩ := (h.mem d).mp hd
    rw [port_eq hwalked hd hp, hp]
  apply Bubble.map_byKey
  · exact fun _ _ _ _ hle => hle
  · apply h.nodup.map_on
    intro d hd d' hd' heq
    apply deviceAt_inj hwalked hdirectory.nodup ((h.mem d).mp hd).1 ((h.mem d').mp hd').1
    rw [hport d hd, hport d' hd', heq]
  · intro p
    simp only [mem_pick, childPort_eq, exists_eq_right, ← hS, List.mem_map]
    constructor
    · intro hp
      obtain ⟨d, hd, hat⟩ := exists_deviceAt hwalked hp
      exact ⟨d, (h.mem d).mpr ⟨hd, p, hat⟩, port_eq hwalked hd hat⟩
    · rintro ⟨d, hd, rfl⟩
      have hentry := deviceAt_mem hwalked ((h.mem d).mp hd).1
      rwa [hport d hd] at hentry

/-- The sorted forest below a bus or hub is printed as the tree has it. -/
theorem forestPart_grow (h : AreChildren st order busnum ports children) :
    forestPart env st (fun c => Bubble.byKey (ifnumOf st) (connectedIfaces st c))
      (4 * ports.length + 4)
      (Forest.grow (fun c => Bubble.byKey (port st) (connectedDevices st c)) depth
        (Bubble.byKey (port st) children)) =
      (treePorts S busnum ports).flatMap fun p =>
        (treeFrom S busnum depth (ports ++ [p])).flatMap (deviceLines env S busnum) := by
  induction depth generalizing ports children with
  | zero => simp [Forest.grow, forestPart, treeFrom]
  | succ depth ih =>
      rw [Forest.grow, forestPart_row, ← map_port hwalked hdirectory hS h, List.flatMap_map]
      apply List.flatMap_congr
      intro d hd
      obtain ⟨hd, p, hp⟩ := (h.mem d).mp ((Bubble.byKey_perm _ _).subset hd)
      have hchildren := connectedDevices_child hwalked hdirectory hd
      have hlength : 4 * ports.length + 4 = 4 * (ports ++ [p]).length := by
        rw [List.length_append, List.length_singleton]
        omega
      rw [hp] at hchildren
      rw [port_eq hwalked hd hp, hlength, devicePart_eq hwalked hdirectory hS hd hp,
        ih hchildren, treeFrom, List.flatMap_cons, List.flatMap_assoc]

theorem busPart_eq (hb : b < st.buses.length) :
    printUsbbusnode env (st.bus b) ++
      forestPart env st (fun c => Bubble.byKey (ifnumOf st) (connectedIfaces st c)) 4
        ((connectedForest st depth b).sorted (port st)) =
      ((treeFrom S (busnumAt order b) (depth + 1) []).map (busnumAt order b, ·)).flatMap
        (nodeLines env S) := by
  have hgrow : forestPart env st (fun c => Bubble.byKey (ifnumOf st) (connectedIfaces st c)) 4
      ((connectedForest st depth b).sorted (port st)) =
        (treePorts S (busnumAt order b) []).flatMap fun p =>
          (treeFrom S (busnumAt order b) depth [p]).flatMap (deviceLines env S (busnumAt order b)) := by
    rw [connectedForest, Forest.sorted_grow]
    exact forestPart_grow hwalked hdirectory hS (connectedDevices_root hwalked hdirectory hb)
  have hdevices : ∀ p, ∀ path ∈ treeFrom S (busnumAt order b) depth [p],
      nodeLines env S (busnumAt order b, path) = deviceLines env S (busnumAt order b) path := by
    intro p path hpath
    apply nodeLines_device
    rintro rfl
    exact absurd (prefix_of_mem_treeFrom hpath) (by simp)
  rw [hgrow, bus_eq hwalked hb, List.flatMap_map, treeFrom, List.flatMap_cons, List.flatMap_assoc]
  congr 1
  apply List.flatMap_congr
  intro p _
  apply List.flatMap_congr
  exact fun path hpath => (hdevices p path hpath).symm

theorem map_busnum : (Bubble.byKey (fun b => (st.bus b).busnum) (List.range st.buses.length)).map
    (busnumAt order) = treeBuses S := by
  have hbusnum : ∀ b ∈ List.range st.buses.length, (st.bus b).busnum = busnumAt order b :=
    fun b hb => bus_busnum hwalked hdirectory (List.mem_range.mp hb)
  apply Bubble.map_byKey
  · intro b hb b' hb' hle
    rwa [hbusnum b hb, hbusnum b' hb'] at hle
  · apply List.nodup_range.map_on
    intro b hb b' hb' heq
    exact busnumAt_inj hwalked hdirectory.nodup (List.mem_range.mp hb) (List.mem_range.mp hb') heq
  · intro busnum
    simp only [mem_pick, SysfsEntry.asRootHub_eq, exists_eq_right, ← hS, List.mem_map, List.mem_range]
    constructor
    · exact fun hbus => exists_busnumAt hwalked hbus
    · rintro ⟨b, hb, rfl⟩
      exact busnumAt_mem hwalked hb

theorem printed_tree : ∃ w w' busLinks, connectDevices st = some w ∧ sortDevices st w = some w' ∧
    sortBusses st st.busLinks = some busLinks ∧ printTree env st w' busLinks = some (tree env S) := by
  have hproper := proper_of_walked hwalked hdirectory
  have hsortable := sortable_of_walked hwalked hdirectory
  have hdepth : ∀ busnum ports, .device busnum ports ∈ order → ports.length ≤ treeDepth S :=
    fun busnum ports hmem => length_le_treeDepth ((hS _).mp hmem)
  obtain ⟨w, hconnect, hconnected⟩ := connectDevices_connected hproper
  have hplanted := planted_of_connected hwalked hdirectory hconnected hdepth
  obtain ⟨w', hsort, hsorted⟩ :=
    sortDevices_sorted hsortable hproper.chain List.nodup_range hplanted
  obtain ⟨busLinks, hbusses, hchain⟩ := sortBusses_sorted hproper.chain
  refine ⟨w, w', busLinks, hconnect, hsort, hbusses, ?_⟩
  have hrange : ∀ b ∈ Bubble.byKey (fun b => (st.bus b).busnum) (List.range st.buses.length),
      b ∈ List.range st.buses.length := fun b hb => (Bubble.byKey_perm _ _).subset hb
  have hprint := @printTreeFrom_chain env st w' busLinks _ _ _ _ hchain
    (fun b hb => hsorted.holds b (hrange b hb)) fun d => hsorted.ifaces.chain (.ofDevice d) (by simp)
  rw [printTree, hprint, tree, treeNodes, ← map_busnum hwalked hdirectory hS, List.flatMap_map,
    List.flatMap_assoc, Option.some.injEq]
  apply List.flatMap_congr
  intro b hb
  have hb := hrange b hb
  rw [← busPart_eq hwalked hdirectory hS (List.mem_range.mp hb)]
  have hforest : sortedOn st (List.range st.buses.length) (connectedForest st (treeDepth S)) b =
      (connectedForest st (treeDepth S) b).sorted (port st) := if_pos hb
  congr 1
  rw [hforest]
  symm
  apply forestPart_congr
  intro d hd
  have hnode : d ∈ allNodes (connectedForest st (treeDepth S)) (List.range st.buses.length) :=
    List.mem_flatMap.mpr ⟨b, hb, (Forest.nodes_sorted (port st) _).subset hd⟩
  exact (if_pos hnode).symm

end Printed

/-- `lsusb -t` prints the tree of the entries, in whatever order the directory has them. In it
is each bus, and each device whose bus and hubs are all there, once. -/
theorem lsusbT_tree (env : SysfsEnv) {S : Finset SysfsEntry} (hvalid : ∀ e ∈ S, e.Valid)
    (hconfiguration : ∀ busnum ports c i c' i', IsPath ports → .interface busnum ports c i ∈ S →
      .interface busnum ports c' i' ∈ S → c = c')
    {order : List SysfsEntry} (hnodup : order.Nodup) (hS : ∀ e, e ∈ order ↔ e ∈ S) :
    lsusbT env (order.map SysfsEntry.name) = some (tree env S) ∧
      (treeNodes S).Nodup ∧
      ∀ busnum ports, (busnum, ports) ∈ treeNodes S ↔
        .rootHub busnum ∈ S ∧ ∀ way, way <+: ports → way ≠ [] → .device busnum way ∈ S := by
  have hdirectory : Directory order :=
    ⟨fun e he => hvalid e ((hS e).mp he), hnodup, fun h h' hpath =>
      hconfiguration _ _ _ _ _ _ hpath ((hS _).mp h) ((hS _).mp h')⟩
  obtain ⟨st, hwalk, hwalked⟩ := @walkUsbDevices_names env order hdirectory.valid
  obtain ⟨w, w', busLinks, hconnect, hsort, hbusses, hprint⟩ :=
    printed_tree hwalked hdirectory hS
  refine ⟨?_, treeNodes_nodup, fun busnum ports => mem_treeNodes⟩
  rw [lsusbT, hwalk]
  simp only [Option.bind_eq_bind, Option.bind_some, hconnect, hsort, hbusses, hprint]
  rw [hwalked.printed]
  rfl

def hubDirectory : List SysfsEntry :=
  [.device 1 [2, 1], .interface 1 [2] 1 0, .device 1 [2], .rootHub 1]

theorem lsusbT_tree_hub :
    lsusbT default (hubDirectory.map SysfsEntry.name) = some (tree default hubDirectory.toFinset) ∧
      (treeNodes hubDirectory.toFinset).Nodup ∧
      ∀ busnum ports, (busnum, ports) ∈ treeNodes hubDirectory.toFinset ↔
        .rootHub busnum ∈ hubDirectory.toFinset ∧
          ∀ way, way <+: ports → way ≠ [] → .device busnum way ∈ hubDirectory.toFinset := by
  have hvalid : ∀ e ∈ hubDirectory, e.Valid := by decide
  apply lsusbT_tree default (fun e he => hvalid e (List.mem_toFinset.mp he)) _ (by decide)
    fun e => List.mem_toFinset.symm
  intro busnum ports c i c' i' _ h h'
  simp only [hubDirectory, List.mem_toFinset, List.mem_cons, reduceCtorEq, false_or, or_false,
    SysfsEntry.interface.injEq, List.not_mem_nil] at h h'
  rw [h.2.2.1, h'.2.2.1]

end Usbutils
