import Mathlib.Data.List.GetD
import Mathlib.Tactic.IntervalCases
import Usbutils.Tree.Sort
import Usbutils.Tree.SysfsName

/-! The structures of a directory: which device, interface or bus has which address, and
in which list `connect_devices` puts it. -/
namespace Usbutils
open Linked

namespace SysfsEntry

def asRootHub : SysfsEntry → Option Nat
  | rootHub busnum => some busnum
  | _ => none

def asDevice : SysfsEntry → Option (Nat × List Nat)
  | device busnum ports => some (busnum, ports)
  | _ => none

def asInterface : SysfsEntry → Option (Nat × List Nat × Nat × Nat)
  | interface busnum ports configuration ifnum => some (busnum, ports, configuration, ifnum)
  | _ => none

@[simp] theorem asRootHub_eq {e : SysfsEntry} {busnum : Nat} :
    e.asRootHub = some busnum ↔ e = rootHub busnum := by
  cases e <;> simp [asRootHub]

@[simp] theorem asDevice_eq {e : SysfsEntry} {p : Nat × List Nat} :
    e.asDevice = some p ↔ e = device p.1 p.2 := by
  cases e <;> simp [asDevice, Prod.ext_iff]

@[simp] theorem asInterface_eq {e : SysfsEntry} {i : Nat × List Nat × Nat × Nat} :
    e.asInterface = some i ↔ e = interface i.1 i.2.1 i.2.2.1 i.2.2.2 := by
  cases e <;> simp [asInterface, Prod.ext_iff]

end SysfsEntry

section Address

variable {α : Type} [Inhabited α] {kind : SysfsEntry → Option α} {order : List SysfsEntry}
  {m n : Nat}

def entryAt (kind : SysfsEntry → Option α) (order : List SysfsEntry) (n : Nat) : α :=
  (order.filterMap kind).getD n default

theorem entryAt_mem (h : n < (order.filterMap kind).length) :
    ∃ e ∈ order, kind e = some (entryAt kind order n) := by
  rw [entryAt, List.getD_eq_getElem _ _ h]
  exact List.mem_filterMap.mp (List.getElem_mem h)

theorem exists_entryAt {e : SysfsEntry} {a : α} (he : e ∈ order) (ha : kind e = some a) :
    ∃ n < (order.filterMap kind).length, entryAt kind order n = a := by
  obtain ⟨n, hn, heq⟩ := List.mem_iff_getElem.mp (List.mem_filterMap.mpr ⟨e, he, ha⟩)
  refine ⟨n, hn, ?_⟩
  rw [entryAt, List.getD_eq_getElem _ _ hn]
  exact heq

theorem getD_map_entryAt {β : Type} {other : β} (f : α → β)
    (h : n < (order.filterMap kind).length) :
    ((order.filterMap kind).map f).getD n other = f (entryAt kind order n) := by
  rw [entryAt, List.getD_eq_getElem _ _ (by rwa [List.length_map]), List.getElem_map,
    List.getD_eq_getElem _ _ h]

theorem entryAt_inj (horder : order.Nodup)
    (hkind : ∀ e e' a, kind e = some a → kind e' = some a → e = e')
    (hm : m < (order.filterMap kind).length) (hn : n < (order.filterMap kind).length)
    (h : entryAt kind order m = entryAt kind order n) : m = n := by
  have hnodup : (order.filterMap kind).Nodup := horder.filterMap hkind
  rw [entryAt, entryAt, List.getD_eq_getElem _ _ hm, List.getD_eq_getElem _ _ hn] at h
  exact hnodup.getElem_inj_iff.mp h

end Address

theorem find?_eq_some_of_unique {α : Type} {p : α → Bool} {items : List α} {a : α}
    (h : ∀ b ∈ items, p b = true → ∀ c ∈ items, p c = true → b = c) :
    items.find? p = some a ↔ a ∈ items ∧ p a = true := by
  constructor
  · intro hfind
    exact ⟨List.mem_of_find?_eq_some hfind, List.find?_some hfind⟩
  · rintro ⟨ha, hp⟩
    cases hfind : items.find? p with
    | none => exact absurd hp (List.find?_eq_none.mp hfind a ha)
    | some b => rw [h b (List.mem_of_find?_eq_some hfind) (List.find?_some hfind) a ha hp]

theorem filename_eq {s : Name} (h : s.length < 255) : filename s = s :=
  List.take_of_length_le (Nat.le_of_lt_succ h)

theorem lastPorts_concat (ports : List Nat) (p : Nat) :
    lastPorts (ports ++ [p]) = ((lastPorts ports).2, p) := by
  simp [lastPorts]

theorem head?_decimal {n : Nat} (h : 1 ≤ n) : (decimal n).head? ≠ some '0' := by
  induction n using Nat.strong_induction_on with
  | _ n ih =>
      by_cases hn : n < 10
      · interval_cases n <;> decide
      · have hsplit : decimal n = decimal (n / 10) ++ [Nat.digitChar (n % 10)] :=
          Nat.toDigits_of_base_le (by decide) (by omega)
        rw [hsplit, List.head?_append_of_ne_nil _ (decimal_ne_nil _)]
        exact ih (n / 10) (by omega) (by omega)

/-- What the kernel puts in the directory. -/
structure Directory (order : List SysfsEntry) : Prop where
  valid : ∀ e ∈ order, e.Valid
  nodup : order.Nodup
  /-- All interfaces of one device belong to one configuration. -/
  configuration : ∀ {busnum ports c i c' i'}, .interface busnum ports c i ∈ order →
    .interface busnum ports c' i' ∈ order → IsPath ports → c = c'

section Structures

variable {env : SysfsEnv} {order : List SysfsEntry} {st : State} {d i b : Nat}

def deviceAt (order : List SysfsEntry) (d : Nat) : Nat × List Nat :=
  entryAt SysfsEntry.asDevice order d

def interfaceAt (order : List SysfsEntry) (i : Nat) : Nat × List Nat × Nat × Nat :=
  entryAt SysfsEntry.asInterface order i

def busnumAt (order : List SysfsEntry) (b : Nat) : Nat := entryAt SysfsEntry.asRootHub order b

def readDevice (env : SysfsEnv) (busnum : Nat) (ports : List Nat) : UsbDevice :=
  .read env (deviceName busnum ports) busnum (lastPorts ports).1 (lastPorts ports).2

def readInterface (env : SysfsEnv) (busnum : Nat) (ports : List Nat) (configuration ifnum : Nat) :
    UsbInterface :=
  .read env (SysfsEntry.interface busnum ports configuration ifnum).name configuration ifnum

def readBusnode (env : SysfsEnv) (busnum : Nat) : UsbBusnode :=
  .read env (SysfsEntry.rootHub busnum).name busnum

theorem Walked.devices_eq (h : Walked env order st) :
    st.devices = (order.filterMap SysfsEntry.asDevice).map fun p => readDevice env p.1 p.2 := by
  rw [h.devices, List.map_filterMap]
  congr 1
  funext e
  cases e <;> rfl

theorem Walked.interfaces_eq (h : Walked env order st) :
    st.interfaces = (order.filterMap SysfsEntry.asInterface).map fun i =>
      readInterface env i.1 i.2.1 i.2.2.1 i.2.2.2 := by
  rw [h.interfaces, List.map_filterMap]
  congr 1
  funext e
  cases e <;> rfl

theorem Walked.buses_eq (h : Walked env order st) :
    st.buses = (order.filterMap SysfsEntry.asRootHub).map (readBusnode env) := by
  rw [h.buses, List.map_filterMap]
  congr 1
  funext e
  cases e <;> rfl

theorem mem_usbdevlist (h : Walked env order st) :
    d ∈ st.usbdevlist ↔ d < (order.filterMap SysfsEntry.asDevice).length := by
  rw [State.usbdevlist, List.mem_range, h.devices_eq, List.length_map]

theorem mem_interfacelist (h : Walked env order st) :
    i ∈ st.interfacelist ↔ i < (order.filterMap SysfsEntry.asInterface).length := by
  rw [State.interfacelist, List.mem_range, h.interfaces_eq, List.length_map]

theorem bus_lt (h : Walked env order st) :
    b < st.buses.length ↔ b < (order.filterMap SysfsEntry.asRootHub).length := by
  rw [h.buses_eq, List.length_map]

theorem device_eq (h : Walked env order st) (hd : d ∈ st.usbdevlist) :
    st.device d = readDevice env (deviceAt order d).1 (deviceAt order d).2 := by
  rw [State.device, h.devices_eq, getD_map_entryAt _ ((mem_usbdevlist h).mp hd), deviceAt]

theorem interface_eq (h : Walked env order st) (hi : i ∈ st.interfacelist) :
    st.interface i = readInterface env (interfaceAt order i).1 (interfaceAt order i).2.1
      (interfaceAt order i).2.2.1 (interfaceAt order i).2.2.2 := by
  rw [State.interface, h.interfaces_eq, getD_map_entryAt _ ((mem_interfacelist h).mp hi), interfaceAt]

theorem bus_eq (h : Walked env order st) (hb : b < st.buses.length) :
    st.bus b = readBusnode env (busnumAt order b) := by
  rw [State.bus, h.buses_eq, getD_map_entryAt _ ((bus_lt h).mp hb), busnumAt]

theorem deviceAt_mem (h : Walked env order st) (hd : d ∈ st.usbdevlist) :
    .device (deviceAt order d).1 (deviceAt order d).2 ∈ order := by
  obtain ⟨e, he, hkind⟩ := entryAt_mem ((mem_usbdevlist h).mp hd)
  exact SysfsEntry.asDevice_eq.mp hkind ▸ he

theorem exists_deviceAt (h : Walked env order st) {busnum : Nat} {ports : List Nat}
    (he : .device busnum ports ∈ order) :
    ∃ d ∈ st.usbdevlist, deviceAt order d = (busnum, ports) := by
  obtain ⟨d, hd, heq⟩ := exists_entryAt he (SysfsEntry.asDevice_eq (p := (busnum, ports)).mpr rfl)
  exact ⟨d, (mem_usbdevlist h).mpr hd, heq⟩

theorem deviceAt_inj (h : Walked env order st) (horder : order.Nodup) {d' : Nat}
    (hd : d ∈ st.usbdevlist) (hd' : d' ∈ st.usbdevlist)
    (heq : deviceAt order d = deviceAt order d') : d = d' := by
  apply entryAt_inj horder _ ((mem_usbdevlist h).mp hd) ((mem_usbdevlist h).mp hd') heq
  intro e e' p he he'
  rw [SysfsEntry.asDevice_eq.mp he, SysfsEntry.asDevice_eq.mp he']

theorem interfaceAt_mem (h : Walked env order st) (hi : i ∈ st.interfacelist) :
    .interface (interfaceAt order i).1 (interfaceAt order i).2.1 (interfaceAt order i).2.2.1
      (interfaceAt order i).2.2.2 ∈ order := by
  obtain ⟨e, he, hkind⟩ := entryAt_mem ((mem_interfacelist h).mp hi)
  exact SysfsEntry.asInterface_eq.mp hkind ▸ he

theorem exists_interfaceAt (h : Walked env order st) {busnum configuration ifnum : Nat}
    {ports : List Nat} (he : .interface busnum ports configuration ifnum ∈ order) :
    ∃ i ∈ st.interfacelist, interfaceAt order i = (busnum, ports, configuration, ifnum) := by
  obtain ⟨i, hi, heq⟩ := exists_entryAt he
    (SysfsEntry.asInterface_eq (i := (busnum, ports, configuration, ifnum)).mpr rfl)
  exact ⟨i, (mem_interfacelist h).mpr hi, heq⟩

theorem interfaceAt_inj (h : Walked env order st) (horder : order.Nodup) {i' : Nat}
    (hi : i ∈ st.interfacelist) (hi' : i' ∈ st.interfacelist)
    (heq : interfaceAt order i = interfaceAt order i') : i = i' := by
  apply entryAt_inj horder _ ((mem_interfacelist h).mp hi) ((mem_interfacelist h).mp hi') heq
  intro e e' p he he'
  rw [SysfsEntry.asInterface_eq.mp he, SysfsEntry.asInterface_eq.mp he']

theorem busnumAt_mem (h : Walked env order st) (hb : b < st.buses.length) :
    .rootHub (busnumAt order b) ∈ order := by
  obtain ⟨e, he, hkind⟩ := entryAt_mem ((bus_lt h).mp hb)
  exact SysfsEntry.asRootHub_eq.mp hkind ▸ he

theorem exists_busnumAt (h : Walked env order st) {busnum : Nat} (he : .rootHub busnum ∈ order) :
    ∃ b < st.buses.length, busnumAt order b = busnum := by
  obtain ⟨b, hb, heq⟩ := exists_entryAt he (SysfsEntry.asRootHub_eq.mpr rfl)
  exact ⟨b, (bus_lt h).mpr hb, heq⟩

theorem busnumAt_inj (h : Walked env order st) (horder : order.Nodup) {b' : Nat}
    (hb : b < st.buses.length) (hb' : b' < st.buses.length)
    (heq : busnumAt order b = busnumAt order b') : b = b' := by
  apply entryAt_inj horder _ ((bus_lt h).mp hb) ((bus_lt h).mp hb') heq
  intro e e' p he he'
  rw [SysfsEntry.asRootHub_eq.mp he, SysfsEntry.asRootHub_eq.mp he']

end Structures

section Homes

variable {env : SysfsEnv} {order : List SysfsEntry} {st : State} {d pd b busnum : Nat}
  {ports : List Nat}

theorem readDevice_name (h : (SysfsEntry.device busnum ports).Valid) :
    (readDevice env busnum ports).name = deviceName busnum ports :=
  filename_eq h.1

theorem readDevice_busnum (h : (SysfsEntry.device busnum ports).Valid) :
    (readDevice env busnum ports).busnum = busnum :=
  Nat.mod_eq_of_lt h.2.1.2

/-- A device whose hub has no port is one on a root hub. -/
theorem parentPortnum_eq_zero (h : IsPath ports) :
    (readDevice env busnum ports).parentPortnum = 0 ↔ ∃ p, ports = [p] := by
  obtain ⟨init, p, rfl⟩ := (List.eq_nil_or_concat' ports).resolve_left h.1
  have hparent : (readDevice env busnum (init ++ [p])).parentPortnum = (lastPorts init).2 := by
    change (lastPorts (init ++ [p])).1 = (lastPorts init).2
    rw [lastPorts_concat]
  rw [hparent]
  rcases List.eq_nil_or_concat' init with rfl | ⟨init, q, rfl⟩
  · exact iff_of_true rfl ⟨p, rfl⟩
  · rw [lastPorts_concat]
    have hq := (h.2 q (by simp)).1
    constructor
    · intro hzero
      change q = 0 at hzero
      omega
    · rintro ⟨p', hp'⟩
      have hlength := congrArg List.length hp'
      simp at hlength

variable (hwalked : Walked env order st) (hdirectory : Directory order)
include hwalked hdirectory

theorem deviceAt_valid (hd : d ∈ st.usbdevlist) :
    (SysfsEntry.device (deviceAt order d).1 (deviceAt order d).2).Valid :=
  hdirectory.valid _ (deviceAt_mem hwalked hd)

theorem isParent_iff (hd : d ∈ st.usbdevlist) (hpd : pd ∈ st.usbdevlist) :
    isParent st d pd = true ↔
      ∃ p, deviceAt order d = ((deviceAt order pd).1, (deviceAt order pd).2 ++ [p]) := by
  have hvalid := deviceAt_valid hwalked hdirectory hd
  have hhub := deviceAt_valid hwalked hdirectory hpd
  rw [isParent, decide_eq_true_eq, device_eq hwalked hd, device_eq hwalked hpd,
    readDevice_name hvalid, readDevice_name hhub, readDevice_busnum hvalid, readDevice_busnum hhub]
  constructor
  · rintro ⟨-, -, hname⟩
    obtain ⟨init, p, hports⟩ := (List.eq_nil_or_concat' _).resolve_left hvalid.2.2.1
    rw [hports] at hname
    rcases List.eq_nil_or_concat' init with rfl | ⟨rest, q, rfl⟩
    · rw [List.nil_append, beforeLast_rootDevice] at hname
      cases hname
    · rw [beforeLast_deviceName _ (by simp), Option.some.injEq] at hname
      obtain ⟨hbus, hinit⟩ := deviceName_inj (by simp) hhub.2.2.1 hname
      exact ⟨p, Prod.ext hbus (by rw [hports, hinit])⟩
  · rintro ⟨p, hp⟩
    rw [hp]
    refine ⟨?_, ⟨rfl, ?_⟩, beforeLast_deviceName _ hhub.2.2.1 p⟩
    · rintro rfl
      have hlength := congrArg (fun p => p.2.length) hp
      simp at hlength
    · change (lastPorts (deviceAt order pd).2).2 = (lastPorts ((deviceAt order pd).2 ++ [p])).1
      rw [lastPorts_concat]

theorem home_child_iff (hd : d ∈ st.usbdevlist) : home st d = some (.child pd) ↔
    pd ∈ st.usbdevlist ∧
      ∃ p, deviceAt order d = ((deviceAt order pd).1, (deviceAt order pd).2 ++ [p]) := by
  have hvalid := deviceAt_valid hwalked hdirectory hd
  have hfind : st.usbdevlist.find? (isParent st d) = some pd ↔
      pd ∈ st.usbdevlist ∧ isParent st d pd = true := by
    apply find?_eq_some_of_unique
    intro pd₁ h₁ hparent₁ pd₂ h₂ hparent₂
    obtain ⟨p₁, hp₁⟩ := (isParent_iff hwalked hdirectory hd h₁).mp hparent₁
    obtain ⟨p₂, hp₂⟩ := (isParent_iff hwalked hdirectory hd h₂).mp hparent₂
    obtain ⟨hbus, hports⟩ := Prod.mk.inj (hp₁.symm.trans hp₂)
    exact deviceAt_inj hwalked hdirectory.nodup h₁ h₂
      (Prod.ext hbus (List.append_inj_left' hports rfl))
  rw [home, device_eq hwalked hd]
  split_ifs with hparent
  · rw [Option.map_eq_some_iff]
    simp only [Cell.child.injEq, exists_eq_right]
    rw [hfind]
    exact and_congr_right fun hpd => isParent_iff hwalked hdirectory hd hpd
  · constructor
    · intro h
      simp at h
    · rintro ⟨hpd, p, hp⟩
      rw [ne_eq, not_not, parentPortnum_eq_zero hvalid.2.2] at hparent
      obtain ⟨q, hq⟩ := hparent
      rw [hp] at hq
      have hlength := congrArg List.length hq
      have hne := List.length_pos_iff.mpr (deviceAt_valid hwalked hdirectory hpd).2.2.1
      simp only [List.length_append, List.length_singleton] at hlength
      omega

theorem bus_busnum (hb : b < st.buses.length) : (st.bus b).busnum = busnumAt order b := by
  rw [bus_eq hwalked hb]
  exact Nat.mod_eq_of_lt (hdirectory.valid _ (busnumAt_mem hwalked hb)).2.2

theorem home_root_iff (hd : d ∈ st.usbdevlist) : home st d = some (.root b) ↔
    b < st.buses.length ∧ ∃ p, deviceAt order d = (busnumAt order b, [p]) := by
  have hvalid := deviceAt_valid hwalked hdirectory hd
  have hfind : (List.range st.buses.length).find? (fun b =>
      decide ((st.bus b).busnum = (st.device d).busnum)) = some b ↔
        b < st.buses.length ∧ busnumAt order b = (deviceAt order d).1 := by
    have hsame : ∀ b < st.buses.length, (st.bus b).busnum = (st.device d).busnum ↔
        busnumAt order b = (deviceAt order d).1 := by
      intro b hb
      rw [bus_busnum hwalked hdirectory hb, device_eq hwalked hd, readDevice_busnum hvalid]
    rw [find?_eq_some_of_unique]
    · rw [List.mem_range, decide_eq_true_eq]
      exact and_congr_right fun hb => hsame b hb
    · intro b₁ h₁ hb₁ b₂ h₂ hb₂
      rw [List.mem_range] at h₁ h₂
      rw [decide_eq_true_eq, hsame _ h₁] at hb₁
      rw [decide_eq_true_eq, hsame _ h₂] at hb₂
      exact busnumAt_inj hwalked hdirectory.nodup h₁ h₂ (hb₁.trans hb₂.symm)
  rw [home]
  split_ifs with hparent
  · rw [device_eq hwalked hd, ne_eq, parentPortnum_eq_zero hvalid.2.2] at hparent
    constructor
    · intro h
      simp at h
    · rintro ⟨-, p, hp⟩
      exact absurd ⟨p, congrArg Prod.snd hp⟩ hparent
  · rw [device_eq hwalked hd, ne_eq, not_not, parentPortnum_eq_zero hvalid.2.2] at hparent
    obtain ⟨p, hp⟩ := hparent
    rw [Option.map_eq_some_iff]
    simp only [Cell.root.injEq, exists_eq_right]
    rw [hfind]
    apply and_congr_right
    intro _
    constructor
    · exact fun heq => ⟨p, Prod.ext heq.symm hp⟩
    · exact fun ⟨_, heq⟩ => (congrArg Prod.fst heq).symm

end Homes

section Interfaces

variable {env : SysfsEnv} {order : List SysfsEntry} {st : State} {d i b : Nat}
  (hwalked : Walked env order st) (hdirectory : Directory order)
include hwalked hdirectory

theorem interfaceAt_valid (hi : i ∈ st.interfacelist) :
    (SysfsEntry.interface (interfaceAt order i).1 (interfaceAt order i).2.1
      (interfaceAt order i).2.2.1 (interfaceAt order i).2.2.2).Valid :=
  hdirectory.valid _ (interfaceAt_mem hwalked hi)

theorem interface_name (hi : i ∈ st.interfacelist) :
    (st.interface i).name = (SysfsEntry.interface (interfaceAt order i).1 (interfaceAt order i).2.1
      (interfaceAt order i).2.2.1 (interfaceAt order i).2.2.2).name := by
  rw [interface_eq hwalked hi]
  exact filename_eq (interfaceAt_valid hwalked hdirectory hi).1

theorem interface_configuration (hi : i ∈ st.interfacelist) :
    (st.interface i).configuration = (interfaceAt order i).2.2.1 := by
  rw [interface_eq hwalked hi]
  exact Nat.mod_eq_of_lt (interfaceAt_valid hwalked hdirectory hi).2.2.2.1

theorem interface_ifnum (hi : i ∈ st.interfacelist) :
    (st.interface i).ifnum = (interfaceAt order i).2.2.2 := by
  rw [interface_eq hwalked hi]
  exact Nat.mod_eq_of_lt (interfaceAt_valid hwalked hdirectory hi).2.2.2.2

theorem ownerName_eq (hi : i ∈ st.interfacelist) :
    ownerName st i = deviceName (interfaceAt order i).1 (interfaceAt order i).2.1 := by
  rw [ownerName, interface_name hwalked hdirectory hi, SysfsEntry.name, List.append_assoc,
    List.takeWhile_append_of_pos]
  · simp
  · intro c hc
    rw [decide_eq_true_eq]
    rintro rfl
    exact colon_not_mem_deviceName hc

theorem owns_iff (hd : d ∈ st.usbdevlist) (hi : i ∈ st.interfacelist) : owns st d i = true ↔
    (interfaceAt order i).1 = (deviceAt order d).1 ∧
      (interfaceAt order i).2.1 = (deviceAt order d).2 := by
  have hdevice := deviceAt_valid hwalked hdirectory hd
  have hne : (interfaceAt order i).2.1 ≠ [] := by
    rcases (interfaceAt_valid hwalked hdirectory hi).2.2.1 with hports | hports
    · exact hports.1
    · simp [hports]
  have hcolon : ':' ∈ (st.interface i).name := by
    rw [interface_name hwalked hdirectory hi]
    simp [SysfsEntry.name]
  rw [owns, decide_eq_true_eq, ownerName_eq hwalked hdirectory hi, device_eq hwalked hd,
    readDevice_name hdevice]
  constructor
  · rintro ⟨-, hname⟩
    obtain ⟨hbus, hports⟩ := deviceName_inj hdevice.2.2.1 hne hname
    exact ⟨hbus.symm, hports.symm⟩
  · rintro ⟨hbus, hports⟩
    exact ⟨hcolon, by rw [hbus, hports]⟩

/-- No port has the number 0, so the interface of a device is not taken for one of a root hub. -/
theorem isRootInterface_owned (hd : d ∈ st.usbdevlist) (hi : i ∈ st.interfacelist)
    (howns : owns st d i = true) : isRootInterface st i = false := by
  obtain ⟨hbus, hports⟩ := (owns_iff hwalked hdirectory hd hi).mp howns
  have hdevice := deviceAt_valid hwalked hdirectory hd
  have hread := strtoul_deviceName (deviceAt order d).2 hdevice.2.1.2
  obtain ⟨p, rest, hp⟩ := List.exists_cons_of_ne_nil hdevice.2.2.1
  have hhead : (portPath (deviceAt order d).2)[0]? ≠ some '0' := by
    have hnumber := hdevice.2.2.2 p (by rw [hp]; exact List.mem_cons_self)
    rw [← List.head?_eq_getElem?, hp, portPath_eq, List.head?_append_of_ne_nil _ (decimal_ne_nil p)]
    exact head?_decimal hnumber.1
  rw [isRootInterface, ownerName_eq hwalked hdirectory hi, hbus, hports, hread,
    List.getElem?_cons_succ, Bool.and_eq_false_iff, beq_eq_false_iff_ne]
  exact Or.inr hhead

theorem proper_of_walked : Proper st where
  chain := hwalked.chain
  busnums := by
    apply List.nodup_range.map_on
    intro b hb b' hb' heq
    rw [List.mem_range] at hb hb'
    rw [bus_busnum hwalked hdirectory hb, bus_busnum hwalked hdirectory hb'] at heq
    exact busnumAt_inj hwalked hdirectory.nodup hb hb' heq
  names := by
    apply List.nodup_range.map_on
    intro d hd d' hd' heq
    have hvalid := deviceAt_valid hwalked hdirectory hd
    have hvalid' := deviceAt_valid hwalked hdirectory hd'
    rw [device_eq hwalked hd, device_eq hwalked hd', readDevice_name hvalid,
      readDevice_name hvalid'] at heq
    obtain ⟨hbus, hports⟩ := deviceName_inj hvalid.2.2.1 hvalid'.2.2.1 heq
    exact deviceAt_inj hwalked hdirectory.nodup hd hd' (Prod.ext hbus hports)
  roots := fun _ hd _ hi => isRootInterface_owned hwalked hdirectory hd hi

def connectedIfaces (st : State) : IfaceCell → List Nat :=
  ifaceLists st (placed st st.usbdevlist 0 [])

theorem mem_connectedIfaces (hd : d ∈ st.usbdevlist) : i ∈ connectedIfaces st (.ofDevice d) ↔
    i ∈ st.interfacelist ∧ (interfaceAt order i).1 = (deviceAt order d).1 ∧
      (interfaceAt order i).2.1 = (deviceAt order d).2 := by
  rw [connectedIfaces, mem_ifaceLists]
  apply and_congr_right
  intro hi
  rw [ifaceHome_ofDevice (proper_of_walked hwalked hdirectory), ← owns_iff hwalked hdirectory hd hi]
  constructor
  · exact fun h => h.2.2
  · intro howns
    have hhome := (ifaceHome_ofDevice (proper_of_walked hwalked hdirectory)).mpr ⟨hd, howns⟩
    exact ⟨by simp [placed, hhome, hd], hd, howns⟩

theorem connectedIfaces_nil (hd : d ∉ st.usbdevlist) : connectedIfaces st (.ofDevice d) = [] := by
  rw [List.eq_nil_iff_forall_not_mem]
  intro i hi
  rw [connectedIfaces, mem_ifaceLists,
    ifaceHome_ofDevice (proper_of_walked hwalked hdirectory)] at hi
  exact hd hi.2.2.1

theorem sortable_of_walked : Sortable st (connectedIfaces st) := by
  have hsame : ∀ d, ∀ a ∈ connectedIfaces st (.ofDevice d), ∀ b ∈ connectedIfaces st (.ofDevice d),
      (st.interface a).configuration = (st.interface b).configuration ∧
        ((st.interface a).ifnum = (st.interface b).ifnum → a = b) := by
    intro d a ha b hb
    by_cases hd : d ∈ st.usbdevlist
    · rw [mem_connectedIfaces hwalked hdirectory hd] at ha hb
      have hamem := interfaceAt_mem hwalked ha.1
      have hbmem := interfaceAt_mem hwalked hb.1
      have hbus := ha.2.1.trans hb.2.1.symm
      have hports := ha.2.2.trans hb.2.2.symm
      have hpath : IsPath (interfaceAt order a).2.1 := by
        rw [ha.2.2]
        exact (deviceAt_valid hwalked hdirectory hd).2.2
      rw [← hbus, ← hports] at hbmem
      have hconfiguration := hdirectory.configuration hamem hbmem hpath
      rw [interface_configuration hwalked hdirectory ha.1,
        interface_configuration hwalked hdirectory hb.1, interface_ifnum hwalked hdirectory ha.1,
        interface_ifnum hwalked hdirectory hb.1]
      exact ⟨hconfiguration, fun hifnum => interfaceAt_inj hwalked hdirectory.nodup ha.1 hb.1
        (Prod.ext hbus (Prod.ext hports (Prod.ext hconfiguration hifnum)))⟩
    · rw [connectedIfaces_nil hwalked hdirectory hd] at ha
      cases ha
  constructor
  · exact fun d a ha b hb => (hsame d a ha b hb).1
  · intro d
    apply (List.nodup_range.filter _).map_on
    exact fun a ha b hb => (hsame d a ha b hb).2

end Interfaces

section Forests

variable {env : SysfsEnv} {order : List SysfsEntry} {st : State} {w : Wires} {d b depth : Nat}
  {c : DeviceCell} (hwalked : Walked env order st) (hdirectory : Directory order)

def connectedDevices (st : State) (c : DeviceCell) : List Nat :=
  st.usbdevlist.filter fun d => decide (home st d = some c)

def wayTo (order : List SysfsEntry) (d : Nat) : List Nat :=
  (deviceAt order d).1 :: (deviceAt order d).2

structure AreChildren (st : State) (order : List SysfsEntry) (busnum : Nat) (ports : List Nat)
    (children : List Nat) : Prop where
  nodup : children.Nodup
  mem : ∀ d, d ∈ children ↔ d ∈ st.usbdevlist ∧ ∃ p, deviceAt order d = (busnum, ports ++ [p])

theorem connectedDevices_nodup : (connectedDevices st c).Nodup := List.nodup_range.filter _

theorem mem_connectedDevices : d ∈ connectedDevices st c ↔ d ∈ st.usbdevlist ∧ home st d = some c := by
  rw [connectedDevices, List.mem_filter, decide_eq_true_eq]

include hwalked hdirectory

theorem connectedDevices_child {pd : Nat} (hpd : pd ∈ st.usbdevlist) :
    AreChildren st order (deviceAt order pd).1 (deviceAt order pd).2
      (connectedDevices st (.child pd)) := by
  refine ⟨connectedDevices_nodup, fun d => ?_⟩
  rw [mem_connectedDevices]
  apply and_congr_right
  intro hd
  rw [home_child_iff hwalked hdirectory hd]
  exact and_iff_right hpd

theorem connectedDevices_root (hb : b < st.buses.length) :
    AreChildren st order (busnumAt order b) [] (connectedDevices st (.root b)) := by
  refine ⟨connectedDevices_nodup, fun d => ?_⟩
  rw [mem_connectedDevices]
  apply and_congr_right
  intro hd
  rw [home_root_iff hwalked hdirectory hd]
  exact and_iff_right hb

theorem nodup_wayTo : ((connectedDevices st c).map (wayTo order)).Nodup := by
  apply connectedDevices_nodup.map_on
  intro d hd d' hd' heq
  rw [mem_connectedDevices] at hd hd'
  obtain ⟨hbus, hports⟩ := List.cons.inj heq
  exact deviceAt_inj hwalked hdirectory.nodup hd.1 hd'.1 (Prod.ext hbus hports)

theorem branching_of_walked
    (hdepth : ∀ busnum ports, .device busnum ports ∈ order → ports.length ≤ depth) :
    Forest.Branching (connectedDevices st) (wayTo order) (depth + 1) where
  child := by
    intro pd d hd
    rw [mem_connectedDevices] at hd
    obtain ⟨-, p, hp⟩ := (home_child_iff hwalked hdirectory hd.1).mp hd.2
    exact ⟨p, by rw [wayTo, hp]; rfl⟩
  nodup := fun pd => nodup_wayTo hwalked hdirectory
  deepest := by
    intro d
    rw [wayTo, List.length_cons]
    apply Nat.succ_le_succ
    by_cases hd : d ∈ st.usbdevlist
    · exact hdepth _ _ (deviceAt_mem hwalked hd)
    · rw [mem_usbdevlist hwalked, not_lt] at hd
      have hnone : deviceAt order d = default := List.getD_eq_default _ _ hd
      rw [hnone]
      exact Nat.zero_le depth

def connectedForest (st : State) (depth b : Nat) : Forest Nat :=
  Forest.grow (connectedDevices st) depth (connectedDevices st (.root b))

theorem length_wayTo_root (hb : b < st.buses.length) :
    ∀ d ∈ connectedDevices st (.root b), (wayTo order d).length = 2 := by
  intro d hd
  obtain ⟨-, p, hp⟩ := ((connectedDevices_root hwalked hdirectory hb).mem d).mp hd
  rw [wayTo, hp]
  rfl

theorem planted_of_connected (hconnected : Connected st st.usbdevlist w)
    (hdepth : ∀ busnum ports, .device busnum ports ∈ order → ports.length ≤ depth) :
    Planted st (connectedIfaces st) w (List.range st.buses.length) (connectedForest st depth) [] := by
  have hbranching := branching_of_walked hwalked hdirectory hdepth
  have hlists : Lists .next w.devices (connectedDevices st) := hconnected.devices
  have hlength := fun b hb => length_wayTo_root hwalked hdirectory (b := b) (List.mem_range.mp hb)
  have hgrow : ∀ b ∈ List.range st.buses.length, (connectedForest st depth b).nodes.Nodup ∧
      ∀ d ∈ (connectedForest st depth b).nodes,
        ∃ i ∈ connectedDevices st (.root b), wayTo order i <+: wayTo order d :=
    fun b hb => hbranching.nodup_nodes_grow (nodup_wayTo hwalked hdirectory) (hlength b hb)
  refine ⟨fun b hb => ?_, fun b hb => (hgrow b hb).1, fun b hb b' hb' hne d hd hd' => ?_, ?_⟩
  · apply Forest.holds_grow hlists hbranching (hlists.chain (.root b) (by simp))
    intro d hd
    rw [hlength b hb d hd]
    omega
  · obtain ⟨i, hi, hbelow⟩ := (hgrow b hb).2 d hd
    obtain ⟨i', hi', hbelow'⟩ := (hgrow b' hb').2 d hd'
    rw [List.mem_range] at hb hb'
    obtain ⟨-, p, hp⟩ := ((connectedDevices_root hwalked hdirectory hb).mem i).mp hi
    obtain ⟨-, p', hp'⟩ := ((connectedDevices_root hwalked hdirectory hb').mem i').mp hi'
    rw [wayTo, hp, wayTo, List.cons_prefix_cons] at hbelow
    rw [wayTo, hp', wayTo, List.cons_prefix_cons] at hbelow'
    exact hne (busnumAt_inj hwalked hdirectory.nodup hb hb' (hbelow.1.trans hbelow'.1.symm))
  · rw [resort_nil]
    exact (hconnected.ifaces 0).lists

end Forests

end Usbutils
