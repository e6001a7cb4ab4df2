import Usbutils.Effect
import Usbutils.Lib.Forest
import Usbutils.Tree.Names

/-! `walk_usb_devices` of `lsusb-t.c`: a structure is allocated for each entry of the
directory. The address of a structure is its index in the list of those of its type;
the pointers between structures are kept in cells beside them. The lists `usbdevlist`
and `interfacelist` hold the structures in the order of their allocation. -/
namespace Usbutils
open Linked

structure SysfsEnv where
  readSysfsFileInt : Name → String → Nat → Nat
  readSysfsFileString : Name → String → String
  driverLink : Name → Option Name
  rootDriverLink : Name → Option Name
  getVendorString : Nat → String
  getProductString : Nat → Nat → String
  getClassString : Nat → String
  verblevel : Nat
  deriving Inhabited

structure UsbInterface where
  configuration : Nat
  ifnum : Nat
  bInterfaceClass : Nat
  name : Name
  driver : Name
  deriving Inhabited

structure UsbDevice where
  busnum : Nat
  parentPortnum : Nat
  portnum : Nat
  devnum : Nat
  idProduct : Nat
  idVendor : Nat
  maxchild : Nat
  manufacturer : String
  product : String
  serial : String
  speed : String
  rxLanes : Nat
  txLanes : Nat
  name : Name
  deriving Inhabited

structure UsbBusnode where
  busnum : Nat
  bDeviceClass : Nat
  devnum : Nat
  idProduct : Nat
  idVendor : Nat
  maxchild : Nat
  speed : String
  rxLanes : Nat
  txLanes : Nat
  name : Name
  driver : Name
  deriving Inhabited

/-- `usbbuslist`, and `next` of each bus. -/
inductive BusCell where
  | usbbuslist
  | next (b : Nat)
  deriving DecidableEq

/-- `first_interface` of each bus and each device, and `next` of each interface. -/
inductive IfaceCell where
  | ofBus (b : Nat)
  | ofDevice (d : Nat)
  | next (i : Nat)
  deriving DecidableEq

/-- `first_child` of each bus and each device, and `next` of each device. -/
abbrev DeviceCell := Cell Nat Nat

structure State where
  buses : List UsbBusnode
  devices : List UsbDevice
  interfaces : List UsbInterface
  busLinks : Links BusCell Nat
  printed : List Effect

structure Wires where
  devices : Links DeviceCell Nat
  ifaces : Links IfaceCell Nat
  /-- `parent` of each interface; that of a device is read nowhere. -/
  ifaceParent : Nat → Option Nat

/-- New structures are zeroed. -/
def Wires.null : Wires where
  devices := fun _ => none
  ifaces := fun _ => none
  ifaceParent := fun _ => none

namespace State

def initial : State where
  buses := []
  devices := []
  interfaces := []
  busLinks := fun _ => none
  printed := []

variable (st : State)

def bus (b : Nat) : UsbBusnode := st.buses.getD b default

def device (d : Nat) : UsbDevice := st.devices.getD d default

def interface (i : Nat) : UsbInterface := st.interfaces.getD i default

def usbdevlist : List Nat := List.range st.devices.length

def interfacelist : List Nat := List.range st.interfaces.length

end State

def mySysfsFilenameLen : Nat := 255
def myPathMax : Nat := 4096

/-- `snprintf(buf, MY_SYSFS_FILENAME_LEN, "%s", s)` -/
def filename (s : Name) : Name := s.take (mySysfsFilenameLen - 1)

def nameArg (s : Name) : Arg := .str (some (String.ofList s))

def truncationWarning (dName : Name) : List Effect :=
  if dName.length ≥ mySysfsFilenameLen then
    [.print "warning: '%s' truncated to '%s'\n" [nameArg dName, nameArg (filename dName)]]
  else []

/-- The last component of the link target, or `absent` without a link. -/
def driverName (link : Option Name) (absent : Name) : Name :=
  match link with
  | none => absent
  | some target => if target.length < myPathMax - 1 then filename (afterLast '/' target) else []

section Read

variable (env : SysfsEnv) (dName : Name)

def UsbInterface.read (configuration ifnum : Nat) : UsbInterface where
  configuration := configuration % 2 ^ 32
  ifnum := ifnum % 2 ^ 32
  bInterfaceClass := env.readSysfsFileInt dName "bInterfaceClass" 16
  name := filename dName
  driver := driverName (env.driverLink dName) "[none]".toList

def UsbDevice.read (busnum parentPortnum portnum : Nat) : UsbDevice where
  busnum := busnum % 2 ^ 32
  parentPortnum
  portnum
  devnum := env.readSysfsFileInt dName "devnum" 10
  idProduct := env.readSysfsFileInt dName "idProduct" 16
  idVendor := env.readSysfsFileInt dName "idVendor" 16
  maxchild := env.readSysfsFileInt dName "maxchild" 10
  manufacturer := env.readSysfsFileString dName "manufacturer"
  product := env.readSysfsFileString dName "product"
  serial := env.readSysfsFileString dName "serial"
  speed := env.readSysfsFileString dName "speed"
  rxLanes := env.readSysfsFileInt dName "rx_lanes" 10
  txLanes := env.readSysfsFileInt dName "tx_lanes" 10
  name := filename dName

def UsbBusnode.read (busnum : Nat) : UsbBusnode where
  busnum := busnum % 2 ^ 32
  bDeviceClass := env.readSysfsFileInt dName "bDeviceClass" 16
  devnum := env.readSysfsFileInt dName "devnum" 10
  idProduct := env.readSysfsFileInt dName "idProduct" 16
  idVendor := env.readSysfsFileInt dName "idVendor" 16
  maxchild := env.readSysfsFileInt dName "maxchild" 10
  speed := env.readSysfsFileString dName "speed"
  rxLanes := env.readSysfsFileInt dName "rx_lanes" 10
  txLanes := env.readSysfsFileInt dName "tx_lanes" 10
  name := filename dName
  driver := driverName (env.rootDriverLink dName) []

end Read

def appendBusnode (st : State) (new : Nat) : Option State := do
  let busLinks ← appendAt .next (fun _ => false) st.busLinks .usbbuslist new
  return { st with busLinks }

section Walk

variable (env : SysfsEnv) (dName : Name)

def addUsbInterface (st : State) : State :=
  let p := afterFirst ':' dName
  let configuration := strtoul p
  if configuration.2 = p then st
  else
    let p := configuration.2.tail
    let ifnum := strtoul p
    if ifnum.2 = p then st
    else
      { st with
        interfaces := st.interfaces ++ [.read env dName configuration.1 ifnum.1]
        printed := st.printed ++ truncationWarning dName }

/-- The loop over the ports of a name: the numbers of the last two. -/
def Name.portLoop (pn : Name) (parentPortnum portnum : Nat) : Option (Nat × Nat) :=
  match pn with
  | [] => some (parentPortnum, portnum)
  | _ :: p =>
      if (strtoul p).2 = p then some (parentPortnum, portnum)
      else (strtoul p).2 |>.portLoop portnum ((strtoul p).1 % 2 ^ 32)
partial_fixpoint

def addUsbDevice (st : State) : Option State :=
  let busnum := strtoul dName
  if busnum.2 = dName then some st
  else do
    let (parentPortnum, portnum) ← Name.portLoop busnum.2 0 0
    return { st with
      devices := st.devices ++ [.read env dName busnum.1 parentPortnum portnum]
      printed := st.printed ++ truncationWarning dName }

def addUsbBus (st : State) : Option State :=
  appendBusnode
    { st with
      buses := st.buses ++ [.read env dName (strtoul (dName.drop 3)).1]
      printed := st.printed ++ truncationWarning dName }
    st.buses.length

/-- An entry with another name is ignored, with a message on `stderr`. -/
def inspectBusEntry (st : State) : Option State :=
  if dName = ['.'] ∨ dName = ['.', '.'] then some st
  else if dName[0]? = some 'u' ∧ dName[1]? = some 's' ∧ dName[2]? = some 'b' ∧
      dName[3]?.any Char.isDigit then addUsbBus env dName st
  else if dName[0]?.any Char.isDigit then
    if ':' ∈ dName then some (addUsbInterface env dName st) else addUsbDevice env dName st
  else some st

end Walk

/-- `names` is what `readdir` returns, in its order. -/
def walkUsbDevices (env : SysfsEnv) (names : List Name) : Option State :=
  names.foldlM (fun st dName => inspectBusEntry env dName st) .initial

def lastPorts (ports : List Nat) : Nat × Nat := ports.foldl (fun s p => (s.2, p)) (0, 0)

def busOf (env : SysfsEnv) : SysfsEntry → Option UsbBusnode
  | .rootHub busnum => some (.read env (SysfsEntry.rootHub busnum).name busnum)
  | _ => none

def deviceOf (env : SysfsEnv) : SysfsEntry → Option UsbDevice
  | .device busnum ports =>
      some (.read env (deviceName busnum ports) busnum (lastPorts ports).1 (lastPorts ports).2)
  | _ => none

def interfaceOf (env : SysfsEnv) : SysfsEntry → Option UsbInterface
  | .interface busnum ports configuration ifnum =>
      some (.read env (SysfsEntry.interface busnum ports configuration ifnum).name
        configuration ifnum)
  | _ => none

theorem portLoop_portPath {c : Char} {ports : List Nat} (hne : ports ≠ [])
    (hports : ∀ p ∈ ports, p < 2 ^ 32) (parentPortnum portnum : Nat) :
    Name.portLoop (c :: portPath ports) parentPortnum portnum =
      some (ports.foldl (fun s p => (s.2, p)) (parentPortnum, portnum)) := by
  induction ports generalizing c parentPortnum portnum with
  | nil => exact absurd rfl hne
  | cons p rest ih =>
      have hp := hports p (List.mem_cons_self ..)
      cases rest with
      | nil =>
          have hread := @strtoul_decimal p [] (by omega) stops_nil
          rw [List.append_nil] at hread
          have hmod : p % 2 ^ 32 = p := Nat.mod_eq_of_lt hp
          rw [Name.portLoop]
          simp only [portPath, hread, hmod]
          rw [if_neg (decimal_ne_nil p).symm, Name.portLoop]
          rfl
      | cons q rest =>
          have hread := @strtoul_decimal p ('.' :: portPath (q :: rest)) (by omega)
            (stops_cons _ (by decide))
          have hmod : p % 2 ^ 32 = p := Nat.mod_eq_of_lt hp
          rw [Name.portLoop, portPath_cons (by simp)]
          simp only [hread, hmod]
          rw [if_neg (decimal_append_ne p _), ih (by simp) fun q hq => hports q (List.mem_cons_of_mem p hq)]
          rfl

def State.add (env : SysfsEnv) (st : State) (e : SysfsEntry) (busLinks : Links BusCell Nat) :
    State :=
  { st with
    buses := st.buses ++ (busOf env e).toList
    devices := st.devices ++ (deviceOf env e).toList
    interfaces := st.interfaces ++ (interfaceOf env e).toList
    busLinks }

theorem truncationWarning_eq {dName : Name} (h : dName.length < 255) :
    truncationWarning dName = [] :=
  if_neg (Nat.not_le_of_lt h)

theorem addUsbDevice_deviceName {env : SysfsEnv} {st : State} {busnum : Nat} {ports : List Nat}
    (hlength : (deviceName busnum ports).length < 255) (hbus : busnum < 2 ^ 32) (hne : ports ≠ [])
    (hports : ∀ p ∈ ports, p < 2 ^ 32) :
    addUsbDevice env (deviceName busnum ports) st =
      some (st.add env (.device busnum ports) st.busLinks) := by
  have hread := strtoul_deviceName ports hbus
  have hloop := @portLoop_portPath '-' ports hne hports 0 0
  have hname : '-' :: portPath ports ≠ deviceName busnum ports := decimal_append_ne busnum _
  have hwarning : truncationWarning (deviceName busnum ports) = [] := truncationWarning_eq hlength
  rw [addUsbDevice]
  simp only [hread]
  rw [if_neg hname]
  simp [hloop, hwarning, State.add, busOf, deviceOf, interfaceOf, lastPorts]

theorem addUsbDevice_name {env : SysfsEnv} {st : State} {busnum : Nat} {ports : List Nat}
    (h : (SysfsEntry.device busnum ports).Valid) :
    addUsbDevice env (deviceName busnum ports) st =
      some (st.add env (.device busnum ports) st.busLinks) := by
  obtain ⟨hlength, hbus, hne, hports⟩ := h
  exact addUsbDevice_deviceName hlength hbus.2 hne fun p hp => (hports p hp).2

theorem addUsbInterface_name {env : SysfsEnv} {st : State} {busnum : Nat} {ports : List Nat}
    {configuration ifnum : Nat}
    (h : (SysfsEntry.interface busnum ports configuration ifnum).Valid) :
    addUsbInterface env (SysfsEntry.interface busnum ports configuration ifnum).name st =
      st.add env (.interface busnum ports configuration ifnum) st.busLinks := by
  obtain ⟨hlength, hbus, hports, hconf, hifnum⟩ := h
  have hafter : afterFirst ':' (SysfsEntry.interface busnum ports configuration ifnum).name =
      decimal configuration ++ '.' :: decimal ifnum := by
    simp [SysfsEntry.name, afterFirst_append, colon_not_mem_deviceName]
  have hconfRead := @strtoul_decimal configuration ('.' :: decimal ifnum) (by omega)
    (stops_cons _ (by decide))
  have hifRead := @strtoul_decimal ifnum [] (by omega) stops_nil
  rw [List.append_nil] at hifRead
  have hwarning := truncationWarning_eq hlength
  rw [addUsbInterface]
  simp only [hafter, hconfRead, List.tail_cons, hifRead]
  rw [if_neg (decimal_append_ne _ _), if_neg (decimal_ne_nil _).symm]
  simp [hwarning, State.add, busOf, deviceOf, interfaceOf]

structure Walked (env : SysfsEnv) (es : List SysfsEntry) (st : State) : Prop where
  buses : st.buses = es.filterMap (busOf env)
  devices : st.devices = es.filterMap (deviceOf env)
  interfaces : st.interfaces = es.filterMap (interfaceOf env)
  chain : Chain .next st.busLinks .usbbuslist (List.range st.buses.length)
  unused : ∀ b, st.buses.length ≤ b → st.busLinks (.next b) = none
  printed : st.printed = []

variable {env : SysfsEnv} {st : State} {es : List SysfsEntry} {e : SysfsEntry}

theorem filterMap_concat {α β : Type} (f : α → Option β) (items : List α) (a : α) :
    (items ++ [a]).filterMap f = items.filterMap f ++ (f a).toList := by
  cases h : f a <;> simp [h]

theorem Walked.add (h : Walked env es st) {busLinks : Links BusCell Nat}
    (hchain : Chain .next busLinks .usbbuslist
      (List.range (st.buses ++ (busOf env e).toList).length))
    (hunused : ∀ b, (st.buses ++ (busOf env e).toList).length ≤ b → busLinks (.next b) = none) :
    Walked env (es ++ [e]) (st.add env e busLinks) where
  buses := by rw [filterMap_concat, ← h.buses]; rfl
  devices := by rw [filterMap_concat, ← h.devices]; rfl
  interfaces := by rw [filterMap_concat, ← h.interfaces]; rfl
  chain := hchain
  unused := hunused
  printed := h.printed

theorem Walked.add_other (h : Walked env es st) (hbus : busOf env e = none) :
    Walked env (es ++ [e]) (st.add env e st.busLinks) := by
  apply h.add
  · simpa [hbus] using h.chain
  · simpa [hbus] using h.unused

theorem addUsbBus_name {busnum : Nat} (h : (SysfsEntry.rootHub busnum).Valid)
    (hwalked : Walked env es st) :
    ∃ st', addUsbBus env (SysfsEntry.rootHub busnum).name st = some st' ∧
      Walked env (es ++ [.rootHub busnum]) st' := by
  obtain ⟨hlength, hbus, hlt⟩ := h
  have hread := @strtoul_decimal busnum [] (by omega) stops_nil
  rw [List.append_nil] at hread
  have hdrop : (SysfsEntry.rootHub busnum).name.drop 3 = decimal busnum := rfl
  have hwarning := truncationWarning_eq hlength
  have happend := appendAt_eq hwalked.chain (fun _ _ => rfl) st.buses.length
  have hfresh : BusCell.next st.buses.length ∉
      cells BusCell.next .usbbuslist (List.range st.buses.length) := by
    simp [cells]
  have hchain := chain_snoc hwalked.chain
    (hwalked.unused _ (Nat.le_refl _)) hfresh
  refine ⟨st.add env (.rootHub busnum) (Function.update st.busLinks
    (lastCell BusCell.next .usbbuslist (List.range st.buses.length)) (some st.buses.length)), ?_, ?_⟩
  · rw [addUsbBus, appendBusnode]
    simp only [hdrop, hread]
    rw [happend]
    simp [hwarning, State.add, busOf, deviceOf, interfaceOf]
  · apply hwalked.add
    · simpa [busOf, List.range_succ] using hchain
    · intro b hb
      have hlast := @lastCell_mem _ _ BusCell.next .usbbuslist (List.range st.buses.length)
      simp only [busOf, Option.toList_some, List.length_append, List.length_singleton] at hb
      rw [Function.update_of_ne]
      · exact hwalked.unused b (by omega)
      · intro heq
        rw [← heq] at hlast
        simp [cells] at hlast
        omega

theorem inspectBusEntry_number (n : Nat) (s : Name) :
    inspectBusEntry env (decimal n ++ s) st =
      if ':' ∈ decimal n ++ s then some (addUsbInterface env (decimal n ++ s) st)
      else addUsbDevice env (decimal n ++ s) st := by
  obtain ⟨c, digits, hdecimal⟩ := List.exists_cons_of_ne_nil (decimal_ne_nil n)
  have hc : c.isDigit = true := isDigit_of_mem_decimal (by rw [hdecimal]; simp)
  have hdot : c ≠ '.' := by
    rintro rfl
    cases hc
  have hu : c ≠ 'u' := by
    rintro rfl
    cases hc
  rw [inspectBusEntry, if_neg (by simp [hdecimal, hdot]), if_neg (by simp [hdecimal, hu]),
    if_pos (by simp [hdecimal, hc])]

theorem inspectBusEntry_name (h : e.Valid) (hwalked : Walked env es st) :
    ∃ st', inspectBusEntry env e.name st = some st' ∧ Walked env (es ++ [e]) st' := by
  cases e with
  | rootHub busnum =>
      obtain ⟨c, digits, hdecimal⟩ := List.exists_cons_of_ne_nil (decimal_ne_nil busnum)
      have hc : c.isDigit = true := isDigit_of_mem_decimal (by rw [hdecimal]; simp)
      rw [inspectBusEntry, if_neg (by simp [SysfsEntry.name]), if_pos (by simp [SysfsEntry.name, hdecimal, hc])]
      exact addUsbBus_name h hwalked
  | device busnum ports =>
      refine ⟨_, ?_, hwalked.add_other rfl⟩
      rw [← addUsbDevice_name h]
      exact (inspectBusEntry_number busnum _).trans (if_neg colon_not_mem_deviceName)
  | interface busnum ports configuration ifnum =>
      have hname : (SysfsEntry.interface busnum ports configuration ifnum).name =
          decimal busnum ++ ('-' :: portPath ports ++ ':' :: decimal configuration ++
            '.' :: decimal ifnum) := by
        simp [SysfsEntry.name, deviceName]
      refine ⟨_, ?_, hwalked.add_other rfl⟩
      rw [← addUsbInterface_name h, hname]
      exact (inspectBusEntry_number busnum _).trans (if_pos (by simp))

theorem foldlM_inspect {rest : List SysfsEntry} (h : ∀ e ∈ rest, e.Valid)
    (hwalked : Walked env es st) :
    ∃ st', (rest.map SysfsEntry.name).foldlM (fun st dName => inspectBusEntry env dName st) st =
      some st' ∧ Walked env (es ++ rest) st' := by
  induction rest generalizing es st with
  | nil => exact ⟨st, rfl, by rwa [List.append_nil]⟩
  | cons e rest ih =>
      obtain ⟨st₁, hfirst, hwalked₁⟩ := inspectBusEntry_name (h e (List.mem_cons_self ..)) hwalked
      obtain ⟨st₂, hrest, hwalked₂⟩ := ih (fun e' he' => h e' (List.mem_cons_of_mem e he')) hwalked₁
      refine ⟨st₂, ?_, ?_⟩
      · rw [List.map_cons, List.foldlM_cons, hfirst]
        exact hrest
      · rwa [List.append_assoc, List.singleton_append] at hwalked₂

/-- The walk finds a structure for each valid entry, in the order of the entries. -/
theorem walkUsbDevices_names (h : ∀ e ∈ es, e.Valid) :
    ∃ st, walkUsbDevices env (es.map SysfsEntry.name) = some st ∧ Walked env es st := by
  have hinitial : Walked env [] State.initial :=
    ⟨rfl, rfl, rfl, rfl, fun _ _ => rfl, rfl⟩
  exact foldlM_inspect h hinitial

end Usbutils
