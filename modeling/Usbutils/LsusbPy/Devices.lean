import Usbutils.Lib.Outline
import Usbutils.Lib.PyLists
import Usbutils.LsusbPy.Attributes
import Mathlib.Data.List.Lex

/-! `UsbDevice.readchildren` of `lsusb.py` and the root hubs of `read_usb`: the devices that the
directories of sysfs have below each other. -/
namespace Usbutils.LsusbPy
open PyText Linked

/-- `[int(x) for x in re.split(r"[-:.]", obj.fname)]` -/
def usbsortkey (py : Python) (fname : Str) : Option (List Int) :=
  (splitAt ['-', ':', '.'] fname).mapM (intBase10 py.toUnicode)

section Read

variable (py : Python) (sys : Sysfs) (g : Globals)

/-- The name of an interface or a device, not of a file about this one. -/
def isChild (dirent : Str) : Bool := dirent.head?.any (isdigit py.toUnicode)

def isInterface (dirent : Str) : Bool :=
  sys.access (usbPath ++ dirent ++ "/bInterfaceClass".toList)

def ofSiblings (devices : List (UsbDevice × Forest UsbDevice)) : Forest UsbDevice :=
  devices.foldr (fun device rest => .cons device.1 device.2 rest) .nil

/-- `UsbDevice(parent, fname, level)`: the device with its interfaces, and all that is below it. -/
def Sysfs.deviceTree (sys : Sysfs) (py : Python) (g : Globals) (fname : Str) (level : Nat) :
    Option (UsbDevice × Forest UsbDevice) := do
  let dev ← UsbDevice.read py sys g fname level
  let ents ← sys.listdir (usbPath ++ fname)
  let found ← ents.foldlM (fun found dirent =>
    if !isChild py dirent then some found
    else if isInterface sys dirent then do
      let iface ← UsbInterface.read py sys g fname dirent (level + 1)
      some (found.1 ++ [iface], found.2)
    else do
      let usbdev ← sys |>.deviceTree py g dirent (level + 1)
      some (found.1, found.2 ++ [usbdev])) ([], [])
  let interfaces ← sortBy (fun iface => usbsortkey py iface.fname) found.1
  let children ← sortBy (fun usbdev => usbsortkey py usbdev.1.fname) found.2
  some ({ dev with interfaces }, ofSiblings children)
partial_fixpoint

def isRootHub (dirent : Str) : Bool := dirent.take 3 == "usb".toList

def rootHubKey (dev : UsbDevice) : Option Int := intBase10 py.toUnicode (dev.fname.drop 3)

def readRootHubs : Option (Forest UsbDevice) := do
  let ents ← sys.listdir usbPath
  let rootHubs ← (ents.filter isRootHub).mapM fun dirent => sys.deviceTree py g dirent 0
  let rootHubs ← sortBy (fun usbdev => rootHubKey py usbdev.1) rootHubs
  some (ofSiblings rootHubs)

end Read

section Spec

variable (py : Python) (sys : Sysfs) (g : Globals)

def interfaceNames (ents : List Str) : List Str :=
  ents.filter fun dirent => isChild py dirent && isInterface sys dirent

def deviceNames (ents : List Str) : List Str :=
  ents.filter fun dirent => isChild py dirent && !isInterface sys dirent

def interfaceKey (iface : UsbInterface) : Option (List Int) := usbsortkey py iface.fname

def deviceKey (dev : UsbDevice) : Option (List Int) := usbsortkey py dev.fname

def assemble (below : Str → Nat → Option (UsbDevice × Forest UsbDevice)) (fname : Str)
    (level : Nat) : Option (UsbDevice × Forest UsbDevice) := do
  let dev ← UsbDevice.read py sys g fname level
  let ents ← sys.listdir (usbPath ++ fname)
  let interfaces ← (interfaceNames py sys ents).mapM fun dirent =>
    UsbInterface.read py sys g fname dirent (level + 1)
  let children ← (deviceNames py sys ents).mapM fun dirent => below dirent (level + 1)
  let interfaces ← sortBy (interfaceKey py) interfaces
  let children ← sortBy (fun usbdev => deviceKey py usbdev.1) children
  some ({ dev with interfaces }, ofSiblings children)

structure Device (level : Nat) (dev : UsbDevice) (below : List UsbDevice) : Prop where
  own : ∃ own, UsbDevice.read py sys g dev.fname level = some own ∧
    dev = { own with interfaces := dev.interfaces }
  interfaces : ∀ iface ∈ dev.interfaces,
    UsbInterface.read py sys g dev.fname iface.fname (level + 1) = some iface
  listed : ∃ ents, sys.listdir (usbPath ++ dev.fname) = some ents ∧
    (dev.interfaces.map (·.fname)).Perm (interfaceNames py sys ents) ∧
    (below.map (·.fname)).Perm (deviceNames py sys ents)
  interfacesInOrder : InOrder (interfaceKey py) dev.interfaces
  belowInOrder : InOrder (deviceKey py) below

/-- Each device stands below the one with its name in the directory, in order, and none is left
out. -/
def Complete (level : Nat) : Forest UsbDevice → Prop
  | .nil => True
  | .cons dev kids rest =>
      Device py sys g level dev kids.roots ∧ Complete (level + 1) kids ∧ Complete level rest

structure RootHubs (f : Forest UsbDevice) : Prop where
  listed : ∃ ents, sys.listdir usbPath = some ents ∧
    (f.roots.map (·.fname)).Perm (ents.filter isRootHub)
  inOrder : InOrder (rootHubKey py) f.roots
  complete : Complete py sys g 0 f

variable {py sys g} {below : Str → Nat → Option (UsbDevice × Forest UsbDevice)} {fname : Str}
  {level : Nat} {r : UsbDevice × Forest UsbDevice}

theorem Sysfs.deviceTree_induct {motive : Str → Nat → UsbDevice × Forest UsbDevice → Prop}
    (step : ∀ below : Str → Nat → Option (UsbDevice × Forest UsbDevice),
      (∀ fname level r, below fname level = some r → motive fname level r) →
      ∀ fname level r, assemble py sys g below fname level = some r → motive fname level r) :
    ∀ fname level r, sys.deviceTree py g fname level = some r → motive fname level r := by
  apply Sysfs.deviceTree.partial_correctness
  intro below hbelow fname level r h
  apply step below hbelow
  rw [← h, assemble]
  simp only [bind, foldlM_twoLists, Bool.not_not, Option.bind_assoc, Option.bind_some,
    List.nil_append]
  rfl

theorem Sysfs.deviceTree_eq : sys.deviceTree py g fname level =
    assemble py sys g (sys.deviceTree py g) fname level := by
  rw [Sysfs.deviceTree, assemble]
  simp only [bind, foldlM_twoLists, Bool.not_not, Option.bind_assoc, Option.bind_some,
    List.nil_append]
  rfl

theorem assemble_some : assemble py sys g below fname level = some r ↔
    ∃ dev ents interfaces children interfaces' children',
      UsbDevice.read py sys g fname level = some dev ∧
      sys.listdir (usbPath ++ fname) = some ents ∧
      ((interfaceNames py sys ents).mapM fun dirent =>
        UsbInterface.read py sys g fname dirent (level + 1)) = some interfaces ∧
      ((deviceNames py sys ents).mapM fun dirent => below dirent (level + 1)) = some children ∧
      sortBy (interfaceKey py) interfaces = some interfaces' ∧
      sortBy (fun usbdev => deviceKey py usbdev.1) children = some children' ∧
      r = ({ dev with interfaces := interfaces' }, ofSiblings children') := by
  simp only [assemble, bind, Option.bind_eq_some_iff, Option.some.injEq]
  constructor
  · rintro ⟨dev, hdev, ents, hents, is, his, cs, hcs, is', his', cs', hcs', rfl⟩
    exact ⟨dev, ents, is, cs, is', cs', hdev, hents, his, hcs, his', hcs', rfl⟩
  · rintro ⟨dev, ents, is, cs, is', cs', hdev, hents, his, hcs, his', hcs', rfl⟩
    exact ⟨dev, hdev, ents, hents, is, his, cs, hcs, is', his', cs', hcs', rfl⟩

theorem roots_ofSiblings (devices : List (UsbDevice × Forest UsbDevice)) :
    (ofSiblings devices).roots = devices.map Prod.fst := by
  induction devices with
  | nil => rfl
  | cons device rest ih =>
      rw [ofSiblings, List.foldr_cons, Forest.roots, ← ofSiblings, ih, List.map_cons]

theorem complete_ofSiblings {devices : List (UsbDevice × Forest UsbDevice)}
    (h : ∀ device ∈ devices, Complete py sys g level (.cons device.1 device.2 .nil)) :
    Complete py sys g level (ofSiblings devices) := by
  induction devices with
  | nil => trivial
  | cons device rest ih =>
      obtain ⟨hdevice, hrest⟩ := List.forall_mem_cons.mp h
      exact ⟨hdevice.1, hdevice.2.1, ih hrest⟩

/-- What is read for a device is the device itself and all that the directories have below it. -/
theorem Sysfs.deviceTree_complete :
    ∀ (fname : Str) (level : Nat) (r : UsbDevice × Forest UsbDevice),
    sys.deviceTree py g fname level = some r →
    r.1.fname = fname ∧ Complete py sys g level (.cons r.1 r.2 .nil) := by
  apply Sysfs.deviceTree_induct
  intro below hbelow fname level r h
  obtain ⟨dev, ents, interfaces, children, interfaces', children', hdev, hents, hinterfaces,
    hchildren, hsort, hsort', rfl⟩ := assemble_some.mp h
  obtain ⟨hlevel, rfl⟩ := UsbDevice.read_some hdev
  obtain ⟨hperm, horder⟩ := sortBy_spec hsort
  obtain ⟨hperm', horder'⟩ := sortBy_spec hsort'
  refine ⟨rfl, ⟨⟨dev, hdev, rfl⟩, ?_, ⟨ents, hents, ?_, ?_⟩, horder, ?_⟩, ?_, trivial⟩
  · intro iface hiface
    obtain ⟨dirent, -, hread⟩ := exists_of_mem_mapM hinterfaces (hperm.subset hiface)
    rw [(UsbInterface.read_some hread).2]
    exact hread
  · have hnames := map_of_mapM (fun iface => iface.fname)
      (fun _ _ hread => (UsbInterface.read_some hread).2) hinterfaces
    exact hnames ▸ hperm.map _
  · have hnames := map_of_mapM (fun usbdev => usbdev.1.fname)
      (fun _ _ hread => (hbelow _ _ _ hread).1) hchildren
    rw [roots_ofSiblings, List.map_map]
    exact hnames ▸ hperm'.map _
  · rw [roots_ofSiblings]
    exact inOrder_map horder'
  · apply complete_ofSiblings
    intro device hdevice
    obtain ⟨dirent, -, hread⟩ := exists_of_mem_mapM hchildren (hperm'.subset hdevice)
    exact (hbelow _ _ _ hread).2

theorem readRootHubs_some {rootHubs : Forest UsbDevice} :
    readRootHubs py sys g = some rootHubs ↔
      ∃ ents devices devices', sys.listdir usbPath = some ents ∧
        ((ents.filter isRootHub).mapM fun dirent => sys.deviceTree py g dirent 0) = some devices ∧
        sortBy (fun usbdev => rootHubKey py usbdev.1) devices = some devices' ∧
        rootHubs = ofSiblings devices' := by
  simp only [readRootHubs, bind, Option.bind_eq_some_iff, Option.some.injEq]
  constructor
  · rintro ⟨ents, hents, ds, hds, ds', hds', rfl⟩
    exact ⟨ents, ds, ds', hents, hds, hds', rfl⟩
  · rintro ⟨ents, ds, ds', hents, hds, hds', rfl⟩
    exact ⟨ents, hents, ds, hds, ds', hds', rfl⟩

theorem readRootHubs_spec {rootHubs : Forest UsbDevice}
    (h : readRootHubs py sys g = some rootHubs) : RootHubs py sys g rootHubs := by
  obtain ⟨ents, devices, devices', hents, hdevices, hsort, rfl⟩ := readRootHubs_some.mp h
  obtain ⟨hperm, horder⟩ := sortBy_spec hsort
  have hnames := map_of_mapM (fun usbdev => usbdev.1.fname)
    (fun _ _ hread => (Sysfs.deviceTree_complete _ _ _ hread).1) hdevices
  refine ⟨⟨ents, hents, ?_⟩, ?_, ?_⟩
  · rw [roots_ofSiblings, List.map_map]
    exact hnames ▸ hperm.map _
  · rw [roots_ofSiblings]
    exact inOrder_map horder
  · apply complete_ofSiblings
    intro device hdevice
    obtain ⟨dirent, -, hread⟩ := exists_of_mem_mapM hdevices (hperm.subset hdevice)
    exact (Sysfs.deviceTree_complete _ _ _ hread).2

end Spec

end Usbutils.LsusbPy
