import Usbutils.Lib.PyFormat
import Usbutils.UsbIds.Parse

/-! What `lsusb.py` reads of one device, one interface or one endpoint. An exception is `none`,
and what a `try` keeps of an attempt is in the definition it stands in. -/
namespace Usbutils.LsusbPy
open PyText

structure Python extends Unicode where
  printable : Char → Bool

/-- The files below `/sys`, and the names of a directory in the order `os.listdir` has. -/
structure Sysfs where
  listdir : Str → Option (List Str)
  /-- The first line, decoded. -/
  readline : Str → Option Str
  readlink : Str → Option Str
  /-- `os.access` for reading -/
  access : Str → Bool

structure Globals where
  showint : Bool := false
  showhubint : Bool := false
  noemptyhub : Bool := false
  nohub : Bool := false
  showeps : Bool := false
  showwakeup : Bool := false
  usecols : Bool := false
  ids : UsbIds

/-- `prefix` -/
def usbPath : Str := "/sys/bus/usb/devices/".toList

section Names

def nameOf {κ : Type} (names : Dict κ Str) (k : κ) : Option Str := (names k).filter (· ≠ [])

def findUsbProd (ids : UsbIds) (vid pid : Int) : Str :=
  match nameOf ids.usbvendors vid with
  | none => []
  | some strg =>
      match nameOf ids.usbproducts (vid, pid) with
      | none => strg
      | some product => strg ++ ' ' :: product

def findUsbClass (ids : UsbIds) (cid sid pid : Int) : Str :=
  (nameOf ids.usbclasses (cid, sid, pid) <|> nameOf ids.usbclasses (cid, sid, -1) <|>
    nameOf ids.usbclasses (cid, -1, -1)).getD []

end Names

def devlst : List Str :=
  ["host", "video4linux/video", "sound/card", "net/", "input/input", "usb:hiddev", "bluetooth/hci",
    "ttyUSB", "tty/", "usb:lp", "usb/"].map String.toList

section Find

variable (sys : Sysfs)

def scsiPath : Str := "/sys/class/scsi_device/".toList

def spaced (names : List Str) : Str := names.flatMap (· ++ [' '])

/-- Return SCSI block dev names for host -/
def findStorage (hostno : Str) : Option Str := do
  let ents ← sys.listdir scsiPath
  ents.foldlM (fun res ent =>
    match splitAt [':'] ent with
    | [host, _, _, _] =>
        if host = hostno then
          let blocks := sys.listdir (scsiPath ++ ent ++ "/device/block".toList)
          some (res ++ spaced (blocks.getD []))
        else some res
    | _ => none) []

def addDrv (path drvnm : Str) : Str :=
  let res := spaced (((sys.listdir (path ++ '/' :: drvnm)).getD []).filter (startswith · drvnm))
  match sys.readlink (path ++ "/driver".toList) with
  | some link => if res = [] then res else res ++ '(' :: basename link ++ [')', ' ']
  | none => res

/-- The entries that begin with `nm`, added to `res`. Where the names of a host are not found, that
is the end of the loop. -/
def addEntries (prep nm : Str) : List Str → Str → Str
  | [], res => res
  | ent :: rest, res =>
      if startswith ent nm then
        let res := res ++ prep ++ ent ++ [' ']
        if nm = "host".toList then
          match findStorage sys (ent.drop nm.length) with
          | some names => addEntries prep nm rest (res ++ '(' :: names.dropLast ++ [')'])
          | none => res
        else addEntries prep nm rest res
      else addEntries prep nm rest res

def addKind (usbname : Str) (res nm : Str) : Str :=
  let dirnm := usbPath ++ usbname
  if '/' ∈ nm then
    let dir := nm.takeWhile (· ≠ '/')
    let nm := (nm.dropWhile (· ≠ '/')).tail
    addEntries sys (dir ++ ['/']) nm ((sys.listdir (dirnm ++ '/' :: dir)).getD []) res
  else addEntries sys [] nm ((sys.listdir dirnm).getD []) res

def isHex4 (s : Str) : Bool :=
  s.length == 4 && s.all fun c => c.isDigit || 'A' ≤ c && c ≤ 'F'

/-- `[0-9A-F]{4}:[0-9A-F]{4}:[0-9A-F]{4}\.[0-9A-F]{4}` matches the beginning. -/
def isHidName (ent : Str) : Bool :=
  isHex4 (slice ent 0 4) && slice ent 4 5 == [':'] && isHex4 (slice ent 5 9) &&
    slice ent 9 10 == [':'] && isHex4 (slice ent 10 14) && slice ent 14 15 == ['.'] &&
    isHex4 (slice ent 15 19)

def hidNames (path : Str) : Option Str := do
  let hidraw := addDrv sys path "hidraw".toList
  let add := addDrv sys path "input".toList
  if add ≠ [] then some (hidraw ++ add)
  else
    let ents ← sys.listdir path
    some (hidraw ++ (ents.filter isHidName).flatMap fun ent2 =>
      addDrv sys (path ++ '/' :: ent2) "input".toList)

/-- Return pseudo devname that's driven by driver -/
def findDev (driver usbname : Str) : Option Str := do
  let res := devlst.foldl (addKind sys usbname) []
  if driver = "usbhid".toList then
    let ents ← sys.listdir (usbPath ++ usbname)
    let found ← (ents.filter isHidName).mapM fun ent =>
      hidNames sys (usbPath ++ usbname ++ '/' :: ent)
    some (res ++ found.flatten)
  else some res

end Find

section Read

variable (py : Python) (sys : Sysfs) (g : Globals)

def readAttr (path name : Str) : Option Str := do
  let line ← sys.readline (usbPath ++ path ++ '/' :: name)
  some ((strip py.toUnicode line).map fun c => if isprintable py.printable c then c else '?')

def readLink (path name : Str) : Option Str :=
  (sys.readlink (usbPath ++ path ++ '/' :: name)).map basename

/-- `int(self.read_attr(name), 16)` -/
def readHex (path : Str) (name : String) : Option Int := do
  intBase16 py.toUnicode (← readAttr py sys path name.toList)

def readInt (path : Str) (name : String) : Option Int := do
  intBase10 py.toUnicode (← readAttr py sys path name.toList)

structure UsbEndpoint where
  level : Nat
  fname : Str
  path : Str
  epaddr : Int
  len : Int
  ival : Str
  type : Str
  attr : Int
  max : Int

def readInterval (path : Str) (interval : Int) : Option Str :=
  if interval ≠ 0 then (readAttr py sys path "interval".toList).map (" (".toList ++ · ++ [')'])
  else some []

def UsbEndpoint.read (parent : Str) (fname : Str) (level : Nat) : Option UsbEndpoint := do
  let path := parent ++ '/' :: fname
  let epaddr ← readHex py sys path "bEndpointAddress"
  let interval ← readHex py sys path "bInterval"
  let ival ← readInterval py sys path interval
  let len ← readHex py sys path "bLength"
  let type ← readAttr py sys path "type".toList
  let attr ← readHex py sys path "bmAttributes"
  let max ← readHex py sys path "wMaxPacketSize"
  some { level, fname, path, epaddr, len, ival, type, attr, max }

def readDriver (path : Str) : Str × Str :=
  match readLink sys path "driver".toList with
  | none => ([], [])
  | some driver => (driver, (findDev sys driver path).getD [])

structure UsbInterface where
  level : Nat
  fname : Str
  path : Str
  iclass : Int
  isclass : Int
  iproto : Int
  noep : Int
  driver : Str
  devname : Str
  protoname : Str
  eps : List UsbEndpoint

def readEps (path : Str) (level : Nat) : Option (List UsbEndpoint) :=
  if g.showeps then do
    let ents ← sys.listdir (usbPath ++ path)
    (ents.filter (startswith · "ep_".toList)).mapM fun dirent =>
      UsbEndpoint.read py sys path dirent (level + 1)
  else some []

def UsbInterface.read (parent : Str) (fname : Str) (level : Nat) : Option UsbInterface := do
  let path := parent ++ '/' :: fname
  let iclass ← readHex py sys path "bInterfaceClass"
  let isclass ← readHex py sys path "bInterfaceSubClass"
  let iproto ← readHex py sys path "bInterfaceProtocol"
  let noep ← readInt py sys path "bNumEndpoints"
  let (driver, devname) := readDriver sys path
  let protoname := findUsbClass g.ids iclass isclass iproto
  let eps ← readEps py sys g path level
  some { level, fname, path, iclass, isclass, iproto, noep, driver, devname, protoname, eps }

structure UsbDevice where
  level : Nat
  fname : Str
  path : Str
  iclass : Int
  isclass : Int
  iproto : Int
  vid : Int
  pid : Int
  name : Str
  usbver : Str
  speed : Str
  maxpower : Str
  wakeup : Str
  noports : Int
  nointerfaces : Int
  driver : Str
  devname : Str
  interfaces : List UsbInterface

/-- The group of `Linux [^ ]* (.hci[_-]hcd) .HCI Host Controller` -/
def hostController (name : Str) : Option Str := do
  let rest ← name.dropPrefix? "Linux ".toList
  let group ← (rest.dropWhile (· ≠ ' ')).dropPrefix? [' ']
  let first ← group.head?
  let behind ← group.tail.dropPrefix? "hci".toList
  let mark ← behind.head?
  let behind ← behind.tail.dropPrefix? "hcd ".toList
  let last ← behind.head?
  let _ ← behind.tail.dropPrefix? "HCI Host Controller".toList
  if first ≠ '\n' ∧ (mark = '_' ∨ mark = '-') ∧ last ≠ '\n' then some (group.take 8) else none

def readName (fname : Str) (vid pid : Int) : Str :=
  let own : Option Str := do
    let manufacturer ← readAttr py sys fname "manufacturer".toList
    let product ← readAttr py sys fname "product".toList
    some (manufacturer ++ ' ' :: product)
  let name := own.getD []
  let name := (hostController name).getD name
  let name := if name = [] then findUsbProd g.ids vid pid else name
  -- Some USB card readers have a better name than Generic ...
  if startswith name "Generic".toList then
    if findUsbProd g.ids vid pid = [] then name else findUsbProd g.ids vid pid
  else name

/-- The serial number, with a space before it; some devices report "serial" as serial no. -/
def readSerial (fname : Str) : Str :=
  match readAttr py sys fname "serial".toList with
  | none => []
  | some ser => if ser ≠ [] ∧ ser ≠ "serial".toList then ' ' :: ser else []

def UsbDevice.read (fname : Str) (level : Nat) : Option UsbDevice := do
  let iclass ← readHex py sys fname "bDeviceClass"
  let isclass ← readHex py sys fname "bDeviceSubClass"
  let iproto ← readHex py sys fname "bDeviceProtocol"
  let vid ← readHex py sys fname "idVendor"
  let pid ← readHex py sys fname "idProduct"
  let name := readName py sys g fname vid pid ++ readSerial py sys fname
  let usbver ← readAttr py sys fname "version".toList
  let speed ← readAttr py sys fname "speed".toList
  let maxpower ← readAttr py sys fname "bMaxPower".toList
  let noports ← readInt py sys fname "maxchild"
  let nointerfaces := (readInt py sys fname "bNumInterfaces").getD 0
  let (driver, devname) := readDriver sys fname
  let wakeup :=
    if g.showwakeup then (readAttr py sys fname "power/wakeup".toList).getD "unsupported".toList
    else []
  some {
    level, fname, path := fname, iclass, isclass, iproto, vid, pid, name, usbver, speed, maxpower,
    wakeup, noports, nointerfaces, driver, devname, interfaces := [] }

variable {py sys g} {parent fname : Str} {level : Nat}

theorem UsbEndpoint.read_some {ep : UsbEndpoint}
    (h : UsbEndpoint.read py sys parent fname level = some ep) :
    ep.level = level ∧ ep.fname = fname := by
  simp only [UsbEndpoint.read, bind, Option.bind_eq_some_iff, Option.some.injEq] at h
  obtain ⟨-, -, -, -, -, -, -, -, -, -, -, -, -, -, rfl⟩ := h
  exact ⟨rfl, rfl⟩

theorem UsbInterface.read_some {iface : UsbInterface}
    (h : UsbInterface.read py sys g parent fname level = some iface) :
    iface.level = level ∧ iface.fname = fname := by
  simp only [UsbInterface.read, bind, Option.bind_eq_some_iff, Option.some.injEq] at h
  obtain ⟨-, -, -, -, -, -, -, -, -, -, rfl⟩ := h
  exact ⟨rfl, rfl⟩

theorem UsbDevice.read_some {dev : UsbDevice}
    (h : UsbDevice.read py sys g fname level = some dev) :
    dev.level = level ∧ dev.fname = fname := by
  simp only [UsbDevice.read, bind, Option.bind_eq_some_iff, Option.some.injEq] at h
  obtain ⟨-, -, -, -, -, -, -, -, -, -, -, -, -, -, -, -, -, -, rfl⟩ := h
  exact ⟨rfl, rfl⟩

end Read

end Usbutils.LsusbPy
