import Usbutils.LsusbPy.Devices

/-! The text that `lsusb.py` prints: `__str__` of its classes, and `read_usb`. -/
namespace Usbutils.LsusbPy
open PyText Linked

def hubIclass : Int := 0x09

/-- `cols`; the first one ends the others. -/
def cols (usecols : Bool) (num : Fin 6) : Str :=
  if usecols then
    (["\x1b[0;0m", "\x1b[0;1m", "\x1b[0;31m", "\x1b[0;32m", "\x1b[0;33m",
      "\x1b[0;34m"].get num).toList
  else []

section Str

variable (py : Python) (sys : Sysfs) (g : Globals)

def colorize (num : Fin 6) (text : Str) : Str := cols g.usecols num ++ text ++ cols g.usecols 0

def indent (level : Nat) : Str := List.replicate (2 * level) ' '

/-- `"%-17s %s\n" % (indent + name, indent + body)` -/
def row (level : Nat) (name body : Str) : Str :=
  ljust 17 (indent level ++ name) ++ ' ' :: (indent level ++ body) ++ ['\n']

def plural (n : Int) : Char := if n = 1 then ' ' else 's'

def UsbEndpoint.body (ep : UsbEndpoint) : Str :=
  "(EP) ".toList ++ hexFormat 2 ep.epaddr ++ ':' :: ' ' :: ep.type ++ ep.ival ++
    " attr ".toList ++ hexFormat 2 ep.attr ++ " len ".toList ++ hexFormat 2 ep.len ++
    " max ".toList ++ hexFormat 3 ep.max

def UsbEndpoint.str (ep : UsbEndpoint) : Str := row ep.level [] (colorize g 5 ep.body)

def UsbInterface.body (iface : UsbInterface) : Str :=
  "(IF) ".toList ++ hexFormat 2 iface.iclass ++ ':' :: hexFormat 2 iface.isclass ++
    ':' :: hexFormat 2 iface.iproto ++ ' ' :: decimalFormat iface.noep ++ "EP".toList ++
    plural iface.noep :: " (".toList ++ iface.protoname ++ ") ".toList ++
    colorize g 3 iface.driver ++ ' ' :: colorize g 4 iface.devname

def UsbInterface.str (iface : UsbInterface) : Str :=
  row iface.level iface.fname (iface.body g) ++
    if g.showeps then iface.eps.flatMap (UsbEndpoint.str g) else []

def UsbDevice.isHub (dev : UsbDevice) : Bool := dev.iclass == hubIclass

def UsbDevice.body (dev : UsbDevice) : Str :=
  colorize g 1 (hexFormat 4 dev.vid ++ ':' :: hexFormat 4 dev.pid) ++ ' ' :: hexFormat 2 dev.iclass ++
    ' ' :: decimalFormat dev.nointerfaces ++ "IF".toList ++ plural dev.nointerfaces ::
    " [USB ".toList ++ strip py.toUnicode dev.usbver ++ ", ".toList ++ rjust 5 dev.speed ++
    " Mbps, ".toList ++ rjust 5 dev.maxpower ++
    (if dev.wakeup = [] then [] else ",  power wakeup: ".toList ++ dev.wakeup) ++ "] (".toList ++
    colorize g (if dev.isHub then 2 else 1) dev.name ++
    ')' :: (if dev.isHub then colorize g 2 " hub".toList else [])

def UsbDevice.showsInterfaces (dev : UsbDevice) : Bool := !(dev.isHub && !g.showhubint)

def UsbDevice.endpoint (dev : UsbDevice) : Option Str :=
  if g.showeps then
    (UsbEndpoint.read py sys dev.path "ep_00".toList (dev.level + 1)).map (UsbEndpoint.str g)
  else some []

def UsbDevice.details (dev : UsbDevice) : Option Str :=
  if dev.showsInterfaces g then do
    let ep ← dev.endpoint py sys g
    some (ep ++ if g.showint then dev.interfaces.flatMap (UsbInterface.str g) else [])
  else some []

def UsbDevice.str (dev : UsbDevice) (childless : Bool) (children : Option Str) : Option Str :=
  if dev.isHub && g.noemptyhub && childless then some []
  else if g.nohub && dev.isHub then children
  else do
    let details ← dev.details py sys g
    let children ← children
    some (row dev.level dev.fname (dev.body py g) ++ details ++ children)

def strAll : Forest UsbDevice → Option Str
  | .nil => some []
  | .cons dev kids rest => do
      let strg ← dev.str py sys g kids.roots.isEmpty (strAll kids)
      let others ← strAll rest
      some (strg ++ others)

/-- The texts of the root hubs, up to one that raises an exception, and whether none does. -/
def printAll : Forest UsbDevice → Str × Bool
  | .nil => ([], true)
  | .cons dev kids rest =>
      match dev.str py sys g kids.roots.isEmpty (strAll py sys g kids) with
      | none => ([], false)
      | some strg => (strg ++ (printAll rest).1, (printAll rest).2)

/-- Read toplevel USB entries and print: the text, and whether no exception is raised. -/
def readUsb : Str × Bool :=
  match readRootHubs py sys g with
  | none => ([], false)
  | some rootHubs => printAll py sys g rootHubs

end Str

end Usbutils.LsusbPy
