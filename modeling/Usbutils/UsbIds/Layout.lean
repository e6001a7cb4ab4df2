import Usbutils.UsbIds.Parse
import Mathlib.Data.List.TakeWhile

/-! The layout of `usb.ids`, and the entries that a text in it has. The ids are in lower case. -/
namespace Usbutils
open PyText

/-- A name, or what else stands up to the end of a line. -/
def LineText := { s : Str // '\n' ∉ s ∧ '\r' ∉ s }

abbrev HexDigit := Fin 16

abbrev Hex2 := HexDigit × HexDigit

abbrev Hex4 := Hex2 × Hex2

def Hex2.digits (id : Hex2) : List HexDigit := [id.1, id.2]

def Hex4.digits (id : Hex4) : List HexDigit := Hex2.digits id.1 ++ Hex2.digits id.2

def Hex2.value (id : Hex2) : Int := hexValue (Hex2.digits id)

def Hex4.value (id : Hex4) : Int := hexValue (Hex4.digits id)

/-- The id of a device; one of `01xy` stands for all of that range. -/
inductive DeviceId where
  | hhhh (id : Hex4)
  | hhxy (id : Hex2)

def DeviceId.text : DeviceId → Str
  | .hhhh id => (Hex4.digits id).map hexDigit
  | .hhxy id => (Hex2.digits id).map hexDigit ++ ['x', 'y']

def DeviceId.value : DeviceId → Int
  | .hhhh id => Hex4.value id
  | .hhxy id => Hex2.value id * 256

structure Device where
  id : DeviceId
  name : LineText
  interfaces : List LineText

structure Vendor where
  id : Hex4
  name : LineText
  devices : List Device

structure UsbProtocol where
  id : Hex2
  name : LineText

structure Subclass where
  id : Hex2
  name : LineText
  protocols : List UsbProtocol

structure UsbClass where
  id : Hex2
  name : LineText
  subclasses : List Subclass

/-- The keyword of another section. -/
structure Keyword where
  letters : Str
  upper : ∀ c ∈ letters, c.isUpper = true
  nonempty : letters ≠ []
  not_class : letters.head? ≠ some 'C'

structure OtherEntry where
  id : List HexDigit
  nonempty : id ≠ []
  name : LineText

structure OtherSection where
  keyword : Keyword
  heading : LineText
  entries : List OtherEntry

inductive Part where
  | vendor (vendor : Vendor)
  | usbClass (usbClass : UsbClass)
  | other (section_ : OtherSection)

def twoSpaces : Str := [' ', ' ']

def Device.line (d : Device) : Str := '\t' :: d.id.text ++ twoSpaces ++ d.name.1

def interfaceLine (text : LineText) : Str := '\t' :: '\t' :: text.1

def Device.lines (d : Device) : List Str := d.line :: d.interfaces.map interfaceLine

def Vendor.line (v : Vendor) : Str := (Hex4.digits v.id).map hexDigit ++ twoSpaces ++ v.name.1

def UsbProtocol.line (p : UsbProtocol) : Str :=
  '\t' :: '\t' :: (Hex2.digits p.id).map hexDigit ++ twoSpaces ++ p.name.1

def Subclass.line (s : Subclass) : Str :=
  '\t' :: (Hex2.digits s.id).map hexDigit ++ twoSpaces ++ s.name.1

def Subclass.lines (s : Subclass) : List Str := s.line :: s.protocols.map UsbProtocol.line

def UsbClass.line (c : UsbClass) : Str :=
  'C' :: ' ' :: (Hex2.digits c.id).map hexDigit ++ twoSpaces ++ c.name.1

def OtherEntry.line (entry : OtherEntry) : Str :=
  '\t' :: entry.id.map hexDigit ++ twoSpaces ++ entry.name.1

def OtherSection.line (o : OtherSection) : Str := o.keyword.letters ++ ' ' :: o.heading.1

def Part.lines : Part → List Str
  | .vendor v => v.line :: v.devices.flatMap Device.lines
  | .usbClass c => c.line :: c.subclasses.flatMap Subclass.lines
  | .other o => o.line :: o.entries.map OtherEntry.line

/-- The line is no comment and not blank. -/
def isEntry (line : Str) : Bool := !(line.isEmpty || line.head? == some '#')

/-- The text is in the layout and has these parts, with comments and blank lines anywhere. -/
def IsUsbIds (text : Str) (parts : List Part) : Prop :=
  ∃ lines : List Str, text = ['\n'].intercalate lines ∧ (∀ line ∈ lines, '\n' ∉ line ∧ '\r' ∉ line) ∧
    lines.filter isEntry = parts.flatMap Part.lines

def Part.vendors : Part → List Vendor
  | .vendor v => [v]
  | _ => []

def Part.usbClasses : Part → List UsbClass
  | .usbClass c => [c]
  | _ => []

def Vendor.entry (v : Vendor) : Int × Str := (Hex4.value v.id, v.name.1)

def Vendor.product (v : Vendor) (d : Device) : (Int × Int) × Str :=
  ((Hex4.value v.id, d.id.value), d.name.1)

/-- The name of a subclass; `Unused` stands for none. -/
def Subclass.shownName (s : Subclass) : Str :=
  if s.name.1 = "Unused".toList then [] else s.name.1

def UsbClass.entries (c : UsbClass) : List ((Int × Int × Int) × Str) :=
  ((Hex2.value c.id, -1, -1), c.name.1) :: c.subclasses.flatMap fun s =>
    ((Hex2.value c.id, Hex2.value s.id, -1), c.name.1 ++ ':' :: s.shownName) ::
      s.protocols.map fun p => ((Hex2.value c.id, Hex2.value s.id, Hex2.value p.id), p.name.1)

variable (parts : List Part)

def vendorEntries : List (Int × Str) :=
  (parts.flatMap Part.vendors).map Vendor.entry

def productEntries : List ((Int × Int) × Str) :=
  (parts.flatMap Part.vendors).flatMap fun v => v.devices.map v.product

def classEntries : List ((Int × Int × Int) × Str) :=
  (parts.flatMap Part.usbClasses).flatMap UsbClass.entries

/-- The tables with exactly the entries, and the fixed one. -/
def usbIds : UsbIds where
  usbvendors := Dict.ofList (vendorEntries parts)
  usbproducts := Dict.ofList (productEntries parts)
  usbclasses := (Dict.ofList (classEntries parts)).set (0xff, 0xff, 0xff) vendorSpecific

def shownDevices : List Device → List Device
  | [] => []
  | d :: rest => if d.interfaces = [] then d :: shownDevices rest else [d]

def shownProducts : List ((Int × Int) × Str) :=
  (parts.flatMap Part.vendors).flatMap fun v => (shownDevices v.devices).map v.product

end Usbutils
