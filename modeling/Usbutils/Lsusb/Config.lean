import Usbutils.Lib.Prog

/-! A configuration as `libusb` hands it to `lsusb`: the standard descriptors are
parsed, everything between them is left as strings of extra bytes. -/
namespace Usbutils

/-- Bytes that `libusb` did not parse. No bytes are a null pointer, address 0. -/
structure Extra where
  extra : Nat
  extraLength : Nat
  present : extra = 0 → extraLength = 0

instance : Inhabited Extra := ⟨0, 0, fun _ => rfl⟩

structure EndpointDescriptor where
  bLength : Nat
  bDescriptorType : Nat
  bEndpointAddress : Nat
  bmAttributes : Nat
  wMaxPacketSize : Nat
  bInterval : Nat
  bRefresh : Nat
  bSynchAddress : Nat
  extra : Extra
  deriving Inhabited

/-- An alternate setting; `bNumEndpoints` is the length of `endpoint`. -/
structure InterfaceDescriptor where
  bLength : Nat
  bDescriptorType : Nat
  bInterfaceNumber : Nat
  bAlternateSetting : Nat
  bInterfaceClass : Nat
  bInterfaceSubClass : Nat
  bInterfaceProtocol : Nat
  iInterface : Nat
  endpoint : List EndpointDescriptor
  extra : Extra
  deriving Inhabited

def InterfaceDescriptor.bNumEndpoints (interface : InterfaceDescriptor) : Nat :=
  interface.endpoint.length

structure Interface where
  altsetting : List InterfaceDescriptor
  deriving Inhabited

/-- `bNumInterfaces` is the length of `interface`. -/
structure ConfigDescriptor where
  bLength : Nat
  bDescriptorType : Nat
  wTotalLength : Nat
  bConfigurationValue : Nat
  iConfiguration : Nat
  bmAttributes : Nat
  maxPower : Nat
  interface : List Interface
  extra : Extra
  deriving Inhabited

def ConfigDescriptor.bNumInterfaces (config : ConfigDescriptor) : Nat := config.interface.length

def libusbClassAudio : Nat := 1
def libusbClassComm : Nat := 2
def libusbClassHid : Nat := 3
def libusbClassPrinter : Nat := 7
def libusbClassMassStorage : Nat := 8
def libusbClassData : Nat := 10
def usbClassCcid : Nat := 0x0b
def usbClassVideo : Nat := 0x0e
def usbClassApplication : Nat := 0xfe

end Usbutils
