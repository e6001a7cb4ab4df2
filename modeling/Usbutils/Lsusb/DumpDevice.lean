import Usbutils.Strings.Fallback
import Usbutils.Lsusb.Print

/-! What `lsusb -v` shows of a device besides its configurations: `dump_device`, `do_dualspeed`,
`do_debug` and `dump_device_status`. -/
namespace Usbutils
open ByteProg CString

structure DeviceDescriptor where
  bLength : Nat
  bDescriptorType : Nat
  bcdUsb : Nat
  bDeviceClass : Nat
  bDeviceSubClass : Nat
  bDeviceProtocol : Nat
  bMaxPacketSize0 : Nat
  idVendor : UInt16
  idProduct : UInt16
  bcdDevice : Nat
  iManufacturer : Nat
  iProduct : Nat
  iSerialNumber : Nat
  bNumConfigurations : Nat

inductive DeviceSpeed where
  | unknown
  | low
  | full
  | high
  | super
  | superPlus
  | superPlusX2
  deriving DecidableEq, Repr

def negotiatedSpeed : DeviceSpeed → String
  | .low => "Low Speed (1Mbps)"
  | .full => "Full Speed (12Mbps)"
  | .high => "High Speed (480Mbps)"
  | .super => "SuperSpeed (5Gbps)"
  | .superPlus => "SuperSpeed+ (10Gbps)"
  | .superPlusX2 => "SuperSpeed++ (20Gbps)"
  | .unknown => "Unknown"

structure DeviceNames where
  vendor : Buffer
  product : Buffer
  mfg : Buffer
  prod : Buffer
  serial : Buffer

def zeros (size : Nat) : Buffer := List.replicate size 0

/-- `none` for an access out of bounds. -/
def readDeviceNames (hwdb : Hwdb) (sysfs : String → SysfsFile) (dev : LibusbDevice)
    (ids : DeviceIds) : Option DeviceNames := do
  let (vendor, product) ← getVendorProductWithFallback hwdb sysfs dev ids (zeros 128) (zeros 128)
  let (len, sysfsName) := getSysfsName pathMax dev
  if len ≥ 0 then do
    let (_, mfg) ← readSysfsProp sysfs (zeros 128) (String.ofList sysfsName) "manufacturer"
    let (_, prod) ← readSysfsProp sysfs (zeros 128) (String.ofList sysfsName) "product"
    let (_, serial) ← readSysfsProp sysfs (zeros 128) (String.ofList sysfsName) "serial"
    return { vendor, product, mfg, prod, serial }
  else return { vendor, product, mfg := zeros 128, prod := zeros 128, serial := zeros 128 }

theorem readDeviceNames_isSome (hwdb : Hwdb) (sysfs : String → SysfsFile) (dev : LibusbDevice)
    (ids : DeviceIds) : (readDeviceNames hwdb sysfs dev ids).isSome = true := by
  have hzeros : zeros 128 ≠ [] := by decide
  obtain ⟨vendor, product, hfallback, -, -⟩ :=
    getVendorProductWithFallback_run hwdb sysfs dev ids hzeros hzeros
  rw [readDeviceNames, hfallback]
  simp only [Option.bind_eq_bind, Option.bind_some]
  split
  case isFalse => rfl
  case isTrue =>
    have hprop (propname : String) := readSysfsProp_run sysfs hzeros
      (String.ofList (getSysfsName pathMax dev).2) propname
    obtain ⟨_, _, hmfg, -⟩ := hprop "manufacturer"
    obtain ⟨_, _, hprod, -⟩ := hprop "product"
    obtain ⟨_, _, hserial, -⟩ := hprop "serial"
    rw [hmfg, Option.bind_some, hprod, Option.bind_some, hserial]
    rfl

def bufferName (buf : Buffer) : Name := chars (contents buf)

def bufferText (buf : Buffer) : Arg := text (String.ofList (bufferName buf))

section Device

variable (env : Env)

def dumpDevice (names : DeviceNames) (speed : DeviceSpeed) (desc : DeviceDescriptor) :
    Dump Unit := do
  let cls := desc.bDeviceClass
  let subcls := desc.bDeviceSubClass
  let proto := desc.bDeviceProtocol
  print "Negotiated speed: %s\n" [text (negotiatedSpeed speed)]
  print "Device Descriptor:\n" []
  print "  bLength             %5u\n" [.num desc.bLength]
  print "  bDescriptorType     %5u\n" [.num desc.bDescriptorType]
  print "  bcdUSB              %2x.%02x\n" [.num (desc.bcdUsb >>> 8), .num (desc.bcdUsb &&& 0xff)]
  print "  bDeviceClass        %5u %s\n" [.num cls, text (env.getClassString cls)]
  print "  bDeviceSubClass     %5u %s\n" [.num subcls, text (env.getSubclassString cls subcls)]
  print "  bDeviceProtocol     %5u %s\n" [.num proto, text (env.getProtocolString cls subcls proto)]
  print "  bMaxPacketSize0     %5u\n" [.num desc.bMaxPacketSize0]
  print "  idVendor           0x%04x %s\n" [.num desc.idVendor.toNat, bufferText names.vendor]
  print "  idProduct          0x%04x %s\n" [.num desc.idProduct.toNat, bufferText names.product]
  print "  bcdDevice           %2x.%02x\n"
    [.num (desc.bcdDevice >>> 8), .num (desc.bcdDevice &&& 0xff)]
  print "  iManufacturer       %5u %s\n" [.num desc.iManufacturer, bufferText names.mfg]
  print "  iProduct            %5u %s\n" [.num desc.iProduct, bufferText names.prod]
  print "  iSerial             %5u %s\n" [.num desc.iSerialNumber, bufferText names.serial]
  print "  bNumConfigurations  %5u\n" [.num desc.bNumConfigurations]

def usbDtDeviceQualifier : Nat := 0x06
def usbDtDebug : Nat := 0x0a
def epipe : Nat := 32
def eagain : Nat := 11

/-- The result of a request, with `errno` for one that fails. -/
structure Answer where
  ret : Int
  errno : Nat

/-- `if (ret < 0 && errno != EPIPE) if (verblevel > 1 || errno != EAGAIN) perror(message);` -/
def complain (strerror : Nat → String) (verblevel : Nat) (answer : Answer) (message : String) :
    Dump Unit :=
  Prog.when (answer.ret < 0 ∧ answer.errno ≠ epipe ∧ (verblevel > 1 ∨ answer.errno ≠ eagain)) do
    printError "%s: %s\n" [text message, text (strerror answer.errno)]

/-- `if (ret == sizeof buf && buf[0] == ret && buf[1] == type) rest` -/
def checkReply (answer : Answer) (size type : Nat) (rest : Dump Unit) : Dump Unit := do
  Prog.when (answer.ret = size) do
    let bLength ← Prog.byte 0
    Prog.when (bLength = size) do
      let bDescriptorType ← Prog.byte 1
      Prog.when (bDescriptorType = type) rest

def doDualspeed (strerror : Nat → String) (verblevel : Nat) (answer : Answer) : Dump Unit := do
  complain strerror verblevel answer "can't get device qualifier"
  checkReply answer 10 usbDtDeviceQualifier do
    let cls ← Prog.byte 4
    let subcls ← Prog.byte 5
    let proto ← Prog.byte 6
    print "Device Qualifier (for other device speed):\n" []
    print "  bLength             %5u\n" [← u8 0]
    print "  bDescriptorType     %5u\n" [← u8 1]
    print "  bcdUSB              %2x.%02x\n" [← u8 3, ← u8 2]
    print "  bDeviceClass        %5u %s\n" [.num cls, text (env.getClassString cls)]
    print "  bDeviceSubClass     %5u %s\n" [.num subcls, text (env.getSubclassString cls subcls)]
    print "  bDeviceProtocol     %5u %s\n"
      [.num proto, text (env.getProtocolString cls subcls proto)]
    print "  bMaxPacketSize0     %5u\n" [← u8 7]
    print "  bNumConfigurations  %5u\n" [← u8 8]

end Device

def doDebug (strerror : Nat → String) (verblevel : Nat) (answer : Answer) : Dump Unit := do
  complain strerror verblevel answer "can't get debug descriptor"
  checkReply answer 4 usbDtDebug do
    print "Debug descriptor:\n" []
    print "  bLength              %4u\n" [← u8 0]
    print "  bDescriptorType      %4u\n" [← u8 1]
    print "  bDebugInEndpoint     0x%02x\n" [← u8 2]
    print "  bDebugOutEndpoint    0x%02x\n" [← u8 3]

def dumpDeviceStatus (strerror : Nat → String) (answer : Answer) (otg superSpeed : Bool) :
    Dump Unit :=
  if answer.ret < 0 then
    printError "cannot read device status, %s (%d)\n"
      [text (strerror answer.errno), .num answer.errno]
  else do
    let status0 ← Prog.byte 0
    print "Device Status:     0x%02x%02x\n" [← u8 1, .num status0]
    (if status0 &&& 1 <<< 0 ≠ 0 then print "  Self Powered\n" []
    else print "  (Bus Powered)\n" [])
    bitLines status0 [(1 <<< 1, "  Remote Wakeup Enabled\n")]
    Prog.when superSpeed do
      bitLines status0 [(1 <<< 2, "  U1 Enabled\n"), (1 <<< 3, "  U2 Enabled\n"),
        (1 <<< 4, "  Latency Tolerance Messaging (LTM) Enabled\n")]
    -- if both HOST and DEVICE support OTG
    Prog.when otg do
      bitLines status0 [(1 <<< 3, "  HNP Enabled\n"), (1 <<< 4, "  HNP Capable\n"),
        (1 <<< 5, "  ALT port is HNP Capable\n")]
    -- for high speed devices with debug descriptors
    bitLines status0 [(1 <<< 6, "  Debug Mode\n")]

section Shown

variable {env : Env} {strerror : Nat → String} {verblevel : Nat} {answer : Answer} {m : Memory}

@[simp] theorem result_dumpDevice (names : DeviceNames) (speed : DeviceSpeed)
    (desc : DeviceDescriptor) : (dumpDevice env names speed desc).result m = .ok () := rfl

@[simp] theorem result_complain (message : String) :
    (complain strerror verblevel answer message).result m = .ok () := by
  simp [complain]

@[simp] theorem complain_within (message : String) (lo hi : Nat) :
    Prog.All (Within lo hi) (complain strerror verblevel answer message) m := by
  simp [complain]

theorem result_checkReply {size type : Nat} {rest : Dump Unit} (h : rest.result m = .ok ()) :
    (checkReply answer size type rest).result m = .ok () := by
  simp [checkReply, h]

theorem checkReply_within {size type : Nat} {rest : Dump Unit} (hsize : 2 ≤ size)
    (h : Prog.All (Within 0 size) rest m) :
    Prog.All (Within 0 size) (checkReply answer size type rest) m := by
  simp [checkReply, h]
  omega

@[simp] theorem result_doDualspeed :
    (doDualspeed env strerror verblevel answer).result m = .ok () := by
  rw [doDualspeed, Prog.result_bind, result_complain]
  exact result_checkReply rfl

@[simp] theorem result_doDebug : (doDebug strerror verblevel answer).result m = .ok () := by
  rw [doDebug, Prog.result_bind, result_complain]
  exact result_checkReply rfl

@[simp] theorem result_dumpDeviceStatus (otg superSpeed : Bool) :
    (dumpDeviceStatus strerror answer otg superSpeed).result m = .ok () := by
  simp [dumpDeviceStatus]

theorem doDualspeed_within :
    Prog.All (Within 0 10) (doDualspeed env strerror verblevel answer) m := by
  rw [doDualspeed, Prog.all_bind]
  refine ⟨complain_within _ _ _, fun _ _ => checkReply_within (by decide) ?_⟩
  simp

theorem doDebug_within : Prog.All (Within 0 4) (doDebug strerror verblevel answer) m := by
  rw [doDebug, Prog.all_bind]
  refine ⟨complain_within _ _ _, fun _ _ => checkReply_within (by decide) ?_⟩
  simp

theorem dumpDeviceStatus_within (otg superSpeed : Bool) :
    Prog.All (Within 0 2) (dumpDeviceStatus strerror answer otg superSpeed) m := by
  simp [dumpDeviceStatus]

end Shown

end Usbutils
