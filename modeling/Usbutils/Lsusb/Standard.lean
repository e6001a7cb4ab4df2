import Usbutils.Lsusb.Print
import Usbutils.Lsusb.Config

/-! Standard descriptors that appear among the extra bytes: security, encryption
types, interface associations and SuperSpeed endpoint companions. -/
namespace Usbutils
open ByteProg

def encryptionType : StringTable := [
  some "INSECURE", some "WIRED", some "CCM_1", some "RSA_1", some "RESERVED"]

def dumpSecurity (buf : Nat) : Dump Unit := do
  let bLength ← Prog.byte buf
  (if bLength < 5 then print "    Warning: Security descriptor too short\n" []
  else do
    print "    Security Descriptor:\n" []
    print "      bLength             %5u\n" [.num bLength]
    print "      bDescriptorType     %5u\n" [← u8 (buf + 1)]
    print "      wTotalLength       0x%04x\n" [← le16 (buf + 2)]
    print "      bNumEncryptionTypes %5u\n" [← u8 (buf + 4)])

def encryptionName (bEncryptionType : Nat) : Dump Arg :=
  if bEncryptionType < encryptionType.length then do
    return .str (← lookup encryptionType bEncryptionType)
  else pure (text "RESERVED")

def dumpEncryptionType (buf : Nat) : Dump Unit := do
  let bLength ← Prog.byte buf
  (if bLength < 5 then print "    Warning: Encryption Type descriptor too short\n" []
  else do
    let bEncryptionType ← Prog.byte (buf + 2)
    print "    Encryption Type Descriptor:\n" []
    print "      bLength             %5u\n" [.num bLength]
    print "      bDescriptorType     %5u\n" [← u8 (buf + 1)]
    print "      bEncryptionType     %5u %s\n"
      [.num bEncryptionType, ← encryptionName bEncryptionType]
    print "      bEncryptionValue    %5u\n" [← u8 (buf + 3)]
    print "      bAuthKeyIndex       %5u\n" [← u8 (buf + 4)])

def dumpAssociation (env : Env) (buf : Nat) : Dump Unit := do
  let bLength ← Prog.byte buf
  (if bLength < 8 then print "    Warning: Interface Association descriptor too short\n" []
  else do
    let cls ← Prog.byte (buf + 4)
    let subcls ← Prog.byte (buf + 5)
    let proto ← Prog.byte (buf + 6)
    let iFunction ← Prog.byte (buf + 7)
    print "    Interface Association:\n" []
    print "      bLength             %5u\n" [.num bLength]
    print "      bDescriptorType     %5u\n" [← u8 (buf + 1)]
    print "      bFirstInterface     %5u\n" [← u8 (buf + 2)]
    print "      bInterfaceCount     %5u\n" [← u8 (buf + 3)]
    print "      bFunctionClass      %5u %s\n" [.num cls, text (env.getClassString cls)]
    print "      bFunctionSubClass   %5u %s\n" [.num subcls, text (env.getSubclassString cls subcls)]
    print "      bFunctionProtocol   %5u %s\n"
      [.num proto, text (env.getProtocolString cls subcls proto)]
    print "      iFunction           %5u %s\n" [.num iFunction, .str (env.getDevString iFunction)])

/-- The `USB_DT_SS_ENDPOINT_COMP` case of `dump_endpoint`. -/
def dumpSsEndpointComp (endpoint : EndpointDescriptor) (buf : Nat) : Dump Unit := do
  let bLength ← Prog.byte buf
  (if bLength < 6 then
    print "        Warning: SuperSpeed Endpoint Companion descriptor too short\n" []
  else do
    let transfer := endpoint.bmAttributes &&& 3
    print "        bMaxBurst %15u\n" [← u8 (buf + 2)]
    let bmAttributes ← Prog.byte (buf + 3)
    Prog.when (transfer = 2 ∧ bmAttributes &&& 0x1f ≠ 0) do
      print "        MaxStreams %14u\n" [.num (1 <<< (bmAttributes &&& 0x1f))]
    Prog.when (transfer = 1 ∧ bmAttributes &&& 0x3 ≠ 0) do
      print "        Mult %20u\n" [.num (bmAttributes &&& 0x3)]
    Prog.when (transfer = 1 ∨ transfer = 3) do
      print "        wBytesPerInterval %7u\n" [← le16 (buf + 4)])

section Safety

variable {env : Env} {m : Memory} {buf : Nat} {endpoint : EndpointDescriptor}

theorem dumpSecurity_within (h : 0 < (m buf).toNat) :
    Prog.All (Within buf (buf + (m buf).toNat)) (dumpSecurity buf) m := by
  simp [dumpSecurity]
  omega

@[simp] theorem result_dumpSecurity : (dumpSecurity buf).result m = .ok () := by
  simp [dumpSecurity]

theorem dumpSecurity_printsLine : PrintsLine (dumpSecurity buf) m :=
  .after (Prog.result_byte ..) <| .ite (fun _ => print_printsLine (by decide) [])
    fun _ => .of_print (by decide)

@[simp] theorem result_encryptionName (bEncryptionType : Nat) :
    (encryptionName bEncryptionType).result m = .ok (if bEncryptionType < encryptionType.length then
      .str encryptionType[bEncryptionType]?.join else text "RESERVED") := by
  unfold encryptionName
  split <;> rfl

@[simp] theorem encryptionName_within (lo hi bEncryptionType : Nat) :
    Prog.All (Within lo hi) (encryptionName bEncryptionType) m := by
  simp [encryptionName]

theorem dumpEncryptionType_within (h : 0 < (m buf).toNat) :
    Prog.All (Within buf (buf + (m buf).toNat)) (dumpEncryptionType buf) m := by
  simp [dumpEncryptionType]
  omega

@[simp] theorem result_dumpEncryptionType : (dumpEncryptionType buf).result m = .ok () := by
  simp [dumpEncryptionType]

theorem dumpEncryptionType_printsLine : PrintsLine (dumpEncryptionType buf) m :=
  .after (Prog.result_byte ..) <| .ite (fun _ => print_printsLine (by decide) [])
    fun _ => .after (Prog.result_byte ..) <| .of_print (by decide)

theorem dumpAssociation_within (h : 0 < (m buf).toNat) :
    Prog.All (Within buf (buf + (m buf).toNat)) (dumpAssociation env buf) m := by
  simp [dumpAssociation]
  omega

@[simp] theorem result_dumpAssociation : (dumpAssociation env buf).result m = .ok () := by
  simp [dumpAssociation]

theorem dumpAssociation_printsLine : PrintsLine (dumpAssociation env buf) m :=
  .after (Prog.result_byte ..) <| .ite (fun _ => print_printsLine (by decide) [])
    fun _ => .after (Prog.result_byte ..) <| .after (Prog.result_byte ..) <|
      .after (Prog.result_byte ..) <| .after (Prog.result_byte ..) <| .of_print (by decide)

theorem dumpSsEndpointComp_within (h : 0 < (m buf).toNat) :
    Prog.All (Within buf (buf + (m buf).toNat)) (dumpSsEndpointComp endpoint buf) m := by
  simp [dumpSsEndpointComp]
  omega

@[simp] theorem result_dumpSsEndpointComp :
    (dumpSsEndpointComp endpoint buf).result m = .ok () := by
  simp [dumpSsEndpointComp]

theorem dumpSsEndpointComp_printsLine : PrintsLine (dumpSsEndpointComp endpoint buf) m :=
  .after (Prog.result_byte ..) <| .ite (fun _ => print_printsLine (by decide) [])
    fun _ => .after (result_u8 ..) <| .of_print (by decide)

end Safety

end Usbutils
