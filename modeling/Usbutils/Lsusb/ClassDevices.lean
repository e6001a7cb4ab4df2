import Mathlib.Algebra.Group.Nat.Defs
import Usbutils.Lsusb.Print
import Mathlib.Tactic.SplitIfs

/-! Class descriptors of `lsusb.c` that are decoded in one piece: DFU, smart cards,
wireless adapters, and the pipe usage of mass storage. -/
namespace Usbutils
open ByteProg

def dumpDfuInterface (buf : Nat) : Dump Unit := do
  checkType buf usbDtCsDevice
  let bLength ← Prog.byte buf
  guardLength bLength 7 do
    print "      Device Firmware Upgrade Interface Descriptor:\n" []
    print "        bLength                         %5u\n" [.num bLength]
    print "        bDescriptorType                 %5u\n" [← u8 (buf + 1)]
    let bmAttributes ← Prog.byte (buf + 2)
    print "        bmAttributes                    %5u\n" [.num bmAttributes]
    Prog.when (bmAttributes &&& 0xf0 ≠ 0) do print "          (unknown attributes!)\n" []
    print "          Will %sDetach\n" [text (if bmAttributes &&& 0x08 ≠ 0 then "" else "Not ")]
    print "          Manifestation %s\n"
      [text (if bmAttributes &&& 0x04 ≠ 0 then "Tolerant" else "Intolerant")]
    print "          Upload %s\n"
      [text (if bmAttributes &&& 0x02 ≠ 0 then "Supported" else "Unsupported")]
    print "          Download %s\n"
      [text (if bmAttributes &&& 0x01 ≠ 0 then "Supported" else "Unsupported")]
    print "        wDetachTimeout                  %5u milliseconds\n" [← le16 (buf + 3)]
    print "        wTransferSize                   %5u bytes\n" [← le16 (buf + 5)]
    -- DFU 1.0 defines no version code, DFU 1.1 does
    Prog.when (¬bLength < 9) do
      print "        bcdDFUVersion                   %x.%02x\n" [← u8 (buf + 8), ← u8 (buf + 7)]

namespace Ccid

def versionAndSlots (buf : Nat) : Dump Unit := do
  let minor ← Prog.byte (buf + 2)
  let major ← Prog.byte (buf + 3)
  print "        bcdCCID             %2x.%02x" [.num major, .num minor]
  Prog.when (major ≠ 1 ∨ (minor ≠ 0 ∧ minor ≠ 0x10)) do
    print "  (Warning: Only accurate for version 1.0/1.1)" []
  print "\n" []
  print "        nMaxSlotIndex       %5u\n" [← u8 (buf + 4)]
  let bVoltageSupport ← Prog.byte (buf + 5)
  print "        bVoltageSupport     %5u  %s%s%s\n" [.num bVoltageSupport,
    text (if bVoltageSupport &&& 1 ≠ 0 then "5.0V " else ""),
    text (if bVoltageSupport &&& 2 ≠ 0 then "3.0V " else ""),
    text (if bVoltageSupport &&& 4 ≠ 0 then "1.8V " else "")]

def protocolsAndRates (buf : Nat) : Dump Unit := do
  let us ← convertLeU32 (buf + 6)
  print "        dwProtocols         %5u " [.num us]
  bitLines us [(1, " T=0"), (2, " T=1"), (0xfffffffc, " (Invalid values detected)")]
  print "\n" []
  print "        dwDefaultClock      %5u\n" [← le32 (buf + 10)]
  print "        dwMaximumClock      %5u\n" [← le32 (buf + 14)]
  print "        bNumClockSupported  %5u\n" [← u8 (buf + 18)]
  print "        dwDataRate        %7u bps\n" [← le32 (buf + 19)]
  print "        dwMaxDataRate     %7u bps\n" [← le32 (buf + 23)]
  print "        bNumDataRatesSupp.  %5u\n" [← u8 (buf + 27)]
  print "        dwMaxIFSD           %5u\n" [← le32 (buf + 28)]
  let us ← convertLeU32 (buf + 32)
  print "        dwSyncProtocols  %08X " [.num us]
  bitLines us [(1, " 2-wire"), (2, " 3-wire"), (4, " I2C")]
  print "\n" []
  let us ← convertLeU32 (buf + 36)
  print "        dwMechanical     %08X " [.num us]
  bitLines us [(1, " accept"), (2, " eject"), (4, " capture"), (8, " lock")]
  print "\n" []

def features (us : Nat) : Dump Unit := do
  print "        dwFeatures       %08X\n" [.num us]
  bitLines us [
    (0x0002, "          Auto configuration based on ATR\n"),
    (0x0004, "          Auto activation on insert\n"),
    (0x0008, "          Auto voltage selection\n"),
    (0x0010, "          Auto clock change\n"),
    (0x0020, "          Auto baud rate change\n")]
  (if us &&& (0x0040 ||| 0x0080) = 0x0040 then
    print "          Auto parameter negotiation made by CCID\n" []
  else if us &&& (0x0040 ||| 0x0080) = 0x0080 then
    print "          Auto PPS made by CCID\n" []
  else Prog.when (us &&& (0x0040 ||| 0x0080) ≠ 0) do
    print "        WARNING: conflicting negotiation features\n" [])
  bitLines us [
    (0x0100, "          CCID can set ICC in clock stop mode\n"),
    (0x0200, "          NAD value other than 0x00 accepted (T=1)\n"),
    (0x0400, "          Auto IFSD exchange (T=1)\n")]
  (if us &&& 0x00070000 = 0 then
    print "          Character level exchange\n" []
  else if us &&& 0x00070000 = 0x00010000 then
    print "          TPDU level exchange\n" []
  else if us &&& 0x00070000 = 0x00020000 then
    print "          Short APDU level exchange\n" []
  else if us &&& 0x00070000 = 0x00040000 then
    print "          Short and extended APDU level exchange\n" []
  else
    print "        WARNING: conflicting exchange levels\n" [])
  bitLines us [(0x00100000, "          USB wakeup on ICC insertion and removal\n")]

def echoOr (value : Nat) : Dump Unit :=
  if value = 0xff then print "echo\n" [] else print "  %02X\n" [.num value]

def messages (buf : Nat) : Dump Unit := do
  print "        dwMaxCCIDMsgLen     %5u\n" [← le32 (buf + 44)]
  print "        bClassGetResponse    " []
  echoOr (← Prog.byte (buf + 48))
  print "        bClassEnvelope       " []
  echoOr (← Prog.byte (buf + 49))
  print "        wlcdLayout           " []
  let columns ← Prog.byte (buf + 50)
  let lines ← Prog.byte (buf + 51)
  (if columns = 0 ∧ lines = 0 then print "none\n" []
  else print "%u cols %u lines\n" [.num columns, .num lines])
  let bPinSupport ← Prog.byte (buf + 52)
  print "        bPINSupport         %5u " [.num bPinSupport]
  bitLines bPinSupport [(1, " verification"), (2, " modification")]
  print "\n" []
  print "        bMaxCCIDBusySlots   %5u\n" [← u8 (buf + 53)]

end Ccid

def dumpCcidDevice (buf : Nat) : Dump Unit := do
  let bLength ← Prog.byte buf
  guardLength bLength 54 do
    print "      ChipCard Interface Descriptor:\n" []
    print "        bLength             %5u\n" [.num bLength]
    print "        bDescriptorType     %5u\n" [← u8 (buf + 1)]
    Ccid.versionAndSlots buf
    Ccid.protocolsAndRates buf
    Ccid.features (← convertLeU32 (buf + 40))
    Ccid.messages buf
    Prog.when (bLength > 54) do
      print "        junk             " []
      dumpBytes (buf + 54) (bLength - 54)

def dumpWireAdapter (buf : Nat) : Dump Unit := do
  let bLength ← Prog.byte buf
  (if bLength < 14 then print "      Warning: Wire Adapter descriptor too short\n" []
  else do
    print "      Wire Adapter Class Descriptor:\n" []
    print "        bLength             %5u\n" [.num bLength]
    print "        bDescriptorType     %5u\n" [← u8 (buf + 1)]
    print "        bcdWAVersion        %2x.%02x\n" [← u8 (buf + 3), ← u8 (buf + 2)]
    print "\t bNumPorts\t     %5u\n" [← u8 (buf + 4)]
    print "\t bmAttributes\t     %5u\n" [← u8 (buf + 5)]
    print "\t wNumRPRipes\t     %5u\n" [← le16 (buf + 6)]
    print "\t wRPipeMaxBlock\t     %5u\n" [← le16 (buf + 8)]
    print "\t bRPipeBlockSize     %5u\n" [← u8 (buf + 10)]
    print "\t bPwrOn2PwrGood\t     %5u\n" [← u8 (buf + 11)]
    print "\t bNumMMCIEs\t     %5u\n" [← u8 (buf + 12)]
    print "\t DeviceRemovable     %5u\n" [← u8 (buf + 13)])

def dumpRcInterface (buf : Nat) : Dump Unit := do
  let bLength ← Prog.byte buf
  (if bLength < 4 then print "      Warning: Radio Control Interface descriptor too short\n" []
  else do
    print "      Radio Control Interface Class Descriptor:\n" []
    print "        bLength             %5u\n" [.num bLength]
    print "        bDescriptorType     %5u\n" [← u8 (buf + 1)]
    print "        bcdRCIVersion       %2x.%02x\n" [← u8 (buf + 3), ← u8 (buf + 2)])

def pipeName : StringTable :=
  [some "Reserved", some "Command pipe", some "Status pipe", some "Data-in pipe",
   some "Data-out pipe"] ++
    List.replicate (0xDF - 5 + 1) (some "Reserved") ++
    List.replicate (0xEF - 0xE0 + 1) (some "Vendor specific") ++
    List.replicate (0xFF - 0xF0 + 1) (some "Reserved")

def dumpPipeDesc (buf : Nat) : Dump Unit := do
  let bLength ← Prog.byte buf
  let bDescriptorType ← Prog.byte (buf + 1)
  (if bLength = 4 ∧ bDescriptorType = 0x24 then do
    let pipe ← Prog.byte (buf + 2)
    print "        %s (0x%02x)\n" [.str (← lookup pipeName pipe), .num pipe]
  else do
    print "        INTERFACE CLASS: " []
    dumpBytes buf bLength)

section Safety

variable {m : Memory} {buf : Nat}

theorem dumpDfuInterface_within (h : 2 ≤ (m buf).toNat) :
    Prog.All (Within buf (buf + (m buf).toNat)) (dumpDfuInterface buf) m := by
  simp [dumpDfuInterface]
  omega

@[simp] theorem result_dumpDfuInterface : (dumpDfuInterface buf).result m = .ok () := by
  simp [dumpDfuInterface]

theorem dumpDfuInterface_printsLine : PrintsLine (dumpDfuInterface buf) m :=
  .after (result_checkType ..) <| .after (Prog.result_byte ..) <|
    guardLength_printsLine fun _ => .of_print (by decide)

namespace Ccid

variable {lo hi : Nat}

theorem versionAndSlots_within (hlo : lo ≤ buf) (hhi : buf + 6 ≤ hi) :
    Prog.All (Within lo hi) (versionAndSlots buf) m := by
  simp [versionAndSlots]
  omega

@[simp] theorem result_versionAndSlots : (versionAndSlots buf).result m = .ok () := by
  simp [versionAndSlots]

theorem protocolsAndRates_within (hlo : lo ≤ buf) (hhi : buf + 40 ≤ hi) :
    Prog.All (Within lo hi) (protocolsAndRates buf) m := by
  simp [protocolsAndRates]
  omega

@[simp] theorem result_protocolsAndRates : (protocolsAndRates buf).result m = .ok () := by
  simp [protocolsAndRates]

@[simp] theorem features_within (us : Nat) : Prog.All (Within lo hi) (features us) m := by
  simp [features]

@[simp] theorem result_features (us : Nat) : (features us).result m = .ok () := by
  simp [features]

@[simp] theorem echoOr_within (value : Nat) : Prog.All (Within lo hi) (echoOr value) m := by
  simp [echoOr]

@[simp] theorem result_echoOr (value : Nat) : (echoOr value).result m = .ok () := by
  simp [echoOr]

theorem messages_within (hlo : lo ≤ buf) (hhi : buf + 54 ≤ hi) :
    Prog.All (Within lo hi) (messages buf) m := by
  simp [messages]
  omega

@[simp] theorem result_messages : (messages buf).result m = .ok () := by
  simp [messages]

end Ccid

theorem dumpCcidDevice_within (h : 0 < (m buf).toNat) :
    Prog.All (Within buf (buf + (m buf).toNat)) (dumpCcidDevice buf) m := by
  simp [dumpCcidDevice]
  refine ⟨h, fun hlen => ⟨by omega, ?_, ?_, by omega, ?_, fun _ => ?_⟩⟩
  · exact Ccid.versionAndSlots_within (Nat.le_refl buf) (by omega)
  · exact Ccid.protocolsAndRates_within (Nat.le_refl buf) (by omega)
  · exact Ccid.messages_within (Nat.le_refl buf) (by omega)
  · exact dumpBytes_within (by omega) (by omega)

@[simp] theorem result_dumpCcidDevice : (dumpCcidDevice buf).result m = .ok () := by
  simp [dumpCcidDevice]

theorem dumpCcidDevice_printsLine : PrintsLine (dumpCcidDevice buf) m :=
  .after (Prog.result_byte ..) <| guardLength_printsLine fun _ => .of_print (by decide)

theorem dumpWireAdapter_within (h : 0 < (m buf).toNat) :
    Prog.All (Within buf (buf + (m buf).toNat)) (dumpWireAdapter buf) m := by
  simp [dumpWireAdapter]
  omega

@[simp] theorem result_dumpWireAdapter : (dumpWireAdapter buf).result m = .ok () := by
  simp [dumpWireAdapter]

theorem dumpWireAdapter_printsLine : PrintsLine (dumpWireAdapter buf) m :=
  .after (Prog.result_byte ..) <| .ite (fun _ => print_printsLine (by decide) [])
    fun _ => .of_print (by decide)

theorem dumpRcInterface_within (h : 0 < (m buf).toNat) :
    Prog.All (Within buf (buf + (m buf).toNat)) (dumpRcInterface buf) m := by
  simp [dumpRcInterface]
  omega

@[simp] theorem result_dumpRcInterface : (dumpRcInterface buf).result m = .ok () := by
  simp [dumpRcInterface]

theorem dumpRcInterface_printsLine : PrintsLine (dumpRcInterface buf) m :=
  .after (Prog.result_byte ..) <| .ite (fun _ => print_printsLine (by decide) [])
    fun _ => .of_print (by decide)

theorem length_pipeName : pipeName.length = 2 ^ 8 := by decide +kernel

theorem dumpPipeDesc_within (h : 2 ≤ (m buf).toNat) :
    Prog.All (Within buf (buf + (m buf).toNat)) (dumpPipeDesc buf) m := by
  have hbyte := (m (buf + 2)).toNat_lt
  simp [dumpPipeDesc, dumpBytes_whole, length_pipeName]
  omega

@[simp] theorem result_dumpPipeDesc : (dumpPipeDesc buf).result m = .ok () := by
  simp [dumpPipeDesc]

theorem dumpPipeDesc_printsLine : PrintsLine (dumpPipeDesc buf) m := by
  refine .after (Prog.result_byte ..) <| .after (Prog.result_byte ..) <| .ite (fun _ => ?_) fun _ => ?_
  · exact .after (Prog.result_byte ..) <| .after (result_lookup ..) <|
      print_printsLine (by decide) _
  · exact .after (result_print ..) (dumpBytes_printsLine ..)

end Safety

end Usbutils
