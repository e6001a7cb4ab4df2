import Usbutils.Desc.Safety
import Usbutils.Lsusb.Walk

/-! `dump_bos_descriptor` of `lsusb.c` and the decoders of the device capabilities
that a Binary Object Store holds. -/
namespace Usbutils
open ByteProg

def usbDtBos : Nat := 0x0f
def usbDtWebusbUrl : Nat := 0x03

@[match_pattern] def usbDcWirelessUsb : Nat := 0x01
@[match_pattern] def usbDc20Extension : Nat := 0x02
@[match_pattern] def usbDcSuperspeed : Nat := 0x03
@[match_pattern] def usbDcContainerId : Nat := 0x04
@[match_pattern] def usbDcPlatform : Nat := 0x05
@[match_pattern] def usbDcSuperspeedplus : Nat := 0x0a
@[match_pattern] def usbDcBillboard : Nat := 0x0d
@[match_pattern] def usbDcBillboardAltMode : Nat := 0x0f
@[match_pattern] def usbDcConfigurationSummary : Nat := 0x10
@[match_pattern] def usbDcFwstatusCapability : Nat := 0x11

def billboardMaxNumAltMode : Nat := 0x34

def webusbGuid : String := "\x7b3408b638-09a9-47a0-8bfd-a0768815b665\x7d"

def beslUs : List Nat := [125, 150, 200, 300, 400, 500, 1000, 2000, 3000, 4000, 5000, 6000, 7000,
  8000, 9000, 10000]

def vconnPower : StringTable := [some "1W", some "1.5W", some "2W", some "3W", some "4W",
  some "5W", some "6W", some "reserved"]

def altModeState : StringTable := [some "Unspecified Error",
  some "Alternate Mode configuration not attempted",
  some "Alternate Mode configuration attempted but unsuccessful",
  some "Alternate Mode configuration successful"]

def bitratePrefix : StringTable := [some " ", some "K", some "M", some "G"]

def beslValue (index : Nat) : Dump Arg := do
  Prog.emit (.lookup index beslUs.length)
  return .num (beslUs.getD index 0)

def capabilityHeading (title : String) (buf : Nat) : Dump Unit := do
  print title []
  print "    bLength             %5u\n" [← u8 buf]
  print "    bDescriptorType     %5u\n" [← u8 (buf + 1)]
  print "    bDevCapabilityType  %5u\n" [← u8 (buf + 2)]

def dumpUsb2DeviceCapabilityDesc (lpmRequired : Bool) (buf : Nat) : Dump Unit := do
  let bLength ← Prog.byte buf
  (if bLength < 7 then printError "  Bad USB 2.0 Extension Device Capability descriptor.\n" []
  else do
    let wide ← convertLeU32 (buf + 3)
    capabilityHeading "  USB 2.0 Extension Device Capability:\n" buf
    print "    bmAttributes   0x%08x\n" [.num wide]
    (if (lpmRequired ∨ wide &&& 0x04 ≠ 0) ∧ wide &&& 0x02 = 0 then
      print "      (Missing must-be-set LPM bit!)\n" []
    else if lpmRequired = false ∧ wide &&& 0x02 = 0 then
      print "      Link Power Management (LPM) not supported\n" []
    else if wide &&& 0x04 = 0 then
      print "      HIRD Link Power Management (LPM) Supported\n" []
    else do
      print "      BESL Link Power Management (LPM) Supported\n" []
      Prog.when (wide &&& 0x08 ≠ 0) do
        print "      Baseline BESL value  %5hu us \n" [← beslValue ((wide &&& 0xf00) >>> 8)]
      Prog.when (wide &&& 0x10 ≠ 0) do
        print "      Deep BESL value      %5hu us \n" [← beslValue ((wide &&& 0xf000) >>> 12)]))

def slowestSpeed : Nat → String
  | 0 => "      Lowest fully-functional device speed is Low Speed (1Mbps)\n"
  | 1 => "      Lowest fully-functional device speed is Full Speed (12Mbps)\n"
  | 2 => "      Lowest fully-functional device speed is High Speed (480Mbps)\n"
  | 3 => "      Lowest fully-functional device speed is SuperSpeed (5Gbps)\n"
  | _ => "      Lowest fully-functional device speed is at an unknown speed!\n"

def dumpSsDeviceCapabilityDesc (buf : Nat) : Dump Unit := do
  let bLength ← Prog.byte buf
  (if bLength < 10 then printError "  Bad SuperSpeed USB Device Capability descriptor.\n" []
  else do
    capabilityHeading "  SuperSpeed USB Device Capability:\n" buf
    let bmAttributes ← Prog.byte (buf + 3)
    print "    bmAttributes         0x%02x\n" [.num bmAttributes]
    bitLines bmAttributes [(0x02, "      Latency Tolerance Messages (LTM) Supported\n")]
    print "    wSpeedsSupported   0x%02x%02x\n" [← u8 (buf + 5), ← u8 (buf + 4)]
    bitLines (← Prog.byte (buf + 4))
      [(1 <<< 0, "      Device can operate at Low Speed (1Mbps)\n"),
        (1 <<< 1, "      Device can operate at Full Speed (12Mbps)\n"),
        (1 <<< 2, "      Device can operate at High Speed (480Mbps)\n"),
        (1 <<< 3, "      Device can operate at SuperSpeed (5Gbps)\n")]
    let bFunctionalitySupport ← Prog.byte (buf + 6)
    print "    bFunctionalitySupport %3u\n" [.num bFunctionalitySupport]
    print (slowestSpeed bFunctionalitySupport) []
    print "    bU1DevExitLat        %4u micro seconds\n" [← u8 (buf + 7)]
    print "    bU2DevExitLat    %8u micro seconds\n"
      [.num ((← Prog.byte (buf + 8)) + (← Prog.byte (buf + 9)) <<< 8)])

def sublinkSpeed (buf i : Nat) : Dump Unit := do
  let ssAttr ← convertLeU32 (buf + 12 + i * 4)
  print "    bmSublinkSpeedAttr[%u]   0x%08x\n" [.num i, .num ssAttr]
  print "      Speed Attribute ID: %u %u%cb/s %s %s SuperSpeed%s\n"
    [.num (ssAttr &&& 0x0f), .num (ssAttr >>> 16), .str (← lookup bitratePrefix (ssAttr >>> 4 &&& 0x3)),
      text (if ssAttr &&& 0x40 ≠ 0 then "Asymmetric" else "Symmetric"),
      text (if ssAttr &&& 0x80 ≠ 0 then "TX" else "RX"),
      text (if ssAttr &&& 0x4000 ≠ 0 then "Plus" else "")]

def dumpSspDeviceCapabilityDesc (buf : Nat) : Dump Unit := do
  let bLength ← Prog.byte buf
  (if bLength < 12 then printError "  Bad SuperSpeedPlus USB Device Capability descriptor.\n" []
  else do
    let attributes ← Prog.byte (buf + 4)
    (if bLength < 12 + ((attributes &&& 0x1f) + 1) * 4 then
      printError "  Bad SuperSpeedPlus USB Device Capability descriptor.\n" []
    else do
      let bmAttr ← convertLeU32 (buf + 4)
      capabilityHeading "  SuperSpeedPlus USB Device Capability:\n" buf
      print "    bmAttributes         0x%08x\n" [.num bmAttr]
      print "      Sublink Speed Attribute count %u\n" [.num ((attributes &&& 0x1f) + 1)]
      print "      Sublink Speed ID count %u\n" [.num ((bmAttr >>> 5 &&& 0xf) + 1)]
      print "    wFunctionalitySupport   0x%02x%02x\n" [← u8 (buf + 9), ← u8 (buf + 8)]
      print "      Min functional Speed Attribute ID: %u\n" [.num ((← Prog.byte (buf + 8)) &&& 0x0f)]
      print "      Min functional RX lanes: %u\n" [.num ((← Prog.byte (buf + 9)) &&& 0x0f)]
      print "      Min functional TX lanes: %u\n" [.num ((← Prog.byte (buf + 9)) >>> 4 &&& 0x0f)]
      -- behind an attribute that does not fit there is none that does
      Prog.loop ((attributes &&& 0x1f) + 1) fun i =>
        Prog.when (12 + i * 4 + 4 ≤ bLength) (sublinkSpeed buf i)))

def dumpContainerIdDeviceCapabilityDesc (buf : Nat) : Dump Unit := do
  let bLength ← Prog.byte buf
  (if bLength < 20 then printError "  Bad Container ID Device Capability descriptor.\n" []
  else do
    capabilityHeading "  Container ID Device Capability:\n" buf
    print "    bReserved           %5u\n" [← u8 (buf + 3)]
    print "    ContainerID             %s\n" [text (← getGuid (buf + 4))])

section WebUsb

/-- crude UTF-8 to ASCII conversion -/
def urlChar (byte : Nat) : String :=
  if byte < 0x80 then
    if byte < 0x20 ∨ byte = 0x7f then "?" else String.singleton (Char.ofNat byte)
  else ""

def urlChars : List Nat → Dump String
  | [] => pure ""
  | address :: rest => do return urlChar (← Prog.byte address) ++ (← urlChars rest)

def urlScheme : Nat → Option String
  | 0 => some "http://"
  | 1 => some "https://"
  | 255 => some ""
  | _ => none

def webusbUrl (ret : Int) : Dump String :=
  if ret ≤ 0 then pure ""
  else do
    let length ← Prog.byte 0
    let type ← Prog.byte 1
    (if length ≤ 3 ∨ type ≠ usbDtWebusbUrl ∨ ret ≠ length then pure ""
    else do
      match urlScheme (← Prog.byte 2) with
      | none => do
          printError "Bad URL scheme.\n" []
          return ""
      | some scheme => return scheme ++ (← urlChars (List.range' 3 (length - 3))))

def getWebusbUrl (env : Env) (vendorReq id : Nat) : Dump String :=
  Prog.elsewhere (env.webusbReply vendorReq id).2 (webusbUrl (env.webusbReply vendorReq id).1)

end WebUsb

def dumpPlatformDeviceCapabilityDesc (env : Env) (buf : Nat) : Dump Unit := do
  let descLen ← Prog.byte buf
  (if descLen < 20 then printError "  Bad Platform Device Capability descriptor.\n" []
  else do
    capabilityHeading "  Platform Device Capability:\n" buf
    print "    bReserved           %5u\n" [← u8 (buf + 3)]
    let guid ← getGuid (buf + 4)
    print "    PlatformCapabilityUUID    %s\n" [text guid]
    (if guid = webusbGuid ∧ descLen = 24 then do
      let url ← getWebusbUrl env (← Prog.byte (buf + 22)) (← Prog.byte (buf + 23))
      print "      WebUSB:\n" []
      print "        bcdVersion   %2x.%02x\n" [← u8 (buf + 21), ← u8 (buf + 20)]
      print "        bVendorCode  %5u\n" [← u8 (buf + 22)]
      print "        iLandingPage %5u %s\n" [← u8 (buf + 23), text url]
    else
      -- `cap_data_len` is an `unsigned char`
      Prog.loop ((descLen + (2 ^ 8 - 20)) % 2 ^ 8) fun i => do
        print "    CapabilityData[%u]    0x%02x\n" [.num i, ← u8 (buf + (20 + i))]))

section Billboard

variable (env : Env) (buf : Nat)

def vconn (wVconnPower : Nat) : Dump Arg :=
  if wVconnPower &&& 1 <<< 15 ≠ 0 then pure (text "VCONN power not required")
  else if wVconnPower < 7 then do return .str (← lookup vconnPower (wVconnPower &&& 0x7))
  else pure (text "reserved")

/-- Alternate mode 0 starts at index 44. -/
def alternateMode (altMode : Nat) : Dump Unit := do
  let svid ← convertLeU16 (buf + (44 + 4 * altMode))
  let iString ← Prog.byte (buf + (44 + 4 * altMode + 3))
  let bmConfigured ← Prog.byte (buf + (8 + altMode >>> 2))
  let state := bmConfigured >>> ((altMode &&& 0x3) <<< 1) &&& 0x3
  print "    Alternate Mode %d : %s\n" [.num altMode, .str (← lookup altModeState state)]
  print "      wSVID[%d]                    0x%04X\n" [.num altMode, .num svid]
  print "      bAlternateMode[%d]       %5u\n" [.num altMode, ← u8 (buf + (44 + 4 * altMode + 2))]
  print "      iAlternateModeString[%d] %5u %s\n"
    [.num altMode, .num iString, .str (env.getDevString iString)]

def dumpBillboardDeviceCapabilityDesc : Dump Unit := do
  let bLength ← Prog.byte buf
  (if bLength < 48 then printError "  Bad Billboard Capability descriptor.\n" []
  else do
    let bNumberOfAlternateModes ← Prog.byte (buf + 4)
    (if bNumberOfAlternateModes > billboardMaxNumAltMode then
      printError "  Invalid value for bNumberOfAlternateModes.\n" []
    else if bLength < 44 + bNumberOfAlternateModes * 4 then
      printError "  bLength does not match with bNumberOfAlternateModes.\n" []
    else do
      let iUrl ← Prog.byte (buf + 3)
      let wVconnPower ← convertLeU16 (buf + 6)
      print "  Billboard Capability:\n" []
      print "    bLength                 %5u\n" [.num bLength]
      print "    bDescriptorType         %5u\n" [← u8 (buf + 1)]
      print "    bDevCapabilityType      %5u\n" [← u8 (buf + 2)]
      print "    iAdditionalInfoURL      %5u %s\n" [.num iUrl, .str (env.getDevString iUrl)]
      print "    bNumberOfAlternateModes %5u\n" [.num bNumberOfAlternateModes]
      print "    bPreferredAlternateMode %5u\n" [← u8 (buf + 5)]
      print "    VCONN Power             %5u %s\n" [.num wVconnPower, ← vconn wVconnPower]
      print "    bmConfigured               " []
      dumpBytes (buf + 8) 32
      let major ← Prog.byte (buf + 41)
      print "    bcdVersion              %2x.%02x\n"
        [.num (if major = 0 then 1 else major), ← u8 (buf + 40)]
      print "    bAdditionalFailureInfo  %5u\n" [← u8 (buf + 42)]
      print "    bReserved               %5u\n" [← u8 (buf + 43)]
      print "    Alternate Modes supported by Device Container:\n" []
      Prog.loop bNumberOfAlternateModes (alternateMode env buf)))

end Billboard

def dumpBillboardAltModeCapabilityDesc (buf : Nat) : Dump Unit := do
  let bLength ← Prog.byte buf
  (if bLength ≠ 8 then printError "  Bad Billboard Alternate Mode Capability descriptor.\n" []
  else do
    print "  Billboard Alternate Mode Capability:\n" []
    print "    bLength                 %5u\n" [.num bLength]
    print "    bDescriptorType         %5u\n" [← u8 (buf + 1)]
    print "    bDevCapabilityType      %5u\n" [← u8 (buf + 2)]
    print "    bIndex                  %5u\n" [← u8 (buf + 3)]
    print "    dwAlternateModeVdo          0x%08X\n" [← le32 (buf + 4)])

def dumpFwstatusCapabilityDesc (buf : Nat) : Dump Unit := do
  let bLength ← Prog.byte buf
  (if bLength ≠ 8 then printError "  Bad FWStatus Capability descriptor.\n" []
  else do
    let flags ← convertLeU32 (buf + 4)
    print "  FWStatus Capability:\n" []
    print "    bLength\t\t    %5u\n" [.num bLength]
    print "    bDescriptorType\t    %5u\n" [← u8 (buf + 1)]
    print "    bDevCapabilityType\t    %5u\n" [← u8 (buf + 2)]
    print "    bcdDescriptorVersion   %5u\n" [← u8 (buf + 3)]
    print "    bmAttributes\t    0x%08X\n" [.num flags]
    print "      Get FW Image Hash support: %s\n"
      [text (if flags &&& 1 <<< 0 ≠ 0 then "Yes" else "No")]
    print "      Disallow FW Update support: %s\n"
      [text (if flags &&& 1 <<< 1 ≠ 0 then "Yes" else "No")])

def capabilityDump (env : Env) (lpmRequired : Bool) (buf : Nat) : Nat → Dump Unit
  -- It's dead!  Luckily no one has these devices so we can ignore it.
  | usbDcWirelessUsb => pure ()
  | usbDc20Extension => dumpUsb2DeviceCapabilityDesc lpmRequired buf
  | usbDcSuperspeed => dumpSsDeviceCapabilityDesc buf
  | usbDcSuperspeedplus => dumpSspDeviceCapabilityDesc buf
  | usbDcContainerId => dumpContainerIdDeviceCapabilityDesc buf
  | usbDcPlatform => dumpPlatformDeviceCapabilityDesc env buf
  | usbDcBillboard => dumpBillboardDeviceCapabilityDesc env buf
  | usbDcBillboardAltMode => dumpBillboardAltModeCapabilityDesc buf
  | usbDcConfigurationSummary => do
      print "  Configuration Summary Device Capability:\n" []
      descDump env .usb3DcConfigurationSummary buf descBufLenFromBuf 2
  | usbDcFwstatusCapability => dumpFwstatusCapabilityDesc buf
  | _ => do
      print "  ** UNRECOGNIZED: " []
      dumpBytes buf (← Prog.byte buf)

section Bos

variable (env : Env) (lpmRequired : Bool)

def dumpCapability (buf : Nat) : Walk Unit := do
  Prog.emit (.visit buf)
  let bDevCapabilityType ← Prog.byte (buf + 2)
  display (capabilityDump env lpmRequired buf bDevCapabilityType)
  Prog.when (bDevCapabilityType = usbDcSuperspeedplus) do Prog.emit .hasSsp

def capabilityLoop (buf size : Nat) : Walk Unit :=
  Frames.walk .endless 3
    (fun bLength size => display
      (print "  ** Bad device-capability bLength %u (%d left)\n" [.num bLength, .num size]))
    (dumpCapability env lpmRequired) buf size

def bosDescSize (bosDescStatic : Memory) : Nat :=
  (bosDescStatic 2).toNat + (bosDescStatic 3).toNat <<< 8

def IsBos (static : Int × Memory) : Prop :=
  0 < static.1 ∧ (static.2 0).toNat = 5 ∧ (static.2 1).toNat = usbDtBos

instance (static : Int × Memory) : Decidable (IsBos static) := inferInstanceAs (Decidable (_ ∧ _))

def bosHeader (bosDescStatic : Memory) : Dump Unit := do
  print "Binary Object Store Descriptor:\n" []
  print "  bLength             %5u\n" [.num (bosDescStatic 0).toNat]
  print "  bDescriptorType     %5u\n" [.num (bosDescStatic 1).toNat]
  print "  wTotalLength       0x%04x\n" [.num (bosDescSize bosDescStatic)]
  print "  bNumDeviceCaps      %5u\n" [.num (bosDescStatic 4).toNat]

/-- The head of the store, which is shown before there is memory for all of it. -/
def dumpBosHead (static : Int × Memory) (rest : Walk Unit) : Walk Unit :=
  Prog.when (IsBos static) do
    display (bosHeader static.2)
    (if bosDescSize static.2 ≤ 5 then
      display (Prog.when (0 < (static.2 4).toNat) do
        printError "Couldn't get device capability descriptors\n" [])
    else rest)

/-- `static` is what the first request leaves in `bos_desc_static`. The second one has the
result `ret` and leaves its bytes at `bosDesc`, behind them zeros. -/
def dumpBosDescriptor (static : Int × Memory) (bosDesc : Nat) (ret : Int) : Walk Unit :=
  dumpBosHead static
    (if ret < 0 then display (printError "Couldn't get device capability descriptors\n" [])
    else capabilityLoop env lpmRequired (bosDesc + 5) (bosDescSize static.2 - 5))

end Bos

section Safety

variable {env : Env} {m : Memory} {buf lo hi : Nat} {lpmRequired : Bool}

theorem and_lt {a b n : Nat} (h : b < n) : a &&& b < n := Nat.lt_of_le_of_lt Nat.and_le_right h

@[simp] theorem result_beslValue (index : Nat) :
    (beslValue index).result m = .ok (.num (beslUs.getD index 0)) := rfl

theorem beslValue_within {index : Nat} (h : index < beslUs.length) :
    Prog.All (Within lo hi) (beslValue index) m := by
  simp [beslValue, h]

@[simp] theorem result_capabilityHeading (title : String) :
    (capabilityHeading title buf).result m = .ok () := rfl

theorem capabilityHeading_within (title : String) (hlo : lo ≤ buf) (hhi : buf + 3 ≤ hi) :
    Prog.All (Within lo hi) (capabilityHeading title buf) m := by
  simp [capabilityHeading]
  omega

@[simp] theorem result_dumpUsb2DeviceCapabilityDesc :
    (dumpUsb2DeviceCapabilityDesc lpmRequired buf).result m = .ok () := by
  simp [dumpUsb2DeviceCapabilityDesc]

theorem dumpUsb2DeviceCapabilityDesc_within (h : 0 < (m buf).toNat) :
    Prog.All (Within buf (buf + (m buf).toNat)) (dumpUsb2DeviceCapabilityDesc lpmRequired buf) m := by
  have hbase : ∀ wide, (wide &&& 0xf00) >>> 8 < beslUs.length := by
    intro wide
    have := @Nat.and_le_right wide 0xf00
    change _ < 16
    omega
  have hdeep : ∀ wide, (wide &&& 0xf000) >>> 12 < beslUs.length := by
    intro wide
    have := @Nat.and_le_right wide 0xf000
    change _ < 16
    omega
  simp [dumpUsb2DeviceCapabilityDesc, beslValue_within (hbase _), beslValue_within (hdeep _)]
  refine ⟨by omega, fun hlen => ⟨by omega, ?_⟩⟩
  exact capabilityHeading_within _ (Nat.le_refl buf) (by omega)

@[simp] theorem result_dumpSsDeviceCapabilityDesc :
    (dumpSsDeviceCapabilityDesc buf).result m = .ok () := by
  simp [dumpSsDeviceCapabilityDesc]

theorem dumpSsDeviceCapabilityDesc_within (h : 0 < (m buf).toNat) :
    Prog.All (Within buf (buf + (m buf).toNat)) (dumpSsDeviceCapabilityDesc buf) m := by
  simp [dumpSsDeviceCapabilityDesc]
  refine ⟨by omega, fun hlen => ⟨?_, by omega⟩⟩
  exact capabilityHeading_within _ (Nat.le_refl buf) (by omega)

@[simp] theorem result_sublinkSpeed (i : Nat) : (sublinkSpeed buf i).result m = .ok () := rfl

theorem sublinkSpeed_within {i : Nat} (hlo : lo ≤ buf) (hhi : buf + (12 + i * 4 + 4) ≤ hi) :
    Prog.All (Within lo hi) (sublinkSpeed buf i) m := by
  have hindex : ∀ n, n &&& 3 < bitratePrefix.length := fun n => and_lt (by decide)
  simp [sublinkSpeed, hindex]
  omega

@[simp] theorem result_dumpSspDeviceCapabilityDesc :
    (dumpSspDeviceCapabilityDesc buf).result m = .ok () := by
  simp [dumpSspDeviceCapabilityDesc, Prog.result_loop]

theorem dumpSspDeviceCapabilityDesc_within (h : 0 < (m buf).toNat) :
    Prog.All (Within buf (buf + (m buf).toNat)) (dumpSspDeviceCapabilityDesc buf) m := by
  simp [dumpSspDeviceCapabilityDesc, Prog.all_loop_iff]
  refine ⟨by omega, fun hlen => ⟨by omega, fun _ => ⟨by omega, ?_, ?_⟩⟩⟩
  · exact capabilityHeading_within _ (Nat.le_refl buf) (by omega)
  · refine ⟨by omega, by omega, by omega, fun i _ hfit => ?_⟩
    exact sublinkSpeed_within (Nat.le_refl buf) (by omega)

@[simp] theorem result_dumpContainerIdDeviceCapabilityDesc :
    (dumpContainerIdDeviceCapabilityDesc buf).result m = .ok () := by
  simp [dumpContainerIdDeviceCapabilityDesc]

theorem dumpContainerIdDeviceCapabilityDesc_within (h : 0 < (m buf).toNat) :
    Prog.All (Within buf (buf + (m buf).toNat)) (dumpContainerIdDeviceCapabilityDesc buf) m := by
  simp [dumpContainerIdDeviceCapabilityDesc]
  refine ⟨by omega, fun hlen => ⟨?_, by omega, ?_⟩⟩
  · exact capabilityHeading_within _ (Nat.le_refl buf) (by omega)
  · exact getGuid_within (by omega) (by omega)

theorem result_urlChars (addresses : List Nat) :
    ∃ url, (urlChars addresses).result m = .ok url := by
  induction addresses with
  | nil => exact ⟨"", rfl⟩
  | cons a rest ih =>
      obtain ⟨url, hurl⟩ := ih
      exact ⟨urlChar (m a).toNat ++ url, by simp [urlChars, hurl, Except.map]⟩

theorem all_urlChars {E : Entry Effect → Prop} (addresses : List Nat) :
    Prog.All E (urlChars addresses) m ↔ ∀ a ∈ addresses, E (.read a) := by
  induction addresses with
  | nil => simp [urlChars]
  | cons a rest ih => simp [urlChars, ih]

theorem webusbUrl_within (ret : Int) : Prog.All (Within 0 255) (webusbUrl ret) m := by
  have hlength := (m 0).toNat_lt
  simp only [webusbUrl, Prog.all_ite, Prog.all_bind, Prog.all_pure, Prog.all_byte, within_read,
    Prog.result_byte, Except.ok.injEq, forall_eq', implies_true, true_and]
  refine fun _ => ⟨by omega, by omega, fun _ => ⟨by omega, ?_⟩⟩
  split
  · simp
  · simp [all_urlChars]
    omega

theorem result_webusbUrl (ret : Int) : ∃ url, (webusbUrl ret).result m = .ok url := by
  unfold webusbUrl
  split
  · exact ⟨"", rfl⟩
  · simp only [Prog.result_bind, Prog.result_byte, Prog.result_ite]
    split
    · exact ⟨"", rfl⟩
    · split
      · exact ⟨"", rfl⟩
      · obtain ⟨url, hurl⟩ := @result_urlChars m (List.range' 3 ((m 0).toNat - 3))
        simp [hurl, Except.map]

theorem getWebusbUrl_within (vendorReq id : Nat) :
    Prog.All (Within lo hi) (getWebusbUrl env vendorReq id) m := by
  rw [getWebusbUrl, Prog.all_elsewhere]
  intro e he
  have hread := @webusbUrl_within (env.webusbReply vendorReq id).2
    (env.webusbReply vendorReq id).1 _ (Prog.mem_acts.mp he)
  cases e <;> exact hread

theorem result_dumpPlatformDeviceCapabilityDesc :
    (dumpPlatformDeviceCapabilityDesc env buf).result m = .ok () := by
  have hurl : ∀ vendorReq id, ∃ url, (getWebusbUrl env vendorReq id).result m = .ok url :=
    fun vendorReq id => result_webusbUrl _
  obtain ⟨url, hurl⟩ := hurl (m (buf + 22)).toNat (m (buf + 23)).toNat
  simp [dumpPlatformDeviceCapabilityDesc, hurl, Prog.result_loop]

theorem dumpPlatformDeviceCapabilityDesc_within (h : 0 < (m buf).toNat) :
    Prog.All (Within buf (buf + (m buf).toNat)) (dumpPlatformDeviceCapabilityDesc env buf) m := by
  have hlength := (m buf).toNat_lt
  simp [dumpPlatformDeviceCapabilityDesc, getWebusbUrl_within, Prog.all_loop_iff]
  refine ⟨by omega, fun hlen => ⟨?_, by omega, ?_, fun _ _ => ?_, fun _ i hi => by omega⟩⟩
  · exact capabilityHeading_within _ (Nat.le_refl buf) (by omega)
  · exact getGuid_within (by omega) (by omega)
  · exact ⟨by omega, by omega, fun _ _ => by omega⟩

theorem result_vconn (wVconnPower : Nat) : ∃ name, (vconn wVconnPower).result m = .ok name := by
  unfold vconn
  split_ifs
  · exact ⟨_, rfl⟩
  · exact ⟨_, rfl⟩
  · exact ⟨_, rfl⟩

theorem vconn_within (wVconnPower : Nat) : Prog.All (Within lo hi) (vconn wVconnPower) m := by
  have hindex : ∀ n, n &&& 7 < vconnPower.length := fun n => and_lt (by decide)
  simp [vconn, hindex]

@[simp] theorem result_alternateMode (altMode : Nat) :
    (alternateMode env buf altMode).result m = .ok () := rfl

/-- The flags of all modes up to the greatest number of them fit in 32 bytes. -/
theorem alternateMode_within {altMode : Nat} (hmode : altMode < billboardMaxNumAltMode)
    (hlo : lo ≤ buf) (hfit : buf + (44 + 4 * altMode + 4) ≤ hi) :
    Prog.All (Within lo hi) (alternateMode env buf altMode) m := by
  have hindex : ∀ n, n &&& 3 < altModeState.length := fun n => and_lt (by decide)
  unfold billboardMaxNumAltMode at hmode
  simp [alternateMode, hindex]
  omega

theorem result_dumpBillboardDeviceCapabilityDesc :
    (dumpBillboardDeviceCapabilityDesc env buf).result m = .ok () := by
  obtain ⟨name, hname⟩ := @result_vconn m ((m (buf + 6)).toNat ||| (m (buf + 6 + 1)).toNat <<< 8)
  have hloop : (Prog.loop (m (buf + 4)).toNat (alternateMode env buf)).result m = .ok () :=
    Prog.result_loop _ fun i => result_alternateMode i
  simp [dumpBillboardDeviceCapabilityDesc, hname, hloop]

theorem dumpBillboardDeviceCapabilityDesc_within (h : 0 < (m buf).toNat) :
    Prog.All (Within buf (buf + (m buf).toNat)) (dumpBillboardDeviceCapabilityDesc env buf) m := by
  simp [dumpBillboardDeviceCapabilityDesc, vconn_within]
  refine ⟨by omega, fun hlen => ⟨by omega, fun hmodes hfit => ⟨by omega, by omega, by omega,
    by omega, by omega, fun _ _ => ⟨?_, by omega, by omega, by omega, by omega, ?_⟩⟩⟩⟩
  · exact dumpBytes_within (by omega) (by omega)
  · refine Prog.all_loop _ fun i hi => ?_
    exact alternateMode_within (by omega) (Nat.le_refl buf) (by omega)

@[simp] theorem result_dumpBillboardAltModeCapabilityDesc :
    (dumpBillboardAltModeCapabilityDesc buf).result m = .ok () := by
  simp [dumpBillboardAltModeCapabilityDesc]

theorem dumpBillboardAltModeCapabilityDesc_within (h : 0 < (m buf).toNat) :
    Prog.All (Within buf (buf + (m buf).toNat)) (dumpBillboardAltModeCapabilityDesc buf) m := by
  simp [dumpBillboardAltModeCapabilityDesc]
  omega

@[simp] theorem result_dumpFwstatusCapabilityDesc :
    (dumpFwstatusCapabilityDesc buf).result m = .ok () := by
  simp [dumpFwstatusCapabilityDesc]

theorem dumpFwstatusCapabilityDesc_within (h : 0 < (m buf).toNat) :
    Prog.All (Within buf (buf + (m buf).toNat)) (dumpFwstatusCapabilityDesc buf) m := by
  simp [dumpFwstatusCapabilityDesc]
  omega

theorem configurationSummary_within (h : 0 < (m buf).toNat) (indent : Nat) :
    Prog.All (Within buf (buf + (m buf).toNat))
      (descDump env .usb3DcConfigurationSummary buf descBufLenFromBuf indent) m := by
  have hbyte := (m buf).toNat_lt
  have hlength : effectiveLength m .usb3DcConfigurationSummary buf descBufLenFromBuf =
      (m buf).toNat :=
    (if_pos rfl).trans (leValue_one m buf)
  have hdump := @descDumpAtDepth_within env .usb3DcConfigurationSummary m buf descBufLenFromBuf
    indent 1 (fun _ => by rw [hlength]; exact h) (nested_within (by decide))
  rwa [hlength] at hdump

theorem result_capabilityDump (bDevCapabilityType : Nat) :
    (capabilityDump env lpmRequired buf bDevCapabilityType).result m = .ok () := by
  unfold capabilityDump
  split <;> simp [result_dumpPlatformDeviceCapabilityDesc,
    result_dumpBillboardDeviceCapabilityDesc, result_descDump]

/-- Every decoder reads its capability only, whatever the other bytes of it are. -/
theorem capabilityDump_within (h : 0 < (m buf).toNat) (bDevCapabilityType : Nat) :
    Prog.All (Within buf (buf + (m buf).toNat))
      (capabilityDump env lpmRequired buf bDevCapabilityType) m := by
  unfold capabilityDump
  split
  · exact Prog.all_pure ()
  · exact dumpUsb2DeviceCapabilityDesc_within h
  · exact dumpSsDeviceCapabilityDesc_within h
  · exact dumpSspDeviceCapabilityDesc_within h
  · exact dumpContainerIdDeviceCapabilityDesc_within h
  · exact dumpPlatformDeviceCapabilityDesc_within h
  · exact dumpBillboardDeviceCapabilityDesc_within h
  · exact dumpBillboardAltModeCapabilityDesc_within h
  · simp [configurationSummary_within h]
  · exact dumpFwstatusCapabilityDesc_within h
  · simp [dumpBytes_whole, h]

end Safety

section Loop

variable {env : Env} {m : Memory} {buf size : Nat} {lpmRequired : Bool} {static : Int × Memory}
  {bosDesc : Nat} {ret : Int}

theorem result_dumpCapability : (dumpCapability env lpmRequired buf).result m = .ok () := by
  simp [dumpCapability, result_capabilityDump]

theorem visits_dumpCapability : visits ((dumpCapability env lpmRequired buf).acts m) = [buf] := by
  rw [dumpCapability, Prog.acts_bind_ok (Prog.result_emit ..),
    Prog.acts_bind_ok (Prog.result_byte ..), acts_display_bind (result_capabilityDump _), Prog.when]
  split <;> simp [visits_append, visits]

theorem dumpCapability_within {lo hi : Nat} (h : 3 ≤ (m buf).toNat) (hlo : lo ≤ buf)
    (hhi : buf + (m buf).toNat ≤ hi) :
    Prog.All (WalkWithin lo hi) (dumpCapability env lpmRequired buf) m := by
  have hdump := @capabilityDump_within env m buf lpmRequired (by omega)
  have hmono : ∀ type, Prog.All (Within lo hi) (capabilityDump env lpmRequired buf type) m :=
    fun type => (hdump type).mono fun _ hin => hin.mono hlo hhi
  simp [dumpCapability, hmono]
  omega

theorem result_capabilityLoop : (capabilityLoop env lpmRequired buf size).result m = .ok () :=
  Frames.result_walk (by decide) (fun _ _ => rfl) fun _ => result_dumpCapability

theorem visits_capabilityLoop :
    visits ((capabilityLoop env lpmRequired buf size).acts m) = Frames.frames m 3 buf size := by
  have hacts : (capabilityLoop env lpmRequired buf size).acts m = _ :=
    Frames.acts_walk (by decide) (fun _ _ => rfl) fun _ => result_dumpCapability
  have hrest : ∀ b s rest, visits ((Frames.atRest 3 (fun bLength size => display
      (print "  ** Bad device-capability bLength %u (%d left)\n" [.num bLength, .num size]))
      rest b s : Walk Unit).acts m) = [] := by
    intro b s rest
    unfold Frames.atRest Prog.when
    split <;> rfl
  rw [hacts, visits_append, visits_flatMap, hrest, List.append_nil]
  simp only [visits_dumpCapability, List.flatMap_singleton']

theorem capabilityLoop_within :
    Prog.All (WalkWithin buf (buf + size)) (capabilityLoop env lpmRequired buf size) m := by
  refine Frames.all_walk (by decide) (fun i hlo hhi => ⟨hlo, hhi⟩) (by simp) fun a ha => ?_
  obtain ⟨hlo, hthree, hhi⟩ := (Frames.leading_frames ..).bounds ha
  exact dumpCapability_within hthree hlo hhi

def HasCapabilities (static : Int × Memory) (ret : Int) : Prop :=
  IsBos static ∧ 5 < bosDescSize static.2 ∧ 0 ≤ ret

/-- The addresses are capabilities, one behind the other, that lie in the store and end
where no capability is left or the next one has a length out of bounds. -/
def AreCapabilities (m : Memory) (bosDesc size : Nat) (addresses : List Nat) : Prop :=
  Frames.Leading m 3 (bosDesc + 5) (size - 5) addresses ∧
    (size - 5 - Frames.span m addresses < 3 ∨
      (m (bosDesc + 5 + Frames.span m addresses)).toNat < 3 ∨
      size - 5 - Frames.span m addresses < (m (bosDesc + 5 + Frames.span m addresses)).toNat)

theorem result_bosHeader (bosDescStatic : Memory) :
    (bosHeader bosDescStatic).result m = .ok () := rfl

theorem dumpBosDescriptor_of_has (h : HasCapabilities static ret) :
    dumpBosDescriptor env lpmRequired static bosDesc ret =
      (display (bosHeader static.2) >>= fun _ =>
        capabilityLoop env lpmRequired (bosDesc + 5) (bosDescSize static.2 - 5)) := by
  obtain ⟨hbos, hsize, hret⟩ := h
  rw [dumpBosDescriptor, dumpBosHead, Prog.when, if_pos hbos, if_neg (by omega), if_neg (by omega)]

/-- The loop over a store comes to an end and visits its capabilities in their order; a
decoder is bounded by the length of its capability, whatever that capability holds. -/
theorem bos_capabilities_sound (env : Env) (lpmRequired : Bool) (static : Int × Memory)
    (bosDesc : Nat) (ret : Int) (m : Memory) :
    (dumpBosDescriptor env lpmRequired static bosDesc ret).result m = .ok () ∧
    (HasCapabilities static ret → AreCapabilities m bosDesc (bosDescSize static.2)
      (visits ((dumpBosDescriptor env lpmRequired static bosDesc ret).acts m))) ∧
    Prog.All (WalkWithin bosDesc (bosDesc + bosDescSize static.2))
      (dumpBosDescriptor env lpmRequired static bosDesc ret) m ∧
    ∀ buf bDevCapabilityType, 3 ≤ (m buf).toNat →
      Prog.All (Within buf (buf + (m buf).toNat))
        (capabilityDump env lpmRequired buf bDevCapabilityType) m := by
  refine ⟨?_, fun h => ?_, ?_, fun buf _ h => capabilityDump_within (by omega) _⟩
  · simp [dumpBosDescriptor, dumpBosHead, result_bosHeader, result_capabilityLoop]
  · rw [dumpBosDescriptor_of_has h, acts_display_bind (result_bosHeader _), visits_append, visits_shown,
      List.nil_append, visits_capabilityLoop]
    exact ⟨Frames.leading_frames .., Or.inr (Frames.frames_stops (by decide))⟩
  · have hloop := @capabilityLoop_within env m (bosDesc + 5) (bosDescSize static.2 - 5) lpmRequired
    simp [dumpBosDescriptor, dumpBosHead, bosHeader]
    exact fun _ hsize _ => hloop.mono fun _ hin => hin.mono (by omega) (by omega)

def extensionStore : Memory := fun a => ([0, 5, 15, 12, 0, 1, 7, 16, 2, 2, 0, 0, 0] : List UInt8).getD a 0

theorem bos_capabilities_sound_extension :
    AreCapabilities extensionStore 1 12 (visits ((dumpBosDescriptor default true
      (5, fun a => extensionStore (a + 1)) 1 12).acts extensionStore)) :=
  (bos_capabilities_sound default true (5, fun a => extensionStore (a + 1)) 1 12
    extensionStore).2.1 ⟨by decide, by decide, by decide⟩

end Loop

end Usbutils
