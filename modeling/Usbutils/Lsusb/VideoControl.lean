import Mathlib.Algebra.Group.Nat.Defs
import Usbutils.Lsusb.Print
import Mathlib.Tactic.SplitIfs

/-! `dump_videocontrol_interface` of `lsusb.c`, a definition for each subtype, and
the decoder of the VideoControl interrupt endpoint. -/
namespace Usbutils
open ByteProg

def usbVideoProtocol15 : Nat := 0x01

namespace VideoControl

def ctrlnames : StringTable := [
  some "Brightness", some "Contrast", some "Hue", some "Saturation", some "Sharpness",
  some "Gamma", some "White Balance Temperature", some "White Balance Component",
  some "Backlight Compensation", some "Gain", some "Power Line Frequency", some "Hue, Auto",
  some "White Balance Temperature, Auto", some "White Balance Component, Auto",
  some "Digital Multiplier", some "Digital Multiplier Limit", some "Analog Video Standard",
  some "Analog Video Lock Status", some "Contrast, Auto"]

def camctrlnames : StringTable := [
  some "Scanning Mode", some "Auto-Exposure Mode", some "Auto-Exposure Priority",
  some "Exposure Time (Absolute)", some "Exposure Time (Relative)", some "Focus (Absolute)",
  some "Focus (Relative)", some "Iris (Absolute)", some "Iris (Relative)",
  some "Zoom (Absolute)", some "Zoom (Relative)", some "PanTilt (Absolute)",
  some "PanTilt (Relative)", some "Roll (Absolute)", some "Roll (Relative)", some "Reserved",
  some "Reserved", some "Focus, Auto", some "Privacy", some "Focus, Simple", some "Window",
  some "Region of Interest"]

def enctrlnames : StringTable := [
  some "Select Layer", some "Profile and Toolset", some "Video Resolution",
  some "Minimum Frame Interval", some "Slice Mode", some "Rate Control Mode",
  some "Average Bit Rate", some "CPB Size", some "Peak Bit Rate", some "Quantization Parameter",
  some "Synchronization and Long-Term Reference Frame", some "Long-Term Buffer",
  some "Picture Long-Term Reference", some "LTR Validation", some "Level IDC",
  some "SEI Message", some "QP Range", some "Priority ID", some "Start or Stop Layer/View",
  some "Error Resiliency"]

def stdnames : StringTable := [
  some "None", some "NTSC - 525/60", some "PAL - 625/50", some "SECAM - 625/50",
  some "NTSC - 625/50", some "PAL - 525/60"]

/-- `ctrls = (ctrls << 8) | buf[...]` for the bytes at the addresses, in 32 bits -/
def shiftIn : List Nat → Nat → Dump Nat
  | [], ctrls => pure ctrls
  | address :: rest, ctrls => do
      let byte ← Prog.byte address
      shiftIn rest ((ctrls <<< 8) % 2 ^ 32 ||| byte)

/-- The last bytes of a control bitmap of `size` bytes that ends before `stop`, three
at most, the last one first. -/
def bitmapTail (stop size : Nat) : List Nat :=
  (List.range (min 3 size)).map fun i => stop - i - 1

def header (buf bLength : Nat) : Dump Unit := do
  print "(HEADER)\n" []
  guardLength bLength 12 do
    let n ← Prog.byte (buf + 11)
    guardLength bLength (12 + n) do
      let freq ← convertLeU32 (buf + 7)
      print "        bcdUVC              %2x.%02x\n" [← u8 (buf + 4), ← u8 (buf + 3)]
      print "        wTotalLength       0x%04x\n" [← le16 (buf + 5)]
      print "        dwClockFrequency    %5u.%06uMHz\n" [.num (freq / 1000000), .num (freq % 1000000)]
      print "        bInCollection       %5u\n" [.num n]
      Prog.loop n fun i => do
        print "        baInterfaceNr(%2u)   %5u\n" [.num i, ← u8 (buf + (12 + i))]
      dumpJunk buf "        " (12 + n)

def cameraTerminal (buf bLength protocol : Nat) : Dump Unit := do
  let bControlSize ← Prog.byte (buf + 14)
  guardLength bLength (8 + (7 + bControlSize)) do
    print "        wObjectiveFocalLengthMin  %5u\n" [← le16 (buf + 8)]
    print "        wObjectiveFocalLengthMax  %5u\n" [← le16 (buf + 10)]
    print "        wOcularFocalLength        %5u\n" [← le16 (buf + 12)]
    print "        bControlSize              %5u\n" [.num bControlSize]
    let ctrls ← shiftIn (bitmapTail (buf + (8 + (7 + bControlSize))) bControlSize) 0
    print "        bmControls           0x%08x\n" [.num ctrls]
    bitNames camctrlnames (if protocol = usbVideoProtocol15 then 22 else 19) ctrls
    dumpJunk buf "        " (8 + (7 + bControlSize))

def inputTerminal (env : Env) (buf bLength protocol : Nat) : Dump Unit := do
  print "(INPUT_TERMINAL)\n" []
  guardLength bLength 8 do
    let iTerminal ← Prog.byte (buf + 7)
    let termt ← convertLeU16 (buf + 4)
    let n := if termt = 0x0201 then 7 else 0
    guardLength bLength (8 + n) do
      print "        bTerminalID         %5u\n" [← u8 (buf + 3)]
      print "        wTerminalType      0x%04x %s\n" [.num termt, getVideoterminalString env termt]
      print "        bAssocTerminal      %5u\n" [← u8 (buf + 6)]
      print "        iTerminal           %5u %s\n" [.num iTerminal, .str (env.getDevString iTerminal)]
      (if termt = 0x0201 then cameraTerminal buf bLength protocol
      else dumpJunk buf "        " (8 + n))

def outputTerminal (env : Env) (buf bLength : Nat) : Dump Unit := do
  print "(OUTPUT_TERMINAL)\n" []
  guardLength bLength 9 do
    let iTerminal ← Prog.byte (buf + 8)
    let termt ← convertLeU16 (buf + 4)
    print "        bTerminalID         %5u\n" [← u8 (buf + 3)]
    print "        wTerminalType      0x%04x %s\n" [.num termt, getVideoterminalString env termt]
    print "        bAssocTerminal      %5u\n" [← u8 (buf + 6)]
    print "        bSourceID           %5u\n" [← u8 (buf + 7)]
    print "        iTerminal           %5u %s\n" [.num iTerminal, .str (env.getDevString iTerminal)]
    dumpJunk buf "        " 9

def selectorUnit (env : Env) (buf bLength : Nat) : Dump Unit := do
  print "(SELECTOR_UNIT)\n" []
  guardLength bLength 5 do
    let p ← Prog.byte (buf + 4)
    guardLength bLength (6 + p) do
      let iSelector ← Prog.byte (buf + (5 + p))
      print "        bUnitID             %5u\n" [← u8 (buf + 3)]
      print "        bNrInPins           %5u\n" [.num p]
      Prog.loop p fun i => do
        print "        baSource(%2u)        %5u\n" [.num i, ← u8 (buf + (5 + i))]
      print "        iSelector           %5u %s\n" [.num iSelector, .str (env.getDevString iSelector)]
      dumpJunk buf "        " (6 + p)

def processingUnit (env : Env) (buf bLength protocol : Nat) : Dump Unit := do
  print "(PROCESSING_UNIT)\n" []
  guardLength bLength 8 do
    let n ← Prog.byte (buf + 7)
    guardLength bLength (10 + n) do
      let iProcessing ← Prog.byte (buf + (8 + n))
      print "        bUnitID             %5u\n" [← u8 (buf + 3)]
      print "        bSourceID           %5u\n" [← u8 (buf + 4)]
      print "        wMaxMultiplier      %5u\n" [← le16 (buf + 5)]
      print "        bControlSize        %5u\n" [.num n]
      let ctrls ← shiftIn (bitmapTail (buf + (8 + n)) n) 0
      print "        bmControls     0x%08x\n" [.num ctrls]
      bitNames ctrlnames (if protocol = usbVideoProtocol15 then 19 else 18) ctrls
      let stds ← Prog.byte (buf + (9 + n))
      print "        iProcessing         %5u %s\n"
        [.num iProcessing, .str (env.getDevString iProcessing)]
      print "        bmVideoStandards     0x%02x\n" [.num stds]
      bitNames stdnames 6 stds

def extensionUnit (env : Env) (buf bLength : Nat) : Dump Unit := do
  print "(EXTENSION_UNIT)\n" []
  guardLength bLength 22 do
    let p ← Prog.byte (buf + 21)
    guardLength bLength (23 + p) do
      let n ← Prog.byte (buf + (22 + p))
      guardLength bLength (24 + p + n) do
        let iExtension ← Prog.byte (buf + (23 + p + n))
        print "        bUnitID             %5u\n" [← u8 (buf + 3)]
        print "        guidExtensionCode         %s\n" [text (← getGuid (buf + 4))]
        print "        bNumControls        %5u\n" [← u8 (buf + 20)]
        print "        bNrInPins           %5u\n" [.num p]
        Prog.loop p fun i => do
          print "        baSourceID(%2u)      %5u\n" [.num i, ← u8 (buf + (22 + i))]
        print "        bControlSize        %5u\n" [.num n]
        Prog.loop n fun i => do
          print "        bmControls(%2u)       0x%02x\n" [.num i, ← u8 (buf + (23 + p + i))]
        print "        iExtension          %5u %s\n"
          [.num iExtension, .str (env.getDevString iExtension)]
        dumpJunk buf "        " (24 + p + n)

def encodingUnit (env : Env) (buf bLength : Nat) : Dump Unit := do
  print "(ENCODING UNIT)\n" []
  guardLength bLength 13 do
    let iEncoding ← Prog.byte (buf + 5)
    print "        bUnitID             %5u\n" [← u8 (buf + 3)]
    print "        bSourceID           %5u\n" [← u8 (buf + 4)]
    print "        iEncoding           %5u %s\n" [.num iEncoding, .str (env.getDevString iEncoding)]
    print "        bControlSize        %5u\n" [← u8 (buf + 6)]
    let ctrls ← shiftIn [buf + 9, buf + 8, buf + 7] 0
    print "        bmControls              0x%08x\n" [.num ctrls]
    bitNames enctrlnames 20 ctrls
    -- the runtime controls are shifted in behind the others
    let ctrls ← shiftIn [buf + 12, buf + 11, buf + 10] ctrls
    print "        bmControlsRuntime       0x%08x\n" [.num ctrls]
    bitNames enctrlnames 20 ctrls

def subtypeDump (env : Env) (buf bLength protocol : Nat) : Nat → Dump Unit
  | 0x01 => header buf bLength
  | 0x02 => inputTerminal env buf bLength protocol
  | 0x03 => outputTerminal env buf bLength
  | 0x04 => selectorUnit env buf bLength
  | 0x05 => processingUnit env buf bLength protocol
  | 0x06 => extensionUnit env buf bLength
  | 0x07 => encodingUnit env buf bLength
  | _ => do
      print "(unknown)\n" []
      print "        Invalid desc subtype:" []
      dumpPayload buf bLength

end VideoControl

open VideoControl

def dumpVideocontrolInterface (env : Env) (buf protocol : Nat) : Dump Unit := do
  checkType buf usbDtCsInterface
  let bLength ← Prog.byte buf
  guardLength bLength 3 do
    interfaceHeading "      VideoControl Interface Descriptor:\n" buf
    subtypeDump env buf bLength protocol (← Prog.byte (buf + 2))

def dumpVideocontrolInterruptEndpoint (buf : Nat) : Dump Unit := do
  checkType buf usbDtCsEndpoint
  let bLength ← Prog.byte buf
  guardLength bLength 5 do
    print "        VideoControl Endpoint Descriptor:\n" []
    print "          bLength             %5u\n" [.num bLength]
    print "          bDescriptorType     %5u\n" [← u8 (buf + 1)]
    let subtype ← Prog.byte (buf + 2)
    print "          bDescriptorSubtype  %5u (%s)\n"
      [.num subtype, text (if subtype = 3 then "EP_INTERRUPT" else "Invalid")]
    print "          wMaxTransferSize    %5u\n" [← le16 (buf + 3)]
    dumpJunk buf "          " 5

section Safety

variable {env : Env} {m : Memory} {buf lo hi : Nat}

namespace VideoControl

def shifted (m : Memory) : List Nat → Nat → Nat
  | [], ctrls => ctrls
  | address :: rest, ctrls => shifted m rest ((ctrls <<< 8) % 2 ^ 32 ||| (m address).toNat)

@[simp] theorem result_shiftIn (addresses : List Nat) (ctrls : Nat) :
    (shiftIn addresses ctrls).result m = .ok (shifted m addresses ctrls) := by
  induction addresses generalizing ctrls with
  | nil => rfl
  | cons a rest ih => simp [shiftIn, shifted, ih]

theorem all_shiftIn {E : Entry Effect → Prop} (addresses : List Nat) (ctrls : Nat) :
    Prog.All E (shiftIn addresses ctrls) m ↔ ∀ a ∈ addresses, E (.read a) := by
  induction addresses generalizing ctrls with
  | nil => simp [shiftIn]
  | cons a rest ih => simp [shiftIn, ih]

theorem shiftIn_within {addresses : List Nat} (ctrls : Nat)
    (h : ∀ a ∈ addresses, lo ≤ a ∧ a < hi) :
    Prog.All (Within lo hi) (shiftIn addresses ctrls) m :=
  (all_shiftIn addresses ctrls).mpr h

theorem bitmapTail_within {stop size : Nat} (ctrls : Nat) (hlo : lo + size ≤ stop)
    (hhi : stop ≤ hi) : Prog.All (Within lo hi) (shiftIn (bitmapTail stop size) ctrls) m := by
  refine shiftIn_within ctrls fun a ha => ?_
  simp only [bitmapTail, List.mem_map, List.mem_range] at ha
  obtain ⟨i, hi, rfl⟩ := ha
  omega

theorem header_within (h : 0 < (m buf).toNat) :
    Prog.All (Within buf (buf + (m buf).toNat)) (header buf (m buf).toNat) m := by
  simp [header, Prog.all_loop_iff, Prog.result_loop, dumpJunk_within _ _ h]
  grind

theorem cameraTerminal_within (protocol : Nat) (h : 15 ≤ (m buf).toNat) :
    Prog.All (Within buf (buf + (m buf).toNat)) (cameraTerminal buf (m buf).toNat protocol) m := by
  simp [cameraTerminal, dumpJunk_within _ _ (by omega : 0 < (m buf).toNat)]
  refine ⟨by omega, fun hlen => ⟨by omega, by omega, by omega, ?_, ?_⟩⟩
  · exact bitmapTail_within 0 (by omega) (by omega)
  · apply bitNames_within
    split <;> decide

theorem inputTerminal_within (protocol : Nat) (h : 0 < (m buf).toNat) :
    Prog.All (Within buf (buf + (m buf).toNat))
      (inputTerminal env buf (m buf).toNat protocol) m := by
  simp [inputTerminal, dumpJunk_within _ _ h]
  refine fun hlen => ⟨by omega, by omega, fun hfit => ⟨by omega, by omega, fun hcamera => ?_⟩⟩
  rw [if_pos hcamera] at hfit
  exact cameraTerminal_within protocol hfit

theorem outputTerminal_within (h : 0 < (m buf).toNat) :
    Prog.All (Within buf (buf + (m buf).toNat)) (outputTerminal env buf (m buf).toNat) m := by
  simp [outputTerminal, dumpJunk_within _ _ h]
  omega

theorem selectorUnit_within (h : 0 < (m buf).toNat) :
    Prog.All (Within buf (buf + (m buf).toNat)) (selectorUnit env buf (m buf).toNat) m := by
  simp [selectorUnit, Prog.all_loop_iff, Prog.result_loop, dumpJunk_within _ _ h]
  grind

theorem processingUnit_within (protocol : Nat) :
    Prog.All (Within buf (buf + (m buf).toNat))
      (processingUnit env buf (m buf).toNat protocol) m := by
  simp [processingUnit]
  refine fun hlen => ⟨by omega, fun hfit => ⟨by omega, by omega, by omega, by omega, ?_, ?_, by omega, ?_⟩⟩
  · exact bitmapTail_within 0 (by omega) (by omega)
  · apply bitNames_within
    split <;> decide
  · exact bitNames_within _ (by decide)

theorem extensionUnit_within (h : 0 < (m buf).toNat) :
    Prog.All (Within buf (buf + (m buf).toNat)) (extensionUnit env buf (m buf).toNat) m := by
  simp [extensionUnit, Prog.all_loop_iff, Prog.result_loop, dumpJunk_within _ _ h]
  grind [getGuid_within]

theorem encodingUnit_within :
    Prog.All (Within buf (buf + (m buf).toNat)) (encodingUnit env buf (m buf).toNat) m := by
  simp [encodingUnit, bitNames_within, enctrlnames]
  refine fun hlen => ⟨by omega, by omega, by omega, by omega, ?_, ?_⟩
  all_goals
    apply shiftIn_within
    simp
    omega

theorem subtypeDump_within (protocol subtype : Nat) (h : 0 < (m buf).toNat) :
    Prog.All (Within buf (buf + (m buf).toNat))
      (subtypeDump env buf (m buf).toNat protocol subtype) m := by
  unfold subtypeDump
  split
  · exact header_within h
  · exact inputTerminal_within protocol h
  · exact outputTerminal_within h
  · exact selectorUnit_within h
  · exact processingUnit_within protocol
  · exact extensionUnit_within h
  · exact encodingUnit_within
  · simp [dumpPayload_within]

@[simp] theorem result_subtypeDump (bLength protocol subtype : Nat) :
    (subtypeDump env buf bLength protocol subtype).result m = .ok () := by
  unfold subtypeDump
  split <;> simp [header, inputTerminal, cameraTerminal, outputTerminal, selectorUnit,
    processingUnit, extensionUnit, encodingUnit, Prog.result_loop]

end VideoControl

theorem dumpVideocontrolInterface_within (protocol : Nat) (h : 2 ≤ (m buf).toNat) :
    Prog.All (Within buf (buf + (m buf).toNat)) (dumpVideocontrolInterface env buf protocol) m := by
  simp [dumpVideocontrolInterface]
  refine ⟨by omega, by omega, fun hlen => ?_⟩
  refine ⟨interfaceHeading_within _ (Nat.le_refl buf) (by omega), by omega, ?_⟩
  exact subtypeDump_within protocol _ (by omega)

@[simp] theorem result_dumpVideocontrolInterface (protocol : Nat) :
    (dumpVideocontrolInterface env buf protocol).result m = .ok () := by
  simp [dumpVideocontrolInterface]

theorem dumpVideocontrolInterface_printsLine (protocol : Nat) :
    PrintsLine (dumpVideocontrolInterface env buf protocol) m :=
  .after (result_checkType ..) <| .after (Prog.result_byte ..) <|
    guardLength_printsLine fun _ => (interfaceHeading_printsLine (by decide) buf).left _

theorem dumpVideocontrolInterruptEndpoint_within (h : 2 ≤ (m buf).toNat) :
    Prog.All (Within buf (buf + (m buf).toNat)) (dumpVideocontrolInterruptEndpoint buf) m := by
  simp [dumpVideocontrolInterruptEndpoint, dumpJunk_within _ _ (by omega : 0 < (m buf).toNat)]
  omega

@[simp] theorem result_dumpVideocontrolInterruptEndpoint :
    (dumpVideocontrolInterruptEndpoint buf).result m = .ok () := by
  simp [dumpVideocontrolInterruptEndpoint]

theorem dumpVideocontrolInterruptEndpoint_printsLine :
    PrintsLine (dumpVideocontrolInterruptEndpoint buf) m :=
  .after (result_checkType ..) <| .after (Prog.result_byte ..) <|
    guardLength_printsLine fun _ => .of_print (by decide)

end Safety

end Usbutils
