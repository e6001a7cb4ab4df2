import Usbutils.Lsusb.Print
import Mathlib.Tactic.SplitIfs

/-! `dump_videostreaming_interface` of `lsusb.c`: a definition for each subtype it
decodes, and which bytes the decoder reads. -/
namespace Usbutils
open ByteProg

namespace VideoStreaming

def colorPrims : StringTable := [
  some "Unspecified", some "BT.709,sRGB", some "BT.470-2 (M)", some "BT.470-2 (B,G)",
  some "SMPTE 170M", some "SMPTE 240M"]

def transferChars : StringTable := [
  some "Unspecified", some "BT.709", some "BT.470-2 (M)", some "BT.470-2 (B,G)",
  some "SMPTE 170M", some "SMPTE 240M", some "Linear", some "sRGB"]

def matrixCoeffs : StringTable := [
  some "Unspecified", some "BT.709", some "FCC", some "BT.470-2 (B,G)",
  some "SMPTE 170M (BT.601)", some "SMPTE 240M"]

def inputHeader (buf bLength : Nat) : Dump Unit := do
  print "(INPUT_HEADER)\n" []
  guardLength bLength 13 do
    let p ← Prog.byte (buf + 3)
    let n ← Prog.byte (buf + 12)
    guardLength bLength (13 + p * n) do
      print "        bNumFormats                     %5u\n" [.num p]
      print "        wTotalLength                   0x%04x\n" [← le16 (buf + 4)]
      print "        bEndpointAddress                 0x%02x  EP %u %s\n"
        (endpointArgs (← Prog.byte (buf + 6)))
      print "        bmInfo                          %5u\n" [← u8 (buf + 7)]
      print "        bTerminalLink                   %5u\n" [← u8 (buf + 8)]
      print "        bStillCaptureMethod             %5u\n" [← u8 (buf + 9)]
      print "        bTriggerSupport                 %5u\n" [← u8 (buf + 10)]
      print "        bTriggerUsage                   %5u\n" [← u8 (buf + 11)]
      print "        bControlSize                    %5u\n" [.num n]
      Prog.loop p fun i => do
        print "        bmaControls(%2u)                 %5u\n" [.num i, ← u8 (buf + (13 + i * n))]
      dumpJunk buf "        " (13 + p * n)

def outputHeader (buf bLength : Nat) : Dump Unit := do
  print "(OUTPUT_HEADER)\n" []
  guardLength bLength 9 do
    let p ← Prog.byte (buf + 3)
    let n ← Prog.byte (buf + 8)
    guardLength bLength (9 + p * n) do
      print "        bNumFormats                 %5u\n" [.num p]
      print "        wTotalLength               0x%04x\n" [← le16 (buf + 4)]
      print "        bEndpointAddress             0x%02x  EP %u %s\n"
        (endpointArgs (← Prog.byte (buf + 6)))
      print "        bTerminalLink               %5u\n" [← u8 (buf + 7)]
      print "        bControlSize                %5u\n" [.num n]
      Prog.loop p fun i => do
        print "        bmaControls(%2u)             %5u\n" [.num i, ← u8 (buf + (9 + i * n))]
      dumpJunk buf "        " (9 + p * n)

def stillImageFrame (buf bLength : Nat) : Dump Unit := do
  print "(STILL_IMAGE_FRAME)\n" []
  guardLength bLength 5 do
    let n ← Prog.byte (buf + 4)
    guardLength bLength (6 + 4 * n) do
      let m ← Prog.byte (buf + (5 + 4 * n))
      guardLength bLength (6 + 4 * n + m) do
        print "        bEndpointAddress                 0x%02x  EP %u %s\n"
          (endpointArgs (← Prog.byte (buf + 3)))
        print "        bNumImageSizePatterns             %3u\n" [.num n]
        Prog.loop n fun i => do
          print "        wWidth(%2u)                      %5u\n"
            [.num i, ← le16 (buf + (5 + 4 * i))]
          print "        wHeight(%2u)                     %5u\n"
            [.num i, ← le16 (buf + (7 + 4 * i))]
        print "        bNumCompressionPatterns           %3u\n" [.num m]
        Prog.loop m fun i => do
          print "        bCompression(%2u)                %5u\n"
            [.num i, ← u8 (buf + (6 + 4 * n + i))]
        dumpJunk buf "        " (6 + 4 * n + m)

def yesNo (flags mask : Nat) : Arg := text (if flags &&& mask ≠ 0 then "Yes" else "No")

def fieldPattern (flags : Nat) : Dump Unit := do
  print "          Field 1 first: %s\n" [yesNo flags (1 <<< 2)]
  print "          Field pattern: " []
  match flags >>> 4 &&& 0x03 with
  | 0 => print "Field 1 only\n" []
  | 1 => print "Field 2 only\n" []
  | 2 => print "Regular pattern of fields 1 and 2\n" []
  | _ => print "Random pattern of fields 1 and 2\n" []

def formatUncompressed (buf bLength subtype : Nat) : Dump Unit := do
  let len := if subtype = 0x04 then 27 else 28
  print (if subtype = 0x04 then "(FORMAT_UNCOMPRESSED)\n" else "(FORMAT_FRAME_BASED)\n") []
  guardLength bLength len do
    let flags ← Prog.byte (buf + 25)
    print "        bFormatIndex                    %5u\n" [← u8 (buf + 3)]
    print "        bNumFrameDescriptors            %5u\n" [← u8 (buf + 4)]
    print "        guidFormat                            %s\n" [text (← getGuid (buf + 5))]
    print "        bBitsPerPixel                   %5u\n" [← u8 (buf + 21)]
    print "        bDefaultFrameIndex              %5u\n" [← u8 (buf + 22)]
    print "        bAspectRatioX                   %5u\n" [← u8 (buf + 23)]
    print "        bAspectRatioY                   %5u\n" [← u8 (buf + 24)]
    print "        bmInterlaceFlags                 0x%02x\n" [.num flags]
    print "          Interlaced stream or variable: %s\n" [yesNo flags (1 <<< 0)]
    print "          Fields per frame: %u fields\n"
      [.num (if flags &&& (1 <<< 1) ≠ 0 then 1 else 2)]
    fieldPattern flags
    print "        bCopyProtect                    %5u\n" [← u8 (buf + 26)]
    Prog.when (subtype = 0x10) do
      print "        bVariableSize                 %5u\n" [← u8 (buf + 27)]
    dumpJunk buf "        " len

def frameLength (intervals : Nat) : Nat := if intervals ≠ 0 then 26 + intervals * 4 else 38

def frameIntervals (buf intervals : Nat) : Dump Unit :=
  if intervals = 0 then do
    print "        dwMinFrameInterval          %9u\n" [← le32 (buf + 26)]
    print "        dwMaxFrameInterval          %9u\n" [← le32 (buf + 30)]
    print "        dwFrameIntervalStep         %9u\n" [← le32 (buf + 34)]
  else Prog.loop intervals fun i => do
    print "        dwFrameInterval(%2u)         %9u\n" [.num i, ← le32 (buf + (26 + 4 * i))]

def frame (buf bLength subtype : Nat) : Dump Unit := do
  -- where the number of frame intervals stands
  let n := if subtype = 0x05 then 25 else if subtype = 0x07 then 25 else 21
  print (if subtype = 0x05 then "(FRAME_UNCOMPRESSED)\n"
    else if subtype = 0x07 then "(FRAME_MJPEG)\n" else "(FRAME_FRAME_BASED)\n") []
  guardLength bLength (n + 1) do
    let intervals ← Prog.byte (buf + n)
    guardLength bLength (frameLength intervals) do
      let flags ← Prog.byte (buf + 4)
      print "        bFrameIndex                     %5u\n" [← u8 (buf + 3)]
      print "        bmCapabilities                   0x%02x\n" [.num flags]
      print "          Still image %ssupported\n"
        [text (if flags &&& (1 <<< 0) ≠ 0 then "" else "un")]
      Prog.when (flags &&& (1 <<< 1) ≠ 0) do
        print "          Fixed frame-rate\n" []
      print "        wWidth                          %5u\n" [← le16 (buf + 5)]
      print "        wHeight                         %5u\n" [← le16 (buf + 7)]
      print "        dwMinBitRate                %9u\n" [← le32 (buf + 9)]
      print "        dwMaxBitRate                %9u\n" [← le32 (buf + 13)]
      (if subtype = 0x11 then do
        print "        dwDefaultFrameInterval      %9u\n" [← le32 (buf + 17)]
        print "        bFrameIntervalType              %5u\n" [← u8 (buf + 21)]
        print "        dwBytesPerLine              %9u\n" [← le32 (buf + 22)]
      else do
        print "        dwMaxVideoFrameBufferSize   %9u\n" [← le32 (buf + 17)]
        print "        dwDefaultFrameInterval      %9u\n" [← le32 (buf + 21)]
        print "        bFrameIntervalType              %5u\n" [← u8 (buf + 25)])
      frameIntervals buf intervals
      dumpJunk buf "        " (frameLength intervals)

def formatMjpeg (buf bLength : Nat) : Dump Unit := do
  print "(FORMAT_MJPEG)\n" []
  guardLength bLength 11 do
    let flags ← Prog.byte (buf + 5)
    print "        bFormatIndex                    %5u\n" [← u8 (buf + 3)]
    print "        bNumFrameDescriptors            %5u\n" [← u8 (buf + 4)]
    print "        bFlags                          %5u\n" [.num flags]
    print "          Fixed-size samples: %s\n" [yesNo flags (1 <<< 0)]
    let flags ← Prog.byte (buf + 9)
    print "        bDefaultFrameIndex              %5u\n" [← u8 (buf + 6)]
    print "        bAspectRatioX                   %5u\n" [← u8 (buf + 7)]
    print "        bAspectRatioY                   %5u\n" [← u8 (buf + 8)]
    print "        bmInterlaceFlags                 0x%02x\n" [.num flags]
    print "          Interlaced stream or variable: %s\n" [yesNo flags (1 <<< 0)]
    print "          Fields per frame: %u fields\n"
      [.num (if flags &&& (1 <<< 1) ≠ 0 then 2 else 1)]
    fieldPattern flags
    print "        bCopyProtect                    %5u\n" [← u8 (buf + 10)]
    dumpJunk buf "        " 11

def formatMpeg2ts (buf bLength : Nat) : Dump Unit := do
  print "(FORMAT_MPEG2TS)\n" []
  let len := if bLength < 23 then 7 else 23
  guardLength bLength len do
    print "        bFormatIndex                    %5u\n" [← u8 (buf + 3)]
    print "        bDataOffset                     %5u\n" [← u8 (buf + 4)]
    print "        bPacketLength                   %5u\n" [← u8 (buf + 5)]
    print "        bStrideLength                   %5u\n" [← u8 (buf + 6)]
    Prog.when (len > 7) do
      print "        guidStrideFormat                      %s\n" [text (← getGuid (buf + 7))]
    dumpJunk buf "        " len

/-- `index <= last ? table[index] : "Unknown"` -/
def knownName (table : StringTable) (last index : Nat) : Dump Arg :=
  if index ≤ last then do return .str (← lookup table index) else pure (text "Unknown")

def colorformat (buf bLength : Nat) : Dump Unit := do
  print "(COLORFORMAT)\n" []
  guardLength bLength 6 do
    let primaries ← Prog.byte (buf + 3)
    print "        bColorPrimaries                 %5u (%s)\n"
      [.num primaries, ← knownName colorPrims 5 primaries]
    let transfer ← Prog.byte (buf + 4)
    print "        bTransferCharacteristics        %5u (%s)\n"
      [.num transfer, ← knownName transferChars 7 transfer]
    let matrix ← Prog.byte (buf + 5)
    print "        bMatrixCoefficients             %5u (%s)\n"
      [.num matrix, ← knownName matrixCoeffs 5 matrix]
    dumpJunk buf "        " 6

def formatStreamBased (buf bLength : Nat) : Dump Unit := do
  print "(FORMAT_STREAM_BASED)\n" []
  guardLength bLength 24 do
    print "        bFormatIndex                    %5u\n" [← u8 (buf + 3)]
    print "        guidFormat                            %s\n" [text (← getGuid (buf + 4))]
    print "        dwPacketLength                %7u\n" [← u8 (buf + 20)]
    dumpJunk buf "        " 24

def subtypeDump (buf bLength : Nat) : Nat → Dump Unit
  | 0x01 => inputHeader buf bLength
  | 0x02 => outputHeader buf bLength
  | 0x03 => stillImageFrame buf bLength
  | 0x04 => formatUncompressed buf bLength 0x04
  | 0x10 => formatUncompressed buf bLength 0x10
  | 0x05 => frame buf bLength 0x05
  | 0x07 => frame buf bLength 0x07
  | 0x11 => frame buf bLength 0x11
  | 0x06 => formatMjpeg buf bLength
  | 0x0a => formatMpeg2ts buf bLength
  | 0x0d => colorformat buf bLength
  | 0x12 => formatStreamBased buf bLength
  | _ => do
      print "        Invalid desc subtype:" []
      dumpPayload buf bLength

end VideoStreaming

open VideoStreaming

def dumpVideostreamingInterface (buf : Nat) : Dump Unit := do
  checkType buf usbDtCsInterface
  let bLength ← Prog.byte buf
  guardLength bLength 3 do
    print "      VideoStreaming Interface Descriptor:\n" []
    print "        bLength                         %5u\n" [.num bLength]
    print "        bDescriptorType                 %5u\n" [← u8 (buf + 1)]
    let subtype ← Prog.byte (buf + 2)
    print "        bDescriptorSubtype              %5u " [.num subtype]
    subtypeDump buf bLength subtype

namespace VideoStreaming

variable {m : Memory} {buf : Nat}

@[simp] theorem result_fieldPattern (flags : Nat) : (fieldPattern flags).result m = .ok () := by
  unfold fieldPattern
  simp only [Prog.result_bind, result_print]
  split <;> rfl

@[simp] theorem fieldPattern_within (lo hi flags : Nat) :
    Prog.All (Within lo hi) (fieldPattern flags) m := by
  unfold fieldPattern
  simp only [Prog.all_bind, all_print, within_print, true_and]
  split <;> simp

@[simp] theorem result_knownName (table : StringTable) (last index : Nat) :
    (knownName table last index).result m =
      .ok (if index ≤ last then .str table[index]?.join else text "Unknown") := by
  unfold knownName
  split <;> rfl

theorem knownName_within {table : StringTable} {last : Nat} (lo hi index : Nat)
    (h : last < table.length) : Prog.All (Within lo hi) (knownName table last index) m := by
  simp [knownName]
  omega

/-- The control bitmaps of a header lie in the descriptor unless they have no
bytes, there is a format to read one for, and the descriptor ends before them. -/
theorem control_inside {base p n len i : Nat} (hfit : base + p * n ≤ len)
    (hbare : ¬(len = base ∧ n = 0 ∧ 0 < p)) (hi : i < p) : base + i * n < len := by
  have hstep : (i + 1) * n ≤ p * n := Nat.mul_le_mul_right n hi
  rw [Nat.succ_mul] at hstep
  rcases Nat.eq_zero_or_pos n with rfl | hn
  · simp only [Nat.mul_zero, Nat.add_zero] at hfit ⊢
    omega
  · omega

/-- A header of its least length with formats that have no control bytes. -/
def BareHeader (m : Memory) (buf base : Nat) : Prop :=
  (m buf).toNat = base ∧ (m (buf + (base - 1))).toNat = 0 ∧ 0 < (m (buf + 3)).toNat

instance (m : Memory) (buf base : Nat) : Decidable (BareHeader m buf base) :=
  inferInstanceAs (Decidable (_ ∧ _ ∧ _))

theorem inputHeader_within_iff (h : 0 < (m buf).toNat) :
    Prog.All (Within buf (buf + (m buf).toNat)) (inputHeader buf (m buf).toNat) m ↔
      ¬BareHeader m buf 13 := by
  simp [inputHeader, Prog.all_loop_iff, Prog.result_loop, dumpJunk_within _ _ h]
  constructor
  · rintro hreads ⟨hlen, hsize, hformats⟩
    obtain ⟨-, -, hrest⟩ := hreads (by omega)
    obtain ⟨-, -, -, -, -, -, -, hcontrols⟩ := hrest (by simp [hlen, hsize])
    have := hcontrols 0 hformats
    omega
  · intro hbare hlen
    refine ⟨by omega, by omega, fun hfit => ?_⟩
    have hcontrols := fun i => @control_inside 13 _ _ _ i hfit hbare
    exact ⟨by omega, by omega, by omega, by omega, by omega, by omega, by omega, hcontrols⟩

theorem outputHeader_within_iff (h : 0 < (m buf).toNat) :
    Prog.All (Within buf (buf + (m buf).toNat)) (outputHeader buf (m buf).toNat) m ↔
      ¬BareHeader m buf 9 := by
  simp [outputHeader, Prog.all_loop_iff, Prog.result_loop, dumpJunk_within _ _ h]
  constructor
  · rintro hreads ⟨hlen, hsize, hformats⟩
    obtain ⟨-, -, hrest⟩ := hreads (by omega)
    obtain ⟨-, -, -, hcontrols⟩ := hrest (by simp [hlen, hsize])
    have := hcontrols 0 hformats
    omega
  · intro hbare hlen
    refine ⟨by omega, by omega, fun hfit => ?_⟩
    have hcontrols := fun i => @control_inside 9 _ _ _ i hfit hbare
    exact ⟨by omega, by omega, by omega, hcontrols⟩

theorem stillImageFrame_within (h : 0 < (m buf).toNat) :
    Prog.All (Within buf (buf + (m buf).toNat)) (stillImageFrame buf (m buf).toNat) m := by
  simp [stillImageFrame, Prog.all_loop_iff, Prog.result_loop, dumpJunk_within _ _ h]
  grind

theorem formatUncompressed_within (h : 0 < (m buf).toNat) {subtype : Nat}
    (hsubtype : subtype = 0x04 ∨ subtype = 0x10) :
    Prog.All (Within buf (buf + (m buf).toNat)) (formatUncompressed buf (m buf).toNat subtype) m := by
  rcases hsubtype with rfl | rfl
  all_goals
    simp [formatUncompressed, dumpJunk_within _ _ h]
    intro hlen
    refine ⟨by omega, by omega, by omega, getGuid_within (by omega) (by omega), ?_⟩
    omega

theorem le_frameLength (intervals : Nat) : 26 ≤ frameLength intervals := by
  unfold frameLength
  split <;> omega

theorem frameIntervals_within {len intervals : Nat} (h : frameLength intervals ≤ len) :
    Prog.All (Within buf (buf + len)) (frameIntervals buf intervals) m := by
  unfold frameLength at h
  unfold frameIntervals
  split_ifs with hzero
  · simp [hzero] at h ⊢
    omega
  · rw [if_pos hzero] at h
    refine Prog.all_loop intervals fun i hi => ?_
    simp
    omega

theorem frame_within (h : 0 < (m buf).toNat) {subtype : Nat}
    (hsubtype : subtype = 0x05 ∨ subtype = 0x07 ∨ subtype = 0x11) :
    Prog.All (Within buf (buf + (m buf).toNat)) (frame buf (m buf).toNat subtype) m := by
  rcases hsubtype with rfl | rfl | rfl
  all_goals
    simp [frame, dumpJunk_within _ _ h]
    refine fun hcount => ⟨by omega, fun hlen => ?_⟩
    have hlow := Nat.le_trans (le_frameLength _) hlen
    simp only [frameIntervals_within hlen, and_true]
    omega

theorem formatMjpeg_within (h : 0 < (m buf).toNat) :
    Prog.All (Within buf (buf + (m buf).toNat)) (formatMjpeg buf (m buf).toNat) m := by
  simp [formatMjpeg, dumpJunk_within _ _ h]
  omega

theorem formatMpeg2ts_within (h : 0 < (m buf).toNat) :
    Prog.All (Within buf (buf + (m buf).toNat)) (formatMpeg2ts buf (m buf).toNat) m := by
  simp [formatMpeg2ts, dumpJunk_within _ _ h]
  grind [getGuid_within]

theorem colorformat_within (h : 0 < (m buf).toNat) :
    Prog.All (Within buf (buf + (m buf).toNat)) (colorformat buf (m buf).toNat) m := by
  simp [colorformat, dumpJunk_within _ _ h, knownName_within, colorPrims, transferChars,
    matrixCoeffs]
  omega

theorem formatStreamBased_within (h : 0 < (m buf).toNat) :
    Prog.All (Within buf (buf + (m buf).toNat)) (formatStreamBased buf (m buf).toNat) m := by
  simp [formatStreamBased, dumpJunk_within _ _ h]
  intro hlen
  exact ⟨by omega, getGuid_within (by omega) (by omega), by omega⟩

@[simp] theorem result_subtypeDump (buf bLength subtype : Nat) :
    (subtypeDump buf bLength subtype).result m = .ok () := by
  unfold subtypeDump
  split <;> simp [inputHeader, outputHeader, stillImageFrame, formatUncompressed, frame,
    frameIntervals, formatMjpeg, formatMpeg2ts, colorformat, formatStreamBased, Prog.result_loop]

def ReadsBehind (m : Memory) (buf : Nat) : Prop :=
  (m (buf + 2)).toNat = 0x01 ∧ BareHeader m buf 13 ∨
    (m (buf + 2)).toNat = 0x02 ∧ BareHeader m buf 9

instance (m : Memory) (buf : Nat) : Decidable (ReadsBehind m buf) :=
  inferInstanceAs (Decidable (_ ∨ _))

theorem subtypeDump_within_iff (h : 0 < (m buf).toNat) (subtype : Nat) :
    Prog.All (Within buf (buf + (m buf).toNat)) (subtypeDump buf (m buf).toNat subtype) m ↔
      ¬(subtype = 0x01 ∧ BareHeader m buf 13 ∨ subtype = 0x02 ∧ BareHeader m buf 9) := by
  unfold subtypeDump
  split
  · simpa using inputHeader_within_iff h
  · simpa using outputHeader_within_iff h
  · simpa using stillImageFrame_within h
  · simpa using formatUncompressed_within h (Or.inl rfl)
  · simpa using formatUncompressed_within h (Or.inr rfl)
  · simpa using frame_within h (Or.inl rfl)
  · simpa using frame_within h (Or.inr (Or.inl rfl))
  · simpa using frame_within h (Or.inr (Or.inr rfl))
  · simpa using formatMjpeg_within h
  · simpa using formatMpeg2ts_within h
  · simpa using colorformat_within h
  · simpa using formatStreamBased_within h
  · simp_all [dumpPayload_within]

end VideoStreaming

@[simp] theorem result_dumpVideostreamingInterface (m : Memory) (buf : Nat) :
    (dumpVideostreamingInterface buf).result m = .ok () := by
  simp [dumpVideostreamingInterface]

theorem dumpVideostreamingInterface_printsLine (m : Memory) (buf : Nat) :
    PrintsLine (dumpVideostreamingInterface buf) m :=
  .after (result_checkType ..) <| .after (Prog.result_byte ..) <|
    guardLength_printsLine fun _ => .of_print (by decide)

/-- The VideoStreaming decoder reads its own descriptor only, except for the
control bitmap of a format without control bytes in a header that ends there. -/
theorem dumpVideostreamingInterface_within_iff (m : Memory) (buf : Nat) (h : 2 ≤ (m buf).toNat) :
    Prog.All (Within buf (buf + (m buf).toNat)) (dumpVideostreamingInterface buf) m ↔
      ¬ReadsBehind m buf := by
  have hsubtype := subtypeDump_within_iff (by omega : 0 < (m buf).toNat) (m (buf + 2)).toNat
  have hlong : ReadsBehind m buf → 3 ≤ (m buf).toNat := by
    rintro (⟨-, hlen, -⟩ | ⟨-, hlen, -⟩) <;> omega
  simp only [dumpVideostreamingInterface, Prog.all_bind, checkType_within, result_checkType,
    Prog.all_byte, within_read, Prog.result_byte, Except.ok.injEq, forall_eq', forall_const,
    guardLength_within, all_print, within_print, result_print, all_u8, result_u8, true_and]
  rw [hsubtype]
  constructor
  · intro hall hbehind
    exact (hall.2.2 (hlong hbehind)).2.2 hbehind
  · intro hnot
    refine ⟨by omega, by omega, fun hlen => ⟨by omega, by omega, hnot⟩⟩

def junkHeader : Memory := fun a => ([14, 0x24, 1, 1] : List UInt8).getD a 0

theorem dumpVideostreamingInterface_within_junk :
    Prog.All (Within 0 (0 + 14)) (dumpVideostreamingInterface 0) junkHeader :=
  (dumpVideostreamingInterface_within_iff junkHeader 0 (by decide)).mpr (by decide)

def bareHeader : Memory := fun a => ([13, 0x24, 1, 1] : List UInt8).getD a 0

theorem dumpVideostreamingInterface_reads_behind :
    ¬∀ (m : Memory) (buf : Nat), 2 ≤ (m buf).toNat →
      Prog.All (Within buf (buf + (m buf).toNat)) (dumpVideostreamingInterface buf) m := by
  intro h
  have hread := h bareHeader 0 (by decide) (.read 13) (by decide)
  exact absurd hread.2 (by decide)

end Usbutils
