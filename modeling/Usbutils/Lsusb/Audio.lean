import Usbutils.Lsusb.Print
import Usbutils.Desc.Safety
import Mathlib.Tactic.SplitIfs

/-! The audio and MIDI decoders of `lsusb.c`. Most subtypes are handed to
`desc_dump` without their first three bytes; only formats are decoded by hand. -/
namespace Usbutils
open ByteProg

def usbAudioClass1 : Nat := 0x00
def usbAudioClass2 : Nat := 0x20
def usbAudioClass3 : Nat := 0x30

/-- `desc_dump(dev, desc, buf + 3, buf[0] - 3, indent)`, in unsigned arithmetic -/
def dumpBehindSubtype (env : Env) (desc : DescId) (buf indent : Nat) : Dump Unit := do
  let bLength ← Prog.byte buf
  descDump env desc (buf + 3) ((bLength + 2 ^ 32 - 3) % 2 ^ 32) indent

def dumpAudioSubtype (env : Env) (name : String) (desc : List (Option DescId))
    (buf protocol indent : Nat) : Dump Unit := do
  let idx := if protocol = usbAudioClass2 then 1 else if protocol = usbAudioClass3 then 2 else 0
  print "(%s)\n" [text name]
  match desc[idx]?.join with
  | none =>
      print "%*sWarning: %s descriptors are illegal for %s\n"
        [.num (indent * 2), text "", text name,
          .str (← lookup [some "UAC1", some "UAC2", some "UAC3"] idx)]
  | some desc => dumpBehindSubtype env desc buf indent

/-- `enum uac_interface_subtype`, with the values that it gives no name. -/
inductive UacInterfaceSubtype where
  | acDescriptorUndefined
  | header
  | inputTerminal
  | outputTerminal
  | extendedTerminal
  | mixerUnit
  | selectorUnit
  | featureUnit
  | effectUnit
  | processingUnit
  | extensionUnit
  | clockSource
  | clockSelector
  | clockMultiplier
  | sampleRateConverter
  | connectors
  | powerDomain
  | unnamed (value : Nat)
  deriving DecidableEq, Repr

def UacInterfaceSubtype.ofValue : Nat → UacInterfaceSubtype
  | 0x00 => .acDescriptorUndefined
  | 0x01 => .header
  | 0x02 => .inputTerminal
  | 0x03 => .outputTerminal
  | 0x04 => .extendedTerminal
  | 0x05 => .mixerUnit
  | 0x06 => .selectorUnit
  | 0x07 => .featureUnit
  | 0x08 => .effectUnit
  | 0x09 => .processingUnit
  | 0x0a => .extensionUnit
  | 0x0b => .clockSource
  | 0x0c => .clockSelector
  | 0x0d => .clockMultiplier
  | 0x0e => .sampleRateConverter
  | 0x0f => .connectors
  | 0x10 => .powerDomain
  | value => .unnamed value

def getUacInterfaceSubtype (c protocol : Nat) : UacInterfaceSubtype :=
  if protocol = usbAudioClass1 then
    match c with
    | 0x04 => .mixerUnit
    | 0x05 => .selectorUnit
    | 0x06 => .featureUnit
    | 0x07 => .processingUnit
    | 0x08 => .extensionUnit
    | _ => .ofValue c
  else if protocol = usbAudioClass2 then
    match c with
    | 0x04 => .mixerUnit
    | 0x05 => .selectorUnit
    | 0x06 => .featureUnit
    | 0x07 => .effectUnit
    | 0x08 => .processingUnit
    | 0x09 => .extensionUnit
    | 0x0a => .clockSource
    | 0x0b => .clockSelector
    | 0x0c => .clockMultiplier
    | 0x0d => .sampleRateConverter
    | _ => .ofValue c
  else .ofValue c

def audiocontrolUnit : UacInterfaceSubtype → Option (String × List (Option DescId))
  | .header => some ("HEADER", descAudioAcHeader)
  | .inputTerminal => some ("INPUT_TERMINAL", descAudioAcInputTerminal)
  | .outputTerminal => some ("OUTPUT_TERMINAL", descAudioAcOutputTerminal)
  | .mixerUnit => some ("MIXER_UNIT", descAudioAcMixerUnit)
  | .selectorUnit => some ("SELECTOR_UNIT", descAudioAcSelectorUnit)
  | .featureUnit => some ("FEATURE_UNIT", descAudioAcFeatureUnit)
  | .processingUnit => some ("PROCESSING_UNIT", descAudioAcProcessingUnit)
  | .extensionUnit => some ("EXTENSION_UNIT", descAudioAcExtensionUnit)
  | .clockSource => some ("CLOCK_SOURCE", descAudioAcClockSource)
  | .clockSelector => some ("CLOCK_SELECTOR", descAudioAcClockSelector)
  | .clockMultiplier => some ("CLOCK_MULTIPLIER", descAudioAcClockMultiplier)
  -- dumped by the definition of the clock multiplier
  | .sampleRateConverter => some ("SAMPLING_RATE_CONVERTER", descAudioAcClockMultiplier)
  | .effectUnit => some ("EFFECT_UNIT", descAudioAcEffectUnit)
  | .powerDomain => some ("POWER_DOMAIN", descAudioAcPowerDomain)
  | _ => none

def dumpAudiocontrolInterface (env : Env) (buf protocol : Nat) : Dump Unit := do
  checkType buf usbDtCsInterface
  let bLength ← Prog.byte buf
  guardLength bLength 3 do
    interfaceHeading "      AudioControl Interface Descriptor:\n" buf
    match audiocontrolUnit (getUacInterfaceSubtype (← Prog.byte (buf + 2)) protocol) with
    | some (name, desc) => dumpAudioSubtype env name desc buf protocol 4
    | none =>
        print "(unknown)\n" []
        print "        Invalid desc subtype:" []
        dumpPayload buf bLength

namespace AudioStreaming

def fmtItag : StringTable := [
  some "TYPE_I_UNDEFINED", some "PCM", some "PCM8", some "IEEE_FLOAT", some "ALAW", some "MULAW"]

def fmtIItag : StringTable := [some "TYPE_II_UNDEFINED", some "MPEG", some "AC-3"]

def fmtIIItag : StringTable := [
  some "TYPE_III_UNDEFINED", some "IEC1937_AC-3", some "IEC1937_MPEG-1_Layer1",
  some "IEC1937_MPEG-Layer2/3/NOEXT", some "IEC1937_MPEG-2_EXT",
  some "IEC1937_MPEG-2_Layer1_LS", some "IEC1937_MPEG-2_Layer2/3_LS"]

def formatLength (base count : Nat) : Nat := if count ≠ 0 then count * 3 + base else base + 6

def sampleFrequencies (buf base count : Nat) : Dump Unit :=
  if count = 0 then do
    print "        tLowerSamFreq     %7u\n" [← le24 (buf + base)]
    print "        tUpperSamFreq     %7u\n" [← le24 (buf + (base + 3))]
  else Prog.loop count fun i => do
    print "        tSamFreq[%2u]      %7u\n" [.num i, ← le24 (buf + (base + 3 * i))]

def discrete (count : Nat) : Arg := text (if count ≠ 0 then "Discrete" else "Continuous")

def channelFormat (buf bLength : Nat) : Dump Unit := do
  let bSamFreqType ← Prog.byte (buf + 7)
  guardLength bLength (formatLength 8 bSamFreqType) do
    print "        bNrChannels         %5u\n" [← u8 (buf + 4)]
    print "        bSubframeSize       %5u\n" [← u8 (buf + 5)]
    print "        bBitResolution      %5u\n" [← u8 (buf + 6)]
    print "        bSamFreqType        %5u %s\n" [.num bSamFreqType, discrete bSamFreqType]
    sampleFrequencies buf 8 bSamFreqType
    dumpJunk buf "        " (formatLength 8 bSamFreqType)

def formatTypeII (buf bLength : Nat) : Dump Unit :=
  guardLength bLength 9 do
    let bSamFreqType ← Prog.byte (buf + 8)
    guardLength bLength (formatLength 9 bSamFreqType) do
      print "        wMaxBitRate         %5u\n" [← le16 (buf + 4)]
      print "        wSamplesPerFrame    %5u\n" [← le16 (buf + 6)]
      print "        bSamFreqType        %5u %s\n" [.num bSamFreqType, discrete bSamFreqType]
      sampleFrequencies buf 9 bSamFreqType
      dumpJunk buf "        " (formatLength 9 bSamFreqType)

def invalidFormatType (buf bLength : Nat) : Dump Unit := do
  print "(unknown)\n" []
  print "        Invalid desc format type:" []
  dumpBytes (buf + 4) (bLength - 4)

def formatTypeUac1 (buf bLength : Nat) : Dump Unit :=
  guardLength bLength 8 do
    let bFormatType ← Prog.byte (buf + 3)
    print "        bFormatType         %5u " [.num bFormatType]
    match bFormatType with
    | 0x01 => do
        print "(FORMAT_TYPE_I)\n" []
        channelFormat buf bLength
    | 0x02 => do
        print "(FORMAT_TYPE_II)\n" []
        formatTypeII buf bLength
    | 0x03 => do
        print "(FORMAT_TYPE_III)\n" []
        channelFormat buf bLength
    | _ => invalidFormatType buf bLength

def subslotFormat (buf bLength : Nat) : Dump Unit :=
  guardLength bLength 6 do
    print "        bSubslotSize        %5u\n" [← u8 (buf + 4)]
    print "        bBitResolution      %5u\n" [← u8 (buf + 5)]
    dumpJunk buf "        " 6

def formatTypeUac2 (buf bLength : Nat) : Dump Unit := do
  let bFormatType ← Prog.byte (buf + 3)
  print "        bFormatType         %5u " [.num bFormatType]
  match bFormatType with
  | 0x01 => do
      print "(FORMAT_TYPE_I)\n" []
      subslotFormat buf bLength
  | 0x02 => do
      print "(FORMAT_TYPE_II)\n" []
      guardLength bLength 8 do
        print "        wMaxBitRate         %5u\n" [← le16 (buf + 4)]
        print "        wSlotsPerFrame      %5u\n" [← le16 (buf + 6)]
        dumpJunk buf "        " 8
  | 0x03 => do
      print "(FORMAT_TYPE_III)\n" []
      subslotFormat buf bLength
  | 0x04 => do
      print "(FORMAT_TYPE_IV)\n" []
      guardLength bLength 4 do
        print "        bFormatType         %5u\n" [← u8 (buf + 3)]
        dumpJunk buf "        " 4
  | _ => invalidFormatType buf bLength

def formatType (buf bLength protocol : Nat) : Dump Unit := do
  print "(FORMAT_TYPE)\n" []
  guardLength bLength 4
    (if protocol = usbAudioClass1 then formatTypeUac1 buf bLength
    else if protocol = usbAudioClass2 then formatTypeUac2 buf bLength
    else pure ())

def formatTagName (fmttag : Nat) : Dump Arg :=
  if fmttag ≤ 5 then do return .str (← lookup fmtItag fmttag)
  else if fmttag ≥ 0x1000 ∧ fmttag ≤ 0x1002 then do return .str (← lookup fmtIItag (fmttag &&& 0xfff))
  else if fmttag ≥ 0x2000 ∧ fmttag ≤ 0x2006 then do return .str (← lookup fmtIIItag (fmttag &&& 0xfff))
  else pure (text "undefined")

def multilingualSupport (value : Nat) : Dump Unit := do
  print "          MPEG-2 multilingual support: " []
  match value &&& 3 with
  | 0 => print "Not supported\n" []
  | 1 => print "Supported at Fs\n" []
  | 2 => print "Reserved\n" []
  | _ => print "Supported at Fs and 1/2Fs\n" []

def rangeControl (value : Nat) : Dump Unit := do
  print "          Internal Dynamic Range Control: " []
  match value >>> 4 &&& 3 with
  | 0 => print "not supported\n" []
  | 1 => print "supported but not scalable\n" []
  | 2 => print "scalable, common boost and cut scaling value\n" []
  | _ => print "scalable, separate boost and cut scaling value\n" []

def mpeg (buf bLength : Nat) : Dump Unit :=
  guardLength bLength 8 do
    print "        bmMPEGCapabilities 0x%04x\n" [← le16 (buf + 5)]
    bitLines (← Prog.byte (buf + 5)) [
      (0x01, "          Layer I\n"),
      (0x02, "          Layer II\n"),
      (0x04, "          Layer III\n"),
      (0x08, "          MPEG-1 only\n"),
      (0x10, "          MPEG-1 dual-channel\n"),
      (0x20, "          MPEG-2 second stereo\n"),
      (0x40, "          MPEG-2 7.1 channel augmentation\n"),
      (0x80, "          Adaptive multi-channel prediction\n")]
    multilingualSupport (← Prog.byte (buf + 6))
    print "        bmMPEGFeatures       0x%02x\n" [← u8 (buf + 7)]
    rangeControl (← Prog.byte (buf + 7))
    dumpJunk buf "        " 8

def ac3 (buf bLength : Nat) : Dump Unit :=
  guardLength bLength 10 do
    print "        bmBSID         0x%08x\n" [← le32 (buf + 5)]
    print "        bmAC3Features        0x%02x\n" [← u8 (buf + 9)]
    bitLines (← Prog.byte (buf + 9)) [
      (0x01, "          RF mode\n"),
      (0x02, "          Line mode\n"),
      (0x04, "          Custom0 mode\n"),
      (0x08, "          Custom1 mode\n")]
    rangeControl (← Prog.byte (buf + 9))
    -- two bytes less than are decoded
    dumpJunk buf "        " 8

def formatSpecific (buf bLength : Nat) : Dump Unit := do
  print "(FORMAT_SPECIFIC)\n" []
  guardLength bLength 5 do
    let fmttag ← convertLeU16 (buf + 3)
    print "        wFormatTag          %5u %s\n" [.num fmttag, ← formatTagName fmttag]
    match fmttag with
    | 0x1001 => mpeg buf bLength
    | 0x1002 => ac3 buf bLength
    | _ => invalidFormatType buf bLength

end AudioStreaming

open AudioStreaming

def dumpAudiostreamingInterface (env : Env) (buf protocol : Nat) : Dump Unit := do
  checkType buf usbDtCsInterface
  let bLength ← Prog.byte buf
  guardLength bLength 3 do
    interfaceHeading "      AudioStreaming Interface Descriptor:\n" buf
    match ← Prog.byte (buf + 2) with
    | 0x01 => dumpAudioSubtype env "AS_GENERAL" descAudioAsInterface buf protocol 4
    | 0x02 => formatType buf bLength protocol
    | 0x03 => formatSpecific buf bLength
    | _ => do
        print "        Invalid desc subtype:" []
        dumpPayload buf bLength

def endpointHeading (title : String) (buf : Nat) : Dump Unit := do
  print title []
  print "          bLength             %5u\n" [← u8 buf]
  print "          bDescriptorType     %5u\n" [← u8 (buf + 1)]

def dumpAudiostreamingEndpoint (env : Env) (buf protocol : Nat) : Dump Unit := do
  checkType buf usbDtCsEndpoint
  let bLength ← Prog.byte buf
  guardLength bLength 3 do
    endpointHeading "        AudioStreaming Endpoint Descriptor:\n" buf
    let subtype ← Prog.byte (buf + 2)
    print "          bDescriptorSubtype  %5u " [.num subtype]
    dumpAudioSubtype env (if subtype = 1 then "EP_GENERAL" else "invalid")
      descAudioAsIsochronousAudioDataEndpoint buf protocol 5

def dumpMidistreamingInterface (env : Env) (buf : Nat) : Dump Unit := do
  checkType buf usbDtCsInterface
  let bLength ← Prog.byte buf
  guardLength bLength 3 do
    interfaceHeading "      MIDIStreaming Interface Descriptor:\n" buf
    match ← Prog.byte (buf + 2) with
    | 0x01 => do
        print "(HEADER)\n" []
        dumpBehindSubtype env .midiMsHeader buf 4
    | 0x02 => do
        print "(MIDI_IN_JACK)\n" []
        dumpBehindSubtype env .midiMsInJack buf 4
    | 0x03 => do
        print "(MIDI_OUT_JACK)\n" []
        dumpBehindSubtype env .midiMsOutJack buf 4
    | 0x04 => do
        print "(ELEMENT)\n" []
        dumpBehindSubtype env .midiMsElement buf 4
    | _ => do
        print "(unknown)\n" []
        print "        Invalid desc subtype:" []
        dumpBytes (buf + 3) (bLength - 3)

def dumpMidistreamingEndpoint (env : Env) (buf : Nat) : Dump Unit := do
  checkType buf usbDtCsEndpoint
  let bLength ← Prog.byte buf
  guardLength bLength 3 do
    endpointHeading "        MIDIStreaming Endpoint Descriptor:\n" buf
    let subtype ← Prog.byte (buf + 2)
    print "          bDescriptorSubtype  %5u (%s)\n" [.num subtype,
      .str (← lookup [some "invalid", some "GENERAL", some "GENERAL_2_0"]
        (if subtype < 3 then subtype else 0))]
    dumpBehindSubtype env .midiMsEndpointGeneral buf 5

section Safety

variable {env : Env} {m : Memory} {buf : Nat}

@[simp] theorem result_dumpBehindSubtype (desc : DescId) (indent : Nat) :
    (dumpBehindSubtype env desc buf indent).result m = .ok () := by
  simp [dumpBehindSubtype, result_descDump]

theorem dumpBehindSubtype_within (desc : DescId) (indent : Nat) (h : 3 ≤ (m buf).toNat) :
    Prog.All (Within buf (buf + (m buf).toNat)) (dumpBehindSubtype env desc buf indent) m := by
  have hbyte := (m buf).toNat_lt
  have hlen : ((m buf).toNat + 2 ^ 32 - 3) % 2 ^ 32 = (m buf).toNat - 3 := by omega
  simp only [dumpBehindSubtype, Prog.all_bind, Prog.all_byte, within_read, Prog.result_byte,
    Except.ok.injEq, forall_eq', hlen]
  refine ⟨by omega, (descDump_inside ?_).mono fun _ hin => hin.mono (by omega) (by omega)⟩
  unfold descBufLenFromBuf
  omega

@[simp] theorem result_dumpAudioSubtype (name : String) (desc : List (Option DescId))
    (protocol indent : Nat) :
    (dumpAudioSubtype env name desc buf protocol indent).result m = .ok () := by
  simp only [dumpAudioSubtype, Prog.result_bind, result_print]
  split <;> simp

theorem dumpAudioSubtype_within (name : String) (desc : List (Option DescId))
    (protocol indent : Nat) (h : 3 ≤ (m buf).toNat) :
    Prog.All (Within buf (buf + (m buf).toNat))
      (dumpAudioSubtype env name desc buf protocol indent) m := by
  simp only [dumpAudioSubtype, Prog.all_bind, all_print, within_print, result_print, true_and,
    forall_const]
  split
  · simp
    split_ifs <;> omega
  · exact dumpBehindSubtype_within _ indent h

@[simp] theorem result_dumpAudiocontrolInterface (protocol : Nat) :
    (dumpAudiocontrolInterface env buf protocol).result m = .ok () := by
  simp [dumpAudiocontrolInterface]
  intro
  split <;> simp

theorem dumpAudiocontrolInterface_printsLine (protocol : Nat) :
    PrintsLine (dumpAudiocontrolInterface env buf protocol) m :=
  .after (result_checkType ..) <| .after (Prog.result_byte ..) <|
    guardLength_printsLine fun _ => (interfaceHeading_printsLine (by decide) buf).left _

theorem dumpAudiocontrolInterface_within (protocol : Nat) (h : 2 ≤ (m buf).toNat) :
    Prog.All (Within buf (buf + (m buf).toNat)) (dumpAudiocontrolInterface env buf protocol) m := by
  simp [dumpAudiocontrolInterface]
  refine ⟨by omega, by omega, fun hlen => ?_⟩
  refine ⟨interfaceHeading_within _ (Nat.le_refl buf) (by omega), by omega, ?_⟩
  split
  · exact dumpAudioSubtype_within _ _ protocol 4 hlen
  · simp [dumpPayload_within]

namespace AudioStreaming

@[simp] theorem result_sampleFrequencies (base count : Nat) :
    (sampleFrequencies buf base count).result m = .ok () := by
  simp [sampleFrequencies, Prog.result_loop]

theorem sampleFrequencies_within {base count len : Nat} (h : formatLength base count ≤ len) :
    Prog.All (Within buf (buf + len)) (sampleFrequencies buf base count) m := by
  unfold formatLength at h
  unfold sampleFrequencies
  split_ifs with hcount
  · simp [hcount] at h ⊢
    omega
  · rw [if_pos hcount] at h
    refine Prog.all_loop count fun i hi => ?_
    simp
    omega

theorem channelFormat_within (h : 8 ≤ (m buf).toNat) :
    Prog.All (Within buf (buf + (m buf).toNat)) (channelFormat buf (m buf).toNat) m := by
  simp [channelFormat, dumpJunk_within _ _ (by omega : 0 < (m buf).toNat)]
  refine ⟨by omega, fun hlen => ?_⟩
  simp only [sampleFrequencies_within hlen, and_true]
  omega

theorem formatTypeII_within (h : 0 < (m buf).toNat) :
    Prog.All (Within buf (buf + (m buf).toNat)) (formatTypeII buf (m buf).toNat) m := by
  simp [formatTypeII, dumpJunk_within _ _ h]
  refine fun hlong => ⟨by omega, fun hlen => ?_⟩
  simp only [sampleFrequencies_within hlen, and_true]
  omega

theorem invalidFormatType_within (h : 4 ≤ (m buf).toNat) :
    Prog.All (Within buf (buf + (m buf).toNat)) (invalidFormatType buf (m buf).toNat) m := by
  simp [invalidFormatType, @dumpBytes_within m buf _ _ _ (by omega : buf ≤ buf + 4)
    (by omega : buf + 4 + ((m buf).toNat - 4) ≤ buf + (m buf).toNat)]

theorem formatTypeUac1_within :
    Prog.All (Within buf (buf + (m buf).toNat)) (formatTypeUac1 buf (m buf).toNat) m := by
  simp [formatTypeUac1]
  refine fun hlen => ⟨by omega, ?_⟩
  split
  · simp [channelFormat_within hlen]
  · simp [formatTypeII_within (by omega : 0 < (m buf).toNat)]
  · simp [channelFormat_within hlen]
  · exact invalidFormatType_within (by omega)

theorem subslotFormat_within (h : 0 < (m buf).toNat) :
    Prog.All (Within buf (buf + (m buf).toNat)) (subslotFormat buf (m buf).toNat) m := by
  simp [subslotFormat, dumpJunk_within _ _ h]
  omega

theorem formatTypeUac2_within (h : 4 ≤ (m buf).toNat) :
    Prog.All (Within buf (buf + (m buf).toNat)) (formatTypeUac2 buf (m buf).toNat) m := by
  have hpos : 0 < (m buf).toNat := by omega
  simp [formatTypeUac2]
  refine ⟨by omega, ?_⟩
  split
  · simp [subslotFormat_within hpos]
  · simp [dumpJunk_within _ _ hpos]
    omega
  · simp [subslotFormat_within hpos]
  · simp [dumpJunk_within _ _ hpos]
    omega
  · exact invalidFormatType_within h

theorem formatType_within (protocol : Nat) :
    Prog.All (Within buf (buf + (m buf).toNat)) (formatType buf (m buf).toNat protocol) m := by
  simp [formatType, formatTypeUac1_within]
  exact fun hlen _ _ => formatTypeUac2_within hlen

theorem multilingualSupport_within (lo hi value : Nat) :
    Prog.All (Within lo hi) (multilingualSupport value) m := by
  simp [multilingualSupport]
  split <;> simp

@[simp] theorem result_multilingualSupport (value : Nat) :
    (multilingualSupport value).result m = .ok () := by
  simp only [multilingualSupport, Prog.result_bind, result_print]
  split <;> rfl

theorem rangeControl_within (lo hi value : Nat) :
    Prog.All (Within lo hi) (rangeControl value) m := by
  simp [rangeControl]
  split <;> simp

@[simp] theorem result_rangeControl (value : Nat) : (rangeControl value).result m = .ok () := by
  simp only [rangeControl, Prog.result_bind, result_print]
  split <;> rfl

theorem formatTagName_within (lo hi fmttag : Nat) :
    Prog.All (Within lo hi) (formatTagName fmttag) m := by
  have hlow : fmttag &&& 0xfff = fmttag % 2 ^ 12 := Nat.and_two_pow_sub_one_eq_mod fmttag 12
  simp [formatTagName, hlow, fmtItag, fmtIItag, fmtIIItag]
  omega

theorem exists_formatTagName (fmttag : Nat) :
    ∃ name, (formatTagName fmttag).result m = .ok name := by
  unfold formatTagName
  split_ifs <;> simp [Except.map]

theorem mpeg_within (h : 0 < (m buf).toNat) :
    Prog.All (Within buf (buf + (m buf).toNat)) (mpeg buf (m buf).toNat) m := by
  simp [mpeg, dumpJunk_within _ _ h, multilingualSupport_within, rangeControl_within]
  omega

theorem ac3_within (h : 0 < (m buf).toNat) :
    Prog.All (Within buf (buf + (m buf).toNat)) (ac3 buf (m buf).toNat) m := by
  simp [ac3, dumpJunk_within _ _ h, rangeControl_within]
  omega

theorem formatSpecific_within :
    Prog.All (Within buf (buf + (m buf).toNat)) (formatSpecific buf (m buf).toNat) m := by
  simp [formatSpecific, formatTagName_within]
  refine fun hlen => ⟨by omega, fun _ _ => ?_⟩
  split
  · exact mpeg_within (by omega)
  · exact ac3_within (by omega)
  · exact invalidFormatType_within (by omega)

end AudioStreaming

theorem dumpAudiostreamingInterface_within (protocol : Nat) (h : 2 ≤ (m buf).toNat) :
    Prog.All (Within buf (buf + (m buf).toNat)) (dumpAudiostreamingInterface env buf protocol) m := by
  simp [dumpAudiostreamingInterface]
  refine ⟨by omega, by omega, fun hlen => ?_⟩
  refine ⟨interfaceHeading_within _ (Nat.le_refl buf) (by omega), by omega, ?_⟩
  split
  · exact dumpAudioSubtype_within _ _ protocol 4 hlen
  · exact formatType_within protocol
  · exact formatSpecific_within
  · simp [dumpPayload_within]

theorem endpointHeading_within (title : String) (h : 2 ≤ (m buf).toNat) :
    Prog.All (Within buf (buf + (m buf).toNat)) (endpointHeading title buf) m := by
  simp [endpointHeading]
  omega

@[simp] theorem result_endpointHeading (title : String) :
    (endpointHeading title buf).result m = .ok () := rfl

theorem dumpAudiostreamingEndpoint_within (protocol : Nat) (h : 2 ≤ (m buf).toNat) :
    Prog.All (Within buf (buf + (m buf).toNat)) (dumpAudiostreamingEndpoint env buf protocol) m := by
  simp [dumpAudiostreamingEndpoint, endpointHeading_within _ h]
  refine ⟨by omega, by omega, fun hlen => ⟨by omega, ?_⟩⟩
  exact dumpAudioSubtype_within _ _ protocol 5 hlen

theorem dumpMidistreamingInterface_within (h : 2 ≤ (m buf).toNat) :
    Prog.All (Within buf (buf + (m buf).toNat)) (dumpMidistreamingInterface env buf) m := by
  simp [dumpMidistreamingInterface]
  refine ⟨by omega, by omega, fun hlen => ?_⟩
  refine ⟨interfaceHeading_within _ (Nat.le_refl buf) (by omega), by omega, ?_⟩
  split
  · simp [dumpBehindSubtype_within _ _ hlen]
  · simp [dumpBehindSubtype_within _ _ hlen]
  · simp [dumpBehindSubtype_within _ _ hlen]
  · simp [dumpBehindSubtype_within _ _ hlen]
  · simp [@dumpBytes_within m buf _ _ _ (by omega : buf ≤ buf + 3)
      (by omega : buf + 3 + ((m buf).toNat - 3) ≤ buf + (m buf).toNat)]

theorem dumpMidistreamingEndpoint_within (h : 2 ≤ (m buf).toNat) :
    Prog.All (Within buf (buf + (m buf).toNat)) (dumpMidistreamingEndpoint env buf) m := by
  simp [dumpMidistreamingEndpoint, endpointHeading_within _ h]
  refine ⟨by omega, by omega, fun hlen => ⟨by omega, ?_, dumpBehindSubtype_within _ 5 hlen⟩⟩
  split_ifs <;> omega

end Safety

section Returns

variable {env : Env} {m : Memory} {buf : Nat}

namespace AudioStreaming

@[simp] theorem result_formatType (bLength protocol : Nat) :
    (formatType buf bLength protocol).result m = .ok () := by
  have huac1 : (formatTypeUac1 buf bLength).result m = .ok () := by
    simp [formatTypeUac1]
    intro
    split <;> simp [channelFormat, formatTypeII, invalidFormatType]
  have huac2 : (formatTypeUac2 buf bLength).result m = .ok () := by
    simp [formatTypeUac2]
    split <;> simp [subslotFormat, invalidFormatType]
  simp [formatType, huac1, huac2]

@[simp] theorem result_formatSpecific (bLength : Nat) :
    (formatSpecific buf bLength).result m = .ok () := by
  have hmpeg : (mpeg buf bLength).result m = .ok () := by
    simp [mpeg]
  have hac3 : (ac3 buf bLength).result m = .ok () := by
    simp [ac3]
  obtain ⟨name, hname⟩ := exists_formatTagName (m := m)
    ((m (buf + 3)).toNat ||| (m (buf + 3 + 1)).toNat <<< 8)
  simp [formatSpecific, hname]
  intro
  split <;> simp [hmpeg, hac3, invalidFormatType]

end AudioStreaming

@[simp] theorem result_dumpAudiostreamingInterface (protocol : Nat) :
    (dumpAudiostreamingInterface env buf protocol).result m = .ok () := by
  simp [dumpAudiostreamingInterface]
  intro
  split <;> simp

theorem dumpAudiostreamingInterface_printsLine (protocol : Nat) :
    PrintsLine (dumpAudiostreamingInterface env buf protocol) m :=
  .after (result_checkType ..) <| .after (Prog.result_byte ..) <|
    guardLength_printsLine fun _ => (interfaceHeading_printsLine (by decide) buf).left _

@[simp] theorem result_dumpAudiostreamingEndpoint (protocol : Nat) :
    (dumpAudiostreamingEndpoint env buf protocol).result m = .ok () := by
  simp [dumpAudiostreamingEndpoint]

theorem dumpAudiostreamingEndpoint_printsLine (protocol : Nat) :
    PrintsLine (dumpAudiostreamingEndpoint env buf protocol) m :=
  .after (result_checkType ..) <| .after (Prog.result_byte ..) <|
    guardLength_printsLine fun _ => (PrintsLine.of_print (by decide)).left _

@[simp] theorem result_dumpMidistreamingInterface :
    (dumpMidistreamingInterface env buf).result m = .ok () := by
  simp [dumpMidistreamingInterface]
  intro
  split <;> simp

theorem dumpMidistreamingInterface_printsLine :
    PrintsLine (dumpMidistreamingInterface env buf) m :=
  .after (result_checkType ..) <| .after (Prog.result_byte ..) <|
    guardLength_printsLine fun _ => (interfaceHeading_printsLine (by decide) buf).left _

@[simp] theorem result_dumpMidistreamingEndpoint :
    (dumpMidistreamingEndpoint env buf).result m = .ok () := by
  simp [dumpMidistreamingEndpoint]

theorem dumpMidistreamingEndpoint_printsLine :
    PrintsLine (dumpMidistreamingEndpoint env buf) m :=
  .after (result_checkType ..) <| .after (Prog.result_byte ..) <|
    guardLength_printsLine fun _ => (PrintsLine.of_print (by decide)).left _

end Returns

end Usbutils
