import Usbutils.Desc.Defs

/-! The definition arrays of `desc-defs.c`: Audio Control, Audio Streaming and
MIDI Streaming units for the three Audio Device Class protocols, and the USB 3
configuration summary. String tables keep their terminating null pointers. -/
namespace Usbutils

/-- No field at all: whatever data there is ends up as junk. -/
def descUndefined : List Desc := []

def uac1ChannelNames : StringTable := [
  some "Left Front (L)", some "Right Front (R)", some "Center Front (C)",
  some "Low Frequency Enhancement (LFE)", some "Left Surround (LS)",
  some "Right Surround (RS)", some "Left of Center (LC)", some "Right of Center (RC)",
  some "Surround (S)", some "Side Left (SL)", some "Side Right (SR)", some "Top (T)"]

def uac2ChannelNames : StringTable := [
  some "Front Left (FL)", some "Front Right (FR)", some "Front Center (FC)",
  some "Low Frequency Effects (LFE)", some "Back Left (BL)", some "Back Right (BR)",
  some "Front Left of Center (FLC)", some "Front Right of Center (FRC)",
  some "Back Center (BC)", some "Side Left (SL)", some "Side Right (SR)",
  some "Top Center (TC)", some "Top Front Left (TFL)", some "Top Front Center (TFC)",
  some "Top Front Right (TFR)", some "Top Back Left (TBL)", some "Top Back Center (TBC)",
  some "Top Back Right (TBR)", some "Top Front Left of Center (TFLC)",
  some "Top Front Right of Center (TFRC)", some "Left Low Frequency Effects (LLFE)",
  some "Right Low Frequency Effects (RLFE)", some "Top Side Left (TSL)",
  some "Top Side Right (TSR)", some "Bottom Center (BC)", some "Back Left of Center (BLC)",
  some "Back Right of Center (BRC)"]

def uac2InterfaceHeaderBmcontrols : StringTable := [
  some "Latency control", none]

def descAudio1AcHeader : List Desc := [
  { field := "bcdADC", size := 2, type := .bcd },
  { field := "wTotalLength", size := 2, type := .constant },
  { field := "bInCollection", size := 1, type := .constant },
  { field := "baInterfaceNr", size := 1, type := .number, array := { array := true } }]

def descAudio2AcHeader : List Desc := [
  { field := "bcdADC", size := 2, type := .bcd },
  { field := "bCategory", size := 1, type := .constant },
  { field := "wTotalLength", size := 2, type := .number },
  { field := "bmControls", size := 1, type := .bmcontrol2 uac2InterfaceHeaderBmcontrols }]

def descAudio3AcHeader : List Desc := [
  { field := "bCategory", size := 1, type := .constant },
  { field := "wTotalLength", size := 2, type := .number },
  { field := "bmControls", size := 4, type := .bmcontrol2 uac2InterfaceHeaderBmcontrols }]

def descAudio2AcEffectUnit : List Desc := [
  { field := "bUnitID", size := 1, type := .number },
  { field := "wEffectType", size := 2, type := .constant },
  { field := "bSourceID", size := 1, type := .constant },
  { field := "bmaControls", size := 4, type := .bitmap, array := { array := true } },
  { field := "iEffects", size := 1, type := .strDescIndex }]

def descAudio3AcEffectUnit : List Desc := [
  { field := "bUnitID", size := 1, type := .number },
  { field := "wEffectType", size := 2, type := .constant },
  { field := "bSourceID", size := 1, type := .constant },
  { field := "bmaControls", size := 4, type := .bitmap, array := { array := true } },
  { field := "wEffectsDescrStr", size := 2, type := .csStrDescId }]

def uac2InputTermBmcontrols : StringTable := [
  some "Copy Protect", some "Connector", some "Overload", some "Cluster", some "Underflow",
  some "Overflow", none]

def uac3InputTermBmcontrols : StringTable := [
  some "Insertion", some "Overload", some "Underflow", some "Overflow", some "Underflow", none]

def descAudio1AcInputTerminal : List Desc := [
  { field := "bTerminalID", size := 1, type := .number },
  { field := "wTerminalType", size := 2, type := .terminalStr },
  { field := "bAssocTerminal", size := 1, type := .constant },
  { field := "bNrChannels", size := 1, type := .number },
  { field := "wChannelConfig", size := 2, type := .bitmapStrings uac1ChannelNames 12 },
  { field := "iChannelNames", size := 1, type := .strDescIndex },
  { field := "iTerminal", size := 1, type := .strDescIndex }]

def descAudio2AcInputTerminal : List Desc := [
  { field := "bTerminalID", size := 1, type := .number },
  { field := "wTerminalType", size := 2, type := .terminalStr },
  { field := "bAssocTerminal", size := 1, type := .constant },
  { field := "bCSourceID", size := 1, type := .constant },
  { field := "bNrChannels", size := 1, type := .number },
  { field := "bmChannelConfig", size := 4, type := .bitmapStrings uac2ChannelNames 26 },
  { field := "iChannelNames", size := 1, type := .strDescIndex },
  { field := "bmControls", size := 2, type := .bmcontrol2 uac2InputTermBmcontrols },
  { field := "iTerminal", size := 1, type := .strDescIndex }]

def descAudio3AcInputTerminal : List Desc := [
  { field := "bTerminalID", size := 1, type := .number },
  { field := "wTerminalType", size := 2, type := .terminalStr },
  { field := "bAssocTerminal", size := 1, type := .number },
  { field := "bCSourceID", size := 1, type := .number },
  { field := "bmControls", size := 4, type := .bmcontrol2 uac3InputTermBmcontrols },
  { field := "wClusterDescrID", size := 2, type := .number },
  { field := "wExTerminalDescrID", size := 2, type := .number },
  { field := "wConnectorsDescrID", size := 2, type := .number },
  { field := "wTerminalDescrStr", size := 2, type := .csStrDescId }]

def uac2OutputTermBmcontrols : StringTable := [
  some "Copy Protect", some "Connector", some "Overload", some "Underflow", some "Overflow",
  none]

def uac3OutputTermBmcontrols : StringTable := [
  some "Insertion", some "Overload", some "Underflow", some "Overflow", none]

def descAudio1AcOutputTerminal : List Desc := [
  { field := "bTerminalID", size := 1, type := .number },
  { field := "wTerminalType", size := 2, type := .terminalStr },
  { field := "bAssocTerminal", size := 1, type := .number },
  { field := "bSourceID", size := 1, type := .number },
  { field := "iTerminal", size := 1, type := .strDescIndex }]

def descAudio2AcOutputTerminal : List Desc := [
  { field := "bTerminalID", size := 1, type := .number },
  { field := "wTerminalType", size := 2, type := .terminalStr },
  { field := "bAssocTerminal", size := 1, type := .number },
  { field := "bSourceID", size := 1, type := .number },
  { field := "bCSourceID", size := 1, type := .number },
  { field := "bmControls", size := 2, type := .bmcontrol2 uac2OutputTermBmcontrols },
  { field := "iTerminal", size := 1, type := .strDescIndex }]

def descAudio3AcOutputTerminal : List Desc := [
  { field := "bTerminalID", size := 1, type := .number },
  { field := "wTerminalType", size := 2, type := .terminalStr },
  { field := "bAssocTerminal", size := 1, type := .number },
  { field := "bSourceID", size := 1, type := .number },
  { field := "bCSourceID", size := 1, type := .number },
  { field := "bmControls", size := 4, type := .bmcontrol2 uac3OutputTermBmcontrols },
  { field := "wExTerminalDescrID", size := 2, type := .number },
  { field := "wConnectorsDescrID", size := 2, type := .number },
  { field := "wTerminalDescrStr", size := 2, type := .csStrDescId }]

def descAudio3AcExtendedTerminalHeader : List Desc := [
  { field := "wDescriptorID", size := 2, type := .number },
  { field := "bNrChannels", size := 1, type := .number }]

def descAudio3AcPowerDomain : List Desc := [
  { field := "bPowerDomainID", size := 1, type := .number },
  { field := "waRecoveryTime(1)", size := 2, type := .number },
  { field := "waRecoveryTime(2)", size := 2, type := .number },
  { field := "bNrEntities", size := 1, type := .number },
  { field := "baEntityID", size := 1, type := .number,
    array := { array := true, lengthField1 := some "bNrEntities" } },
  { field := "wPDomainDescrStr", size := 2, type := .csStrDescId }]

def uac2MixerUnitBmcontrols : StringTable := [
  some "Cluster", some "Underflow", some "Overflow", none]

def uac3MixerUnitBmcontrols : StringTable := [
  some "Underflow", some "Overflow", none]

def descAudio1AcMixerUnit : List Desc := [
  { field := "bUnitID", size := 1, type := .number },
  { field := "bNrInPins", size := 1, type := .number },
  { field := "baSourceID", size := 1, type := .number,
    array := { array := true, lengthField1 := some "bNrInPins" } },
  { field := "bNrChannels", size := 1, type := .number },
  { field := "wChannelConfig", size := 2, type := .bitmapStrings uac1ChannelNames 12 },
  { field := "iChannelNames", size := 1, type := .strDescIndex },
  { field := "bmControls", size := 1, type := .bitmap,
    array := { array := true, bits := true, lengthField1 := some "bNrInPins", lengthField2 := some "bNrChannels" } },
  { field := "iMixer", size := 1, type := .strDescIndex }]

def descAudio2AcMixerUnit : List Desc := [
  { field := "bUnitID", size := 1, type := .number },
  { field := "bNrInPins", size := 1, type := .number },
  { field := "baSourceID", size := 1, type := .number,
    array := { array := true, lengthField1 := some "bNrInPins" } },
  { field := "bNrChannels", size := 1, type := .number },
  { field := "bmChannelConfig", size := 4, type := .bitmapStrings uac2ChannelNames 26 },
  { field := "iChannelNames", size := 1, type := .strDescIndex },
  { field := "bmMixerControls", size := 1, type := .bitmap,
    array := { array := true, bits := true, lengthField1 := some "bNrInPins", lengthField2 := some "bNrChannels" } },
  { field := "bmControls", size := 1, type := .bmcontrol2 uac2MixerUnitBmcontrols },
  { field := "iMixer", size := 1, type := .strDescIndex }]

def descAudio3AcMixerUnit : List Desc := [
  { field := "bUnitID", size := 1, type := .number },
  { field := "bNrInPins", size := 1, type := .number },
  { field := "baSourceID", size := 1, type := .number,
    array := { array := true, lengthField1 := some "bNrInPins" } },
  { field := "wClusterDescrID", size := 2, type := .number },
  { field := "bmMixerControls", size := 1, type := .bitmap, array := { array := true } },
  { field := "bmControls", size := 4, type := .bmcontrol2 uac3MixerUnitBmcontrols },
  { field := "wMixerDescrStr", size := 2, type := .csStrDescId }]

def uac2SelectorUnitBmcontrols : StringTable := [
  some "Selector", none]

def descAudio1AcSelectorUnit : List Desc := [
  { field := "bUnitID", size := 1, type := .number },
  { field := "bNrInPins", size := 1, type := .number },
  { field := "baSourceID", size := 1, type := .number,
    array := { array := true, lengthField1 := some "bNrInPins" } },
  { field := "iSelector", size := 1, type := .strDescIndex }]

def descAudio2AcSelectorUnit : List Desc := [
  { field := "bUnitID", size := 1, type := .number },
  { field := "bNrInPins", size := 1, type := .number },
  { field := "baSourceID", size := 1, type := .number,
    array := { array := true, lengthField1 := some "bNrInPins" } },
  { field := "bmControls", size := 1, type := .bmcontrol2 uac2SelectorUnitBmcontrols },
  { field := "iSelector", size := 1, type := .strDescIndex }]

def descAudio3AcSelectorUnit : List Desc := [
  { field := "bUnitID", size := 1, type := .number },
  { field := "bNrInPins", size := 1, type := .number },
  { field := "baSourceID", size := 1, type := .number,
    array := { array := true, lengthField1 := some "bNrInPins" } },
  { field := "bmControls", size := 4, type := .bmcontrol2 uac2SelectorUnitBmcontrols },
  { field := "wSelectorDescrStr", size := 2, type := .csStrDescId }]

def uac1ProcUnitTypes : StringTable := [
  some "Undefined", some "Up/Down-mix", some "Dolby Prologic", some "3D Stereo Extender",
  some "Reverberation", some "Chorus", some "Dyn Range Comp", none]

def descAudio1AcProcUnitExtended : List Desc := [
  { field := "bNrModes", size := 1, type := .number },
  { field := "waModes", size := 2, type := .bitmap,
    array := { array := true, lengthField1 := some "bNrModes" } }]

def descAudio1AcProcUnitSpecific : List (Nat × DescId) := [
  (1, .audio1AcProcUnitExtended), (2, .audio1AcProcUnitExtended)]

def descAudio1AcProcessingUnit : List Desc := [
  { field := "bUnitID", size := 1, type := .number },
  { field := "wProcessType", size := 2, type := .numberStrings uac1ProcUnitTypes },
  { field := "bNrInPins", size := 1, type := .number },
  { field := "baSourceID", size := 1, type := .number,
    array := { array := true, lengthField1 := some "bNrInPins" } },
  { field := "bNrChannels", size := 1, type := .number },
  { field := "wChannelConfig", size := 2, type := .bitmapStrings uac1ChannelNames 12 },
  { field := "iChannelNames", size := 1, type := .strDescIndex },
  { field := "bControlSize", size := 1, type := .number },
  { field := "bmControls", size := 1, type := .bitmap,
    array := { array := true, lengthField1 := some "bControlSize" } },
  { field := "iProcessing", size := 1, type := .strDescIndex },
  { field := "Process-specific", size := 1, type := .extension "wProcessType" descAudio1AcProcUnitSpecific,
     }]

def descAudio2AcProcUnitUpDownMix : List Desc := [
  { field := "bNrModes", size := 1, type := .number },
  { field := "daModes", size := 4, type := .bitmap,
    array := { array := true, lengthField1 := some "bNrModes" } }]

def descAudio2AcProcUnitDolbyPrologic : List Desc := [
  { field := "bNrModes", size := 1, type := .number },
  { field := "daModes", size := 4, type := .bitmap,
    array := { array := true, lengthField1 := some "bNrModes" } }]

def descAudio2AcProcUnitSpecific : List (Nat × DescId) := [
  (1, .audio2AcProcUnitUpDownMix), (2, .audio2AcProcUnitDolbyPrologic)]

def uac2ProcUnitTypes : StringTable := [
  some "Undefined", some "Up/Down-mix", some "Dolby Prologic", some "Stereo Extender", none]

def descAudio2AcProcessingUnit : List Desc := [
  { field := "bUnitID", size := 1, type := .number },
  { field := "wProcessType", size := 2, type := .numberStrings uac2ProcUnitTypes },
  { field := "bNrInPins", size := 1, type := .number },
  { field := "baSourceID", size := 1, type := .number,
    array := { array := true, lengthField1 := some "bNrInPins" } },
  { field := "bNrChannels", size := 1, type := .number },
  { field := "bmChannelConfig", size := 4, type := .bitmapStrings uac2ChannelNames 26 },
  { field := "iChannelNames", size := 1, type := .strDescIndex },
  { field := "bmControls", size := 2, type := .bitmap },
  { field := "iProcessing", size := 1, type := .strDescIndex },
  { field := "Process-specific", size := 1, type := .extension "wProcessType" descAudio2AcProcUnitSpecific,
     }]

def uac3ProcUnitUpDownMixBmcontrols : StringTable := [
  some "Mode Select", some "Underflow", some "Overflow", none]

def descAudio3AcProcUnitUpDownMix : List Desc := [
  { field := "bmControls", size := 4, type := .bmcontrol2 uac3ProcUnitUpDownMixBmcontrols },
  { field := "bNrModes", size := 1, type := .number },
  { field := "waClusterDescrID", size := 2, type := .number,
    array := { array := true, lengthField1 := some "bNrModes" } }]

def uac3ProcUnitStereoExtenderBmcontrols : StringTable := [
  some "Width", some "Underflow", some "Overflow", none]

def descAudio3AcProcUnitStereoExtender : List Desc := [
  { field := "bmControls", size := 4, type := .bmcontrol2 uac3ProcUnitStereoExtenderBmcontrols }]

def uac3ProcUnitMultiFuncAlgorithms : StringTable := [
  some "Algorithm Undefined.", some "Beam Forming.", some "Acoustic Echo Cancellation.",
  some "Active Noise Cancellation.", some "Blind Source Separation.",
  some "Noise Suppression/Reduction.", none]

def uac3ProcUnitMultiFuncBmcontrols : StringTable := [
  some "Underflow", some "Overflow", none]

def descAudio3AcProcUnitMultiFunction : List Desc := [
  { field := "bmControls", size := 4, type := .bmcontrol2 uac3ProcUnitMultiFuncBmcontrols },
  { field := "wClusterDescrID", size := 2, type := .number },
  { field := "bmAlgorithms", size := 4, type := .bitmapStrings uac3ProcUnitMultiFuncAlgorithms 6,
     }]

def uac3ProcUnitTypes : StringTable := [
  some "Undefined", some "Up/Down-mix", some "Stereo Extender", some "Multi-Function", none]

def descAudio3AcProcUnitSpecific : List (Nat × DescId) := [
  (1, .audio3AcProcUnitUpDownMix), (2, .audio3AcProcUnitStereoExtender),
  (3, .audio3AcProcUnitMultiFunction)]

def descAudio3AcProcessingUnit : List Desc := [
  { field := "bUnitID", size := 1, type := .number },
  { field := "wProcessType", size := 2, type := .numberStrings uac3ProcUnitTypes },
  { field := "bNrInPins", size := 1, type := .number },
  { field := "baSourceID", size := 1, type := .number,
    array := { array := true, lengthField1 := some "bNrInPins" } },
  { field := "wProcessingDescrStr", size := 2, type := .csStrDescId },
  { field := "Process-specific", size := 1, type := .extension "wProcessType" descAudio3AcProcUnitSpecific,
     }]

def uacFeatureUnitBmcontrols : StringTable := [
  some "Mute", some "Volume", some "Bass", some "Mid", some "Treble", some "Graphic Equalizer",
  some "Automatic Gain", some "Delay", some "Bass Boost", some "Loudness", some "Input gain",
  some "Input gain pad", some "Phase inverter", none]

def descAudio1AcFeatureUnit : List Desc := [
  { field := "bUnitID", size := 1, type := .number },
  { field := "bSourceID", size := 1, type := .constant },
  { field := "bControlSize", size := 1, type := .number },
  { field := "bmaControls", sizeField := some "bControlSize", type := .bmcontrol1 uacFeatureUnitBmcontrols,
    array := { array := true } },
  { field := "iFeature", size := 1, type := .strDescIndex }]

def descAudio2AcFeatureUnit : List Desc := [
  { field := "bUnitID", size := 1, type := .number },
  { field := "bSourceID", size := 1, type := .constant },
  { field := "bmaControls", size := 4, type := .bmcontrol2 uacFeatureUnitBmcontrols,
    array := { array := true } },
  { field := "iFeature", size := 1, type := .strDescIndex }]

def descAudio3AcFeatureUnit : List Desc := [
  { field := "bUnitID", size := 1, type := .number },
  { field := "bSourceID", size := 1, type := .number },
  { field := "bmaControls", size := 4, type := .bmcontrol2 uacFeatureUnitBmcontrols,
    array := { array := true } },
  { field := "wFeatureDescrStr", size := 2, type := .csStrDescId }]

def uac2ExtensionUnitBmcontrols : StringTable := [
  some "Enable", some "Cluster", some "Underflow", some "Overflow", none]

def uac3ExtensionUnitBmcontrols : StringTable := [
  some "Underflow", some "Overflow", none]

def descAudio1AcExtensionUnit : List Desc := [
  { field := "bUnitID", size := 1, type := .number },
  { field := "wExtensionCode", size := 2, type := .constant },
  { field := "bNrInPins", size := 1, type := .number },
  { field := "baSourceID", size := 1, type := .number,
    array := { array := true, lengthField1 := some "bNrInPins" } },
  { field := "bNrChannels", size := 1, type := .number },
  { field := "wChannelConfig", size := 2, type := .bitmapStrings uac1ChannelNames 12 },
  { field := "iChannelNames", size := 1, type := .strDescIndex },
  { field := "bControlSize", size := 1, type := .number },
  { field := "bmControls", size := 1, type := .bitmap,
    array := { array := true, lengthField1 := some "bControlSize" } },
  { field := "iExtension", size := 1, type := .strDescIndex }]

def descAudio2AcExtensionUnit : List Desc := [
  { field := "bUnitID", size := 1, type := .number },
  { field := "wExtensionCode", size := 2, type := .constant },
  { field := "bNrInPins", size := 1, type := .number },
  { field := "baSourceID", size := 1, type := .number,
    array := { array := true, lengthField1 := some "bNrInPins" } },
  { field := "bNrChannels", size := 1, type := .number },
  { field := "bmChannelConfig", size := 4, type := .bitmapStrings uac2ChannelNames 26 },
  { field := "iChannelNames", size := 1, type := .strDescIndex },
  { field := "bmControls", size := 1, type := .bmcontrol2 uac2ExtensionUnitBmcontrols },
  { field := "iExtension", size := 1, type := .strDescIndex }]

def descAudio3AcExtensionUnit : List Desc := [
  { field := "bUnitID", size := 1, type := .number },
  { field := "wExtensionCode", size := 2, type := .constant },
  { field := "bNrInPins", size := 1, type := .number },
  { field := "baSourceID", size := 1, type := .number,
    array := { array := true, lengthField1 := some "bNrInPins" } },
  { field := "wExtensionDescrStr", size := 2, type := .csStrDescId },
  { field := "bmControls", size := 4, type := .bmcontrol2 uac3ExtensionUnitBmcontrols },
  { field := "wClusterDescrID", size := 2, type := .number }]

def uac2ClockSourceBmcontrols : StringTable := [
  some "Clock Frequency", some "Clock Validity", none]

def uac2ClkSrcBmattr : StringTable := [
  some "External", some "Internal fixed", some "Internal variable",
  some "Internal programmable"]

def uac3ClkSrcBmattr : StringTable := [
  some "External", some "Internal", some "(asynchronous)", some "(synchronized to SOF)"]

def descAudio2AcClockSource : List Desc := [
  { field := "bClockID", size := 1, type := .constant },
  { field := "bmAttributes", size := 1, type := .snowflake .uac2ClkSrcBmattr },
  { field := "bmControls", size := 1, type := .bmcontrol2 uac2ClockSourceBmcontrols },
  { field := "bAssocTerminal", size := 1, type := .constant },
  { field := "iClockSource", size := 1, type := .strDescIndex }]

def descAudio3AcClockSource : List Desc := [
  { field := "bClockID", size := 1, type := .number },
  { field := "bmAttributes", size := 1, type := .snowflake .uac3ClkSrcBmattr },
  { field := "bmControls", size := 4, type := .bmcontrol2 uac2ClockSourceBmcontrols },
  { field := "bReferenceTerminal", size := 1, type := .number },
  { field := "wClockSourceStr", size := 2, type := .csStrDescId }]

def uac2ClockSelectorBmcontrols : StringTable := [
  some "Clock Selector", none]

def descAudio2AcClockSelector : List Desc := [
  { field := "bClockID", size := 1, type := .number },
  { field := "bNrInPins", size := 1, type := .number },
  { field := "baCSourceID", size := 1, type := .number,
    array := { array := true, lengthField1 := some "bNrInPins" } },
  { field := "bmControls", size := 1, type := .bmcontrol2 uac2ClockSelectorBmcontrols },
  { field := "iClockSelector", size := 1, type := .strDescIndex }]

def descAudio3AcClockSelector : List Desc := [
  { field := "bClockID", size := 1, type := .number },
  { field := "bNrInPins", size := 1, type := .number },
  { field := "baCSourceID", size := 1, type := .number,
    array := { array := true, lengthField1 := some "bNrInPins" } },
  { field := "bmControls", size := 4, type := .bmcontrol2 uac2ClockSelectorBmcontrols },
  { field := "wCSelectorDescrStr", size := 2, type := .csStrDescId }]

def uac2ClockMultiplierBmcontrols : StringTable := [
  some "Clock Numerator", some "Clock Denominator", none]

def descAudio2AcClockMultiplier : List Desc := [
  { field := "bClockID", size := 1, type := .constant },
  { field := "bCSourceID", size := 1, type := .number },
  { field := "bmControls", size := 1, type := .bmcontrol2 uac2ClockMultiplierBmcontrols },
  { field := "iClockMultiplier", size := 1, type := .strDescIndex }]

def descAudio3AcClockMultiplier : List Desc := [
  { field := "bClockID", size := 1, type := .number },
  { field := "bCSourceID", size := 1, type := .number },
  { field := "bmControls", size := 4, type := .bmcontrol2 uac2ClockMultiplierBmcontrols },
  { field := "wCMultiplierDescrStr", size := 2, type := .csStrDescId }]

def descAudio2AcSampleRateConverter : List Desc := [
  { field := "bUnitID", size := 1, type := .constant },
  { field := "bSourceID", size := 1, type := .constant },
  { field := "bCSourceInID", size := 1, type := .constant },
  { field := "bCSourceOutID", size := 1, type := .constant },
  { field := "iSRC", size := 1, type := .strDescIndex }]

def descAudio3AcSampleRateConverter : List Desc := [
  { field := "bUnitID", size := 1, type := .number },
  { field := "bSourceID", size := 1, type := .number },
  { field := "bCSourceInID", size := 1, type := .number },
  { field := "bCSourceOutID", size := 1, type := .number },
  { field := "wSRCDescrStr", size := 2, type := .csStrDescId }]

def uac2AsInterfaceBmcontrols : StringTable := [
  some "Active Alternate Setting", some "Valid Alternate Setting", none]

def uac3AsInterfaceBmcontrols : StringTable := [
  some "Active Alternate Setting", some "Valid Alternate Setting",
  some "Audio Data Format Control", none]

def audioDataFormatTypeI : StringTable := [
  some "TYPE_I_UNDEFINED", some "PCM", some "PCM8", some "IEEE_FLOAT", some "ALAW",
  some "MULAW"]

def audioDataFormatTypeIi : StringTable := [
  some "TYPE_II_UNDEFINED", some "MPEG", some "AC-3"]

def audioDataFormatTypeIii : StringTable := [
  some "TYPE_III_UNDEFINED", some "IEC1937_AC-3", some "IEC1937_MPEG-1_Layer1",
  some "IEC1937_MPEG-Layer2/3/NOEXT", some "IEC1937_MPEG-2_EXT",
  some "IEC1937_MPEG-2_Layer1_LS", some "IEC1937_MPEG-2_Layer2/3_LS"]

def descAudio1AsInterface : List Desc := [
  { field := "bTerminalLink", size := 1, type := .constant },
  { field := "bDelay", size := 1, type := .numberPostfix " frames" },
  { field := "wFormatTag", size := 2, type := .snowflake .uac1AsInterfaceWformattag }]

def descAudio2AsInterface : List Desc := [
  { field := "bTerminalLink", size := 1, type := .number },
  { field := "bmControls", size := 1, type := .bmcontrol2 uac2AsInterfaceBmcontrols },
  { field := "bFormatType", size := 1, type := .constant },
  { field := "bmFormats", size := 4, type := .snowflake .uac2AsInterfaceBmformats },
  { field := "bNrChannels", size := 1, type := .number },
  { field := "bmChannelConfig", size := 4, type := .bitmapStrings uac2ChannelNames 26 },
  { field := "iChannelNames", size := 1, type := .strDescIndex }]

def descAudio3AsInterface : List Desc := [
  { field := "bTerminalLink", size := 1, type := .number },
  { field := "bmControls", size := 4, type := .bmcontrol2 uac3AsInterfaceBmcontrols },
  { field := "wClusterDescrID", size := 2, type := .number },
  { field := "bmFormats", size := 8, type := .bitmap },
  { field := "bSubslotSize", size := 1, type := .number },
  { field := "bBitResolution", size := 1, type := .number },
  { field := "bmAuxProtocols", size := 2, type := .bitmap },
  { field := "bControlSize", size := 1, type := .number }]

def uac1AsEndpointBmattributes : StringTable := [
  some "Sampling Frequency", some "Pitch", some "Audio Data Format Control", none, none, none,
  none, some "MaxPacketsOnly"]

def uac2AsEndpointBmattributes : StringTable := [
  none, none, none, none, none, none, none, some "MaxPacketsOnly"]

def uac2AsIsochronousAudioDataEndpointBmcontrols : StringTable := [
  some "Pitch", some "Data Overrun", some "Data Underrun", none]

def uacAsIsochronousAudioDataEndpointBlockdelayunits : StringTable := [
  some "Undefined", some "Milliseconds", some "Decoded PCM samples", none]

def descAudio1AsIsochronousAudioDataEndpoint : List Desc := [
  { field := "bmAttributes", size := 1, type := .bitmapStrings uac1AsEndpointBmattributes 8 },
  { field := "bLockDelayUnits", size := 1, type := .numberStrings uacAsIsochronousAudioDataEndpointBlockdelayunits,
     },
  { field := "wLockDelay", size := 2, type := .number }]

def descAudio2AsIsochronousAudioDataEndpoint : List Desc := [
  { field := "bmAttributes", size := 1, type := .bitmapStrings uac2AsEndpointBmattributes 8 },
  { field := "bmControls", size := 1, type := .bmcontrol2 uac2AsIsochronousAudioDataEndpointBmcontrols,
     },
  { field := "bLockDelayUnits", size := 1, type := .numberStrings uacAsIsochronousAudioDataEndpointBlockdelayunits,
     },
  { field := "wLockDelay", size := 2, type := .number }]

def descAudio3AsIsochronousAudioDataEndpoint : List Desc := [
  { field := "bmControls", size := 4, type := .bmcontrol2 uac2AsIsochronousAudioDataEndpointBmcontrols,
     },
  { field := "bLockDelayUnits", size := 1, type := .numberStrings uacAsIsochronousAudioDataEndpointBlockdelayunits,
     },
  { field := "wLockDelay", size := 2, type := .number }]

def midiJackTypes : StringTable := [
  some "Undefined", some "Embedded", some "External", none]

def midiElementCaps : StringTable := [
  some "Undefined", some "MIDI Clock", some "MTC (MIDI Time Code)",
  some "MMC (MIDI Machine Control)", some "GM1 (General MIDI v.1)",
  some "GM2 (General MIDI v.2)", some "GS MIDI Extension", some "XG MIDI Extension",
  some "EFX", some "MIDI Patch Bay", some "DLS1 (Downloadable Sounds Level 1)",
  some "DLS2 (Downloadable Sounds Level 2)"]

def descMidiMsHeader : List Desc := [
  { field := "bcdMSC", size := 2, type := .bcd },
  { field := "wTotalLength", size := 2, type := .constant }]

def descMidiMsInJack : List Desc := [
  { field := "bJackType", size := 1, type := .numberStrings midiJackTypes },
  { field := "bJackID", size := 1, type := .number },
  { field := "iJack", size := 1, type := .strDescIndex }]

def descMidiMsOutJack : List Desc := [
  { field := "bJackType", size := 1, type := .numberStrings midiJackTypes },
  { field := "bJackID", size := 1, type := .number },
  { field := "bNrInputPins", size := 1, type := .number },
  { field := "baSource", size := 2, type := .snowflake .midiSourcePair,
    array := { array := true, lengthField1 := some "bNrInputPins" } },
  { field := "iJack", size := 1, type := .strDescIndex }]

def descMidiMsElement : List Desc := [
  { field := "bElementID", size := 1, type := .number },
  { field := "bNrInputPins", size := 1, type := .number },
  { field := "baSource", size := 2, type := .snowflake .midiSourcePair,
    array := { array := true, lengthField1 := some "bNrInputPins" } },
  { field := "bNrOutputPins", size := 1, type := .number },
  { field := "bInTerminalLink", size := 1, type := .number },
  { field := "bOutTerminalLink", size := 1, type := .number },
  { field := "bElCapsSize", size := 1, type := .number },
  { field := "bmElementCaps", sizeField := some "bElCapsSize", type := .bitmapStrings midiElementCaps 12,
     },
  { field := "iElement", size := 1, type := .strDescIndex }]

def descMidiMsEndpointGeneral : List Desc := [
  { field := "bNumEmbMIDIJack", size := 1, type := .number },
  { field := "baAssocJackID", size := 1, type := .number,
    array := { array := true, lengthField1 := some "bNumEmbMIDIJack" } }]

def descUsb3DcConfigurationSummary : List Desc := [
  { field := "bLength", size := 1, type := .number },
  { field := "bDescriptorType", size := 1, type := .constant },
  { field := "bDevCapabilityType", size := 1, type := .number },
  { field := "bcdVersion", size := 2, type := .bcd },
  { field := "bClass", size := 1, type := .number },
  { field := "bSubClass", size := 1, type := .number },
  { field := "bProtocol", size := 1, type := .number },
  { field := "bConfigurationCount", size := 1, type := .number },
  { field := "bConfigurationIndex", size := 1, type := .number,
    array := { array := true, lengthField1 := some "bConfigurationCount" } }]

def DescId.fields : DescId → List Desc
  | .undefined => descUndefined
  | .audio1AcHeader => descAudio1AcHeader
  | .audio2AcHeader => descAudio2AcHeader
  | .audio3AcHeader => descAudio3AcHeader
  | .audio2AcEffectUnit => descAudio2AcEffectUnit
  | .audio3AcEffectUnit => descAudio3AcEffectUnit
  | .audio1AcInputTerminal => descAudio1AcInputTerminal
  | .audio2AcInputTerminal => descAudio2AcInputTerminal
  | .audio3AcInputTerminal => descAudio3AcInputTerminal
  | .audio1AcOutputTerminal => descAudio1AcOutputTerminal
  | .audio2AcOutputTerminal => descAudio2AcOutputTerminal
  | .audio3AcOutputTerminal => descAudio3AcOutputTerminal
  | .audio3AcExtendedTerminalHeader => descAudio3AcExtendedTerminalHeader
  | .audio3AcPowerDomain => descAudio3AcPowerDomain
  | .audio1AcMixerUnit => descAudio1AcMixerUnit
  | .audio2AcMixerUnit => descAudio2AcMixerUnit
  | .audio3AcMixerUnit => descAudio3AcMixerUnit
  | .audio1AcSelectorUnit => descAudio1AcSelectorUnit
  | .audio2AcSelectorUnit => descAudio2AcSelectorUnit
  | .audio3AcSelectorUnit => descAudio3AcSelectorUnit
  | .audio1AcProcUnitExtended => descAudio1AcProcUnitExtended
  | .audio1AcProcessingUnit => descAudio1AcProcessingUnit
  | .audio2AcProcUnitUpDownMix => descAudio2AcProcUnitUpDownMix
  | .audio2AcProcUnitDolbyPrologic => descAudio2AcProcUnitDolbyPrologic
  | .audio2AcProcessingUnit => descAudio2AcProcessingUnit
  | .audio3AcProcUnitUpDownMix => descAudio3AcProcUnitUpDownMix
  | .audio3AcProcUnitStereoExtender => descAudio3AcProcUnitStereoExtender
  | .audio3AcProcUnitMultiFunction => descAudio3AcProcUnitMultiFunction
  | .audio3AcProcessingUnit => descAudio3AcProcessingUnit
  | .audio1AcFeatureUnit => descAudio1AcFeatureUnit
  | .audio2AcFeatureUnit => descAudio2AcFeatureUnit
  | .audio3AcFeatureUnit => descAudio3AcFeatureUnit
  | .audio1AcExtensionUnit => descAudio1AcExtensionUnit
  | .audio2AcExtensionUnit => descAudio2AcExtensionUnit
  | .audio3AcExtensionUnit => descAudio3AcExtensionUnit
  | .audio2AcClockSource => descAudio2AcClockSource
  | .audio3AcClockSource => descAudio3AcClockSource
  | .audio2AcClockSelector => descAudio2AcClockSelector
  | .audio3AcClockSelector => descAudio3AcClockSelector
  | .audio2AcClockMultiplier => descAudio2AcClockMultiplier
  | .audio3AcClockMultiplier => descAudio3AcClockMultiplier
  | .audio2AcSampleRateConverter => descAudio2AcSampleRateConverter
  | .audio3AcSampleRateConverter => descAudio3AcSampleRateConverter
  | .audio1AsInterface => descAudio1AsInterface
  | .audio2AsInterface => descAudio2AsInterface
  | .audio3AsInterface => descAudio3AsInterface
  | .audio1AsIsochronousAudioDataEndpoint => descAudio1AsIsochronousAudioDataEndpoint
  | .audio2AsIsochronousAudioDataEndpoint => descAudio2AsIsochronousAudioDataEndpoint
  | .audio3AsIsochronousAudioDataEndpoint => descAudio3AsIsochronousAudioDataEndpoint
  | .midiMsHeader => descMidiMsHeader
  | .midiMsInJack => descMidiMsInJack
  | .midiMsOutJack => descMidiMsOutJack
  | .midiMsElement => descMidiMsElement
  | .midiMsEndpointGeneral => descMidiMsEndpointGeneral
  | .usb3DcConfigurationSummary => descUsb3DcConfigurationSummary

def descAudioAcHeader : List (Option DescId) :=
  [some .audio1AcHeader, some .audio2AcHeader, some .audio3AcHeader]

def descAudioAcEffectUnit : List (Option DescId) :=
  [none, some .audio2AcEffectUnit, some .audio3AcEffectUnit]

def descAudioAcInputTerminal : List (Option DescId) :=
  [some .audio1AcInputTerminal, some .audio2AcInputTerminal, some .audio3AcInputTerminal]

def descAudioAcOutputTerminal : List (Option DescId) :=
  [some .audio1AcOutputTerminal, some .audio2AcOutputTerminal, some .audio3AcOutputTerminal]

def descAudioAcExtendedTerminal : List (Option DescId) :=
  [none, none, some .audio3AcExtendedTerminalHeader]

def descAudioAcPowerDomain : List (Option DescId) :=
  [none, none, some .audio3AcPowerDomain]

def descAudioAcMixerUnit : List (Option DescId) :=
  [some .audio1AcMixerUnit, some .audio2AcMixerUnit, some .audio3AcMixerUnit]

def descAudioAcSelectorUnit : List (Option DescId) :=
  [some .audio1AcSelectorUnit, some .audio2AcSelectorUnit, some .audio3AcSelectorUnit]

def descAudioAcProcessingUnit : List (Option DescId) :=
  [some .audio1AcProcessingUnit, some .audio2AcProcessingUnit, some .audio3AcProcessingUnit]

def descAudioAcFeatureUnit : List (Option DescId) :=
  [some .audio1AcFeatureUnit, some .audio2AcFeatureUnit, some .audio3AcFeatureUnit]

def descAudioAcExtensionUnit : List (Option DescId) :=
  [some .audio1AcExtensionUnit, some .audio2AcExtensionUnit, some .audio3AcExtensionUnit]

def descAudioAcClockSource : List (Option DescId) :=
  [none, some .audio2AcClockSource, some .audio3AcClockSource]

def descAudioAcClockSelector : List (Option DescId) :=
  [none, some .audio2AcClockSelector, some .audio3AcClockSelector]

def descAudioAcClockMultiplier : List (Option DescId) :=
  [none, some .audio2AcClockMultiplier, some .audio3AcClockMultiplier]

def descAudioAcSampleRateConverter : List (Option DescId) :=
  [none, some .audio2AcSampleRateConverter, some .audio3AcSampleRateConverter]

def descAudioAsInterface : List (Option DescId) :=
  [some .audio1AsInterface, some .audio2AsInterface, some .audio3AsInterface]

def descAudioAsIsochronousAudioDataEndpoint : List (Option DescId) :=
  [some .audio1AsIsochronousAudioDataEndpoint,
   some .audio2AsIsochronousAudioDataEndpoint,
   some .audio3AsIsochronousAudioDataEndpoint]

end Usbutils
