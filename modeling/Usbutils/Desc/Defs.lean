import Mathlib.Data.List.Basic

/-! The descriptor definition language of `desc-defs.h`. A definition is a list
of fields; the terminating entry with a null name is the end of the list. A
pointer to one of the definition arrays of `desc-defs.c` is its `DescId`. -/
namespace Usbutils

inductive DescId where
  | undefined
  | audio1AcHeader | audio2AcHeader | audio3AcHeader
  | audio2AcEffectUnit | audio3AcEffectUnit
  | audio1AcInputTerminal | audio2AcInputTerminal | audio3AcInputTerminal
  | audio1AcOutputTerminal | audio2AcOutputTerminal | audio3AcOutputTerminal
  | audio3AcExtendedTerminalHeader
  | audio3AcPowerDomain
  | audio1AcMixerUnit | audio2AcMixerUnit | audio3AcMixerUnit
  | audio1AcSelectorUnit | audio2AcSelectorUnit | audio3AcSelectorUnit
  | audio1AcProcUnitExtended
  | audio1AcProcessingUnit
  | audio2AcProcUnitUpDownMix | audio2AcProcUnitDolbyPrologic
  | audio2AcProcessingUnit
  | audio3AcProcUnitUpDownMix | audio3AcProcUnitStereoExtender
  | audio3AcProcUnitMultiFunction
  | audio3AcProcessingUnit
  | audio1AcFeatureUnit | audio2AcFeatureUnit | audio3AcFeatureUnit
  | audio1AcExtensionUnit | audio2AcExtensionUnit | audio3AcExtensionUnit
  | audio2AcClockSource | audio3AcClockSource
  | audio2AcClockSelector | audio3AcClockSelector
  | audio2AcClockMultiplier | audio3AcClockMultiplier
  | audio2AcSampleRateConverter | audio3AcSampleRateConverter
  | audio1AsInterface | audio2AsInterface | audio3AsInterface
  | audio1AsIsochronousAudioDataEndpoint | audio2AsIsochronousAudioDataEndpoint
  | audio3AsIsochronousAudioDataEndpoint
  | midiMsHeader | midiMsInJack | midiMsOutJack | midiMsElement | midiMsEndpointGeneral
  | usb3DcConfigurationSummary
  deriving DecidableEq, Repr

/-- A string table: `none` is a null pointer in it. -/
abbrev StringTable := List (Option String)

inductive Snowflake where
  | uac2ClkSrcBmattr
  | uac3ClkSrcBmattr
  | uac1AsInterfaceWformattag
  | uac2AsInterfaceBmformats
  | midiSourcePair
  deriving DecidableEq, Repr

/-- `enum desc_type` with the member of the anonymous union that each type uses. -/
inductive DescType where
  | constant
  | number
  | numberPostfix (text : String)
  | bitmap
  | bcd
  | bmcontrol1 (bmcontrol : StringTable)
  | bmcontrol2 (bmcontrol : StringTable)
  | strDescIndex
  | csStrDescId
  | terminalStr
  | bitmapStrings (strings : StringTable) (count : Nat)
  | numberStrings (numberStrings : StringTable)
  | extension (typeField : String) (d : List (Nat × DescId))
  | snowflake (snowflake : Snowflake)
  deriving DecidableEq, Repr

structure DescArray where
  array : Bool := false
  /-- The array length is specified in bits. -/
  bits : Bool := false
  lengthField1 : Option String := none
  lengthField2 : Option String := none
  deriving DecidableEq, Repr

structure Desc where
  field : String
  /-- Byte size of the field, unless `sizeField` names another. -/
  size : Nat := 0
  sizeField : Option String := none
  type : DescType
  array : DescArray := {}
  deriving DecidableEq, Repr

def DescType.isExtension : DescType → Bool
  | .extension _ _ => true
  | _ => false

/-- The other fields whose values this field's size, length or extension type refers to. -/
def Desc.refs (c : Desc) : List String :=
  c.sizeField.toList ++ c.array.lengthField1.toList ++ c.array.lengthField2.toList ++
    match c.type with
    | .extension typeField _ => [typeField]
    | _ => []

end Usbutils
