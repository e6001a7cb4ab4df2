import Usbutils.Lsusb.Walk
import Usbutils.Lsusb.Audio
import Usbutils.Lsusb.VideoControl
import Usbutils.Lsusb.VideoStreaming
import Usbutils.Lsusb.Comm
import Usbutils.Lsusb.Hid
import Usbutils.Lsusb.ClassDevices
import Usbutils.Lsusb.Standard

/-! How `dump_config`, `dump_altsetting` and `dump_endpoint` choose a decoder for a
descriptor among their extra bytes. -/
namespace Usbutils
open ByteProg

def usbDtOtg : Nat := 0x09
def usbDtInterfaceAssociation : Nat := 0x0b
def usbDtSecurity : Nat := 0x0c
def usbDtEncryptionType : Nat := 0x0e
def usbDtSsEndpointComp : Nat := 0x30

/-- A title and the bytes of the descriptor; often a misplaced class descriptor. -/
def dumpRaw (title : String) (buf : Nat) : Dump Unit := do
  print title []
  dumpBytes buf (← Prog.byte buf)

def configDecoder (env : Env) : Decoder := fun buf bDescriptorType =>
  if bDescriptorType = usbDtOtg then none
  else if bDescriptorType = usbDtInterfaceAssociation then some (dumpAssociation env buf)
  else if bDescriptorType = usbDtSecurity then some (dumpSecurity buf)
  else if bDescriptorType = usbDtEncryptionType then some (dumpEncryptionType buf)
  else some (dumpRaw "    ** UNRECOGNIZED: " buf)

section Altsetting

variable (env : Env) (interface : InterfaceDescriptor) (buf : Nat)

def unrecognized : Dump Unit := dumpRaw "      ** UNRECOGNIZED: " buf

def audioInterface : Dump Unit :=
  match interface.bInterfaceSubClass with
  | 1 => dumpAudiocontrolInterface env buf interface.bInterfaceProtocol
  | 2 => dumpAudiostreamingInterface env buf interface.bInterfaceProtocol
  | 3 => dumpMidistreamingInterface env buf
  | _ => unrecognized buf

def videoInterface : Dump Unit :=
  match interface.bInterfaceSubClass with
  | 1 => dumpVideocontrolInterface env buf interface.bInterfaceProtocol
  | 2 => dumpVideostreamingInterface buf
  | _ => unrecognized buf

def taggedInterface : Dump Unit :=
  if interface.bInterfaceClass = libusbClassAudio then audioInterface env interface buf
  else if interface.bInterfaceClass = libusbClassComm then dumpCommDescriptor env buf "      "
  else if interface.bInterfaceClass = usbClassVideo then videoInterface env interface buf
  else if interface.bInterfaceClass = usbClassApplication then
    if interface.bInterfaceSubClass = 1 then dumpDfuInterface buf else unrecognized buf
  else if interface.bInterfaceClass = libusbClassHid then dumpHidDevice env interface buf
  else if interface.bInterfaceClass = libusbClassPrinter then dumpPrinterDevice env interface buf
  else if interface.bInterfaceClass = usbClassCcid then dumpCcidDevice buf
  else unrecognized buf

def wirelessInterface : Dump Unit :=
  match interface.bInterfaceSubClass with
  | 1 => if interface.bInterfaceProtocol = 2 then dumpRcInterface buf else unrecognized buf
  | 2 => dumpWireAdapter buf
  | _ => unrecognized buf

/-- A misplaced endpoint descriptor of an audio interface. -/
def misplacedAudio (bDescriptorType : Nat) : Dump Unit :=
  if bDescriptorType = usbDtCsEndpoint then
    if interface.bInterfaceSubClass = 2 then
      dumpAudiostreamingEndpoint env buf interface.bInterfaceProtocol
    else unrecognized buf
  else unrecognized buf

end Altsetting

def altsettingDecoder (env : Env) (interface : InterfaceDescriptor) : Decoder :=
  fun buf bDescriptorType =>
    if bDescriptorType = usbDtCsDevice ∨ bDescriptorType = usbDtCsInterface then
      some (taggedInterface env interface buf)
    -- each of these classes takes every other type, the OTG type too
    else if interface.bInterfaceClass = libusbClassHid then some (dumpHidDevice env interface buf)
    else if interface.bInterfaceClass = usbClassCcid then some (dumpCcidDevice buf)
    else if interface.bInterfaceClass = 0xe0 then some (wirelessInterface interface buf)
    else if interface.bInterfaceClass = libusbClassAudio then
      some (misplacedAudio env interface buf bDescriptorType)
    else if bDescriptorType = usbDtOtg then none
    else if bDescriptorType = usbDtInterfaceAssociation then some (dumpAssociation env buf)
    else some (unrecognized buf)

section Endpoint

variable (env : Env) (interface : InterfaceDescriptor) (buf : Nat)

/-- The `USB_DT_CS_ENDPOINT` case; other interfaces have nothing printed. -/
def taggedEndpoint : Dump Unit :=
  if interface.bInterfaceClass = 1 ∧ interface.bInterfaceSubClass = 2 then
    dumpAudiostreamingEndpoint env buf interface.bInterfaceProtocol
  else if interface.bInterfaceClass = 1 ∧ interface.bInterfaceSubClass = 3 then
    dumpMidistreamingEndpoint env buf
  else if interface.bInterfaceClass = 14 ∧ interface.bInterfaceSubClass = 1 then
    dumpVideocontrolInterruptEndpoint buf
  else pure ()

def misplacedInterface : Dump Unit :=
  if interface.bInterfaceClass = libusbClassComm ∨ interface.bInterfaceClass = libusbClassData then
    dumpCommDescriptor env buf "      "
  else if interface.bInterfaceClass = libusbClassMassStorage then dumpPipeDesc buf
  else dumpRaw "        INTERFACE CLASS: " buf

def misplacedDevice : Dump Unit :=
  if interface.bInterfaceClass = usbClassCcid then dumpCcidDevice buf
  else dumpRaw "        DEVICE CLASS: " buf

end Endpoint

def endpointDecoder (env : Env) (interface : InterfaceDescriptor) (endpoint : EndpointDescriptor) :
    Decoder := fun buf bDescriptorType =>
  if bDescriptorType = usbDtCsEndpoint then some (taggedEndpoint env interface buf)
  else if bDescriptorType = usbDtCsInterface then some (misplacedInterface env interface buf)
  else if bDescriptorType = usbDtCsDevice then some (misplacedDevice interface buf)
  else if bDescriptorType = usbDtOtg then none
  else if bDescriptorType = usbDtInterfaceAssociation then some (dumpAssociation env buf)
  else if bDescriptorType = usbDtSsEndpointComp then some (dumpSsEndpointComp endpoint buf)
  else some (dumpRaw "        ** UNRECOGNIZED: " buf)

variable {env : Env} {interface : InterfaceDescriptor} {endpoint : EndpointDescriptor} {m : Memory}
  {buf bDescriptorType : Nat} {dump : Dump Unit}

def IsVideoStreaming (interface : InterfaceDescriptor) (bDescriptorType : Nat) : Prop :=
  (bDescriptorType = usbDtCsDevice ∨ bDescriptorType = usbDtCsInterface) ∧
    interface.bInterfaceClass = usbClassVideo ∧ interface.bInterfaceSubClass = 2

theorem dumpRaw_within (title : String) (h : 2 ≤ (m buf).toNat) :
    Prog.All (Within buf (buf + (m buf).toNat)) (dumpRaw title buf) m := by
  simp [dumpRaw, dumpBytes_whole]
  omega

@[simp] theorem result_dumpRaw (title : String) : (dumpRaw title buf).result m = .ok () := by
  simp [dumpRaw]

theorem dumpRaw_printsLine (title : String) : PrintsLine (dumpRaw title buf) m :=
  .after (result_print ..) <| .after (Prog.result_byte ..) (dumpBytes_printsLine ..)

theorem configDecoder_within (h : 2 ≤ (m buf).toNat)
    (hdump : configDecoder env buf bDescriptorType = some dump) :
    Prog.All (Within buf (buf + (m buf).toNat)) dump m := by
  unfold configDecoder at hdump
  split_ifs at hdump <;> cases hdump
  · exact dumpAssociation_within (by omega)
  · exact dumpSecurity_within (by omega)
  · exact dumpEncryptionType_within (by omega)
  · exact dumpRaw_within _ h

theorem audioInterface_within (h : 2 ≤ (m buf).toNat) :
    Prog.All (Within buf (buf + (m buf).toNat)) (audioInterface env interface buf) m := by
  unfold audioInterface
  split
  · exact dumpAudiocontrolInterface_within _ h
  · exact dumpAudiostreamingInterface_within _ h
  · exact dumpMidistreamingInterface_within h
  · exact dumpRaw_within _ h

theorem videoInterface_within (h : 2 ≤ (m buf).toNat)
    (hsub : interface.bInterfaceSubClass ≠ 2) :
    Prog.All (Within buf (buf + (m buf).toNat)) (videoInterface env interface buf) m := by
  unfold videoInterface
  split
  · exact dumpVideocontrolInterface_within _ h
  · next hvideo => exact absurd hvideo hsub
  · exact dumpRaw_within _ h

theorem taggedInterface_within (h : 2 ≤ (m buf).toNat)
    (hvideo : ¬(interface.bInterfaceClass = usbClassVideo ∧ interface.bInterfaceSubClass = 2)) :
    Prog.All (Within buf (buf + (m buf).toNat)) (taggedInterface env interface buf) m := by
  unfold taggedInterface
  split_ifs with haudio hcomm hclass
  · exact audioInterface_within h
  · exact dumpCommDescriptor_within (by omega)
  · exact videoInterface_within h fun hsub => hvideo ⟨hclass, hsub⟩
  · exact dumpDfuInterface_within h
  · exact dumpRaw_within _ h
  · exact dumpHidDevice_within h
  · exact dumpPrinterDevice_within (by omega)
  · exact dumpCcidDevice_within (by omega)
  · exact dumpRaw_within _ h

theorem wirelessInterface_within (h : 2 ≤ (m buf).toNat) :
    Prog.All (Within buf (buf + (m buf).toNat)) (wirelessInterface interface buf) m := by
  unfold wirelessInterface
  split
  · split_ifs
    · exact dumpRcInterface_within (by omega)
    · exact dumpRaw_within _ h
  · exact dumpWireAdapter_within (by omega)
  · exact dumpRaw_within _ h

theorem misplacedAudio_within (h : 2 ≤ (m buf).toNat) :
    Prog.All (Within buf (buf + (m buf).toNat))
      (misplacedAudio env interface buf bDescriptorType) m := by
  unfold misplacedAudio
  split_ifs
  · exact dumpAudiostreamingEndpoint_within _ h
  · exact dumpRaw_within _ h
  · exact dumpRaw_within _ h

theorem altsettingDecoder_within (h : 2 ≤ (m buf).toNat)
    (hvideo : ¬IsVideoStreaming interface bDescriptorType)
    (hdump : altsettingDecoder env interface buf bDescriptorType = some dump) :
    Prog.All (Within buf (buf + (m buf).toNat)) dump m := by
  unfold altsettingDecoder at hdump
  split_ifs at hdump with htagged <;> cases hdump
  · exact taggedInterface_within h fun hstreaming => hvideo ⟨htagged, hstreaming⟩
  · exact dumpHidDevice_within h
  · exact dumpCcidDevice_within (by omega)
  · exact wirelessInterface_within h
  · exact misplacedAudio_within h
  · exact dumpAssociation_within (by omega)
  · exact dumpRaw_within _ h

theorem taggedEndpoint_within (h : 2 ≤ (m buf).toNat) :
    Prog.All (Within buf (buf + (m buf).toNat)) (taggedEndpoint env interface buf) m := by
  unfold taggedEndpoint
  split_ifs
  · exact dumpAudiostreamingEndpoint_within _ h
  · exact dumpMidistreamingEndpoint_within h
  · exact dumpVideocontrolInterruptEndpoint_within h
  · simp

theorem endpointDecoder_within (h : 2 ≤ (m buf).toNat)
    (hdump : endpointDecoder env interface endpoint buf bDescriptorType = some dump) :
    Prog.All (Within buf (buf + (m buf).toNat)) dump m := by
  unfold endpointDecoder at hdump
  split_ifs at hdump <;> cases hdump
  · exact taggedEndpoint_within h
  · unfold misplacedInterface
    split_ifs
    · exact dumpCommDescriptor_within (by omega)
    · exact dumpPipeDesc_within h
    · exact dumpRaw_within _ h
  · unfold misplacedDevice
    split_ifs
    · exact dumpCcidDevice_within (by omega)
    · exact dumpRaw_within _ h
  · exact dumpAssociation_within (by omega)
  · exact dumpSsEndpointComp_within (by omega)
  · exact dumpRaw_within _ h

theorem configDecoder_returns : (configDecoder env).Returns m := by
  intro buf bDescriptorType dump hdump
  unfold configDecoder at hdump
  split_ifs at hdump <;> cases hdump <;> simp

theorem altsettingDecoder_returns : (altsettingDecoder env interface).Returns m := by
  intro buf bDescriptorType dump hdump
  have hraw : (unrecognized buf).result m = .ok () := result_dumpRaw _
  have haudio : (audioInterface env interface buf).result m = .ok () := by
    unfold audioInterface
    split <;> simp [hraw]
  have hvideo : (videoInterface env interface buf).result m = .ok () := by
    unfold videoInterface
    split <;> simp [hraw]
  have hwireless : (wirelessInterface interface buf).result m = .ok () := by
    unfold wirelessInterface
    split <;> simp [hraw]
  unfold altsettingDecoder at hdump
  split_ifs at hdump <;> cases hdump <;>
    simp [taggedInterface, misplacedAudio, hraw, haudio, hvideo, hwireless]

theorem endpointDecoder_returns : (endpointDecoder env interface endpoint).Returns m := by
  intro buf bDescriptorType dump hdump
  unfold endpointDecoder at hdump
  split_ifs at hdump <;> cases hdump <;>
    simp [taggedEndpoint, misplacedInterface, misplacedDevice]

def HiddenInAltsetting (interface : InterfaceDescriptor) (bDescriptorType : Nat) : Prop :=
  (bDescriptorType = usbDtCsDevice ∨ bDescriptorType = usbDtCsInterface) ∧
    interface.bInterfaceClass = libusbClassPrinter ∧ interface.bInterfaceProtocol ≠ 0x04

/-- A class specific endpoint descriptor that belongs to no audio or video streaming,
MIDI or VideoControl interface. -/
def HiddenInEndpoint (interface : InterfaceDescriptor) (bDescriptorType : Nat) : Prop :=
  bDescriptorType = usbDtCsEndpoint ∧
    ¬(interface.bInterfaceClass = 1 ∧ interface.bInterfaceSubClass = 2) ∧
    ¬(interface.bInterfaceClass = 1 ∧ interface.bInterfaceSubClass = 3) ∧
    ¬(interface.bInterfaceClass = 14 ∧ interface.bInterfaceSubClass = 1)

instance (interface : InterfaceDescriptor) (bDescriptorType : Nat) :
    Decidable (HiddenInAltsetting interface bDescriptorType) :=
  inferInstanceAs (Decidable (_ ∧ _))

instance (interface : InterfaceDescriptor) (bDescriptorType : Nat) :
    Decidable (HiddenInEndpoint interface bDescriptorType) :=
  inferInstanceAs (Decidable (_ ∧ _))

theorem configDecoder_printsLine (hdump : configDecoder env buf bDescriptorType = some dump) :
    PrintsLine dump m := by
  unfold configDecoder at hdump
  split_ifs at hdump <;> cases hdump
  · exact dumpAssociation_printsLine
  · exact dumpSecurity_printsLine
  · exact dumpEncryptionType_printsLine
  · exact dumpRaw_printsLine _

theorem audioInterface_printsLine : PrintsLine (audioInterface env interface buf) m := by
  unfold audioInterface
  split
  · exact dumpAudiocontrolInterface_printsLine _
  · exact dumpAudiostreamingInterface_printsLine _
  · exact dumpMidistreamingInterface_printsLine
  · exact dumpRaw_printsLine _

theorem videoInterface_printsLine : PrintsLine (videoInterface env interface buf) m := by
  unfold videoInterface
  split
  · exact dumpVideocontrolInterface_printsLine _
  · exact dumpVideostreamingInterface_printsLine _ _
  · exact dumpRaw_printsLine _

theorem taggedInterface_printsLine_iff :
    PrintsLine (taggedInterface env interface buf) m ↔
      ¬(interface.bInterfaceClass = libusbClassPrinter ∧ interface.bInterfaceProtocol ≠ 0x04) := by
  by_cases hprinter : interface.bInterfaceClass = libusbClassPrinter
  · have hdump : taggedInterface env interface buf = dumpPrinterDevice env interface buf := by
      unfold taggedInterface
      rw [hprinter]
      rfl
    rw [hdump, dumpPrinterDevice_printsLine_iff]
    simp [hprinter]
  · refine iff_of_true ?_ fun h => hprinter h.1
    unfold taggedInterface
    split_ifs
    · exact audioInterface_printsLine
    · exact dumpCommDescriptor_printsLine
    · exact videoInterface_printsLine
    · exact dumpDfuInterface_printsLine
    · exact dumpRaw_printsLine _
    · exact dumpHidDevice_printsLine
    · exact dumpCcidDevice_printsLine
    · exact dumpRaw_printsLine _

theorem wirelessInterface_printsLine : PrintsLine (wirelessInterface interface buf) m := by
  unfold wirelessInterface
  split
  · split_ifs
    · exact dumpRcInterface_printsLine
    · exact dumpRaw_printsLine _
  · exact dumpWireAdapter_printsLine
  · exact dumpRaw_printsLine _

theorem misplacedAudio_printsLine :
    PrintsLine (misplacedAudio env interface buf bDescriptorType) m := by
  unfold misplacedAudio
  split_ifs
  · exact dumpAudiostreamingEndpoint_printsLine _
  · exact dumpRaw_printsLine _
  · exact dumpRaw_printsLine _

theorem altsettingDecoder_printsLine_iff
    (hdump : altsettingDecoder env interface buf bDescriptorType = some dump) :
    PrintsLine dump m ↔ ¬HiddenInAltsetting interface bDescriptorType := by
  unfold altsettingDecoder at hdump
  unfold HiddenInAltsetting
  split_ifs at hdump with htagged <;> cases hdump
  · rw [taggedInterface_printsLine_iff]
    simp [htagged]
  · exact iff_of_true dumpHidDevice_printsLine fun h => htagged h.1
  · exact iff_of_true dumpCcidDevice_printsLine fun h => htagged h.1
  · exact iff_of_true wirelessInterface_printsLine fun h => htagged h.1
  · exact iff_of_true misplacedAudio_printsLine fun h => htagged h.1
  · exact iff_of_true dumpAssociation_printsLine fun h => htagged h.1
  · exact iff_of_true (dumpRaw_printsLine _) fun h => htagged h.1

theorem taggedEndpoint_printsLine_iff :
    PrintsLine (taggedEndpoint env interface buf) m ↔
      ¬HiddenInEndpoint interface usbDtCsEndpoint := by
  unfold taggedEndpoint HiddenInEndpoint
  split_ifs with hstreaming hmidi hvideo
  · exact iff_of_true (dumpAudiostreamingEndpoint_printsLine _) fun h => h.2.1 hstreaming
  · exact iff_of_true dumpMidistreamingEndpoint_printsLine fun h => h.2.2.1 hmidi
  · exact iff_of_true dumpVideocontrolInterruptEndpoint_printsLine fun h => h.2.2.2 hvideo
  · simp [PrintsLine, hstreaming, hmidi, hvideo]

theorem endpointDecoder_printsLine_iff
    (hdump : endpointDecoder env interface endpoint buf bDescriptorType = some dump) :
    PrintsLine dump m ↔ ¬HiddenInEndpoint interface bDescriptorType := by
  unfold endpointDecoder at hdump
  split_ifs at hdump with htagged <;> cases hdump
  · rw [htagged]
    exact taggedEndpoint_printsLine_iff
  · refine iff_of_true ?_ fun h => htagged h.1
    unfold misplacedInterface
    split_ifs
    · exact dumpCommDescriptor_printsLine
    · exact dumpPipeDesc_printsLine
    · exact dumpRaw_printsLine _
  · refine iff_of_true ?_ fun h => htagged h.1
    unfold misplacedDevice
    split_ifs
    · exact dumpCcidDevice_printsLine
    · exact dumpRaw_printsLine _
  · exact iff_of_true dumpAssociation_printsLine fun h => htagged h.1
  · exact iff_of_true dumpSsEndpointComp_printsLine fun h => htagged h.1
  · exact iff_of_true (dumpRaw_printsLine _) fun h => htagged h.1

theorem configDecoder_eq_none : configDecoder env buf bDescriptorType = none ↔
    bDescriptorType = usbDtOtg := by
  unfold configDecoder
  split_ifs <;> simp_all

/-- The classes that take descriptors of every type. -/
def TakesOtg (interface : InterfaceDescriptor) : Prop :=
  interface.bInterfaceClass = libusbClassHid ∨ interface.bInterfaceClass = usbClassCcid ∨
    interface.bInterfaceClass = 0xe0 ∨ interface.bInterfaceClass = libusbClassAudio

instance (interface : InterfaceDescriptor) : Decidable (TakesOtg interface) :=
  inferInstanceAs (Decidable (_ ∨ _))

theorem altsettingDecoder_eq_none : altsettingDecoder env interface buf bDescriptorType = none ↔
    bDescriptorType = usbDtOtg ∧ ¬TakesOtg interface := by
  have huntagged : ¬(usbDtOtg = usbDtCsDevice ∨ usbDtOtg = usbDtCsInterface) := by decide
  unfold altsettingDecoder TakesOtg
  by_cases hotg : bDescriptorType = usbDtOtg
  · rw [hotg, if_neg huntagged]
    split_ifs <;> simp_all
  · split_ifs <;> simp_all

theorem endpointDecoder_eq_none :
    endpointDecoder env interface endpoint buf bDescriptorType = none ↔
      bDescriptorType = usbDtOtg := by
  unfold endpointDecoder
  split_ifs <;> simp_all [usbDtOtg, usbDtCsEndpoint, usbDtCsInterface, usbDtCsDevice]

end Usbutils
