import Usbutils.Lsusb.Print
import Mathlib.Tactic.SplitIfs

/-! `dump_comm_descriptor` of `lsusb.c`: the functional descriptors of the
Communications Device Class. -/
namespace Usbutils
open ByteProg

namespace Comm

def stringOr (index : Nat) (str : Option String) : Arg :=
  text (if index ≠ 0 ∧ str.getD "" ≠ "" then str.getD "" else "(??)")

def version (format indent : String) (buf : Nat) : Dump Unit := do
  print format [text indent, ← u8 (buf + 4), ← u8 (buf + 3)]

def header (buf : Nat) (indent : String) : Dump Unit := do
  print "%sCDC Header:\n" [text indent]
  version "%s  bcdCDC               %x.%02x\n" indent buf

def indented (indent : String) (value : Nat) : List (Nat × String) → Dump Unit
  | [] => pure ()
  | (mask, line) :: rest => do
      Prog.when (value &&& mask ≠ 0) do print line [text indent]
      indented indent value rest

def callManagement (buf : Nat) (indent : String) : Dump Unit := do
  print "%sCDC Call Management:\n" [text indent]
  let bmCapabilities ← Prog.byte (buf + 3)
  print "%s  bmCapabilities       0x%02x\n" [text indent, .num bmCapabilities]
  indented indent bmCapabilities [
    (0x01, "%s    call management\n"),
    (0x02, "%s    use DataInterface\n")]
  print "%s  bDataInterface          %d\n" [text indent, ← u8 (buf + 4)]

def acm (buf : Nat) (indent : String) : Dump Unit := do
  print "%sCDC ACM:\n" [text indent]
  let bmCapabilities ← Prog.byte (buf + 3)
  print "%s  bmCapabilities       0x%02x\n" [text indent, .num bmCapabilities]
  indented indent bmCapabilities [
    (0x08, "%s    connection notifications\n"),
    (0x04, "%s    sends break\n"),
    (0x02, "%s    line coding and serial state\n"),
    (0x01, "%s    get/set/clear comm features\n")]

def union (buf bLength : Nat) (indent : String) : Dump Unit := do
  print "%sCDC Union:\n" [text indent]
  print "%s  bMasterInterface        %d\n" [text indent, ← u8 (buf + 3)]
  print "%s  bSlaveInterface         " [text indent]
  Prog.loop (bLength - 4) fun i => do
    print "%d " [← u8 (buf + (4 + i))]
  print "\n" []

def countrySelection (env : Env) (buf bLength : Nat) (indent : String) : Dump Unit := do
  let index ← Prog.byte (buf + 3)
  print "%sCountry Selection:\n" [text indent]
  print "%s  iCountryCodeRelDate     %4d %s\n"
    [text indent, .num index, stringOr index (env.getDevString index)]
  -- `for (tmp = 4; tmp < buf[0]; tmp += 2)`
  Prog.loop ((bLength - 4 + 1) / 2) fun i => do
    print "%s  wCountryCode          0x%02x%02x\n"
      [text indent, ← u8 (buf + (4 + 2 * i)), ← u8 (buf + (4 + 2 * i + 1))]

def telephoneOperations (buf : Nat) (indent : String) : Dump Unit := do
  print "%sCDC Telephone operations:\n" [text indent]
  let bmCapabilities ← Prog.byte (buf + 3)
  print "%s  bmCapabilities       0x%02x\n" [text indent, .num bmCapabilities]
  indented indent bmCapabilities [
    (0x04, "%s    computer centric mode\n"),
    (0x02, "%s    standalone mode\n"),
    (0x01, "%s    simple mode\n")]

def networkChannelTerminal (env : Env) (buf : Nat) (indent : String) : Dump Unit := do
  let iName ← Prog.byte (buf + 4)
  print "%sNetwork Channel Terminal:\n" [text indent]
  print "%s  bEntityId               %3d\n" [text indent, ← u8 (buf + 3)]
  print "%s  iName                   %3d %s\n" [text indent, .num iName, .str (env.getDevString iName)]
  print "%s  bChannelIndex           %3d\n" [text indent, ← u8 (buf + 5)]
  print "%s  bPhysicalInterface      %3d\n" [text indent, ← u8 (buf + 6)]

def ethernet (env : Env) (buf : Nat) (indent : String) : Dump Unit := do
  let iMacAddress ← Prog.byte (buf + 3)
  print "%sCDC Ethernet:\n" [text indent]
  print "%s  iMacAddress             %10d %s\n"
    [text indent, .num iMacAddress, stringOr iMacAddress (env.getDevString iMacAddress)]
  print "%s  bmEthernetStatistics    0x%08x\n" [text indent, ← le32 (buf + 4)]
  print "%s  wMaxSegmentSize         %10d\n" [text indent, ← le16 (buf + 8)]
  print "%s  wNumberMCFilters            0x%04x\n" [text indent, ← le16 (buf + 10)]
  print "%s  bNumberPowerFilters     %10d\n" [text indent, ← u8 (buf + 12)]

def whcm (buf : Nat) (indent : String) : Dump Unit := do
  print "%sCDC WHCM:\n" [text indent]
  version "%s  bcdVersion           %x.%02x\n" indent buf

def mdlm (buf : Nat) (indent : String) : Dump Unit := do
  print "%sCDC MDLM:\n" [text indent]
  version "%s  bcdCDC               %x.%02x\n" indent buf
  print "%s  bGUID               %s\n" [text indent, text (← getGuid (buf + 5))]

def mdlmDetail (buf bLength : Nat) (indent : String) : Dump Unit := do
  print "%sCDC MDLM detail:\n" [text indent]
  print "%s  bGuidDescriptorType  %02x\n" [text indent, ← u8 (buf + 3)]
  print "%s  bDetailData         " [text indent]
  dumpBytes (buf + 4) (bLength - 4)

def deviceManagement (buf : Nat) (indent : String) : Dump Unit := do
  print "%sCDC Device Management:\n" [text indent]
  version "%s  bcdVersion           %x.%02x\n" indent buf
  print "%s  wMaxCommand          %d\n" [text indent, ← le16 (buf + 5)]

def obex (buf : Nat) (indent : String) : Dump Unit := do
  print "%sCDC OBEX:\n" [text indent]
  version "%s  bcdVersion           %x.%02x\n" indent buf

def commandSet (env : Env) (buf : Nat) (indent : String) : Dump Unit := do
  let iCommandSet ← Prog.byte (buf + 5)
  print "%sCDC Command Set:\n" [text indent]
  version "%s  bcdVersion           %x.%02x\n" indent buf
  print "%s  iCommandSet          %4d %s\n"
    [text indent, .num iCommandSet, stringOr iCommandSet (env.getDevString iCommandSet)]
  print "%s  bGUID                %s\n" [text indent, text (← getGuid (buf + 6))]

def ncm (buf : Nat) (indent : String) : Dump Unit := do
  print "%sCDC NCM:\n" [text indent]
  version "%s  bcdNcmVersion        %x.%02x\n" indent buf
  let bmNetworkCapabilities ← Prog.byte (buf + 5)
  print "%s  bmNetworkCapabilities 0x%02x\n" [text indent, .num bmNetworkCapabilities]
  indented indent bmNetworkCapabilities [
    (1 <<< 5, "%s    8-byte ntb input size\n"),
    (1 <<< 4, "%s    crc mode\n"),
    (1 <<< 3, "%s    max datagram size\n"),
    (1 <<< 2, "%s    encapsulated commands\n"),
    (1 <<< 1, "%s    net address\n"),
    (1 <<< 0, "%s    packet filter\n")]

def mbim (buf : Nat) (indent : String) : Dump Unit := do
  print "%sCDC MBIM:\n" [text indent]
  version "%s  bcdMBIMVersion       %x.%02x\n" indent buf
  print "%s  wMaxControlMessage   %d\n" [text indent, ← le16 (buf + 5)]
  print "%s  bNumberFilters       %d\n" [text indent, ← u8 (buf + 7)]
  print "%s  bMaxFilterSize       %d\n" [text indent, ← u8 (buf + 8)]
  print "%s  wMaxSegmentSize      %d\n" [text indent, ← le16 (buf + 9)]
  let bmNetworkCapabilities ← Prog.byte (buf + 11)
  print "%s  bmNetworkCapabilities 0x%02x\n" [text indent, .num bmNetworkCapabilities]
  indented indent bmNetworkCapabilities [
    (0x20, "%s    8-byte ntb input size\n"),
    (0x08, "%s    max datagram size\n")]

def mbimExtended (buf : Nat) (indent : String) : Dump Unit := do
  print "%sCDC MBIM Extended:\n" [text indent]
  version "%s  bcdMBIMExtendedVersion          %2x.%02x\n" indent buf
  print "%s  bMaxOutstandingCommandMessages    %3d\n" [text indent, ← u8 (buf + 5)]
  print "%s  wMTU                            %5d\n" [text indent, ← le16 (buf + 6)]

/-- A case of the decoder: its name, the lengths it takes, and what it prints. -/
structure Functional where
  type : String
  accepts : Nat → Bool
  dump : Dump Unit

def functional (env : Env) (buf bLength : Nat) (indent : String) : Nat → Option Functional
  | 0 => some ⟨"Header", (· == 5), header buf indent⟩
  | 0x01 => some ⟨"Call Management", (· == 5), callManagement buf indent⟩
  | 0x02 => some ⟨"ACM", (· == 4), acm buf indent⟩
  | 0x06 => some ⟨"Union", fun len => !(len < 5), union buf bLength indent⟩
  | 0x07 => some ⟨"Country Selection", fun len => !(len < 6 || len &&& 1 != 0),
      countrySelection env buf bLength indent⟩
  | 0x08 => some ⟨"Telephone Operations", (· == 4), telephoneOperations buf indent⟩
  | 0x0a => some ⟨"Network Channel Terminal", (· == 7), networkChannelTerminal env buf indent⟩
  | 0x0f => some ⟨"Ethernet", (· == 13), ethernet env buf indent⟩
  | 0x11 => some ⟨"WHCM version", (· == 5), whcm buf indent⟩
  | 0x12 => some ⟨"MDLM", (· == 21), mdlm buf indent⟩
  | 0x13 => some ⟨"MDLM detail", fun len => !(len < 5), mdlmDetail buf bLength indent⟩
  | 0x14 => some ⟨"Device Management", (· == 7), deviceManagement buf indent⟩
  | 0x15 => some ⟨"OBEX", (· == 5), obex buf indent⟩
  | 0x16 => some ⟨"Command Set", (· == 22), commandSet env buf indent⟩
  | 0x1a => some ⟨"NCM", (· == 6), ncm buf indent⟩
  | 0x1b => some ⟨"MBIM", (· == 12), mbim buf indent⟩
  | 0x1c => some ⟨"MBIM Extended", (· == 8), mbimExtended buf indent⟩
  | _ => none

end Comm

open Comm

def dumpCommDescriptor (env : Env) (buf : Nat) (indent : String) : Dump Unit := do
  let bLength ← Prog.byte buf
  (if bLength < 3 then print "%sWarning: Descriptor too short\n" [text indent]
  else do
    match functional env buf bLength indent (← Prog.byte (buf + 2)) with
    | none => do
        print "%sUNRECOGNIZED CDC: " [text indent]
        dumpBytes buf bLength
    | some case =>
        if case.accepts bLength then case.dump
        else do
          print "%sINVALID CDC (%s): " [text indent, text case.type]
          dumpBytes buf bLength)

section Safety

variable {env : Env} {m : Memory} {buf : Nat} {indent : String}

namespace Comm

@[simp] theorem indented_within (lo hi value : Nat) (lines : List (Nat × String)) :
    Prog.All (Within lo hi) (indented indent value lines) m := by
  induction lines with
  | nil => simp [indented]
  | cons line rest ih => simp [indented, ih]

@[simp] theorem result_indented (value : Nat) (lines : List (Nat × String)) :
    (indented indent value lines).result m = .ok () := by
  induction lines with
  | nil => rfl
  | cons line rest ih => simp [indented, ih]

theorem version_within {lo hi : Nat} (format : String) (hlo : lo ≤ buf) (hhi : buf + 5 ≤ hi) :
    Prog.All (Within lo hi) (version format indent buf) m := by
  simp [version]
  omega

@[simp] theorem result_version (format : String) :
    (version format indent buf).result m = .ok () := rfl

section Cases

variable {hi : Nat}

theorem header_within (h : buf + 5 ≤ hi) : Prog.All (Within buf hi) (header buf indent) m := by
  simp [header, version_within _ (Nat.le_refl buf) h]

theorem callManagement_within (h : buf + 5 ≤ hi) : Prog.All (Within buf hi) (callManagement buf indent) m := by
  simp [callManagement]
  omega

theorem acm_within (h : buf + 4 ≤ hi) : Prog.All (Within buf hi) (acm buf indent) m := by
  simp [acm]
  omega

theorem telephoneOperations_within (h : buf + 4 ≤ hi) : Prog.All (Within buf hi) (telephoneOperations buf indent) m := by
  simp [telephoneOperations]
  omega

theorem networkChannelTerminal_within (h : buf + 7 ≤ hi) : Prog.All (Within buf hi) (networkChannelTerminal env buf indent) m := by
  simp [networkChannelTerminal]
  omega

theorem ethernet_within (h : buf + 13 ≤ hi) : Prog.All (Within buf hi) (ethernet env buf indent) m := by
  simp [ethernet]
  omega

theorem whcm_within (h : buf + 5 ≤ hi) : Prog.All (Within buf hi) (whcm buf indent) m := by
  simp [whcm, version_within _ (Nat.le_refl buf) h]

theorem deviceManagement_within (h : buf + 7 ≤ hi) : Prog.All (Within buf hi) (deviceManagement buf indent) m := by
  simp [deviceManagement, version_within (m := m) _ (Nat.le_refl buf) (by omega : buf + 5 ≤ hi)]
  omega

theorem obex_within (h : buf + 5 ≤ hi) : Prog.All (Within buf hi) (obex buf indent) m := by
  simp [obex, version_within _ (Nat.le_refl buf) h]

theorem ncm_within (h : buf + 6 ≤ hi) : Prog.All (Within buf hi) (ncm buf indent) m := by
  simp [ncm, version_within (m := m) _ (Nat.le_refl buf) (by omega : buf + 5 ≤ hi)]
  omega

theorem mbim_within (h : buf + 12 ≤ hi) : Prog.All (Within buf hi) (mbim buf indent) m := by
  simp [mbim, version_within (m := m) _ (Nat.le_refl buf) (by omega : buf + 5 ≤ hi)]
  omega

theorem mbimExtended_within (h : buf + 8 ≤ hi) : Prog.All (Within buf hi) (mbimExtended buf indent) m := by
  simp [mbimExtended, version_within (m := m) _ (Nat.le_refl buf) (by omega : buf + 5 ≤ hi)]
  omega

theorem mdlm_within (h : buf + 21 ≤ hi) : Prog.All (Within buf hi) (mdlm buf indent) m := by
  simp [mdlm, version_within (m := m) _ (Nat.le_refl buf) (by omega : buf + 5 ≤ hi)]
  exact getGuid_within (by omega) (by omega)

theorem commandSet_within (h : buf + 22 ≤ hi) :
    Prog.All (Within buf hi) (commandSet env buf indent) m := by
  simp [commandSet, version_within (m := m) _ (Nat.le_refl buf) (by omega : buf + 5 ≤ hi)]
  exact ⟨by omega, getGuid_within (by omega) (by omega)⟩

theorem union_within {len : Nat} (h : 5 ≤ len) :
    Prog.All (Within buf (buf + len)) (union buf len indent) m := by
  simp [union, Prog.all_loop_iff, Prog.result_loop]
  grind

theorem countrySelection_within {len : Nat} (h : 6 ≤ len) (heven : len % 2 = 0) :
    Prog.All (Within buf (buf + len)) (countrySelection env buf len indent) m := by
  simp [countrySelection, Prog.all_loop_iff]
  grind

theorem mdlmDetail_within {len : Nat} (h : 5 ≤ len) :
    Prog.All (Within buf (buf + len)) (mdlmDetail buf len indent) m := by
  simp [mdlmDetail]
  exact ⟨by omega, dumpBytes_within (by omega) (by omega)⟩

end Cases

theorem functional_within {subtype len : Nat} {case : Functional}
    (h : functional env buf len indent subtype = some case) (hlen : case.accepts len = true) :
    Prog.All (Within buf (buf + len)) case.dump m := by
  unfold functional at h
  split at h <;> cases h <;> simp at hlen
  · exact header_within (by omega)
  · exact callManagement_within (by omega)
  · exact acm_within (by omega)
  · exact union_within hlen
  · exact countrySelection_within hlen.1 hlen.2
  · exact telephoneOperations_within (by omega)
  · exact networkChannelTerminal_within (by omega)
  · exact ethernet_within (by omega)
  · exact whcm_within (by omega)
  · exact mdlm_within (by omega)
  · exact mdlmDetail_within hlen
  · exact deviceManagement_within (by omega)
  · exact obex_within (by omega)
  · exact commandSet_within (by omega)
  · exact ncm_within (by omega)
  · exact mbim_within (by omega)
  · exact mbimExtended_within (by omega)

theorem result_functional {subtype len : Nat} {case : Functional}
    (h : functional env buf len indent subtype = some case) : case.dump.result m = .ok () := by
  unfold functional at h
  split at h <;> cases h <;>
    simp [header, callManagement, acm, union, countrySelection, telephoneOperations,
      networkChannelTerminal, ethernet, whcm, mdlm, mdlmDetail, deviceManagement, obex, commandSet,
      ncm, mbim, mbimExtended, Prog.result_loop]

theorem functional_printsLine {subtype len : Nat} {case : Functional}
    (h : functional env buf len indent subtype = some case) : PrintsLine case.dump m := by
  unfold functional at h
  split at h <;> cases h <;>
    simp only [header, callManagement, acm, union, countrySelection, telephoneOperations,
      networkChannelTerminal, ethernet, whcm, mdlm, mdlmDetail, deviceManagement, obex, commandSet,
      ncm, mbim, mbimExtended]
  all_goals
    first
      | exact .of_print (by decide)
      | exact .after (Prog.result_byte ..) (.of_print (by decide))

end Comm

theorem dumpCommDescriptor_within (h : 0 < (m buf).toNat) :
    Prog.All (Within buf (buf + (m buf).toNat)) (dumpCommDescriptor env buf indent) m := by
  simp [dumpCommDescriptor]
  refine ⟨h, fun hlen => ⟨by omega, ?_⟩⟩
  split
  · simp [dumpBytes_whole]
  · next case hcase =>
      simp [dumpBytes_whole]
      exact functional_within hcase

@[simp] theorem result_dumpCommDescriptor : (dumpCommDescriptor env buf indent).result m = .ok () := by
  simp [dumpCommDescriptor]
  intro
  split
  · simp
  · next case hcase => simp [result_functional hcase]

theorem dumpCommDescriptor_printsLine : PrintsLine (dumpCommDescriptor env buf indent) m := by
  refine .after (Prog.result_byte ..) (.ite (fun _ => ?_) fun _ => .after (Prog.result_byte ..) ?_)
  · exact print_printsLine (by decide) _
  · split
    · exact .after (result_print ..) (dumpBytes_printsLine ..)
    · next case hcase =>
        exact .ite (fun _ => functional_printsLine hcase) fun _ =>
          .after (result_print ..) (dumpBytes_printsLine ..)

end Safety

end Usbutils
