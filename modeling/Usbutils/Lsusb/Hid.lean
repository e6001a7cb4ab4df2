import Usbutils.Lsusb.Report
import Usbutils.Lsusb.Config

/-! `dump_hid_device` and `dump_printer_device` of `lsusb.c`. -/
namespace Usbutils
open ByteProg

def libusbDtHid : Nat := 0x21
def libusbDtReport : Nat := 0x22

namespace Hid

/-- `while (n < len && retries--) n = usb_control_msg(...)` -/
def requestReport (env : Env) (interface address len : Nat) :
    Nat → Nat → Int × Memory → Int × Memory
  | 0, _, got => got
  | retries + 1, attempt, got =>
      if got.1 < len then
        requestReport env interface address len retries (attempt + 1)
          (env.getReport interface address attempt)
      else got

def unavailable : Dump Unit := do
  print "          Report Descriptors: \n" []
  print "            ** UNAVAILABLE **\n" []

def dumpReport (env : Env) (interface address : Nat) : Dump Unit := do
  let type ← Prog.byte address
  Prog.when (type = libusbDtReport) do
    let len ← convertLeU16 (address + 1)
    (if len > 8192 then print "report descriptor too long\n" []
    else if env.claimInterface interface address then do
      let (n, dbuf) := requestReport env interface address len 4 0 (0, fun _ => 0)
      (if n > 0 then do
        Prog.when (n < len) do print "          Warning: incomplete report descriptor\n" []
        Prog.elsewhere dbuf (dumpReportDesc env 0 n.toNat)
      else print "          Warning: can't get report descriptor, %s\n" [text (env.libusbErrorName n)])
    else unavailable)

/-- `for (i = 0; i < buf[5] && 6+3*i+3 <= buf[0]; i++)`: an entry that does not fit
is followed by none that does. -/
def entries (buf bLength bNumDescriptors : Nat) (body : Nat → Dump Unit) : Dump Unit :=
  Prog.loop bNumDescriptors fun i =>
    Prog.when (6 + 3 * i + 3 ≤ bLength) (body (buf + (6 + 3 * i)))

end Hid

open Hid

def dumpHidDevice (env : Env) (interface : InterfaceDescriptor) (buf : Nat) : Dump Unit := do
  checkType buf libusbDtHid
  let bLength ← Prog.byte buf
  guardLength bLength 6 do
    let bNumDescriptors ← Prog.byte (buf + 5)
    Prog.when (bLength < 6 + 3 * bNumDescriptors) do
      print "      Warning: Descriptor too short\n" []
    print "        HID Device Descriptor:\n" []
    print "          bLength             %5u\n" [.num bLength]
    print "          bDescriptorType     %5u\n" [← u8 (buf + 1)]
    print "          bcdHID              %2x.%02x\n" [← u8 (buf + 3), ← u8 (buf + 2)]
    let bCountryCode ← Prog.byte (buf + 4)
    print "          bCountryCode        %5u %s\n"
      [.num bCountryCode, text ((env.namesCountrycode bCountryCode).getD "Unknown")]
    print "          bNumDescriptors     %5u\n" [.num bNumDescriptors]
    entries buf bLength bNumDescriptors fun address => do
      let type ← Prog.byte address
      print "          bDescriptorType     %5u %s\n"
        [.num type, text ((env.namesHid type).getD "Unknown")]
      print "          wDescriptorLength   %5u\n" [← le16 (address + 1)]
    dumpJunk buf "        " (6 + 3 * bNumDescriptors)
    Prog.when env.doReportDesc
      (if env.dev then entries buf bLength bNumDescriptors (dumpReport env interface.bInterfaceNumber)
      else unavailable)

namespace Printer

def basicCapabilities (env : Env) (buf n : Nat) : Dump Unit := do
  let caps ← convertLeU16 (buf + (n + 2))
  let iUuid ← Prog.byte (buf + (n + 5))
  print "            iIPPVersionsSupported %5u\n" [← u8 (buf + (n + 4))]
  print "            iIPPPrinterUUID       %5u %s\n" [.num iUuid, .str (env.getDevString iUuid)]
  print "            wBasicCapabilities   0x%04x " [.num caps]
  bitLines caps [(0x01, " Print"), (0x02, " Scan"), (0x04, " Fax"), (0x08, " Other"),
    (0x10, " HTTP-over-USB")]
  print (if caps &&& 0x60 = 0x00 then " No-Auth"
    else if caps &&& 0x60 = 0x20 then " Username-Auth"
    else if caps &&& 0x60 = 0x40 then " Reserved-Auth" else " Negotiable-Auth") []
  print "\n" []

def capabilities (env : Env) (buf bLength : Nat) : Nat → Nat → Dump Unit
  | 0, _ => pure ()
  | count + 1, n =>
      if n + 2 > bLength then print "            Warning: Descriptor too short\n" []
      else do
        let length ← Prog.byte (buf + (n + 1))
        (if n + 2 + length > bLength then print "            Warning: Descriptor too short\n" []
        else do
          let type ← Prog.byte (buf + n)
          (if type = 0x00 then
            if n + 6 > bLength then print "          Warning: Descriptor too short\n" []
            else do
              basicCapabilities env buf n
              capabilities env buf bLength count (n + (2 + length))
          else do
            print "            UnknownCapabilities   %5u %5u\n" [.num type, .num length]
            capabilities env buf bLength count (n + (2 + length))))

end Printer

def dumpPrinterDevice (env : Env) (interface : InterfaceDescriptor) (buf : Nat) : Dump Unit :=
  -- IPP-over-USB; other protocols are not decoded
  Prog.when (interface.bInterfaceProtocol = 0x04) do
    let bLength ← Prog.byte buf
    (if bLength < 4 then print "        Warning: IPP Printer Descriptor too short\n" []
    else do
      print "        IPP Printer Descriptor:\n" []
      print "          bLength             %5u\n" [.num bLength]
      print "          bDescriptorType     %5u\n" [← u8 (buf + 1)]
      print "          bcdReleaseNumber    %5u\n" [← u8 (buf + 2)]
      let bcdNumDescriptors ← Prog.byte (buf + 3)
      print "          bcdNumDescriptors   %5u\n" [.num bcdNumDescriptors]
      Printer.capabilities env buf bLength bcdNumDescriptors 4)

section Safety

variable {env : Env} {m : Memory} {buf : Nat} {interface : InterfaceDescriptor}

theorem within_act {lo hi lo' hi' : Nat} {e : Effect} (h : Within lo hi (.act e)) :
    Within lo' hi' (.act e) := by
  cases e <;> exact h

namespace Hid

@[simp] theorem result_unavailable : unavailable.result m = .ok () := rfl

@[simp] theorem result_dumpReport (number address : Nat) :
    (dumpReport env number address).result m = .ok () := by
  simp [dumpReport]

theorem dumpReport_within {lo hi : Nat} (number address : Nat) (hlo : lo ≤ address)
    (hhi : address + 3 ≤ hi) : Prog.All (Within lo hi) (dumpReport env number address) m := by
  have hdesc : ∀ (dbuf : Memory) n,
      ∀ e ∈ (dumpReportDesc env 0 n).acts dbuf, Within lo hi (.act e) := fun dbuf n e he =>
    within_act (dumpReportDesc_within 0 n _ (Prog.mem_acts.mp he))
  simp [dumpReport, unavailable]
  refine ⟨by omega, fun _ => ⟨by omega, fun _ _ _ => hdesc _ _⟩⟩

theorem entries_within {bLength bNumDescriptors : Nat} {body : Nat → Dump Unit}
    (h : ∀ address, buf ≤ address → address + 3 ≤ buf + bLength →
      Prog.All (Within buf (buf + bLength)) (body address) m) :
    Prog.All (Within buf (buf + bLength)) (entries buf bLength bNumDescriptors body) m := by
  refine Prog.all_loop _ fun i _ => (Prog.all_when _ _).mpr fun hfit => ?_
  exact h _ (by omega) (by omega)

theorem result_entries {bLength bNumDescriptors : Nat} {body : Nat → Dump Unit}
    (h : ∀ address, (body address).result m = .ok ()) :
    (entries buf bLength bNumDescriptors body).result m = .ok () :=
  Prog.result_loop _ fun i => by simp [h]

end Hid

theorem dumpHidDevice_within (h : 2 ≤ (m buf).toNat) :
    Prog.All (Within buf (buf + (m buf).toNat)) (dumpHidDevice env interface buf) m := by
  simp [dumpHidDevice, dumpJunk_within _ _ (by omega : 0 < (m buf).toNat), unavailable]
  refine ⟨by omega, by omega, fun hlen => ?_⟩
  refine ⟨by omega, by omega, by omega, by omega, by omega, entries_within ?_, fun _ _ _ => ?_⟩
  · intro address hlo hhi
    simp
    omega
  · exact fun _ => entries_within fun address hlo hhi => dumpReport_within _ address hlo hhi

@[simp] theorem result_dumpHidDevice : (dumpHidDevice env interface buf).result m = .ok () := by
  simp [dumpHidDevice, result_entries]

theorem dumpHidDevice_printsLine : PrintsLine (dumpHidDevice env interface buf) m :=
  .after (result_checkType ..) <| .after (Prog.result_byte ..) <|
    guardLength_printsLine fun _ => .after (Prog.result_byte ..) <|
      .after (a := ()) (by simp) <| .of_print (by decide)

namespace Printer

theorem basicCapabilities_within {lo hi n : Nat} (hlo : lo ≤ buf + n) (hhi : buf + n + 6 ≤ hi) :
    Prog.All (Within lo hi) (basicCapabilities env buf n) m := by
  simp [basicCapabilities]
  omega

@[simp] theorem result_basicCapabilities (n : Nat) :
    (basicCapabilities env buf n).result m = .ok () := by
  simp [basicCapabilities]

theorem capabilities_within (bLength count n : Nat) :
    Prog.All (Within buf (buf + bLength)) (capabilities env buf bLength count n) m := by
  induction count generalizing n with
  | zero => simp [capabilities]
  | succ count ih =>
      simp [capabilities, ih]
      refine fun hn => ⟨by omega, fun hfit => ⟨by omega, fun _ hbasic => ?_⟩⟩
      exact basicCapabilities_within (by omega) (by omega)

@[simp] theorem result_capabilities (bLength count n : Nat) :
    (capabilities env buf bLength count n).result m = .ok () := by
  induction count generalizing n with
  | zero => rfl
  | succ count ih => simp [capabilities, ih]

end Printer

theorem dumpPrinterDevice_within (h : 0 < (m buf).toNat) :
    Prog.All (Within buf (buf + (m buf).toNat)) (dumpPrinterDevice env interface buf) m := by
  simp [dumpPrinterDevice, Printer.capabilities_within]
  omega

@[simp] theorem result_dumpPrinterDevice :
    (dumpPrinterDevice env interface buf).result m = .ok () := by
  simp [dumpPrinterDevice]

/-- A printer descriptor is shown exactly for IPP-over-USB. -/
theorem dumpPrinterDevice_printsLine_iff :
    PrintsLine (dumpPrinterDevice env interface buf) m ↔ interface.bInterfaceProtocol = 0x04 := by
  unfold dumpPrinterDevice Prog.when
  constructor
  · intro hline
    by_contra hprotocol
    rw [if_neg hprotocol] at hline
    obtain ⟨e, he, -⟩ := hline
    simp at he
  · intro hprotocol
    rw [if_pos hprotocol]
    exact .after (Prog.result_byte ..) <| .ite (fun _ => print_printsLine (by decide) [])
      fun _ => .of_print (by decide)

end Safety

end Usbutils
