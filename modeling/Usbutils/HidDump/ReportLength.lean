import Usbutils.HidDump.IfaceList

/-! `usbhid-dump` and `lsusb` on the extra bytes of a HID interface. `lsusb` goes from
descriptor to descriptor; `usbhid-dump` takes the first one for the HID descriptor or gives
up, and then asks for as many bytes as a report descriptor can have. -/
namespace Usbutils
open ByteProg

section Reference

variable (m : Memory)

def isHid (address : Nat) : Bool := (m (address + 1)).toNat == libusbDtHid

def isReportEntry (hid i : Nat) : Bool :=
  decide (hid + 6 + 3 * i + 3 ≤ hid + (m hid).toNat) && (m (hid + 6 + 3 * i)).toNat == libusbDtReport

def reportEntry (hid : Nat) : Option Nat :=
  ((List.range (m (hid + 5)).toNat).find? (isReportEntry m hid)).map fun i =>
    leValue m (hid + 6 + 3 * i + 1) 2

/-- What `usbhid-dump` should store by the HID descriptor that `dump_altsetting` reaches first. -/
def reachedReportLength (env : Env) (ifaceDesc : InterfaceDescriptor) : Nat :=
  ((visits ((walkExtra "      ** Bad interface-extra bLength %u (%u left)\n"
    (altsettingDecoder env ifaceDesc) ifaceDesc.extra).acts m)).find? (isHid m)).bind
      (reportEntry m) |>.getD uhdMaxDescriptorSize

/-- The first HID descriptor of the extra bytes stands at their start, or its report
descriptor has the length that is assumed without one. -/
def HidFirst (extra : Extra) : Prop :=
  ∀ hid ∈ (descriptors m extra).find? (isHid m),
    hid = extra.extra ∨ ∀ len ∈ reportEntry m hid, len = uhdMaxDescriptorSize

end Reference

section Agree

variable {m : Memory} {extra : Extra}

theorem reachedReportLength_eq (env : Env) (ifaceDesc : InterfaceDescriptor) :
    reachedReportLength m env ifaceDesc =
      (((descriptors m ifaceDesc.extra).find? (isHid m)).bind (reportEntry m)).getD
        uhdMaxDescriptorSize := by
  rw [reachedReportLength, visits_walkExtra altsettingDecoder_returns]

theorem reportLength_eq {hid extraEnd : Nat} (hend : hid + (m hid).toNat ≤ extraEnd)
    (count i : Nat) :
    reportLength m (hid + (m hid).toNat) extraEnd count (hid + 6 + 3 * i) =
      (((List.range' i count).find? (isReportEntry m hid)).map fun i =>
        leValue m (hid + 6 + 3 * i + 1) 2).getD uhdMaxDescriptorSize := by
  induction count generalizing i with
  | zero => rfl
  | succ count ih =>
      rw [reportLength, List.range'_succ]
      by_cases hfit : hid + 6 + 3 * i + 3 ≤ hid + (m hid).toNat
      · rw [if_pos ⟨hfit, by omega⟩]
        by_cases htype : (m (hid + 6 + 3 * i)).toNat = libusbDtReport
        · have hentry : isReportEntry m hid i = true := by simp [isReportEntry, hfit, htype]
          rw [if_pos htype, List.find?_cons_of_pos hentry]
          rfl
        · have hentry : ¬ isReportEntry m hid i = true := by simp [isReportEntry, htype]
          rw [if_neg htype, List.find?_cons_of_neg hentry, ← ih]
          rfl
      · have hnone : (List.range' i (count + 1)).find? (isReportEntry m hid) = none := by
          apply List.find?_eq_none.mpr
          intro j hj
          obtain ⟨hij, -⟩ := List.mem_range'_1.mp hj
          simp only [isReportEntry, Bool.and_eq_true, decide_eq_true_eq, not_and]
          omega
        rw [if_neg (fun h => hfit h.1), ← List.range'_succ, hnone]
        rfl

theorem rdLen_of_hid (hhid : isHid m extra.extra = true)
    (hend : (m extra.extra).toNat ≤ extra.extraLength) :
    rdLen m extra = (reportEntry m extra.extra).getD uhdMaxDescriptorSize := by
  have heq := @reportLength_eq m extra.extra (extra.extra + extra.extraLength) (by omega)
    (m (extra.extra + 5)).toNat 0
  rw [← List.range_eq_range'] at heq
  have htype : (m (extra.extra + 1)).toNat = libusbDtHid := by simpa [isHid] using hhid
  rw [rdLen, reportEntry, ← heq]
  split
  · exact if_pos htype
  · next hshort =>
      -- no entry fits into a descriptor that is shorter than the structure
      cases (m (extra.extra + 5)).toNat with
      | zero => rfl
      | succ count =>
          rw [reportLength, if_neg (by omega)]

theorem rdLen_of_not_hid (hhid : isHid m extra.extra = false) :
    rdLen m extra = uhdMaxDescriptorSize := by
  have htype : (m (extra.extra + 1)).toNat ≠ libusbDtHid := by simpa [isHid] using hhid
  rw [rdLen]
  split
  · exact if_neg htype
  · rfl

theorem descriptors_cons (hwell : extra.WellFormed m) (hlen : extra.extraLength ≠ 0) :
    (m extra.extra).toNat ≤ extra.extraLength ∧
      ∃ rest, descriptors m extra = extra.extra :: rest := by
  obtain ⟨addresses, htiles⟩ := hwell
  have heq := htiles.eq_frames (by decide)
  obtain ⟨hleading, hspan⟩ := htiles
  cases addresses with
  | nil => exact absurd hspan.symm hlen
  | cons a rest =>
      obtain ⟨rfl, -, hbound, -⟩ := hleading
      exact ⟨hbound, rest, heq.symm⟩

theorem rdLen_eq_iff (hwell : extra.WellFormed m) :
    rdLen m extra = (((descriptors m extra).find? (isHid m)).bind (reportEntry m)).getD
      uhdMaxDescriptorSize ↔ HidFirst m extra := by
  unfold HidFirst
  by_cases hlen : extra.extraLength = 0
  · have hnone : descriptors m extra = [] := by
      rw [descriptors, hlen]
      rfl
    rw [hnone, rdLen, if_neg (by omega)]
    exact iff_of_true rfl fun hid h => absurd h (Option.not_mem_none hid)
  · obtain ⟨hend, rest, hrest⟩ := descriptors_cons hwell hlen
    rw [hrest]
    cases hhid : isHid m extra.extra with
    | true =>
        rw [List.find?_cons_of_pos hhid, rdLen_of_hid hhid hend]
        exact iff_of_true rfl fun hid h => Or.inl (Option.some.inj h).symm
    | false =>
        rw [List.find?_cons_of_neg (by simp [hhid]), rdLen_of_not_hid hhid]
        cases hfound : rest.find? (isHid m) with
        | none => exact iff_of_true rfl fun hid h => absurd h (Option.not_mem_none hid)
        | some hid =>
            have hne : hid ≠ extra.extra := by
              rintro rfl
              rw [List.find?_some hfound] at hhid
              cases hhid
            simp only [Option.bind_some, Option.mem_def, Option.some.injEq, forall_eq', hne, false_or]
            cases reportEntry m hid with
            | none => exact iff_of_true rfl fun len h => absurd h (Option.not_mem_none len)
            | some len => simp [eq_comm]

/-- What is stored for an interface that is not skipped is the length that `lsusb` shows for
its first report entry exactly where the HID descriptor comes first. -/
theorem uhdIfaceListNew_rdLen_iff (env : Env) {malloc : Nat → Bool} {devs : List UhdDev}
    {list : List UhdIface} (h : uhdIfaceListNew m malloc devs = .ok list) {dev : UhdDev}
    (hdev : dev ∈ devs) {config : ConfigDescriptor} (hconfig : dev.activeConfig = .ok config)
    {lusbIface : Interface} (hiface : lusbIface ∈ config.interface)
    {ifaceDesc : InterfaceDescriptor} (hsingle : lusbIface.altsetting = [ifaceDesc])
    (hclass : ifaceDesc.bInterfaceClass = libusbClassHid)
    (hnumber : ifaceDesc.bInterfaceNumber ≠ 0xff)
    (hinterrupt : ∃ ep ∈ ifaceDesc.endpoint, ep.isInterruptIn = true)
    (hwell : ifaceDesc.extra.WellFormed m) :
    ∃ iface ∈ list, ∃ ep ∈ ifaceDesc.endpoint, ep.isInterruptIn = true ∧
      iface = ifaceOf m iface.pointer dev.handle (ifaceDesc, ep) ∧
      (iface.rdLen = reachedReportLength m env ifaceDesc ↔ HidFirst m ifaceDesc.extra) := by
  obtain ⟨ep, hep⟩ := Option.isSome_iff_exists.mp (List.find?_isSome.mpr hinterrupt)
  have hfound : matching lusbIface = some (ifaceDesc, ep) := by
    simp [matching, hsingle, hclass, hnumber, hep]
  obtain ⟨iface, hmem, heq⟩ := mem_uhdIfaceListNew h hdev hconfig hiface hfound
  refine ⟨iface, hmem, ep, List.mem_of_find?_eq_some hep, List.find?_some hep, heq, ?_⟩
  rw [heq, reachedReportLength_eq]
  exact rdLen_eq_iff hwell

def keyboardDesc (extraLength : Nat) : InterfaceDescriptor :=
  { (default : InterfaceDescriptor) with
    bInterfaceClass := libusbClassHid
    endpoint := [{ (default : EndpointDescriptor) with
      bEndpointAddress := 0x81, bmAttributes := 0x03, wMaxPacketSize := 8 }]
    extra := ⟨1, extraLength, by omega⟩ }

def keyboard (extraLength : Nat) : UhdDev where
  handle := 0
  activeConfig := .ok { (default : ConfigDescriptor) with
    interface := [{ altsetting := [keyboardDesc extraLength] }] }

def hidOnly : Memory := fun a => [0, 9, 0x21, 0x11, 0x01, 0, 1, 0x22, 63, 0].getD a 0

theorem uhdIfaceListNew_hidOnly :
    ∃ iface ∈ [ifaceOf hidOnly 0 0 (keyboardDesc 9, (keyboardDesc 9).endpoint.head!)],
      ∃ ep ∈ (keyboardDesc 9).endpoint, ep.isInterruptIn = true ∧
        iface = ifaceOf hidOnly iface.pointer 0 (keyboardDesc 9, ep) ∧
        (iface.rdLen = reachedReportLength hidOnly default (keyboardDesc 9) ↔
          HidFirst hidOnly (keyboardDesc 9).extra) :=
  @uhdIfaceListNew_rdLen_iff hidOnly default (fun _ => true) [keyboard 9] _ rfl (keyboard 9)
    List.mem_cons_self _ rfl _ List.mem_cons_self _ rfl rfl (by decide) ⟨_, List.mem_cons_self, rfl⟩
    ⟨[1], ⟨rfl, by decide, by decide, trivial⟩, rfl⟩

def vendorFirst : Memory := fun a => [0, 3, 0x41, 0, 9, 0x21, 0x11, 0x01, 0, 1, 0x22, 63, 0].getD a 0

theorem uhdIfaceListNew_vendorFirst :
    (keyboardDesc 12).extra.WellFormed vendorFirst ∧
      (uhdIfaceListNew vendorFirst (fun _ => true) [keyboard 12]).map (·.map UhdIface.rdLen) =
        .ok [4096] ∧
      reachedReportLength vendorFirst default (keyboardDesc 12) = 63 := by
  refine ⟨⟨[1, 4], ?_, rfl⟩, rfl, ?_⟩
  · exact ⟨rfl, by decide, by decide, rfl, by decide, by decide, trivial⟩
  · rw [reachedReportLength_eq]
    decide

end Agree

end Usbutils
