import Mathlib.Data.List.Chain
import Usbutils.Lib.LittleEndian
import Usbutils.Lsusb.Hid

/-! The capabilities of an IPP-over-USB printer that `dump_printer_device` visits, and whose
bytes it shows for each of them. -/
namespace Usbutils
open ByteProg

namespace Printer

def lengthAt (m : Memory) (buf n : Nat) : Nat := (m (buf + (n + 1))).toNat

/-- What one turn of the loop reads and shows for a capability that it visits. -/
def capability (env : Env) (buf bLength n : Nat) : Dump Unit := do
  let length ← Prog.byte (buf + (n + 1))
  let type ← Prog.byte (buf + n)
  (if type = 0x00 then
    if n + 6 > bLength then print "          Warning: Descriptor too short\n" []
    else basicCapabilities env buf n
  else print "            UnknownCapabilities   %5u %5u\n" [.num type, .num length])

def visitedFrom (m : Memory) (buf bLength : Nat) : Nat → Nat → List Nat
  | 0, _ => []
  | count + 1, n =>
      if n + 2 + lengthAt m buf n > bLength then []
      else n :: (if (m (buf + n)).toNat = 0x00 ∧ n + 6 > bLength then []
        else visitedFrom m buf bLength count (n + (2 + lengthAt m buf n)))

def visited (m : Memory) (buf : Nat) : List Nat :=
  visitedFrom m buf (m buf).toNat (m (buf + 3)).toNat 4

section Loop

variable {env : Env} {m : Memory} {buf bLength count n : Nat}

theorem visitedFrom_inside : ∀ a ∈ visitedFrom m buf bLength count n,
    a + 2 + lengthAt m buf a ≤ bLength := by
  induction count generalizing n with
  | zero => exact nofun
  | succ count ih =>
      intro a ha
      rw [visitedFrom] at ha
      split at ha
      · cases ha
      · rcases List.mem_cons.mp ha with rfl | ha
        · omega
        · split at ha
          · cases ha
          · exact ih a ha

theorem head?_visitedFrom : ∀ a ∈ (visitedFrom m buf bLength count n).head?, a = n := by
  intro a ha
  cases count with
  | zero => cases ha
  | succ count =>
      rw [visitedFrom] at ha
      split at ha
      · cases ha
      · exact (Option.some.inj ha).symm

theorem visitedFrom_consecutive : (visitedFrom m buf bLength count n).IsChain
    fun a b => b = a + 2 + lengthAt m buf a := by
  induction count generalizing n with
  | zero => exact List.isChain_nil
  | succ count ih =>
      rw [visitedFrom]
      split
      · exact List.isChain_nil
      · split
        · exact List.isChain_singleton n
        · refine List.isChain_cons.mpr ⟨?_, ih⟩
          intro b hb
          rw [head?_visitedFrom b hb]
          omega

/-- A turn that visits a capability goes on behind it, unless it returns. -/
theorem log_capabilities_visit (hvisit : ¬n + 2 + lengthAt m buf n > bLength) :
    (capabilities env buf bLength (count + 1) n).log m =
      (capability env buf bLength n).log m ++
        if (m (buf + n)).toNat = 0x00 ∧ n + 6 > bLength then []
        else (capabilities env buf bLength count (n + (2 + lengthAt m buf n))).log m := by
  have hheader : ¬n + 2 > bLength := by omega
  rw [lengthAt] at hvisit ⊢
  rw [capabilities, capability, if_neg hheader]
  by_cases htype : (m (buf + n)).toNat = 0x00
  · by_cases hshort : n + 6 > bLength
    · simp [Prog.log_bind, hvisit, htype, hshort]
    · simp [Prog.log_bind, hvisit, htype, hshort]
  · simp [Prog.log_bind, hvisit, htype]

def tooShort : Effect := .print "            Warning: Descriptor too short\n" []

/-- The loop is its turns for the capabilities it visits, and perhaps a warning. -/
theorem log_capabilities : ∃ ending, (capabilities env buf bLength count n).log m =
      ((visitedFrom m buf bLength count n).flatMap fun a => (capability env buf bLength a).log m) ++
        ending ∧ ∀ e ∈ Entry.acts ending, e = tooShort := by
  induction count generalizing n with
  | zero => exact ⟨[], by simp [capabilities, visitedFrom], by simp⟩
  | succ count ih =>
      rw [visitedFrom]
      by_cases hstop : n + 2 + lengthAt m buf n > bLength
      · rw [if_pos hstop, capabilities]
        rw [lengthAt] at hstop
        by_cases hheader : n + 2 > bLength
        · refine ⟨[.act tooShort], ?_, by simp⟩
          rw [if_pos hheader]
          rfl
        · refine ⟨[.read (buf + (n + 1)), .act tooShort], ?_, by simp⟩
          rw [if_neg hheader, Prog.log_bind, Prog.result_byte]
          dsimp only
          rw [if_pos hstop]
          rfl
      · rw [if_neg hstop, log_capabilities_visit hstop, List.flatMap_cons]
        by_cases hreturn : (m (buf + n)).toNat = 0x00 ∧ n + 6 > bLength
        · exact ⟨[], by simp only [if_pos hreturn, List.flatMap_nil, List.append_nil], by simp⟩
        · obtain ⟨ending, hlog, hending⟩ := @ih (n + (2 + lengthAt m buf n))
          refine ⟨ending, ?_, hending⟩
          rw [if_neg hreturn, if_neg hreturn, hlog, List.append_assoc]

end Loop

/-- What is shown for a capability with these bytes is read from them, and the same wherever a
descriptor holds them. -/
def ShownFromOwnBytes (env : Env) (bytes : List UInt8) : Prop :=
  ∀ m buf, ∀ n ∈ visited m buf, Holds m (buf + n) bytes →
    (∀ a, .read a ∈ (capability env buf (m buf).toNat n).log m →
      buf + n ≤ a ∧ a < buf + n + bytes.length) ∧
    ∀ m' buf', ∀ n' ∈ visited m' buf', Holds m' (buf' + n') bytes →
      (capability env buf (m buf).toNat n).acts m = (capability env buf' (m' buf').toNat n').acts m'

section Shown

variable {env : Env} {m m' : Memory} {buf buf' bLength bLength' n n' : Nat} {bytes : List UInt8}

theorem blind_bitLines (value : Nat) (lines : List (Nat × String)) :
    Prog.Blind (bitLines value lines) := by
  induction lines with
  | nil => exact Prog.Blind.pure ()
  | cons line lines ih => exact (Prog.Blind.emit _).when.bind fun _ => ih

theorem acts_basicCapabilities (h : ∀ i < 6, m (buf + n + i) = m' (buf' + n' + i)) :
    (basicCapabilities env buf n).acts m = (basicCapabilities env buf' n').acts m' := by
  have hlow := h 2 (by decide)
  have hhigh := h 3 (by decide)
  have hversions := h 4 (by decide)
  have huuid := h 5 (by decide)
  simp only [Nat.add_assoc] at hlow hhigh hversions huuid
  have hword : (convertLeU16 (buf + (n + 2))).acts m = (convertLeU16 (buf' + (n' + 2))).acts m' :=
    rfl
  simp [basicCapabilities, Prog.acts_bind, Nat.add_assoc, hlow, hhigh, hversions, huuid, hword,
    (blind_bitLines _ _).acts_eq m m']

theorem capability_within (hvisit : n + 2 + lengthAt m buf n ≤ bLength)
    (h : (m (buf + n)).toNat ≠ 0x00 ∨ 4 ≤ lengthAt m buf n) :
    Prog.All (Within (buf + n) (buf + n + (2 + lengthAt m buf n)))
      (capability env buf bLength n) m := by
  by_cases htype : (m (buf + n)).toNat = 0x00
  · have hlong := h.resolve_left fun hne => hne htype
    have hfits : ¬n + 6 > bLength := by omega
    have hfields : Prog.All (Within (buf + n) (buf + n + (2 + lengthAt m buf n)))
        (basicCapabilities env buf n) m :=
      basicCapabilities_within (Nat.le_refl _) (by omega)
    simp [capability, htype, hfits]
    exact ⟨by omega, hfields⟩
  · simp [capability, htype]
    omega

theorem acts_capability (hvisit : n + 2 + lengthAt m buf n ≤ bLength)
    (hvisit' : n' + 2 + lengthAt m' buf' n' ≤ bLength')
    (h : (m (buf + n)).toNat ≠ 0x00 ∨ 4 ≤ lengthAt m buf n)
    (hsame : ∀ i < 2 + lengthAt m buf n, m (buf + n + i) = m' (buf' + n' + i)) :
    (capability env buf bLength n).acts m = (capability env buf' bLength' n').acts m' := by
  have htype : m (buf + n) = m' (buf' + n') := hsame 0 (by omega)
  have hlength : m (buf + (n + 1)) = m' (buf' + (n' + 1)) := hsame 1 (by omega)
  have hcount : lengthAt m' buf' n' = lengthAt m buf n := by rw [lengthAt, lengthAt, hlength]
  by_cases hbasic : (m (buf + n)).toNat = 0x00
  · have hlong := h.resolve_left fun hne => hne hbasic
    have hfits : ¬n + 6 > bLength := by omega
    have hfits' : ¬n' + 6 > bLength' := by omega
    have hfields := @acts_basicCapabilities env m m' buf buf' n n' fun i hi => hsame i (by omega)
    simpa [capability, ← htype, hbasic, hfits, hfits', Prog.acts_bind] using hfields
  · simp [capability, ← htype, ← hlength, hbasic, Prog.acts_bind]

def capabilityBytes (type : UInt8) (data : List UInt8) : List UInt8 :=
  type :: UInt8.ofNat data.length :: data

theorem holds_capabilityBytes {type : UInt8} {data : List UInt8} (hdata : data.length < 256)
    (h : Holds m (buf + n) (capabilityBytes type data)) :
    m (buf + n) = type ∧ lengthAt m buf n = data.length := by
  have htype := holds_getElem h (show 0 < (capabilityBytes type data).length by
    simp [capabilityBytes])
  have hlength := holds_getElem h (show 1 < (capabilityBytes type data).length by
    simp [capabilityBytes])
  refine ⟨htype, ?_⟩
  rw [lengthAt, ← Nat.add_assoc, hlength]
  simpa [capabilityBytes] using hdata

def shortDescriptor (bytes : List UInt8) : Memory := fun a => ([10, 7, 0, 1] ++ bytes).getD a 0

theorem holds_shortDescriptor (bytes : List UInt8) : Holds (shortDescriptor bytes) (0 + 4) bytes := by
  apply List.ext_getElem
  · simp
  · intro i _ hi
    have hbehind : 4 + i = i + 1 + 1 + 1 + 1 := by omega
    simp [shortDescriptor, hbehind, hi]

theorem visited_shortDescriptor {type : UInt8} {data : List UInt8} (hdata : data.length < 4) :
    4 ∈ visited (shortDescriptor (capabilityBytes type data)) 0 := by
  have hlength : lengthAt (shortDescriptor (capabilityBytes type data)) 0 4 = data.length :=
    (holds_capabilityBytes (by omega) (holds_shortDescriptor _)).2
  have hstop : ¬4 + 2 + lengthAt (shortDescriptor (capabilityBytes type data)) 0 4 > 10 := by omega
  have hvisited : visited (shortDescriptor (capabilityBytes type data)) 0 =
      visitedFrom (shortDescriptor (capabilityBytes type data)) 0 10 1 4 := rfl
  rw [hvisited, visitedFrom, if_neg hstop]
  exact List.mem_cons_self

theorem not_shownFromOwnBytes (env : Env) {data : List UInt8} (hdata : data.length < 4) :
    ¬ShownFromOwnBytes env (capabilityBytes 0 data) := by
  intro h
  have hread : .read (0 + (4 + 5)) ∈
      (capability env 0 10 4).log (shortDescriptor (capabilityBytes 0 data)) := by
    rw [Prog.mem_log_iff]
    have htype : shortDescriptor (capabilityBytes 0 data) 4 = 0 := rfl
    simp [capability, basicCapabilities, htype]
  have hreads := (h _ 0 4 (visited_shortDescriptor hdata) (holds_shortDescriptor _)).1
    (0 + (4 + 5)) hread
  rw [capabilityBytes, List.length_cons, List.length_cons] at hreads
  omega

/-- Exactly the capabilities that are not basic or have four bytes of data are shown from their
own bytes wherever they stand. -/
theorem shownFromOwnBytes_iff (env : Env) {type : UInt8} {data : List UInt8}
    (hdata : data.length < 256) :
    ShownFromOwnBytes env (capabilityBytes type data) ↔ type ≠ 0 ∨ 4 ≤ data.length := by
  constructor
  · intro h
    by_contra hshort
    obtain ⟨hbasic, hlt⟩ := not_or.mp hshort
    obtain rfl : type = 0 := Decidable.not_not.mp hbasic
    exact not_shownFromOwnBytes env (Nat.not_le.mp hlt) h
  · intro hgood m buf n hn hbytes
    have hlength : (capabilityBytes type data).length = 2 + data.length := by
      rw [capabilityBytes, List.length_cons, List.length_cons]
      omega
    obtain ⟨htype, hcount⟩ := holds_capabilityBytes hdata hbytes
    have hvisit := visitedFrom_inside n hn
    have hown : (m (buf + n)).toNat ≠ 0x00 ∨ 4 ≤ lengthAt m buf n := by
      rw [htype, hcount]
      exact hgood.imp_left fun hne hzero => hne (UInt8.toNat_inj.mp hzero)
    constructor
    · intro a ha
      have hwithin := capability_within hvisit hown (.read a) ha
      rwa [within_read, hcount, ← hlength] at hwithin
    · intro m' buf' n' hn' hbytes'
      apply acts_capability hvisit (visitedFrom_inside n' hn') hown
      intro i hi
      have hi' : i < (capabilityBytes type data).length := by omega
      rw [holds_getElem hbytes hi', holds_getElem hbytes' hi']

def headerFields (buf bLength : Nat) : Dump Nat := do
  print "        IPP Printer Descriptor:\n" []
  print "          bLength             %5u\n" [.num bLength]
  print "          bDescriptorType     %5u\n" [← u8 (buf + 1)]
  print "          bcdReleaseNumber    %5u\n" [← u8 (buf + 2)]
  let bcdNumDescriptors ← Prog.byte (buf + 3)
  print "          bcdNumDescriptors   %5u\n" [.num bcdNumDescriptors]
  return bcdNumDescriptors

theorem log_dumpPrinterDevice {interface : InterfaceDescriptor}
    (hipp : interface.bInterfaceProtocol = 0x04) (m : Memory) (buf : Nat) : ∃ header ending,
    (dumpPrinterDevice env interface buf).log m = header ++
      ((visited m buf).flatMap fun n => (capability env buf (m buf).toNat n).log m) ++ ending ∧
    (∀ a, .read a ∈ header → buf ≤ a ∧ a < buf + 4) ∧
    ∀ e ∈ Entry.acts ending, e = tooShort := by
  by_cases hshort : (m buf).toNat < 4
  · have hnone : visited m buf = [] := by
      rw [visited]
      cases (m (buf + 3)).toNat with
      | zero => rfl
      | succ count => exact if_pos (by omega)
    refine ⟨(dumpPrinterDevice env interface buf).log m, [], ?_, ?_, by simp⟩
    · rw [hnone, List.flatMap_nil, List.append_nil, List.append_nil]
    · intro a ha
      have hwithin : Prog.All (Within buf (buf + 4)) (dumpPrinterDevice env interface buf) m := by
        simp [dumpPrinterDevice, hshort]
      exact hwithin (.read a) ha
  · obtain ⟨ending, hlog, hending⟩ := @log_capabilities env m buf (m buf).toNat
      (m (buf + 3)).toNat 4
    have hdump : (dumpPrinterDevice env interface buf).log m = .read buf ::
        ((headerFields buf (m buf).toNat).log m ++
          (capabilities env buf (m buf).toNat (m (buf + 3)).toNat 4).log m) := by
      rw [dumpPrinterDevice, Prog.when, if_pos hipp]
      simp [headerFields, Prog.log_bind, hshort]
    refine ⟨.read buf :: (headerFields buf (m buf).toNat).log m, ending, ?_, ?_, hending⟩
    · rw [hdump, hlog, List.cons_append, List.cons_append, List.append_assoc]
      rfl
    · intro a ha
      have hwithin : Prog.All (Within buf (buf + 4)) (headerFields buf (m buf).toNat) m := by
        simp [headerFields]
      rcases List.mem_cons.mp ha with ha | ha
      · cases ha
        omega
      · exact hwithin (.read a) ha

end Shown

end Printer

/-- The loop over the capabilities visits them one behind the other inside the descriptor, and
what it shows for one is read from that capability's own bytes, and is the same in all
descriptors, exactly if it is no basic capability or has at least four bytes of data. -/
theorem dumpPrinterDevice_capabilities (env : Env) (interface : InterfaceDescriptor)
    (hipp : interface.bInterfaceProtocol = 0x04) :
    (∀ m buf, (∃ header ending, (dumpPrinterDevice env interface buf).log m = header ++
        ((Printer.visited m buf).flatMap fun n =>
          (Printer.capability env buf (m buf).toNat n).log m) ++ ending ∧
        (∀ a, .read a ∈ header → buf ≤ a ∧ a < buf + 4) ∧
        ∀ e ∈ Entry.acts ending, e = Printer.tooShort) ∧
      (∀ n ∈ (Printer.visited m buf).head?, n = 4) ∧
      ((Printer.visited m buf).IsChain fun a b => b = a + 2 + Printer.lengthAt m buf a) ∧
      ∀ n ∈ Printer.visited m buf, n + 2 + Printer.lengthAt m buf n ≤ (m buf).toNat) ∧
    ∀ (type : UInt8) (data : List UInt8), data.length < 256 →
      (Printer.ShownFromOwnBytes env (Printer.capabilityBytes type data) ↔
        type ≠ 0 ∨ 4 ≤ data.length) := by
  refine ⟨fun m buf => ?_, fun type data hdata => Printer.shownFromOwnBytes_iff env hdata⟩
  exact ⟨Printer.log_dumpPrinterDevice hipp m buf, Printer.head?_visitedFrom,
    Printer.visitedFrom_consecutive, Printer.visitedFrom_inside⟩

def ippInterface : InterfaceDescriptor := { (default : InterfaceDescriptor) with
  bInterfaceProtocol := 0x04 }

theorem dumpPrinterDevice_capabilities_basic :
    Printer.ShownFromOwnBytes default (Printer.capabilityBytes 0 [3, 0, 1, 2]) ↔
      (0 : UInt8) ≠ 0 ∨ 4 ≤ ([3, 0, 1, 2] : List UInt8).length :=
  (dumpPrinterDevice_capabilities default ippInterface rfl).2 0 [3, 0, 1, 2] (by decide)

/-- A basic capability without data is not shown from its two bytes. -/
theorem dumpPrinterDevice_emptyBasic :
    4 ∈ Printer.visited (Printer.shortDescriptor [0, 0]) 0 ∧
      ¬Printer.ShownFromOwnBytes default (Printer.capabilityBytes 0 []) :=
  ⟨by decide, Printer.not_shownFromOwnBytes default (by decide)⟩

end Usbutils
