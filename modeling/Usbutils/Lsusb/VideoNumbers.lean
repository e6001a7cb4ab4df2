import Usbutils.Lib.LittleEndian
import Usbutils.Lsusb.VideoStreaming

/-! The numbers of several bytes that `dump_videostreaming_interface` displays, and which of
their bytes it takes them from. -/
namespace Usbutils
open ByteProg

section Results

variable {m : Memory} {format : String} {args : List Arg}

theorem dumpJunk_avoids (hformat : ∀ f ∈ ["%sjunk at descriptor end:", " %02x", "\n"], f ≠ format)
    (buf : Nat) (indent : String) (len : Nat) :
    Prog.All (Avoids (.print format args)) (dumpJunk buf indent len) m := by
  simp only [List.mem_cons, List.not_mem_nil, or_false, forall_eq_or_imp, forall_eq] at hformat
  simp [dumpJunk, Prog.all_loop_iff, Prog.result_loop, hformat]

theorem result_le16_leValue (a : Nat) : (le16 a).result m = .ok (.num (leValue m a 2)) := by
  rw [result_le16, leValue_two]

theorem result_le32_leValue (a : Nat) : (le32 a).result m = .ok (.num (leValue m a 4)) := by
  rw [result_le32, leValue_four]

end Results

namespace VideoStreaming

/-- A number of the descriptor: the line it is displayed with, the arguments before it, and
its bytes. -/
structure NumberField where
  format : String
  index : List Arg
  address : Nat
  size : Nat

def NumberField.Displayed (field : NumberField) (m : Memory) (acts : List Effect) : Prop :=
  ∀ v, .print field.format (field.index ++ [.num v]) ∈ acts ↔ v = leValue m field.address field.size

def inputControls : String := "        bmaControls(%2u)                 %5u\n"
def outputControls : String := "        bmaControls(%2u)             %5u\n"
def packetLength : String := "        dwPacketLength                %7u\n"

/-- The control bitmaps of a header, as far as they are numbers of two to four bytes. -/
def controlFields (buf base formats size : Nat) (format : String) : List NumberField :=
  if 2 ≤ size ∧ size ≤ 4 then
    (List.range formats).map fun i => ⟨format, [.num i], buf + (base + i * size), size⟩
  else []

def patternFields (buf patterns : Nat) : List NumberField :=
  (List.range patterns).flatMap fun i =>
    [⟨"        wWidth(%2u)                      %5u\n", [.num i], buf + (5 + 4 * i), 2⟩,
      ⟨"        wHeight(%2u)                     %5u\n", [.num i], buf + (7 + 4 * i), 2⟩]

def frameFields (buf : Nat) : List NumberField :=
  [⟨"        wWidth                          %5u\n", [], buf + 5, 2⟩,
    ⟨"        wHeight                         %5u\n", [], buf + 7, 2⟩,
    ⟨"        dwMinBitRate                %9u\n", [], buf + 9, 4⟩,
    ⟨"        dwMaxBitRate                %9u\n", [], buf + 13, 4⟩]

def intervalFields (buf intervals : Nat) : List NumberField :=
  if intervals = 0 then
    [⟨"        dwMinFrameInterval          %9u\n", [], buf + 26, 4⟩,
      ⟨"        dwMaxFrameInterval          %9u\n", [], buf + 30, 4⟩,
      ⟨"        dwFrameIntervalStep         %9u\n", [], buf + 34, 4⟩]
  else (List.range intervals).map fun i =>
    ⟨"        dwFrameInterval(%2u)         %9u\n", [.num i], buf + (26 + 4 * i), 4⟩

/-- The numbers of two to four bytes in a descriptor of each subtype. -/
def numberFields (m : Memory) (buf : Nat) : Nat → List NumberField
  | 0x01 => ⟨"        wTotalLength                   0x%04x\n", [], buf + 4, 2⟩ ::
      controlFields buf 13 (m (buf + 3)).toNat (m (buf + 12)).toNat inputControls
  | 0x02 => ⟨"        wTotalLength               0x%04x\n", [], buf + 4, 2⟩ ::
      controlFields buf 9 (m (buf + 3)).toNat (m (buf + 8)).toNat outputControls
  | 0x03 => patternFields buf (m (buf + 4)).toNat
  | 0x05 | 0x07 => frameFields buf ++
      [⟨"        dwMaxVideoFrameBufferSize   %9u\n", [], buf + 17, 4⟩,
        ⟨"        dwDefaultFrameInterval      %9u\n", [], buf + 21, 4⟩] ++
      intervalFields buf (m (buf + 25)).toNat
  | 0x11 => frameFields buf ++
      [⟨"        dwDefaultFrameInterval      %9u\n", [], buf + 17, 4⟩,
        ⟨"        dwBytesPerLine              %9u\n", [], buf + 22, 4⟩] ++
      intervalFields buf (m (buf + 21)).toNat
  | 0x12 => [⟨packetLength, [], buf + 20, 4⟩]
  | _ => []

def leastLength (m : Memory) (buf : Nat) : Nat → Nat
  | 0x01 => 13 + (m (buf + 3)).toNat * (m (buf + 12)).toNat
  | 0x02 => 9 + (m (buf + 3)).toNat * (m (buf + 8)).toNat
  | 0x03 => 6 + 4 * (m (buf + 4)).toNat + (m (buf + (5 + 4 * (m (buf + 4)).toNat))).toNat
  | 0x04 => 27
  | 0x10 => 28
  | 0x05 | 0x07 => frameLength (m (buf + 25)).toNat
  | 0x11 => frameLength (m (buf + 21)).toNat
  | 0x06 => 11
  | 0x0a => 7
  | 0x0d => 6
  | 0x12 => 24
  | _ => 3

structure NumberOf (m : Memory) (buf : Nat) (field : NumberField) : Prop where
  length : leastLength m buf (m (buf + 2)).toNat ≤ (m buf).toNat
  mem : field ∈ numberFields m buf (m (buf + 2)).toNat

def firstByteOnly : List String := [inputControls, outputControls, packetLength]

def NumberField.taken (field : NumberField) (m : Memory) : Nat :=
  if field.format ∈ firstByteOnly then (m field.address).toNat
  else leValue m field.address field.size

section Numbers

variable {m : Memory} {buf bLength : Nat} {field : NumberField}

theorem mem_controlFields {base formats size : Nat} {format : String}
    (h : field ∈ controlFields buf base formats size format) :
    ∃ i < formats, field = ⟨format, [.num i], buf + (base + i * size), size⟩ := by
  unfold controlFields at h
  split at h
  · obtain ⟨i, hi, rfl⟩ := List.mem_map.mp h
    exact ⟨i, List.mem_range.mp hi, rfl⟩
  · cases h

/-- The decoder takes each field of a subtype in the way of its line. -/
def TakesAll (m : Memory) (fields : List NumberField) (p : Dump Unit) : Prop :=
  ∀ field ∈ fields, ∀ v,
    .print field.format (field.index ++ [.num v]) ∈ p.acts m ↔ v = field.taken m

theorem inputHeader_takes (hlength : leastLength m buf 0x01 ≤ bLength) :
    TakesAll m (numberFields m buf 0x01) (inputHeader buf bLength) := by
  rw [leastLength] at hlength
  have hbase : 13 ≤ bLength := by omega
  intro field hfield v
  rw [numberFields, List.mem_cons] at hfield
  rw [mem_acts_iff_avoids, @eq_comm _ v]
  rcases hfield with rfl | hfield
  · simp [NumberField.taken, firstByteOnly, inputControls, outputControls, packetLength,
      inputHeader, guardLength, hlength, hbase, endpointArgs, leValue_two, dumpJunk_avoids,
      Prog.all_loop_iff, Prog.result_loop]
  · obtain ⟨i, hi, rfl⟩ := mem_controlFields hfield
    simp [NumberField.taken, firstByteOnly, inputControls,
      inputHeader, guardLength, hlength, hbase, endpointArgs, dumpJunk_avoids,
      Prog.all_loop_iff, Prog.result_loop, hi]

theorem outputHeader_takes (hlength : leastLength m buf 0x02 ≤ bLength) :
    TakesAll m (numberFields m buf 0x02) (outputHeader buf bLength) := by
  rw [leastLength] at hlength
  have hbase : 9 ≤ bLength := by omega
  intro field hfield v
  rw [numberFields, List.mem_cons] at hfield
  rw [mem_acts_iff_avoids, @eq_comm _ v]
  rcases hfield with rfl | hfield
  · simp [NumberField.taken, firstByteOnly, inputControls, outputControls, packetLength,
      outputHeader, guardLength, hlength, hbase, endpointArgs, leValue_two, dumpJunk_avoids,
      Prog.all_loop_iff, Prog.result_loop]
  · obtain ⟨i, hi, rfl⟩ := mem_controlFields hfield
    simp [NumberField.taken, firstByteOnly, outputControls,
      outputHeader, guardLength, hlength, hbase, endpointArgs, dumpJunk_avoids,
      Prog.all_loop_iff, Prog.result_loop, hi]

theorem stillImageFrame_takes (hlength : leastLength m buf 0x03 ≤ bLength) :
    TakesAll m (numberFields m buf 0x03) (stillImageFrame buf bLength) := by
  rw [leastLength] at hlength
  have hbase : 5 ≤ bLength ∧ 6 + 4 * (m (buf + 4)).toNat ≤ bLength := by omega
  intro field hfield v
  rw [numberFields, patternFields, List.mem_flatMap] at hfield
  obtain ⟨i, hi, hfield⟩ := hfield
  rw [List.mem_range] at hi
  simp only [List.mem_cons, List.not_mem_nil, or_false] at hfield
  rw [mem_acts_iff_avoids, @eq_comm _ v]
  rcases hfield with rfl | rfl <;>
    simp [NumberField.taken, firstByteOnly, inputControls, outputControls, packetLength,
      stillImageFrame, guardLength, hlength, hbase, endpointArgs, leValue_two, dumpJunk_avoids,
      Prog.all_loop_iff, Prog.result_loop, hi]

theorem formatStreamBased_takes (hlength : leastLength m buf 0x12 ≤ bLength) :
    TakesAll m (numberFields m buf 0x12) (formatStreamBased buf bLength) := by
  rw [leastLength] at hlength
  intro field hfield v
  rw [numberFields, List.mem_singleton] at hfield
  subst hfield
  rw [mem_acts_iff_avoids, @eq_comm _ v]
  simp [NumberField.taken, firstByteOnly, packetLength, formatStreamBased, guardLength, hlength,
    getGuid, dumpJunk_avoids]

theorem mem_intervalFields {intervals : Nat} (h : field ∈ intervalFields buf intervals) :
    (intervals = 0 ∧ (field = ⟨"        dwMinFrameInterval          %9u\n", [], buf + 26, 4⟩ ∨
      field = ⟨"        dwMaxFrameInterval          %9u\n", [], buf + 30, 4⟩ ∨
      field = ⟨"        dwFrameIntervalStep         %9u\n", [], buf + 34, 4⟩)) ∨
    intervals ≠ 0 ∧ ∃ i < intervals,
      field = ⟨"        dwFrameInterval(%2u)         %9u\n", [.num i], buf + (26 + 4 * i), 4⟩ := by
  unfold intervalFields at h
  split at h
  · next hzero => exact .inl ⟨hzero, by simpa using h⟩
  · next hzero =>
      obtain ⟨i, hi, rfl⟩ := List.mem_map.mp h
      exact .inr ⟨hzero, i, List.mem_range.mp hi, rfl⟩

theorem frame_takes {subtype : Nat} (hsubtype : subtype = 0x05 ∨ subtype = 0x07 ∨ subtype = 0x11)
    (hlength : leastLength m buf subtype ≤ bLength) :
    TakesAll m (numberFields m buf subtype) (frame buf bLength subtype) := by
  have hbase : 26 ≤ bLength := by
    rcases hsubtype with rfl | rfl | rfl <;> exact Nat.le_trans (le_frameLength _) hlength
  have hcount : 22 ≤ bLength := by omega
  intro field hfield v
  rw [mem_acts_iff_avoids, @eq_comm _ v]
  rcases hsubtype with rfl | rfl | rfl <;> rw [leastLength] at hlength
  all_goals
    simp only [numberFields, frameFields, List.cons_append, List.nil_append,
      List.mem_cons] at hfield
    -- the run is computed once, for a field with any line
    simp [frame, guardLength, hlength, hbase, hcount, -result_le16, -result_le32,
      result_le16_leValue, result_le32_leValue]
    rcases hfield with rfl | rfl | rfl | rfl | rfl | rfl | hinterval
    iterate 6
      simp [NumberField.taken, firstByteOnly, inputControls, outputControls, packetLength,
        frameIntervals, dumpJunk_avoids, Prog.all_loop_iff, Prog.result_loop]
    rcases mem_intervalFields hinterval with ⟨hzero, hfield⟩ | ⟨hzero, i, hi, rfl⟩
    · rcases hfield with rfl | rfl | rfl <;>
        simp [NumberField.taken, firstByteOnly, inputControls, outputControls, packetLength,
          frameIntervals, hzero, -result_le32, result_le32_leValue, dumpJunk_avoids]
    · simp [NumberField.taken, firstByteOnly, inputControls, outputControls, packetLength,
        frameIntervals, hzero, hi, -result_le32, result_le32_leValue, dumpJunk_avoids,
        Prog.all_loop_iff, Prog.result_loop]

theorem subtypeDump_takes {subtype : Nat} (hlength : leastLength m buf subtype ≤ bLength) :
    TakesAll m (numberFields m buf subtype) (subtypeDump buf bLength subtype) := by
  unfold subtypeDump
  split
  · exact inputHeader_takes hlength
  · exact outputHeader_takes hlength
  · exact stillImageFrame_takes hlength
  · nofun
  · nofun
  · exact frame_takes (.inl rfl) hlength
  · exact frame_takes (.inr (.inl rfl)) hlength
  · exact frame_takes (.inr (.inr rfl)) hlength
  · nofun
  · nofun
  · nofun
  · exact formatStreamBased_takes hlength
  · next h₁ h₂ h₃ _ _ h₅ h₇ h₁₁ _ _ _ h₁₂ =>
      have hnone : numberFields m buf subtype = [] := by
        unfold numberFields
        split <;> first | contradiction | rfl
      rw [hnone]
      nofun

def headings : List String := [
  "      Warning: Invalid descriptor\n", "      VideoStreaming Interface Descriptor:\n",
  "        bLength                         %5u\n", "        bDescriptorType                 %5u\n",
  "        bDescriptorSubtype              %5u "]

def NumberField.Wide (field : NumberField) : Prop :=
  field.format ∉ headings ∧ 2 ≤ field.size

theorem wide_mk {format : String} {index : List Arg} {address size : Nat}
    (hformat : format ∉ headings) (hsize : 2 ≤ size) :
    NumberField.Wide ⟨format, index, address, size⟩ := ⟨hformat, hsize⟩

theorem controlFields_wide {base formats size : Nat} {format : String}
    (hformat : format ∉ headings) :
    ∀ field ∈ controlFields buf base formats size format, field.Wide := by
  unfold controlFields
  split
  · next hsize =>
      intro field hfield
      obtain ⟨i, -, rfl⟩ := List.mem_map.mp hfield
      exact ⟨hformat, hsize.1⟩
  · nofun

theorem patternFields_wide {patterns : Nat} :
    ∀ field ∈ patternFields buf patterns, field.Wide := by
  intro field hfield
  obtain ⟨i, -, hfield⟩ := List.mem_flatMap.mp hfield
  simp only [List.mem_cons, List.not_mem_nil, or_false] at hfield
  rcases hfield with rfl | rfl <;> exact wide_mk (by decide) (by decide)

theorem frameFields_wide {intervals first second : Nat} {firstLine secondLine : String}
    (hfirst : firstLine ∉ headings) (hsecond : secondLine ∉ headings) :
    ∀ field ∈ frameFields buf ++ [⟨firstLine, [], first, 4⟩, ⟨secondLine, [], second, 4⟩] ++
      intervalFields buf intervals, field.Wide := by
  have hintervals : ∀ field ∈ intervalFields buf intervals, field.Wide := by
    intro field hfield
    rcases mem_intervalFields hfield with ⟨-, rfl | rfl | rfl⟩ | ⟨-, i, -, rfl⟩ <;>
      exact wide_mk (by decide) (by decide)
  rw [List.forall_mem_append, List.forall_mem_append]
  refine ⟨⟨?_, ?_⟩, hintervals⟩
  · simp only [frameFields, List.forall_mem_cons]
    exact ⟨wide_mk (by decide) (by decide), wide_mk (by decide) (by decide),
      wide_mk (by decide) (by decide), wide_mk (by decide) (by decide), nofun⟩
  · simp only [List.forall_mem_cons]
    exact ⟨wide_mk hfirst (by decide), wide_mk hsecond (by decide), nofun⟩

theorem numberFields_wide (subtype : Nat) : ∀ field ∈ numberFields m buf subtype, field.Wide := by
  unfold numberFields
  split
  · exact List.forall_mem_cons.mpr ⟨wide_mk (by decide) (by decide), controlFields_wide (by decide)⟩
  · exact List.forall_mem_cons.mpr ⟨wide_mk (by decide) (by decide), controlFields_wide (by decide)⟩
  · exact patternFields_wide
  · exact frameFields_wide (by decide) (by decide)
  · exact frameFields_wide (by decide) (by decide)
  · exact frameFields_wide (by decide) (by decide)
  · exact List.forall_mem_singleton.mpr (wide_mk (by decide) (by decide))
  · nofun

theorem three_le_leastLength (m : Memory) (buf subtype : Nat) : 3 ≤ leastLength m buf subtype := by
  have hframe := fun intervals => Nat.le_trans (by decide : 3 ≤ 26) (le_frameLength intervals)
  unfold leastLength
  split <;> first | exact hframe _ | omega

theorem dumpVideostreamingInterface_takes (h : NumberOf m buf field) (v : Nat) :
    .print field.format (field.index ++ [.num v]) ∈ (dumpVideostreamingInterface buf).acts m ↔
      v = field.taken m := by
  have hlong : 3 ≤ (m buf).toNat := Nat.le_trans (three_le_leastLength ..) h.length
  have hheadings := (numberFields_wide _ field h.mem).1
  simp only [headings, List.mem_cons, List.not_mem_nil, or_false, not_or] at hheadings
  obtain ⟨hinvalid, htitle, hlen, htype, hsub⟩ := hheadings
  rw [← subtypeDump_takes h.length field h.mem v, mem_acts_iff_avoids, mem_acts_iff_avoids]
  simp [dumpVideostreamingInterface, checkType, guardLength, hlong, Ne.symm hinvalid,
    Ne.symm htitle, Ne.symm hlen, Ne.symm htype, Ne.symm hsub]

/-- Every field is displayed in full, but for the lines that are printed with one byte: there all
bytes behind the first have to be zero. -/
theorem dumpVideostreamingInterface_numbers (h : NumberOf m buf field) :
    field.Displayed m ((dumpVideostreamingInterface buf).acts m) ↔
      (field.format ∈ firstByteOnly → ∀ i < field.size, 0 < i → m (field.address + i) = 0) := by
  have hshown : field.Displayed m ((dumpVideostreamingInterface buf).acts m) ↔
      field.taken m = leValue m field.address field.size := by
    simp only [NumberField.Displayed, dumpVideostreamingInterface_takes h]
    exact ⟨fun hall => (hall _).mp rfl, fun heq v => by rw [heq]⟩
  have hsize := (numberFields_wide _ field h.mem).2
  rw [hshown, NumberField.taken]
  by_cases hformat : field.format ∈ firstByteOnly
  · obtain ⟨n, hn⟩ : ∃ n, field.size = n + 1 := ⟨field.size - 1, by omega⟩
    have hrest : (m field.address).toNat =
        (m field.address).toNat + 256 * leValue m (field.address + 1) n ↔
        leValue m (field.address + 1) n = 0 := by omega
    rw [if_pos hformat, hn, leValue_succ, hrest, leValue_eq_zero]
    constructor
    · intro hzero _ i hi hpos
      have hbyte := hzero (i - 1) (by omega)
      rwa [show field.address + 1 + (i - 1) = field.address + i by omega] at hbyte
    · intro hzero k hk
      have hbyte := hzero hformat (k + 1) (by omega) (Nat.succ_pos k)
      rwa [Nat.add_comm k 1, ← Nat.add_assoc] at hbyte
  · rw [if_neg hformat]
    exact iff_of_true rfl fun h => absurd h hformat

theorem NumberField.Displayed.differ {m' : Memory} {field' : NumberField} {acts acts' : List Effect}
    (h : field.Displayed m acts) (h' : field'.Displayed m' acts') (hsize : field'.size = field.size)
    {k : Nat} (hk : k < field.size) (hbyte : m (field.address + k) ≠ m' (field'.address + k))
    (v : Nat) :
    ¬(.print field.format (field.index ++ [.num v]) ∈ acts ∧
      .print field'.format (field'.index ++ [.num v]) ∈ acts') := by
  rintro ⟨hshown, hshown'⟩
  have heq := ((h v).mp hshown).symm.trans ((h' v).mp hshown')
  rw [hsize, leValue_inj] at heq
  exact hbyte (heq k hk)

def packets256 : Memory :=
  fun a => [24, 0x24, 0x12, 1, 0, 0, 0, 0, 0, 0, 0, 0, 0, 0, 0, 0, 0, 0, 0, 0, 0, 1, 0, 0].getD a 0

def packets256Length : NumberField := ⟨packetLength, [], 20, 4⟩

/-- The packet length is displayed as 0. -/
theorem dumpVideostreamingInterface_packets256 :
    NumberOf packets256 0 packets256Length ∧ leValue packets256 20 4 = 256 ∧
      .print packetLength [.num 0] ∈ (dumpVideostreamingInterface 0).acts packets256 ∧
      ¬packets256Length.Displayed packets256 ((dumpVideostreamingInterface 0).acts packets256) := by
  have hshown : .print packetLength [.num 0] ∈ (dumpVideostreamingInterface 0).acts packets256 := by
    decide +kernel
  refine ⟨⟨by decide, List.mem_singleton.mpr rfl⟩, by decide, hshown, ?_⟩
  intro hdisplayed
  have hzero := (hdisplayed 0).mp hshown
  revert hzero
  decide

theorem dumpVideostreamingInterface_numbers_packets256 :
    ¬packets256Length.Displayed packets256 ((dumpVideostreamingInterface 0).acts packets256) := by
  intro hshown
  have hzero := (dumpVideostreamingInterface_numbers
    ⟨by decide, List.mem_singleton.mpr rfl⟩).mp hshown
  revert hzero
  decide

end Numbers

end VideoStreaming

end Usbutils
