import Usbutils.Lsusb.Junk
import Usbutils.Lsusb.Audio
import Usbutils.Lsusb.VideoControl

/-! Whether the decoders of the AudioStreaming formats and of VideoControl show each byte of a
descriptor: what they take for their fields and where `dump_junk` begins. -/
namespace Usbutils
open ByteProg

section Decoders

variable {env : Env} {m : Memory} {buf i : Nat}

theorem bitNames_all {E : Entry Effect → Prop} (hlookup : ∀ i n, E (.act (.lookup i n)))
    (hprint : ∀ args, E (.act (.print "          %s\n" args))) (table : StringTable)
    (count value : Nat) : Prog.All E (bitNames table count value) m := by
  apply Prog.all_loop
  intro i _
  simp [hlookup, hprint]

theorem bitLines_all {E : Entry Effect → Prop} (value : Nat) (lines : List (Nat × String))
    (hprint : ∀ line ∈ lines, E (.act (.print line.2 []))) :
    Prog.All E (bitLines value lines) m := by
  induction lines with
  | nil => simp [bitLines]
  | cons line rest ih =>
      simp [bitLines, hprint line (List.mem_cons_self ..),
        ih fun l hl => hprint l (List.mem_cons_of_mem _ hl)]

namespace VideoControl

theorem shiftIn_quiet (addresses : List Nat) (ctrls : Nat) :
    Prog.All Quiet (shiftIn addresses ctrls) m :=
  (all_shiftIn addresses ctrls).mpr fun a _ => quiet_read a

theorem mem_bitmapTail {stop size a : Nat} (h : size ≤ stop) :
    a ∈ bitmapTail stop size ↔ stop - min 3 size ≤ a ∧ a < stop := by
  simp only [bitmapTail, List.mem_map, List.mem_range]
  constructor
  · rintro ⟨i, hi, rfl⟩
    omega
  · intro ha
    exact ⟨stop - 1 - a, by omega, by omega⟩

theorem bitmapTail_unread {stop size a : Nat} (ctrls : Nat) (h : size ≤ stop) :
    Prog.All (Unread a) (shiftIn (bitmapTail stop size) ctrls) m ↔
      ¬(stop - min 3 size ≤ a ∧ a < stop) := by
  rw [all_shiftIn, ← mem_bitmapTail h]
  simp only [unread_read]
  exact List.forall_mem_ne'

theorem header_splits (h : LongEnough (header buf (m buf).toNat) m) :
    SplitsAt (header buf (m buf).toNat) m buf 3 (12 + (m (buf + 11)).toNat) := by
  obtain ⟨hlen, hrest⟩ := (h.bind (result_print ..)).guard
  obtain ⟨hlong, -⟩ := (hrest.bind (Prog.result_byte ..)).guard
  constructor
  · intro i hi
    simp [header, guardLength_pass hlen, guardLength_pass hlong, Prog.all_loop_iff,
      Prog.result_loop, exists_shifted]
    omega
  · intro i
    simp [header, guardLength_pass hlen, guardLength_pass hlong, Prog.all_loop_iff,
      Prog.result_loop]

theorem cameraTerminal_long {protocol : Nat}
    (h : LongEnough (cameraTerminal buf (m buf).toNat protocol) m) :
    15 + (m (buf + 14)).toNat ≤ (m buf).toNat := by
  obtain ⟨hlen, -⟩ := (h.bind (Prog.result_byte ..)).guard
  omega

theorem cameraTerminal_parts {protocol : Nat}
    (h : LongEnough (cameraTerminal buf (m buf).toNat protocol) m) :
    Parts (cameraTerminal buf (m buf).toNat protocol) m buf 3
      (fun i => 8 ≤ i ∧ i < 15 ∨
        15 + ((m (buf + 14)).toNat - 3) ≤ i ∧ i < 15 + (m (buf + 14)).toNat)
      (fun i => 15 + (m (buf + 14)).toNat ≤ i ∧ i < (m buf).toNat) := by
  obtain ⟨hlen, -⟩ := (h.bind (Prog.result_byte ..)).guard
  have htail (a : Nat) := @bitmapTail_unread m (buf + (8 + (7 + (m (buf + 14)).toNat)))
    (m (buf + 14)).toNat a 0 (by omega)
  constructor
  · intro i hi
    simp [cameraTerminal, guardLength_pass hlen, htail, bitNames_all, shiftIn_quiet]
    omega
  · intro i
    simp [cameraTerminal, guardLength_pass hlen, bitNames_all, shiftIn_quiet]
    omega

theorem inputTerminal_long {protocol : Nat}
    (h : LongEnough (inputTerminal env buf (m buf).toNat protocol) m) : 8 ≤ (m buf).toNat :=
  (h.bind (result_print ..)).guard.1

theorem inputTerminal_camera {protocol : Nat}
    (h : LongEnough (inputTerminal env buf (m buf).toNat protocol) m)
    (hcamera : (m (buf + 4)).toNat ||| (m (buf + 5)).toNat <<< 8 = 0x0201) :
    15 ≤ (m buf).toNat ∧ LongEnough (cameraTerminal buf (m buf).toNat protocol) m := by
  obtain ⟨-, hrest⟩ := (h.bind (result_print ..)).guard
  obtain ⟨hlong, hrest⟩ := ((hrest.bind (Prog.result_byte ..)).bind (result_convertLeU16 ..)).guard
  simp only [hcamera, if_true] at hlong hrest
  apply And.intro hlong
  rw [longEnough_iff] at hrest ⊢
  simpa using hrest

theorem inputTerminal_parts {protocol : Nat}
    (h : LongEnough (inputTerminal env buf (m buf).toNat protocol) m)
    (hcamera : (m (buf + 4)).toNat ||| (m (buf + 5)).toNat <<< 8 = 0x0201) :
    Parts (inputTerminal env buf (m buf).toNat protocol) m buf 3
      (fun i => i < 15 ∨
        15 + ((m (buf + 14)).toNat - 3) ≤ i ∧ i < 15 + (m (buf + 14)).toNat)
      (fun i => 15 + (m (buf + 14)).toNat ≤ i ∧ i < (m buf).toNat) := by
  obtain ⟨hlong, htail⟩ := inputTerminal_camera h hcamera
  have hparts := cameraTerminal_parts htail
  constructor
  · intro i hi
    simp [inputTerminal, guardLength_pass (inputTerminal_long h), guardLength_pass hlong, hcamera,
      hparts.decodes i hi]
    omega
  · intro i
    simp [inputTerminal, guardLength_pass (inputTerminal_long h), guardLength_pass hlong, hcamera,
      hparts.reports i]

theorem inputTerminal_splits {protocol : Nat}
    (h : LongEnough (inputTerminal env buf (m buf).toNat protocol) m)
    (hcamera : (m (buf + 4)).toNat ||| (m (buf + 5)).toNat <<< 8 ≠ 0x0201) :
    SplitsAt (inputTerminal env buf (m buf).toNat protocol) m buf 3 8 := by
  have hlen := inputTerminal_long h
  constructor
  · intro i hi
    simp [inputTerminal, guardLength_pass hlen, hcamera]
    omega
  · intro i
    simp [inputTerminal, guardLength_pass hlen, hcamera]

theorem outputTerminal_splits (h : LongEnough (outputTerminal env buf (m buf).toNat) m) :
    SplitsAt (outputTerminal env buf (m buf).toNat) m buf 3 9 := by
  obtain ⟨hlen, -⟩ := (h.bind (result_print ..)).guard
  constructor
  · intro i hi
    simp [outputTerminal, guardLength_pass hlen]
    omega
  · intro i
    simp [outputTerminal, guardLength_pass hlen]

theorem selectorUnit_splits (h : LongEnough (selectorUnit env buf (m buf).toNat) m) :
    SplitsAt (selectorUnit env buf (m buf).toNat) m buf 3 (6 + (m (buf + 4)).toNat) := by
  obtain ⟨hlen, hrest⟩ := (h.bind (result_print ..)).guard
  obtain ⟨hlong, -⟩ := (hrest.bind (Prog.result_byte ..)).guard
  constructor
  · intro i hi
    simp [selectorUnit, guardLength_pass hlen, guardLength_pass hlong, Prog.all_loop_iff,
      Prog.result_loop, exists_shifted]
    omega
  · intro i
    simp [selectorUnit, guardLength_pass hlen, guardLength_pass hlong, Prog.all_loop_iff,
      Prog.result_loop]

theorem processingUnit_long {protocol : Nat}
    (h : LongEnough (processingUnit env buf (m buf).toNat protocol) m) :
    8 ≤ (m buf).toNat ∧ 10 + (m (buf + 7)).toNat ≤ (m buf).toNat := by
  obtain ⟨hlen, hrest⟩ := (h.bind (result_print ..)).guard
  exact ⟨hlen, (hrest.bind (Prog.result_byte ..)).guard.1⟩

theorem processingUnit_parts {protocol : Nat}
    (h : LongEnough (processingUnit env buf (m buf).toNat protocol) m) :
    Parts (processingUnit env buf (m buf).toNat protocol) m buf 3
      (fun i => i < 8 ∨ 8 + ((m (buf + 7)).toNat - 3) ≤ i ∧ i < 10 + (m (buf + 7)).toNat)
      (fun _ => False) := by
  obtain ⟨hlen, hlong⟩ := processingUnit_long h
  have htail (a : Nat) := @bitmapTail_unread m (buf + (8 + (m (buf + 7)).toNat))
    (m (buf + 7)).toNat a 0 (by omega)
  constructor
  · intro i hi
    simp [processingUnit, decodes_of_quiet, guardLength_pass hlen, guardLength_pass hlong, htail,
      bitNames_all, shiftIn_quiet]
    omega
  · intro i
    simp [processingUnit, reports_of_quiet, guardLength_pass hlen, guardLength_pass hlong,
      bitNames_all, shiftIn_quiet]

theorem extensionUnit_splits (h : LongEnough (extensionUnit env buf (m buf).toNat) m) :
    SplitsAt (extensionUnit env buf (m buf).toNat) m buf 3
      (24 + (m (buf + 21)).toNat + (m (buf + (22 + (m (buf + 21)).toNat))).toNat) := by
  obtain ⟨hlen, hrest⟩ := (h.bind (result_print ..)).guard
  obtain ⟨hpins, hrest⟩ := (hrest.bind (Prog.result_byte ..)).guard
  obtain ⟨hlong, -⟩ := (hrest.bind (Prog.result_byte ..)).guard
  constructor
  · intro i hi
    simp [extensionUnit, getGuid, guardLength_pass hlen, guardLength_pass hpins,
      guardLength_pass hlong, Prog.all_loop_iff, Prog.result_loop, exists_shifted]
    omega
  · intro i
    simp [extensionUnit, getGuid, guardLength_pass hlen, guardLength_pass hpins,
      guardLength_pass hlong, Prog.all_loop_iff, Prog.result_loop]

theorem encodingUnit_parts (h : LongEnough (encodingUnit env buf (m buf).toNat) m) :
    Parts (encodingUnit env buf (m buf).toNat) m buf 3 (fun i => i < 13) fun _ => False := by
  obtain ⟨hlen, -⟩ := (h.bind (result_print ..)).guard
  constructor
  · intro i hi
    simp [encodingUnit, decodes_of_quiet, guardLength_pass hlen, bitNames_all, all_shiftIn]
    omega
  · intro i
    simp [encodingUnit, reports_of_quiet, guardLength_pass hlen, bitNames_all, all_shiftIn]

def Exact (m : Memory) (buf : Nat) : Nat → Prop
  | 0x02 => (m (buf + 4)).toNat ||| (m (buf + 5)).toNat <<< 8 = 0x0201 → (m (buf + 14)).toNat ≤ 3
  | 0x05 => (m (buf + 7)).toNat ≤ 3 ∧ (m buf).toNat = 10 + (m (buf + 7)).toNat
  | 0x07 => (m buf).toNat = 13
  | _ => True

theorem inputTerminal_accounted {protocol : Nat}
    (h : LongEnough (inputTerminal env buf (m buf).toNat protocol) m) :
    Accounted (inputTerminal env buf (m buf).toNat protocol) m buf ↔ Exact m buf 0x02 := by
  by_cases hcamera : (m (buf + 4)).toNat ||| (m (buf + 5)).toNat <<< 8 = 0x0201
  · have hlong := cameraTerminal_long (inputTerminal_camera h hcamera).2
    simp only [Exact, hcamera, true_imp_iff, (inputTerminal_parts h hcamera).accounted]
    constructor
    · intro hall
      by_contra hsize
      have hskipped := hall 15 (by omega) (by omega)
      omega
    · intro hsize i hi hlo
      omega
  · exact iff_of_true (inputTerminal_splits h hcamera).accounted fun h => absurd h hcamera

theorem processingUnit_accounted {protocol : Nat}
    (h : LongEnough (processingUnit env buf (m buf).toNat protocol) m) :
    Accounted (processingUnit env buf (m buf).toNat protocol) m buf ↔ Exact m buf 0x05 := by
  have hlong := (processingUnit_long h).2
  simp only [Exact, (processingUnit_parts h).accounted, not_false_iff, iff_true]
  constructor
  · intro hall
    constructor
    · by_contra hsize
      have hskipped := hall 8 (by omega) (by omega)
      omega
    · by_contra hlen
      have hlost := hall (10 + (m (buf + 7)).toNat) (by omega) (by omega)
      omega
  · intro hexact i hi hlo
    omega

theorem encodingUnit_accounted (h : LongEnough (encodingUnit env buf (m buf).toNat) m) :
    Accounted (encodingUnit env buf (m buf).toNat) m buf ↔ Exact m buf 0x07 := by
  obtain ⟨hlong, -⟩ := (h.bind (result_print ..)).guard
  simp only [Exact, (encodingUnit_parts h).accounted, not_false_iff, iff_true]
  constructor
  · intro hall
    by_contra hlen
    have hlost := hall 13 (by omega) (by omega)
    omega
  · intro hlen i hi hlo
    omega

theorem subtypeDump_accounted {protocol subtype : Nat}
    (hknown : subtype ∈ [0x01, 0x02, 0x03, 0x04, 0x05, 0x06, 0x07])
    (h : LongEnough (subtypeDump env buf (m buf).toNat protocol subtype) m) :
    Accounted (subtypeDump env buf (m buf).toNat protocol subtype) m buf ↔
      Exact m buf subtype := by
  simp only [List.mem_cons, List.not_mem_nil, or_false] at hknown
  rcases hknown with rfl | rfl | rfl | rfl | rfl | rfl | rfl
  · exact iff_of_true (header_splits h).accounted trivial
  · exact inputTerminal_accounted h
  · exact iff_of_true (outputTerminal_splits h).accounted trivial
  · exact iff_of_true (selectorUnit_splits h).accounted trivial
  · exact processingUnit_accounted h
  · exact iff_of_true (extensionUnit_splits h).accounted trivial
  · exact encodingUnit_accounted h

end VideoControl

namespace AudioStreaming

theorem sampleFrequencies_unread {base count : Nat} :
    Prog.All (Unread (buf + i)) (sampleFrequencies buf base count) m ↔
      ¬(base ≤ i ∧ i < formatLength base count) := by
  unfold sampleFrequencies formatLength
  split
  case isTrue hcount =>
    simp [hcount]
    omega
  case isFalse hcount =>
    rw [Prog.all_loop_iff count fun j => by simp]
    simp
    constructor
    · intro hall hlo
      have hnot := hall ((i - base) / 3)
      omega
    · intro hout j hj
      omega

theorem sampleFrequencies_quiet {base count : Nat} :
    Prog.All Quiet (sampleFrequencies buf base count) m := by
  unfold sampleFrequencies
  split
  case isTrue => simp
  case isFalse => exact Prog.all_loop count fun j _ => by simp

theorem lt_formatLength (base count : Nat) : base + 2 < formatLength base count := by
  unfold formatLength
  split <;> omega

theorem channelFormat_splits (h : LongEnough (channelFormat buf (m buf).toNat) m) :
    SplitsAt (channelFormat buf (m buf).toNat) m buf 4
      (formatLength 8 (m (buf + 7)).toNat) := by
  obtain ⟨hlen, -⟩ := (h.bind (Prog.result_byte ..)).guard
  have hlow := lt_formatLength 8 (m (buf + 7)).toNat
  constructor
  · intro i hi
    simp [channelFormat, guardLength_pass hlen, sampleFrequencies_quiet, sampleFrequencies_unread]
    omega
  · intro i
    simp [channelFormat, guardLength_pass hlen, sampleFrequencies_quiet]

theorem formatTypeII_splits (h : LongEnough (formatTypeII buf (m buf).toNat) m) :
    SplitsAt (formatTypeII buf (m buf).toNat) m buf 4
      (formatLength 9 (m (buf + 8)).toNat) := by
  obtain ⟨hlong, hrest⟩ := h.guard
  obtain ⟨hlen, -⟩ := (hrest.bind (Prog.result_byte ..)).guard
  have hlow := lt_formatLength 9 (m (buf + 8)).toNat
  constructor
  · intro i hi
    simp [formatTypeII, guardLength_pass hlong, guardLength_pass hlen, sampleFrequencies_quiet,
      sampleFrequencies_unread]
    omega
  · intro i
    simp [formatTypeII, guardLength_pass hlong, guardLength_pass hlen, sampleFrequencies_quiet]

theorem subslotFormat_splits (h : LongEnough (subslotFormat buf (m buf).toNat) m) :
    SplitsAt (subslotFormat buf (m buf).toNat) m buf 4 6 := by
  obtain ⟨hlen, -⟩ := h.guard
  constructor
  · intro i hi
    simp [subslotFormat, guardLength_pass hlen]
    omega
  · intro i
    simp [subslotFormat, guardLength_pass hlen]

theorem invalidFormatType_splits {first : Nat} (hfirst : 4 ≤ first) :
    SplitsAt (invalidFormatType buf (m buf).toNat) m buf first 4 := by
  apply Parts.after_print (by decide)
  constructor
  · intro i hi
    simp [decodes_listing invalid_mem_listings]
    omega
  · intro i
    simp [reports_listing invalid_mem_listings, dumpBytes, Prog.all_loop_iff, Prog.result_loop,
      exists_shifted]
    omega

theorem typed_splits {rest : Nat → Dump Unit}
    (h : ∃ start, 4 ≤ start ∧ SplitsAt (rest (m (buf + 3)).toNat) m buf 4 start) :
    ∃ start, SplitsAt (do
      let bFormatType ← Prog.byte (buf + 3)
      print "        bFormatType         %5u " [.num bFormatType]
      rest bFormatType) m buf 3 start := by
  obtain ⟨start, hstart, hrest⟩ := h
  use start
  constructor
  · intro i hi
    by_cases h3 : i = 3
    · simp [h3]
      omega
    · have hne : 3 ≠ i := Ne.symm h3
      simp [hne, hrest.decodes i (by omega)]
  · intro i
    simp [hrest.reports i]

theorem formatTypeUac1_splits (h : LongEnough (formatTypeUac1 buf (m buf).toNat) m) :
    ∃ start, SplitsAt (formatTypeUac1 buf (m buf).toNat) m buf 3 start := by
  obtain ⟨hlen, hrest⟩ := h.guard
  have hrest := (hrest.bind (Prog.result_byte ..)).bind (result_print ..)
  have hlow := lt_formatLength
  rw [formatTypeUac1, guardLength_pass hlen]
  apply typed_splits
  -- the same `match` decides what has been checked and what is decoded
  revert hrest
  split
  · intro hrest
    have hparts := channelFormat_splits (hrest.bind (result_print ..))
    exact ⟨_, by grind, hparts.after_print (by decide)⟩
  · intro hrest
    have hparts := formatTypeII_splits (hrest.bind (result_print ..))
    exact ⟨_, by grind, hparts.after_print (by decide)⟩
  · intro hrest
    have hparts := channelFormat_splits (hrest.bind (result_print ..))
    exact ⟨_, by grind, hparts.after_print (by decide)⟩
  · exact fun _ => ⟨4, Nat.le_refl 4, invalidFormatType_splits (Nat.le_refl 4)⟩

theorem formatTypeUac2_splits (h : LongEnough (formatTypeUac2 buf (m buf).toNat) m) :
    ∃ start, SplitsAt (formatTypeUac2 buf (m buf).toNat) m buf 3 start := by
  have hrest := (h.bind (Prog.result_byte ..)).bind (result_print ..)
  apply typed_splits
  revert hrest
  split
  · intro hrest
    have hparts := subslotFormat_splits (hrest.bind (result_print ..))
    exact ⟨6, by decide, hparts.after_print (by decide)⟩
  · intro hrest
    obtain ⟨hlen, -⟩ := (hrest.bind (result_print ..)).guard
    use 8, by decide
    constructor
    · intro i hi
      simp [guardLength_pass hlen]
      omega
    · intro i
      simp [guardLength_pass hlen]
  · intro hrest
    have hparts := subslotFormat_splits (hrest.bind (result_print ..))
    exact ⟨6, by decide, hparts.after_print (by decide)⟩
  · intro hrest
    obtain ⟨hlen, -⟩ := (hrest.bind (result_print ..)).guard
    use 4, by decide
    constructor
    · intro i hi
      simp [guardLength_pass hlen]
      omega
    · intro i
      simp [guardLength_pass hlen]
  · exact fun _ => ⟨4, Nat.le_refl 4, invalidFormatType_splits (Nat.le_refl 4)⟩

theorem formatType_accounted {protocol : Nat}
    (hprotocol : protocol = usbAudioClass1 ∨ protocol = usbAudioClass2)
    (h : LongEnough (formatType buf (m buf).toNat protocol) m) :
    Accounted (formatType buf (m buf).toNat protocol) m buf := by
  obtain ⟨hlen, hrest⟩ := (h.bind (result_print ..)).guard
  obtain ⟨start, hsplits⟩ : ∃ start,
      SplitsAt (formatType buf (m buf).toNat protocol) m buf 3 start := by
    rw [formatType, guardLength_pass hlen]
    rcases hprotocol with rfl | rfl
    · obtain ⟨start, hsplits⟩ := formatTypeUac1_splits hrest
      exact ⟨start, hsplits.after_print (by decide)⟩
    · obtain ⟨start, hsplits⟩ := formatTypeUac2_splits hrest
      exact ⟨start, hsplits.after_print (by decide)⟩
  exact hsplits.accounted

section Lines

variable {E : Entry Effect → Prop}

theorem multilingualSupport_all (hprint : ∀ format ∉ listings, E (.act (.print format [])))
    (value : Nat) : Prog.All E (multilingualSupport value) m := by
  simp only [multilingualSupport, Prog.all_bind, all_print]
  apply And.intro (hprint _ (by decide))
  intro _ _
  split <;> exact (all_print ..).mpr (hprint _ (by decide))

theorem rangeControl_all (hprint : ∀ format ∉ listings, E (.act (.print format [])))
    (value : Nat) : Prog.All E (rangeControl value) m := by
  simp only [rangeControl, Prog.all_bind, all_print]
  apply And.intro (hprint _ (by decide))
  intro _ _
  split <;> exact (all_print ..).mpr (hprint _ (by decide))

theorem formatTagName_all (hlookup : ∀ i n, E (.act (.lookup i n))) (fmttag : Nat) :
    Prog.All E (formatTagName fmttag) m := by
  simp [formatTagName, hlookup]

end Lines

theorem mpeg_splits (h : LongEnough (mpeg buf (m buf).toNat) m) :
    SplitsAt (mpeg buf (m buf).toNat) m buf 5 8 := by
  obtain ⟨hlen, -⟩ := h.guard
  constructor
  · intro i hi
    simp [mpeg, guardLength_pass hlen, bitLines_all, multilingualSupport_all, rangeControl_all]
    omega
  · intro i
    simp [mpeg, guardLength_pass hlen, bitLines_all, multilingualSupport_all, rangeControl_all]

theorem ac3_parts (h : LongEnough (ac3 buf (m buf).toNat) m) :
    Parts (ac3 buf (m buf).toNat) m buf 5 (fun i => i < 10)
      (fun i => 8 ≤ i ∧ i < (m buf).toNat) := by
  obtain ⟨hlen, -⟩ := h.guard
  constructor
  · intro i hi
    simp [ac3, guardLength_pass hlen, bitLines_all, rangeControl_all]
    omega
  · intro i
    simp [ac3, guardLength_pass hlen, bitLines_all, rangeControl_all]

theorem tagged_parts {rest : Nat → Dump Unit} {taken left : Nat → Prop}
    (h : Parts (rest ((m (buf + 3)).toNat ||| (m (buf + 4)).toNat <<< 8)) m buf 5 taken left) :
    Parts (do
      let fmttag ← convertLeU16 (buf + 3)
      print "        wFormatTag          %5u %s\n" [.num fmttag, ← formatTagName fmttag]
      rest fmttag) m buf 3 (fun i => i < 5 ∨ taken i) left := by
  obtain ⟨name, hname⟩ := @exists_formatTagName m
    ((m (buf + 3)).toNat ||| (m (buf + 4)).toNat <<< 8)
  constructor
  · intro i hi
    by_cases h5 : 5 ≤ i
    · have h3 : 3 ≠ i := by omega
      have h4 : buf + 3 + 1 ≠ buf + i := by omega
      simp [formatTagName_all, hname, h3, h4, h5, h.decodes i]
    · simp [formatTagName_all]
      omega
  · intro i
    simp [formatTagName_all, hname, h.reports i]

theorem formatSpecific_accounted (h : LongEnough (formatSpecific buf (m buf).toNat) m) :
    Accounted (formatSpecific buf (m buf).toNat) m buf ↔
      (m (buf + 3)).toNat ||| (m (buf + 4)).toNat <<< 8 = 0x1001 := by
  obtain ⟨hlen, hrest⟩ := (h.bind (result_print ..)).guard
  obtain ⟨name, hname⟩ := @exists_formatTagName m
    ((m (buf + 3)).toNat ||| (m (buf + 4)).toNat <<< 8)
  have hrest := ((hrest.bind (result_convertLeU16 ..)).bind hname).bind (result_print ..)
  rw [formatSpecific, guardLength_pass hlen]
  by_cases hmpeg : (m (buf + 3)).toNat ||| (m (buf + 4)).toNat <<< 8 = 0x1001
  · simp only [hmpeg] at hrest
    have hparts := mpeg_splits hrest
    apply iff_of_true _ hmpeg
    apply ((tagged_parts (by simpa only [hmpeg])).after_print (by decide)).accounted.mpr
    intro i hi hlo
    omega
  · apply iff_of_false _ hmpeg
    intro hall
    by_cases hac3 : (m (buf + 3)).toNat ||| (m (buf + 4)).toNat <<< 8 = 0x1002
    · simp only [hac3] at hrest
      have hlong := hrest.guard.1
      have hparts := ac3_parts hrest
      have hboth := ((tagged_parts (by simpa only [hac3])).after_print (by decide)).accounted.mp
        hall 8 (by omega) (by omega)
      omega
    · have hparts := @invalidFormatType_splits m buf 5 (by decide)
      have hboth := ((tagged_parts (by simpa [hmpeg, hac3])).after_print (by decide)).accounted.mp
        hall 4 (by omega) (by omega)
      omega

def IsFormat (m : Memory) (buf protocol : Nat) : Prop :=
  (m (buf + 2)).toNat = 0x02 ∧ (protocol = usbAudioClass1 ∨ protocol = usbAudioClass2) ∨
    (m (buf + 2)).toNat = 0x03

instance (m : Memory) (buf protocol : Nat) : Decidable (IsFormat m buf protocol) :=
  inferInstanceAs (Decidable (_ ∨ _))

def Exact (m : Memory) (buf : Nat) : Nat → Prop
  | 0x03 => (m (buf + 3)).toNat ||| (m (buf + 4)).toNat <<< 8 = 0x1001
  | _ => True

end AudioStreaming

theorem dumpAudiostreamingInterface_accounted {protocol : Nat}
    (hformat : AudioStreaming.IsFormat m buf protocol)
    (h : LongEnough (dumpAudiostreamingInterface env buf protocol) m) :
    Accounted (dumpAudiostreamingInterface env buf protocol) m buf ↔
      AudioStreaming.Exact m buf (m (buf + 2)).toNat := by
  obtain ⟨hlen, hrest⟩ := headed_longEnough h
  rw [dumpAudiostreamingInterface, headed_accounted (by decide) hlen]
  rcases hformat with ⟨hsubtype, hprotocol⟩ | hsubtype
  · simp only [hsubtype] at hrest ⊢
    exact iff_of_true (AudioStreaming.formatType_accounted hprotocol hrest) trivial
  · simp only [hsubtype] at hrest ⊢
    exact AudioStreaming.formatSpecific_accounted hrest

theorem dumpVideocontrolInterface_accounted {protocol : Nat}
    (hknown : (m (buf + 2)).toNat ∈ [0x01, 0x02, 0x03, 0x04, 0x05, 0x06, 0x07])
    (h : LongEnough (dumpVideocontrolInterface env buf protocol) m) :
    Accounted (dumpVideocontrolInterface env buf protocol) m buf ↔
      VideoControl.Exact m buf (m (buf + 2)).toNat := by
  obtain ⟨hlen, hrest⟩ := headed_longEnough h
  rw [dumpVideocontrolInterface, headed_accounted (by decide) hlen]
  exact VideoControl.subtypeDump_accounted hknown hrest

/-- The descriptors for which every byte behind the subtype is shown once: as part of a field, or
as junk. -/
theorem audioFormats_videocontrol_accounted (env : Env) (m : Memory) (buf protocol : Nat) :
    (AudioStreaming.IsFormat m buf protocol →
      LongEnough (dumpAudiostreamingInterface env buf protocol) m →
        (Accounted (dumpAudiostreamingInterface env buf protocol) m buf ↔
          AudioStreaming.Exact m buf (m (buf + 2)).toNat)) ∧
    ((m (buf + 2)).toNat ∈ [0x01, 0x02, 0x03, 0x04, 0x05, 0x06, 0x07] →
      LongEnough (dumpVideocontrolInterface env buf protocol) m →
        (Accounted (dumpVideocontrolInterface env buf protocol) m buf ↔
          VideoControl.Exact m buf (m (buf + 2)).toNat)) :=
  ⟨dumpAudiostreamingInterface_accounted, dumpVideocontrolInterface_accounted⟩

/-- An AC-3 format of ten bytes, and behind it a Processing Unit that is one byte too long. -/
def ac3Processing : Memory := fun a =>
  [10, 0x24, 0x03, 0x02, 0x10, 0, 0, 0, 0, 0,
    12, 0x24, 0x05, 2, 1, 0, 0, 1, 0, 0, 0, 7].getD a 0

/-- The last two bytes of the first are shown twice, the last byte of the second is not shown. -/
theorem audioFormats_videocontrol_ac3Processing :
    AudioStreaming.IsFormat ac3Processing 0 usbAudioClass1 ∧
      LongEnough (dumpAudiostreamingInterface default 0 usbAudioClass1) ac3Processing ∧
      ¬Accounted (dumpAudiostreamingInterface default 0 usbAudioClass1) ac3Processing 0 ∧
      LongEnough (dumpVideocontrolInterface default 10 0) ac3Processing ∧
      ¬Accounted (dumpVideocontrolInterface default 10 0) ac3Processing 10 := by
  decide +kernel

def mpegSelector : Memory := fun a =>
  [9, 0x24, 0x03, 0x01, 0x10, 1, 0, 0, 7,
    8, 0x24, 0x04, 3, 1, 1, 0, 7].getD a 0

theorem audioFormats_videocontrol_accounted_mpegSelector :
    Accounted (dumpAudiostreamingInterface default 0 usbAudioClass1) mpegSelector 0 ∧
      Accounted (dumpVideocontrolInterface default 9 0) mpegSelector 9 := by
  constructor
  · apply ((audioFormats_videocontrol_accounted _ _ _ _).1 (by decide) _).mpr
    · rfl
    · decide +kernel
  · apply ((audioFormats_videocontrol_accounted _ _ _ _).2 (by decide) _).mpr
    · trivial
    · decide +kernel

end Decoders

end Usbutils
