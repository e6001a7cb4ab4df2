import Usbutils.Lib.PyFormat
import Usbutils.UsbIds.Parse

/-! The tables that `main` of `lsusb.py` goes on with: those of `parse_usb_ids`, up to the line that
raises an exception. -/
namespace Usbutils.LsusbPy
open PyText

section Load

variable (uni : Unicode)

/-- The loop of `parse_usb_ids`, and whether it comes to its end. -/
def parseLines (st : ParseState) : List Str → ParseState × Bool
  | [] => (st, true)
  | ln :: rest =>
      match parseLine uni st ln with
      | none => (st, false)
      | some st => parseLines st rest

/-- The tables after the attempt to read the file; `none` where it is not opened. -/
def loadIds : Option Str → UsbIds
  | none => ⟨fun _ => none, fun _ => none, fun _ => none⟩
  | some text =>
      let parsed := parseLines uni {} (readlines (universalNewlines text))
      {
        usbvendors := parsed.1.usbvendors
        usbproducts := parsed.1.usbproducts
        usbclasses :=
          if parsed.2 then parsed.1.usbclasses.set (0xff, 0xff, 0xff) vendorSpecific
          else parsed.1.usbclasses }

variable {uni} {st st' : ParseState} {ln text : Str}

theorem parseLines_of_foldlM {lines : List Str} (h : lines.foldlM (parseLine uni) st = some st') :
    parseLines uni st lines = (st', true) := by
  induction lines generalizing st with
  | nil => exact congrArg (·, true) (Option.some.inj h)
  | cons ln rest ih =>
      rw [List.foldlM_cons] at h
      obtain ⟨next, hnext, hrest⟩ := Option.bind_eq_some_iff.mp h
      rw [parseLines, hnext]
      exact ih hrest

theorem loadIds_of_parse {ids : UsbIds} (h : parseUsbIds uni text = some ids) :
    loadIds uni (some text) = ids := by
  obtain ⟨st, hst, hids⟩ := Option.bind_eq_some_iff.mp h
  obtain rfl := Option.some.inj hids
  rw [loadIds, parseLines_of_foldlM hst]
  rfl

def OneLineNames {κ : Type} (d : Dict κ Str) : Prop := ∀ k name, d k = some name → OneLine name

theorem OneLineNames.set {κ : Type} [DecidableEq κ] {d : Dict κ Str} (h : OneLineNames d) (k : κ)
    {name : Str} (hname : OneLine name) : OneLineNames (d.set k name) := by
  intro k' name' h'
  rw [Dict.set, Function.update_apply] at h'
  split at h'
  · exact Option.some.inj h' ▸ hname
  · exact h k' name' h'

structure OneLineTables (ids : UsbIds) : Prop where
  usbvendors : OneLineNames ids.usbvendors
  usbproducts : OneLineNames ids.usbproducts
  usbclasses : OneLineNames ids.usbclasses

structure OneLineState (st : ParseState) : Prop where
  cstrg : OneLine st.cstrg
  usbvendors : OneLineNames st.usbvendors
  usbproducts : OneLineNames st.usbproducts
  usbclasses : OneLineNames st.usbclasses

theorem OneLine.drop {s : Str} (h : OneLine s) (n : Nat) : OneLine (s.drop n) :=
  h.of_subset fun _ hc => List.mem_of_mem_drop hc

theorem oneLine_parseRest (hst : OneLineState st) (hln : OneLine ln)
    (h : parseRest uni st ln = some st') : OneLineState st' := by
  unfold parseRest at h
  split at h
  · obtain ⟨cid, -, h⟩ := Option.bind_eq_some_iff.mp h
    obtain rfl := Option.some.inj h
    exact { hst with
      cstrg := OneLine.drop hln 6
      usbclasses := hst.usbclasses.set _ (OneLine.drop hln 6) }
  · split at h
    · obtain ⟨prid, -, h⟩ := Option.bind_eq_some_iff.mp h
      obtain rfl := Option.some.inj h
      exact { hst with usbclasses := hst.usbclasses.set _ (OneLine.drop hln 6) }
    · obtain rfl := Option.some.inj h
      exact { hst with }

theorem oneLine_parseTabbed {did : Int} (hst : OneLineState st) (hln : OneLine ln)
    (h : parseTabbed uni st ln did = some st') : OneLineState st' := by
  unfold parseTabbed at h
  dsimp only at h
  split at h
  · obtain rfl := Option.some.inj h
    exact { hst with usbproducts := hst.usbproducts.set _ (OneLine.drop hln 7) }
  · obtain rfl := Option.some.inj h
    refine { hst with usbclasses := hst.usbclasses.set _ ?_ }
    split
    · exact oneLine_append.mpr
        ⟨hst.cstrg, oneLine_cons.mpr ⟨by decide, OneLine.drop hln 5⟩⟩
    · exact oneLine_append.mpr ⟨hst.cstrg, by simp⟩
  · apply oneLine_parseRest _ hln h
    exact { hst with }

theorem oneLine_parseLine (hst : OneLineState st) (hln : OneLine (rstripNewline ln))
    (h : parseLine uni st ln = some st') : OneLineState st' := by
  unfold parseLine at h
  split at h
  · exact Option.some.inj h ▸ hst
  · dsimp only at h
    split at h
    · exact Option.some.inj h ▸ hst
    · split at h
      · obtain ⟨vid, -, h⟩ := Option.bind_eq_some_iff.mp h
        obtain rfl := Option.some.inj h
        exact { hst with usbvendors := hst.usbvendors.set _ (OneLine.drop hln 6) }
      · split at h
        · obtain ⟨did, -, h⟩ := Option.bind_eq_some_iff.mp h
          exact oneLine_parseTabbed hst hln h
        · exact oneLine_parseRest hst hln h

theorem oneLine_parseLines {lines : List Str} (hst : OneLineState st)
    (hlines : ∀ ln ∈ lines, OneLine (rstripNewline ln)) :
    OneLineState (parseLines uni st lines).1 := by
  induction lines generalizing st with
  | nil => exact hst
  | cons ln rest ih =>
      obtain ⟨hln, hrest⟩ := List.forall_mem_cons.mp hlines
      unfold parseLines
      split
      · exact hst
      · exact ih (oneLine_parseLine hst hln ‹_›) hrest

def IsLine (ln : Str) : Prop := ∃ line, OneLine line ∧ (ln = line ∨ ln = line ++ ['\n'])

theorem isLine_readlines : ∀ ln ∈ readlines text, IsLine ln := by
  induction text with
  | nil => exact fun ln hln => absurd hln List.not_mem_nil
  | cons c rest ih =>
      rw [readlines]
      split
      · rw [List.forall_mem_cons]
        exact ⟨⟨[], oneLine_nil, .inr rfl⟩, ih⟩
      · have hc : '\n' ≠ c := Ne.symm ‹_›
        split
        · intro ln hln
          obtain rfl := List.mem_singleton.mp hln
          exact ⟨[c], oneLine_cons.mpr ⟨hc, oneLine_nil⟩, .inl rfl⟩
        · rename_i next lines hrest
          rw [hrest] at ih
          obtain ⟨⟨line, hline, heq⟩, hlines⟩ := List.forall_mem_cons.mp ih
          rw [List.forall_mem_cons]
          refine ⟨⟨c :: line, oneLine_cons.mpr ⟨hc, hline⟩, ?_⟩, hlines⟩
          rcases heq with rfl | rfl
          · exact .inl rfl
          · exact .inr rfl

theorem IsLine.rstripNewline (h : IsLine ln) : OneLine (rstripNewline ln) := by
  obtain ⟨line, hline, rfl | rfl⟩ := h
  · rwa [rstripNewline_eq hline]
  · rwa [rstripNewline_append hline]

/-- Whatever the file holds, no name of a table ends a line. -/
theorem oneLine_loadIds (uni : Unicode) (text : Option Str) : OneLineTables (loadIds uni text) := by
  cases text with
  | none => constructor <;> exact fun _ _ h => absurd h (by simp [loadIds])
  | some text =>
      have hst : OneLineState (parseLines uni {} (readlines (universalNewlines text))).1 := by
        apply oneLine_parseLines _ fun ln hln => (isLine_readlines ln hln).rstripNewline
        constructor
        · exact oneLine_nil
        all_goals exact fun _ _ h => absurd h (by simp)
      refine ⟨hst.usbvendors, hst.usbproducts, ?_⟩
      rw [loadIds]
      dsimp only
      split
      · exact hst.usbclasses.set _ (by decide)
      · exact hst.usbclasses

end Load

end Usbutils.LsusbPy
