import Usbutils.Desc.Run

/-! `desc_dump` stays inside its buffer, inside its tables and above zero in the
padding of array names. -/
namespace Usbutils
open ByteProg

section Width

variable {m : Memory} {buf bufLen : Nat} {desc : List Desc}

theorem le_nameWidth (fields : List Desc) (fieldLen : Nat) :
    fieldLen ≤ nameWidth m buf bufLen desc fields fieldLen := by
  induction fields generalizing fieldLen with
  | nil => exact Nat.le_refl _
  | cons c rest ih => exact Nat.le_trans (Nat.le_max_left ..) (ih _)

theorem name_le_nameWidth {fields : List Desc} (fieldLen : Nat) {c : Desc} (hc : c ∈ fields) :
    c.field.length + indexChars m buf bufLen desc c ≤
      nameWidth m buf bufLen desc fields fieldLen := by
  induction fields generalizing fieldLen with
  | nil => cases hc
  | cons first rest ih =>
      rw [nameWidth]
      rcases List.mem_cons.mp hc with rfl | hrest
      · exact Nat.le_trans (Nat.le_max_right ..) (le_nameWidth rest _)
      · exact ih _ hrest

end Width

section Within

variable {env : Env} {nested : DescId → Nat → Nat → Dump Unit} {id : DescId} {m : Memory}
  {buf bufLen indent offset : Nat}

theorem trailingBytes_within :
    Prog.All (Within buf (buf + bufLen)) (trailingBytes buf bufLen offset) m := by
  apply Prog.all_loop
  intro i hi
  simp [Within]
  omega

theorem insufficient_within :
    Prog.All (Within buf (buf + bufLen)) (insufficient buf bufLen indent offset) m := by
  simp [insufficient, trailingBytes_within]

theorem junkAtEnd_within :
    Prog.All (Within buf (buf + bufLen)) (junkAtEnd buf bufLen indent offset) m := by
  simp [junkAtEnd, trailingBytes_within]

theorem fieldRender_within {c : Desc} (hc : c ∈ id.fields) (entry : Nat) :
    Prog.All (Within buf (buf + bufLen))
      (fieldRender entry (entryCount m buf bufLen id.fields c)
        (nameWidth m buf bufLen id.fields id.fields 18) c indent) m := by
  have hwidth := @name_le_nameWidth m buf bufLen id.fields id.fields 18 c hc
  unfold fieldRender
  split
  · next harray =>
      rw [indexChars, if_pos harray] at hwidth
      rw [entryCount, if_pos harray]
      simp [minus]
      omega
  · simp

theorem dumpSlot_within {slot : Slot} (hslot : slot ∈ slots m buf bufLen id.fields)
    (hfit : offset + slot.size ≤ bufLen)
    (hnested : ∀ target ∈ slot.current.type.targets, Prog.All (Within buf (buf + bufLen))
      (nested target (buf + offset) (bufLen - offset)) m) :
    Prog.All (Within buf (buf + bufLen))
      (dumpSlot env nested id buf bufLen indent
        (nameWidth m buf bufLen id.fields id.fields 18) slot offset) m := by
  obtain ⟨hcurrent, hentries, hsize⟩ := mem_slots hslot
  have hvalue : Prog.All (Within buf (buf + bufLen)) (valueRenderer env nested slot.current
      slot.size buf bufLen id.fields indent offset) m := by
    cases htype : slot.current.type.isExtension with
    | false => exact (all_valueRenderer hcurrent htype hsize hfit).mono fun _ h => h.within
    | true =>
        obtain ⟨target, htarget, hrun⟩ := @valueRenderer_extension env nested id slot.current m
          slot.size buf bufLen indent offset hcurrent htype
        exact hrun.all (fun _ h₁ h₂ => ⟨h₁, h₂⟩) (hnested target htarget)
  simp only [dumpSlot, dumpEntry, Prog.all_bind, Prog.all_when, hentries]
  exact ⟨fun _ => fieldRender_within hcurrent _, fun _ _ => ⟨by simp [Within], fun _ _ => hvalue⟩⟩

/-- The dump of a buffer stays inside it if its extensions stay inside their part. -/
theorem descDumpAtDepth_within {depth : Nat}
    (hfrom : bufLen = descBufLenFromBuf → firstSize id ≤ effectiveLength m id buf bufLen)
    (hnested : ∀ c ∈ id.fields, ∀ target ∈ c.type.targets,
      ∀ offset ≤ effectiveLength m id buf bufLen,
        Prog.All (Within buf (buf + effectiveLength m id buf bufLen))
          (descDumpAtDepth env indent depth target (buf + offset)
            (effectiveLength m id buf bufLen - offset)) m) :
    Prog.All (Within buf (buf + effectiveLength m id buf bufLen))
      (descDumpAtDepth env indent (depth + 1) id buf bufLen) m := by
  refine (descDumpAtDepth_asIf (Nat.le_refl _) fun h => ?_).all (fun _ h₁ h₂ => ⟨h₁, h₂⟩) ?_
  · exact Nat.add_le_add_left (hfrom h) buf
  · simp only [dumpAll, Prog.all_bind, Prog.all_emit]
    refine ⟨trivial, fun _ _ => ⟨all_dumpSlots ?_ insufficient_within, fun stop _ => ?_⟩⟩
    · rintro ⟨slot, offset⟩ hplace
      obtain ⟨hslot, hfit⟩ := mem_placed_slots hplace
      apply dumpSlot_within hslot hfit
      intro target htarget
      exact hnested _ (mem_slots hslot).1 target htarget offset (by omega)
    · cases stop with
      | none => exact Prog.all_pure _
      | some offset => exact (Prog.all_when ..).mpr fun _ => junkAtEnd_within

theorem nested_within (hlen : bufLen < 2 ^ 32) : ∀ c ∈ id.fields, ∀ target ∈ c.type.targets,
    ∀ offset ≤ effectiveLength m id buf bufLen,
      Prog.All (Within buf (buf + effectiveLength m id buf bufLen))
        (descDumpAtDepth env indent 1 target (buf + offset)
          (effectiveLength m id buf bufLen - offset)) m := by
  intro c hc target htarget offset hoffset
  have hlen' := @effectiveLength_target m id buf bufLen hlen c hc target htarget offset
  have hnested := @descDumpAtDepth_within env target m (buf + offset)
    (effectiveLength m id buf bufLen - offset) indent 0
    (fun h => by
      have hlt := @effectiveLength_lt m id buf bufLen hlen c hc (isExtension_of_target htarget)
      omega)
    (fun c' hc' _ h => (no_target hc htarget hc' h).elim)
  rw [hlen'] at hnested
  exact hnested.mono fun _ h => h.mono (by omega) (by omega)

theorem descDump_inside (h : bufLen < descBufLenFromBuf) :
    Prog.All (Within buf (buf + bufLen)) (descDump env id buf bufLen indent) m := by
  have hdump := descDumpAtDepth_within (fun hfrom => absurd hfrom (by omega))
    (@nested_within env id m buf bufLen indent (by unfold descBufLenFromBuf at h; omega))
  rwa [effectiveLength_of_lt h] at hdump

/-- `desc_dump` reads its buffer only, takes entries that are in their tables
and never subtracts below zero; a length taken from the buffer has to cover the
field it is taken from. -/
theorem descDump_within (env : Env) (id : DescId) (m : Memory) (buf bufLen indent : Nat)
    (hlen : bufLen < 2 ^ 32)
    (hfrom : bufLen = descBufLenFromBuf → firstSize id ≤ effectiveLength m id buf bufLen) :
    Prog.All (Within buf (buf + effectiveLength m id buf bufLen))
      (descDump env id buf bufLen indent) m :=
  descDumpAtDepth_within hfrom (nested_within hlen)

theorem descDump_within_summary :
    Prog.All (Within 0 3) (descDump default .usb3DcConfigurationSummary 0 descBufLenFromBuf 3)
      fun _ => 3 :=
  descDump_within default .usb3DcConfigurationSummary (fun _ => 3) 0 descBufLenFromBuf 3
    (by decide) (by decide)

theorem descDump_reads_beyond_one :
    ¬∀ (env : Env) (id : DescId) (m : Memory) (buf bufLen indent : Nat), bufLen < 2 ^ 32 →
      (bufLen = descBufLenFromBuf → 1 ≤ effectiveLength m id buf bufLen) →
      Prog.All (Within buf (buf + effectiveLength m id buf bufLen))
        (descDump env id buf bufLen indent) m := by
  intro h
  have hdump := h default .audio1AcHeader (fun a => if a = 0 then 1 else 0) 0 descBufLenFromBuf 1
    (by decide) (by decide)
  have hlength := ((Prog.all_bind ..).mp hdump).1
  have hbyte := hlength (.read 1) (by decide)
  exact absurd hbyte.2 (by decide)

end Within

end Usbutils
