import Usbutils.HidDump.Stream

/-! The cleanup of `dump_iface_list_stream`. The callback does not know that transfers are being
cancelled: one that completes before its cancellation takes effect is submitted again. -/
namespace Usbutils
open Runs

def StreamPc.cleaning : StreamPc → Bool
  | .cleanup | .cancel _ | .waitLoop | .handleCancellation | .free _ | .returned | .crashed => true
  | _ => false

namespace Stream

variable {n : Nat} {s s' : Stream n} {e : StreamEvent n} {i : Fin n}

structure Quiet (s s' : Stream n) : Prop where
  cleaning : s'.pc.cleaning = true
  inFlight : s'.inFlight = s.inFlight
  submits : ∀ i, s'.calls.count (.submit i) = s.calls.count (.submit i)

theorem quiet_rescan (s : Stream n) (next : StreamPc) (hnext : next.cleaning = true) :
    Quiet s (s.rescan next) := by
  rcases rescan_cases s next with heq | heq
  · rw [heq]
    exact ⟨hnext, rfl, fun _ => rfl⟩
  · rw [heq]
    exact ⟨rfl, rfl, fun _ => rfl⟩

theorem quiet_call {c : StreamCall n} (hc : ∀ i, c ≠ .submit i)
    (hclean : s'.pc.cleaning = true) (hflight : s'.inFlight = s.inFlight)
    (hcalls : s'.calls = s.calls ++ [c]) : Quiet s s' := by
  refine ⟨hclean, hflight, fun i => ?_⟩
  rw [hcalls, List.count_append, List.count_singleton, if_neg (by simpa using hc i), Nat.add_zero]

theorem go_quiet (hclean : s.pc.cleaning = true) (h : s.go = some s') : Quiet s s' := by
  cases hpc : s.pc <;> rw [hpc] at hclean <;> simp only [go, hpc] at h <;> try cases hclean
  case cleanup =>
    split at h <;> obtain rfl := Option.some.inj h <;> exact ⟨rfl, rfl, fun _ => rfl⟩
  case cancel i =>
    split at h
    · obtain rfl := Option.some.inj h
      exact ⟨rfl, rfl, fun _ => rfl⟩
    · split at h
      · obtain rfl := Option.some.inj h
        exact ⟨rfl, rfl, fun _ => rfl⟩
      · split at h
        · cases h
        · obtain rfl := Option.some.inj h
          exact ⟨rfl, rfl, fun _ => rfl⟩
  case waitLoop =>
    split at h <;> obtain rfl := Option.some.inj h <;> exact ⟨rfl, rfl, fun _ => rfl⟩
  case free i =>
    split at h
    · split at h
      · obtain rfl := Option.some.inj h
        exact ⟨rfl, rfl, fun _ => rfl⟩
      · split at h
        · obtain rfl := Option.some.inj h
          exact ⟨rfl, rfl, fun _ => rfl⟩
        · split at h
          · obtain rfl := Option.some.inj h
            exact ⟨rfl, rfl, fun _ => rfl⟩
          · obtain rfl := Option.some.inj h
            exact quiet_call (by simp) rfl rfl rfl
    · obtain rfl := Option.some.inj h
      exact ⟨rfl, rfl, fun _ => rfl⟩
  all_goals cases h

theorem cancel_quiet {ok : Bool} (h : s.cancel ok = some s') : Quiet s s' := by
  cases hpc : s.pc <;> simp only [cancel, hpc] at h <;> try cases h
  case cancel i =>
    split at h
    · cases h
    · split at h
      · cases h
      · split at h
        · split at h
          · obtain rfl := Option.some.inj h
            exact quiet_call (by simp) rfl rfl rfl
          · obtain rfl := Option.some.inj h
            exact quiet_call (by simp) rfl rfl rfl
        · cases h

theorem handled_quiet {ok : Bool} (hclean : s.pc.cleaning = true) (h : s.handled ok = some s') :
    Quiet s s' := by
  cases hpc : s.pc <;> rw [hpc] at hclean <;> simp only [handled, hpc] at h <;> try cases hclean
  case handleCancellation =>
    obtain rfl := Option.some.inj h
    cases ok with
    | true => exact quiet_rescan s .waitLoop rfl
    | false => exact ⟨rfl, rfl, fun _ => rfl⟩
  all_goals cases h

theorem step_quiet (hclean : s.pc.cleaning = true)
    (he : ∀ i status resubmitted, e ≠ .complete i status resubmitted) (h : step s e = some s') :
    Quiet s s' := by
  cases e with
  | go => exact go_quiet hclean h
  | signal =>
      obtain rfl := Option.some.inj h
      exact ⟨hclean, rfl, fun _ => rfl⟩
  | request ok => cases hpc : s.pc <;> simp [hpc, step, request, StreamPc.cleaning] at h hclean
  | alloc ok => cases hpc : s.pc <;> simp [hpc, step, alloc, StreamPc.cleaning] at h hclean
  | submit ok => cases hpc : s.pc <;> simp [hpc, step, submit, StreamPc.cleaning] at h hclean
  | cancel ok => exact cancel_quiet h
  | complete i status resubmitted => exact absurd rfl (he i status resubmitted)
  | handled ok => exact handled_quiet hclean h

end Stream

def StreamEvent.completes {n : Nat} (i : Fin n) : StreamEvent n → Bool
  | .complete j _ _ => j == i
  | _ => false

def StreamEvent.carries {n : Nat} (i : Fin n) : StreamEvent n → Bool
  | .complete j .completed _ => j == i
  | _ => false

namespace Stream

variable {n : Nat} {s s' : Stream n} {e : StreamEvent n} {events : List (StreamEvent n)}

theorem complete_cleaning {i : Fin n} {status : TransferStatus} {resubmitted : Bool}
    (hclean : s.pc.cleaning = true) (h : s.complete i status resubmitted = some s') :
    s'.pc.cleaning = true ∧
    (∀ j, s'.calls.count (.submit j) = s.calls.count (.submit j) +
      ((StreamEvent.complete i status resubmitted).carries j).toNat) ∧
    (status ≠ .completed → s'.inFlight = Function.update s.inFlight i false) := by
  obtain ⟨-, -, rfl⟩ := complete_cases h
  refine ⟨cb_pc.symm ▸ hclean, fun j => ?_, fun hstatus => ?_⟩
  · rw [cb_calls]
    cases status with
    | completed =>
        rw [if_pos rfl, setInFlight, List.count_append, List.count_singleton]
        simp [StreamEvent.carries, Bool.toNat, Bool.cond_eq_ite]
    | _ => rfl
  · rw [cb_inFlight, again, beq_false_of_ne hstatus, Bool.false_and]
    rfl

theorem step_cleaning (hclean : s.pc.cleaning = true) (h : step s e = some s') :
    s'.pc.cleaning = true ∧
    (∀ i, s'.calls.count (.submit i) = s.calls.count (.submit i) + (e.carries i).toNat) ∧
    ((∀ i, e.carries i = false) →
      ∀ i, (e.completes i).toNat + (s'.inFlight i).toNat = (s.inFlight i).toNat) := by
  by_cases he : ∃ i status resubmitted, e = .complete i status resubmitted
  · obtain ⟨i, status, resubmitted, rfl⟩ := he
    obtain ⟨-, hflight, -⟩ := complete_cases h
    obtain ⟨hclean', hcalls, hflight'⟩ := complete_cleaning hclean h
    refine ⟨hclean', hcalls, fun hcarries j => ?_⟩
    have hstatus : status ≠ .completed := by
      rintro rfl
      have hi : (i == i) = false := hcarries i
      simp at hi
    rw [hflight' hstatus]
    by_cases hj : j = i
    · subst hj
      simp [StreamEvent.completes, hflight]
    · simp [StreamEvent.completes, hj, Ne.symm hj]
  · have hother : ∀ i status resubmitted, e ≠ .complete i status resubmitted :=
      fun i status resubmitted heq => he ⟨i, status, resubmitted, heq⟩
    obtain ⟨hclean', hflight, hcalls⟩ := step_quiet hclean hother h
    have hcarries (i : Fin n) : e.carries i = false := by
      cases e <;> first | rfl | exact absurd rfl (hother _ _ _)
    have hcompletes (i : Fin n) : e.completes i = false := by
      cases e <;> first | rfl | exact absurd rfl (hother _ _ _)
    refine ⟨hclean', fun i => ?_, fun _ i => ?_⟩
    · rw [hcalls, hcarries]
      rfl
    · rw [hflight, hcompletes]
      exact Nat.zero_add _

theorem run_cleaning (hclean : s.pc.cleaning = true) (h : steps step s events = some s') :
    s'.pc.cleaning = true ∧
    (∀ i, s'.calls.count (.submit i) = s.calls.count (.submit i) + events.countP (StreamEvent.carries i)) ∧
    ((∀ i, ∀ e ∈ events, e.carries i = false) →
      ∀ i, events.countP (StreamEvent.completes i) + (s'.inFlight i).toNat = (s.inFlight i).toNat) := by
  induction events generalizing s with
  | nil =>
      obtain rfl := Option.some.inj h
      exact ⟨hclean, fun i => rfl, fun _ i => Nat.zero_add _⟩
  | cons e events ih =>
      obtain ⟨s₁, he, hrun⟩ := steps_cons.mp h
      obtain ⟨hclean₁, hsubmits₁, hflight₁⟩ := step_cleaning hclean he
      obtain ⟨hclean', hsubmits, hflight⟩ := ih hclean₁ hrun
      refine ⟨hclean', fun i => ?_, fun hcarries i => ?_⟩
      · rw [hsubmits, hsubmits₁, List.countP_cons]
        cases e.carries i <;> simp +arith
      · obtain ⟨hhead, htail⟩ := forall_and.mp fun i => List.forall_mem_cons.mp (hcarries i)
        rw [← hflight₁ hhead i, ← hflight htail i, List.countP_cons]
        cases e.completes i <;> simp +arith

/-- Once the cleanup has begun, no transfer is submitted again and each completes at most once
more exactly if no transfer completes with data. -/
theorem dumpIfaceListStream_cleanup_iff {list : List UhdIface}
    {before after : List (StreamEvent list.length)} {s s' : Stream list.length}
    (_hbefore : steps step (start list) before = some s) (hcleanup : s.pc = .cleanup)
    (hafter : steps step s after = some s') :
    ((∀ i, s'.calls.count (.submit i) = s.calls.count (.submit i)) ∧
      ∀ i, after.countP (StreamEvent.completes i) ≤ 1) ↔
    ∀ i resubmitted, StreamEvent.complete i .completed resubmitted ∉ after := by
  have hclean : s.pc.cleaning = true := by rw [hcleanup]; rfl
  obtain ⟨-, hsubmits, hflight⟩ := run_cleaning hclean hafter
  constructor
  · rintro ⟨hsame, -⟩ i resubmitted hmem
    have hcarried : 0 < after.countP (StreamEvent.carries i) :=
      List.countP_pos_iff.mpr ⟨_, hmem, beq_self_eq_true i⟩
    have := hsubmits i
    have := hsame i
    omega
  · intro hnone
    have hcarries (i : Fin list.length) : ∀ e ∈ after, e.carries i = false := by
      intro e he
      cases e with
      | complete j status resubmitted =>
          cases status with
          | completed => exact absurd he (hnone j resubmitted)
          | _ => rfl
      | _ => rfl
    constructor
    · intro i
      rw [hsubmits, List.countP_eq_zero.mpr (fun e he => by simp [hcarries i e he]), Nat.add_zero]
    · intro i
      have := hflight hcarries i
      have := Bool.toNat_le (s.inFlight i)
      omega

theorem dumpIfaceListStream_cleanup_cancelled :
    ∃ s s' : Stream 1, steps step (start oneIface) startUp = some s ∧
      steps step s cancelledInTime = some s' ∧
      (((∀ i, s'.calls.count (.submit i) = s.calls.count (.submit i)) ∧
        ∀ i, cancelledInTime.countP (StreamEvent.completes i) ≤ 1) ↔
      ∀ i resubmitted, StreamEvent.complete i .completed resubmitted ∉ cancelledInTime) :=
  ⟨_, _, rfl, rfl, @dumpIfaceListStream_cleanup_iff oneIface startUp cancelledInTime _ _ rfl rfl rfl⟩

theorem dumpIfaceListStream_cleanup_data :
    ∃ s s' : Stream 1, steps step (start oneIface) startUp = some s ∧ s.pc = .cleanup ∧
      steps step s dataInBetween = some s' ∧
      s'.calls = s.calls ++ [.cancel 0, .submit 0] ∧ s'.inFlight 0 = true ∧
      s'.pc = .handleCancellation :=
  ⟨_, _, rfl, rfl, rfl, rfl, rfl, rfl⟩

end Stream
end Usbutils
