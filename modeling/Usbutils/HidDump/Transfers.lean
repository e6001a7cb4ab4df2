import Usbutils.HidDump.Stream

/-! The life of the transfers in `dump_iface_list_stream`, where allocations succeed: the flag of
an interface says whether its transfer is in flight, in every state of every run. -/
namespace Usbutils
open Runs

def StreamPc.freed (n : Nat) : StreamPc → Nat
  | .free i => i
  | .returned => n
  | _ => 0

namespace Stream

variable {n : Nat} {s s' : Stream n}

def Prepared (s : Stream n) : Prop :=
  s.transferList = true ∧ s.transferNum = Fin.last n ∧
    ∀ i, s.transfer i = some { userData := true }

def Idle (s : Stream n) : Prop :=
  s.submitted = false ∧ ∀ i, s.inFlight i = false

def Unprepared (s : Stream n) : Prop :=
  s.transferList = false ∧ (∀ i, s.transfer i = none) ∧ Idle s

/-- The transfer list is being filled, with what is done up to this index. -/
def Filling (s : Stream n) (i : Nat) (done : Option Transfer → Prop) : Prop :=
  s.transferList = true ∧ s.transferNum = Fin.last n ∧ (∀ j : Fin n, j < i → done (s.transfer j)) ∧
    Idle s

def Ready (s : Stream n) : StreamPc → Prop
  | .setProtocol _ | .setIdle _ => Unprepared s
  | .mallocList => s.transferNum = Fin.last n ∧ Unprepared s
  | .allocTransfer i => Filling s i (Option.isSome · = true)
  | .mallocBuffer i =>
      Filling s i (· = some { userData := true }) ∧ ∀ j, (s.transfer j).isSome = true
  | .submit _ | .runLoop => Prepared s ∧ (s.submitted = true ↔ ∃ j, s.inFlight j = true)
  | .handleEvents => Prepared s ∧ s.submitted = true
  | .cleanup | .waitLoop =>
      Prepared s ∧ ((∃ j, s.inFlight j = true) → s.submitted = true) ∨ Unprepared s
  | .cancel i => Prepared s ∧ ((∃ j : Fin n, j < i ∧ s.inFlight j = true) → s.submitted = true)
  | .handleCancellation => Prepared s
  | .free i => Prepared s ∨ i = 0 ∧ Unprepared s
  | .returned => True
  | .crashed => False

structure Inv (s : Stream n) : Prop where
  flags : ∀ i, (s.iface i).submitted = s.inFlight i
  freed : ∀ i, s.calls.count (.free i) =
    if i < s.pc.freed n ∧ (s.transfer i).isSome = true ∧ s.inFlight i = false then 1 else 0
  ready : s.Ready s.pc

theorem start_inv {list : List UhdIface} (hfresh : ∀ iface ∈ list, iface.submitted = false) :
    Inv (start list) where
  flags i := hfresh _ (List.get_mem list i)
  freed i := by simp [start]
  ready := ⟨rfl, fun _ => rfl, rfl, fun _ => rfl⟩

theorem slot_val {i : Nat} {j : Fin n} (h : s.slot i = some j) : j.val = i := by
  unfold slot at h
  split at h
  · rw [← Option.some.inj h]
  · cases h

theorem slot_none {i : Nat} (h : s.slot i = none) : s.transferNum ≤ i := by
  unfold slot at h
  split at h
  · cases h
  · omega

theorem Inv.move (h : Inv s) (hiface : s'.iface = s.iface) (hflight : s'.inFlight = s.inFlight)
    (htransfer : s'.transfer = s.transfer) (hcalls : s'.calls = s.calls)
    (hbound : s'.pc.freed n = s.pc.freed n) (hready : s'.Ready s'.pc) : Inv s' where
  flags i := by rw [hiface, hflight, h.flags]
  freed i := by rw [hcalls, hbound, htransfer, hflight, h.freed]
  ready := hready

theorem Inv.isSubmitted (h : Inv s) (i : Fin n) :
    s.isSubmitted i { userData := true } = s.inFlight i := by
  rw [Stream.isSubmitted, h.flags, Bool.true_and]

theorem Inv.rescan (h : Inv s) (hprepared : Prepared s) (next : StreamPc) :
    s.rescan next = { s with pc := next, submitted := (List.finRange n).any s.inFlight } := by
  obtain ⟨-, hnum, htransfer⟩ := hprepared
  have hall : (List.finRange n).take s.transferNum = List.finRange n := by
    rw [hnum]
    exact List.take_of_length_le (Nat.le_of_eq List.length_finRange)
  have hany : (fun i => (s.transfer i).any (s.isSubmitted i)) = s.inFlight := by
    funext i
    rw [htransfer i]
    exact h.isSubmitted i
  rw [Stream.rescan, hall, hany, if_pos]
  exact List.all_eq_true.mpr fun i _ => by rw [htransfer i]; rfl

theorem Prepared.slot_none (h : Prepared s) {i : Nat} (hslot : s.slot i = none) (j : Fin n) :
    j < i := by
  have := Stream.slot_none hslot
  rw [h.2.1] at this
  exact Nat.lt_of_lt_of_le j.isLt this

theorem Filling.all {i : Nat} {done : Option Transfer → Prop} (h : Filling s i done)
    (hslot : s.slot i = none) (j : Fin n) : done (s.transfer j) := by
  have := Stream.slot_none hslot
  rw [h.2.1] at this
  exact h.2.2.1 j (Nat.lt_of_lt_of_le j.isLt this)

theorem Idle.known (h : Idle s) : s.submitted = true ↔ ∃ j, s.inFlight j = true := by
  simp [h.1, h.2]

theorem lt_succ_of_ne {i j : Fin n} (hne : i ≠ j) : i.val < j.val + 1 ↔ i.val < j.val := by
  have := Fin.val_ne_of_ne hne
  omega

theorem below_next {done done' : Fin n → Prop} {j : Fin n}
    (hbelow : ∀ k : Fin n, k.val < j.val → done k) (hj : done' j)
    (hother : ∀ k, k ≠ j → done k → done' k) (k : Fin n) (hk : k.val < j.val + 1) : done' k := by
  by_cases hkj : k = j
  · exact hkj ▸ hj
  · exact hother k hkj (hbelow k ((lt_succ_of_ne hkj).mp hk))

theorem freed_next {calls : List (StreamCall n)} {j : Fin n} {freeable : Fin n → Prop}
    [DecidablePred freeable] (hfreed : ∀ i : Fin n, calls.count (.free i) =
      if i.val < j.val ∧ freeable i then 1 else 0) (hj : freeable j) (i : Fin n) :
    (calls ++ [StreamCall.free j]).count (.free i) =
      if i.val < j.val + 1 ∧ freeable i then 1 else 0 := by
  rw [List.count_append, List.count_singleton, hfreed]
  by_cases hij : i = j
  · subst hij
    simp [hj]
  · simp [lt_succ_of_ne hij, Ne.symm hij]

theorem free_inv (h : Inv s) {i : Nat} (hpc : s.pc = .free i) (hgo : s.go = some s') : Inv s' := by
  have hready := h.ready
  have hfreed := h.freed
  simp only [hpc, StreamPc.freed] at hfreed
  rw [hpc] at hready
  simp only [go, hpc] at hgo
  rcases hready with hprepared | ⟨rfl, hnone⟩
  · rw [if_pos hprepared.1] at hgo
    split at hgo
    case h_1 hslot =>
      obtain rfl := Option.some.inj hgo
      refine ⟨h.flags, fun j => ?_, trivial⟩
      rw [hfreed]
      simp [StreamPc.freed, hprepared.slot_none hslot j]
    case h_2 j hslot =>
      obtain rfl := slot_val hslot
      rw [hprepared.2.2 j] at hgo
      dsimp only at hgo
      rw [h.isSubmitted] at hgo
      cases hflight : s.inFlight j with
      | true =>
          rw [if_pos hflight] at hgo
          obtain rfl := Option.some.inj hgo
          refine ⟨h.flags, fun k => ?_, Or.inl hprepared⟩
          rw [hfreed]
          by_cases hk : k = j
          · simp [StreamPc.freed, hk, hflight]
          · simp [StreamPc.freed, lt_succ_of_ne hk]
      | false =>
          rw [if_neg (by simp [hflight])] at hgo
          obtain rfl := Option.some.inj hgo
          refine ⟨h.flags, fun k => ?_, Or.inl hprepared⟩
          exact freed_next hfreed ⟨by rw [hprepared.2.2 j]; rfl, hflight⟩ k
  · rw [if_neg (by simp [hnone.1])] at hgo
    obtain rfl := Option.some.inj hgo
    refine ⟨h.flags, fun j => ?_, trivial⟩
    rw [hfreed]
    simp [StreamPc.freed, hnone.2.1]

theorem cancelNext_inv (h : Inv s) {i : Nat} (hpc : s.pc = .cancel i) (hgo : s.go = some s') :
    Inv s' := by
  have hready := h.ready
  rw [hpc] at hready
  obtain ⟨hprepared, hcancelled⟩ := hready
  simp only [go, hpc] at hgo
  split at hgo
  case h_1 hslot =>
    obtain rfl := Option.some.inj hgo
    refine h.move rfl rfl rfl rfl (hpc ▸ rfl) (Or.inl ⟨hprepared, ?_⟩)
    rintro ⟨j, hj⟩
    exact hcancelled ⟨j, hprepared.slot_none hslot j, hj⟩
  case h_2 j hslot =>
    obtain rfl := slot_val hslot
    rw [hprepared.2.2 j] at hgo
    dsimp only at hgo
    rw [h.isSubmitted] at hgo
    split at hgo
    · cases hgo
    case isFalse hflight =>
      obtain rfl := Option.some.inj hgo
      refine h.move rfl rfl rfl rfl (hpc ▸ rfl) ⟨hprepared, ?_⟩
      rintro ⟨k, hk, hkflight⟩
      rcases Nat.lt_succ_iff_lt_or_eq.mp hk with hk | hk
      · exact hcancelled ⟨k, hk, hkflight⟩
      · exact absurd (Fin.ext hk ▸ hkflight) hflight

theorem go_inv (h : Inv s) (hgo : s.go = some s') : Inv s' := by
  cases hpc : s.pc
  case free i => exact free_inv h hpc hgo
  case cancel i => exact cancelNext_inv h hpc hgo
  all_goals
    have hready := h.ready
    rw [hpc] at hready
    simp only [go, hpc] at hgo
  case setProtocol i =>
    split at hgo
    · cases hgo
    · obtain rfl := Option.some.inj hgo
      exact h.move rfl rfl rfl rfl (hpc ▸ rfl) ⟨rfl, hready⟩
  case allocTransfer i =>
    split at hgo
    case h_1 => cases hgo
    case h_2 hslot =>
      obtain rfl := Option.some.inj hgo
      have hfilling : Filling s i (Option.isSome · = true) := hready
      exact h.move rfl rfl rfl rfl (hpc ▸ rfl)
        ⟨⟨hready.1, hready.2.1, nofun, hready.2.2.2⟩, hfilling.all hslot⟩
  case mallocBuffer i =>
    split at hgo
    case h_1 => cases hgo
    case h_2 hslot =>
      obtain rfl := Option.some.inj hgo
      obtain ⟨hfilling, -⟩ := hready
      exact h.move rfl rfl rfl rfl (hpc ▸ rfl)
        ⟨⟨hfilling.1, hfilling.2.1, hfilling.all hslot⟩, hfilling.2.2.2.known⟩
  case submit i =>
    split at hgo
    case h_1 => cases hgo
    case h_2 hslot =>
      obtain rfl := Option.some.inj hgo
      exact h.move rfl rfl rfl rfl (hpc ▸ rfl) hready
  case runLoop =>
    obtain ⟨hprepared, hknown⟩ := hready
    split at hgo
    case isTrue hon =>
      obtain rfl := Option.some.inj hgo
      exact h.move rfl rfl rfl rfl (hpc ▸ rfl) ⟨hprepared, (Bool.and_eq_true_iff.mp hon).1⟩
    case isFalse =>
      split at hgo <;> obtain rfl := Option.some.inj hgo <;>
        exact h.move rfl rfl rfl rfl (hpc ▸ rfl) (Or.inl ⟨hprepared, hknown.mpr⟩)
  case cleanup =>
    split at hgo
    case isTrue hsubmitted =>
      obtain rfl := Option.some.inj hgo
      have hprepared : Prepared s := by
        rcases hready with hready | hnone
        · exact hready.1
        · rw [hnone.2.2.1] at hsubmitted
          cases hsubmitted
      exact h.move rfl rfl rfl rfl (hpc ▸ rfl) ⟨hprepared, nofun⟩
    case isFalse =>
      obtain rfl := Option.some.inj hgo
      exact h.move rfl rfl rfl rfl (hpc ▸ rfl) hready
  case waitLoop =>
    split at hgo
    case isTrue hsubmitted =>
      obtain rfl := Option.some.inj hgo
      rcases hready with hready | hnone
      · exact h.move rfl rfl rfl rfl (hpc ▸ rfl) hready.1
      · rw [hnone.2.2.1] at hsubmitted
        cases hsubmitted
    case isFalse =>
      obtain rfl := Option.some.inj hgo
      exact h.move rfl rfl rfl rfl (hpc ▸ rfl)
        (hready.imp And.left fun hnone => ⟨rfl, hnone⟩)
  all_goals cases hgo

theorem request_inv (h : Inv s) {ok : Bool} (hstep : s.request ok = some s') : Inv s' := by
  have hready := h.ready
  cases hpc : s.pc <;> rw [hpc] at hready <;> simp only [request, hpc] at hstep <;> try cases hstep
  case setProtocol i =>
    split at hstep
    · obtain rfl := Option.some.inj hstep
      cases ok with
      | true => exact h.move rfl rfl rfl rfl (hpc ▸ rfl) hready
      | false => exact h.move rfl rfl rfl rfl (hpc ▸ rfl) (Or.inr hready)
    · cases hstep
  case setIdle i =>
    cases ok with
    | true => exact h.move rfl rfl rfl rfl (hpc ▸ rfl) hready
    | false => exact h.move rfl rfl rfl rfl (hpc ▸ rfl) (Or.inr hready)

theorem Inv.notMem_free (h : Inv s) (hbound : s.pc.freed n = 0) (i : Fin n) :
    .free i ∉ s.calls := by
  have hfreed := h.freed i
  rw [hbound] at hfreed
  exact List.count_eq_zero.mp (by simpa using hfreed)

theorem inv_of_notMem_free (hflags : ∀ i, (s.iface i).submitted = s.inFlight i)
    (hfree : ∀ i, .free i ∉ s.calls) (hbound : s.pc.freed n = 0) (hready : s.Ready s.pc) :
    Inv s where
  flags := hflags
  freed i := by
    rw [hbound, List.count_eq_zero.mpr (hfree i)]
    simp
  ready := hready

theorem alloc_inv (h : Inv s) (hstep : s.alloc true = some s') : Inv s' := by
  have hready := h.ready
  cases hpc : s.pc <;> rw [hpc] at hready <;> simp only [alloc, hpc] at hstep <;> try cases hstep
  all_goals have hfree := h.notMem_free (hpc ▸ rfl)
  case mallocList =>
    exact inv_of_notMem_free h.flags hfree rfl ⟨rfl, hready.1, nofun, hready.2.2.2⟩
  case allocTransfer i =>
    split at hstep
    · cases hstep
    case h_2 j hslot =>
      obtain rfl := slot_val hslot
      obtain rfl := Option.some.inj hstep
      refine inv_of_notMem_free h.flags hfree rfl ⟨hready.1, hready.2.1, ?_, hready.2.2.2⟩
      exact below_next hready.2.2.1 (by simp) fun k hkj hdone => by simpa [hkj] using hdone
  case mallocBuffer i =>
    split at hstep
    · cases hstep
    case h_2 j hslot =>
      obtain rfl := slot_val hslot
      obtain rfl := Option.some.inj hstep
      obtain ⟨hfilling, hsome⟩ := hready
      refine inv_of_notMem_free h.flags hfree rfl
        ⟨⟨hfilling.1, hfilling.2.1, ?_, hfilling.2.2.2⟩, fun k => ?_⟩
      · exact below_next hfilling.2.2.1 (by simp) fun k hkj hdone => by simpa [hkj] using hdone
      · by_cases hkj : k = j
        · simp [hkj]
        · simpa [hkj] using hsome k

theorem submit_inv (h : Inv s) {ok : Bool} (hstep : s.submit ok = some s') : Inv s' := by
  have hready := h.ready
  cases hpc : s.pc <;> rw [hpc] at hready <;> simp only [submit, hpc] at hstep <;> try cases hstep
  have hfree (i j : Fin n) : .free i ∉ s.calls ++ [.submit j] := by
    simpa using h.notMem_free (hpc ▸ rfl) i
  case submit i =>
    obtain ⟨hprepared, hknown⟩ := hready
    split at hstep
    · cases hstep
    case h_2 j hslot =>
      cases ok with
      | true =>
          obtain rfl := Option.some.inj hstep
          refine inv_of_notMem_free (fun k => ?_) (fun k => hfree k j) rfl ⟨hprepared, ?_⟩
          · refine (setSubmitted_submitted _ j k true).trans ?_
            by_cases hk : k = j
            · simp [hk, submitTransfer, setInFlight, setSubmitted]
            · simp [hk, submitTransfer, setInFlight, setSubmitted, call, h.flags]
          · exact iff_of_true rfl ⟨j, by simp [submitTransfer, setInFlight, setSubmitted]⟩
      | false =>
          obtain rfl := Option.some.inj hstep
          exact inv_of_notMem_free h.flags (fun k => hfree k j) rfl (Or.inl ⟨hprepared, hknown.mpr⟩)

theorem cancel_inv (h : Inv s) {ok : Bool} (hstep : s.cancel ok = some s') : Inv s' := by
  have hready := h.ready
  cases hpc : s.pc <;> rw [hpc] at hready <;> simp only [cancel, hpc] at hstep <;> try cases hstep
  have hfree (i j : Fin n) : .free i ∉ s.calls ++ [.cancel j] := by
    simpa using h.notMem_free (hpc ▸ rfl) i
  case cancel i =>
    obtain ⟨hprepared, hcancelled⟩ := hready
    split at hstep
    · cases hstep
    case h_2 j hslot =>
      obtain rfl := slot_val hslot
      rw [hprepared.2.2 j] at hstep
      dsimp only at hstep
      rw [h.isSubmitted] at hstep
      -- what is flagged is in flight, so that it can be cancelled
      cases hflight : s.inFlight j <;> cases ok <;> simp [hflight] at hstep
      obtain rfl := hstep
      exact inv_of_notMem_free h.flags (fun k => hfree k j) rfl ⟨hprepared, fun _ => rfl⟩

theorem Prepared.cb (h : Prepared s) {i : Fin n} {status : TransferStatus} {resubmitted : Bool} :
    Prepared ((s.setInFlight i false).dumpIfaceListStreamCb i status resubmitted) :=
  ⟨cb_transferList.trans h.1, cb_transferNum.trans h.2.1,
    fun j => (congrFun cb_transfer j).trans (h.2.2 j)⟩

theorem complete_inv (h : Inv s) {i : Fin n} {status : TransferStatus} {resubmitted : Bool}
    (hstep : s.complete i status resubmitted = some s') : Inv s' := by
  obtain ⟨hpc, hflight, rfl⟩ := complete_cases hstep
  have hbound : s.pc.freed n = 0 := by
    rcases hpc with hpc | hpc <;> rw [hpc] <;> rfl
  refine inv_of_notMem_free (fun j => ?_) (fun j => ?_) ?_ ?_
  · rw [cb_iface_submitted, cb_inFlight]
    by_cases hj : j = i
    · subst hj
      cases hagain : again status resubmitted <;> simp [setInFlight]
    · cases hagain : again status resubmitted <;> simp [setInFlight, hj, h.flags]
  · rw [cb_calls]
    have hnone := h.notMem_free hbound j
    split
    · simpa [setInFlight] using hnone
    · exact hnone
  · rw [cb_pc]
    exact hbound
  · have hready := h.ready
    rw [cb_pc, show (s.setInFlight i false).pc = s.pc from rfl]
    rcases hpc with hpc | hpc <;> rw [hpc] at hready ⊢
    · exact ⟨hready.1.cb, cb_submitted.trans hready.2⟩
    · exact Prepared.cb hready

theorem handled_inv (h : Inv s) {ok : Bool} (hstep : s.handled ok = some s') : Inv s' := by
  have hready := h.ready
  cases hpc : s.pc <;> rw [hpc] at hready <;> simp only [handled, hpc] at hstep <;> try cases hstep
  all_goals have hfree := h.notMem_free (hpc ▸ rfl)
  case handleEvents =>
    obtain ⟨hprepared, hsubmitted⟩ := hready
    cases ok with
    | true =>
        rw [if_pos rfl, h.rescan hprepared]
        exact inv_of_notMem_free h.flags hfree rfl ⟨hprepared, by simp⟩
    | false => exact inv_of_notMem_free h.flags hfree rfl (Or.inl ⟨hprepared, fun _ => hsubmitted⟩)
  case handleCancellation =>
    cases ok with
    | true =>
        rw [if_pos rfl, h.rescan hready]
        exact inv_of_notMem_free h.flags hfree rfl (Or.inl ⟨hready, by simp⟩)
    | false =>
        exact h.move rfl rfl rfl rfl (hpc ▸ rfl) (Or.inl hready)

theorem step_inv {e : StreamEvent n} (h : Inv s) (he : e ≠ .alloc false)
    (hstep : step s e = some s') : Inv s' := by
  cases e with
  | go => exact go_inv h hstep
  | signal =>
      obtain rfl := Option.some.inj hstep
      exact h.move rfl rfl rfl rfl rfl h.ready
  | request ok => exact request_inv h hstep
  | alloc ok =>
      cases ok with
      | true => exact alloc_inv h hstep
      | false => exact absurd rfl he
  | submit ok => exact submit_inv h hstep
  | cancel ok => exact cancel_inv h hstep
  | complete i status resubmitted => exact complete_inv h hstep
  | handled ok => exact handled_inv h hstep

end Stream

def StreamPc.ending : StreamPc → Bool
  | .free _ | .returned => true
  | _ => false

namespace Stream

variable {n : Nat} {s s' : Stream n} {e : StreamEvent n}

/-- `libusb_handle_events` fails during cancellation. -/
def Aborted (s : Stream n) (e : StreamEvent n) : Prop :=
  s.pc = .handleCancellation ∧ e = .handled false

def Signalled (s : Stream n) (e : StreamEvent n) : Prop :=
  s.pc = .runLoop ∧ e = .go ∧ s.exitSignum = true ∧ ∃ i, s.inFlight i = true

theorem go_ending (h : s.go = some s') (hend : s'.pc.ending = true) :
    s'.inFlight = s.inFlight ∧ (s.pc.ending = true ∨ s.pc = .waitLoop ∧ s.submitted = false) := by
  unfold go at h
  grind [StreamPc.ending, call]

theorem go_result (h : s.go = some s') (hpc : s.pc ≠ .runLoop) : s'.result = s.result := by
  unfold go at h
  grind [call]

theorem step_result (hother : s.pc = .runLoop → e ≠ .go) (h : step s e = some s') :
    s'.result = s.result := by
  cases e with
  | go => exact go_result h fun hpc => hother hpc rfl
  | signal =>
      obtain rfl := Option.some.inj h
      rfl
  | request ok =>
      simp only [step, request] at h
      grind
  | alloc ok =>
      simp only [step, alloc] at h
      grind
  | submit ok =>
      simp only [step, submit] at h
      grind [submitTransfer, setSubmitted, setInFlight, call]
  | cancel ok =>
      simp only [step, cancel] at h
      grind [setSubmitted, call]
  | complete i status resubmitted =>
      obtain ⟨-, -, rfl⟩ := complete_cases h
      exact cb_result
  | handled ok =>
      simp only [step, handled] at h
      grind [rescan]

theorem step_ending (h : step s e = some s') (hend : s'.pc.ending = true) :
    s'.inFlight = s.inFlight ∧ (s.pc.ending = true ∨ s.pc = .waitLoop ∧ s.submitted = false) ∨
      Aborted s e := by
  cases e with
  | go => exact Or.inl (go_ending h hend)
  | signal =>
      obtain rfl := Option.some.inj h
      exact Or.inl ⟨rfl, Or.inl hend⟩
  | request ok =>
      simp only [step, request] at h
      grind [StreamPc.ending]
  | alloc ok =>
      simp only [step, alloc] at h
      grind [StreamPc.ending]
  | submit ok =>
      simp only [step, submit] at h
      grind [StreamPc.ending]
  | cancel ok =>
      simp only [step, cancel] at h
      grind [StreamPc.ending]
  | complete i status resubmitted =>
      obtain ⟨hpc, -, rfl⟩ := complete_cases h
      rw [cb_pc] at hend
      rcases hpc with hpc | hpc <;> simp [setInFlight, hpc, StreamPc.ending] at hend
  | handled ok =>
      simp only [step, handled] at h
      grind [rescan, StreamPc.ending, Aborted]

theorem step_result_iff (hn : 0 < n) (hinv : Inv s) (h : step s e = some s') :
    s'.result = true ↔ s.result = true ∨ Signalled s e := by
  by_cases hgo : s.pc = .runLoop ∧ e = .go
  · obtain ⟨hpc, rfl⟩ := hgo
    have hready := hinv.ready
    rw [hpc] at hready
    obtain ⟨⟨-, hnum, -⟩, hknown⟩ := hready
    simp only [step, go, hpc, hnum] at h
    split at h
    case isTrue hon =>
      obtain rfl := Option.some.inj h
      have hnone : ¬ Signalled s .go := by
        rintro ⟨-, -, hexit, -⟩
        simp [hexit] at hon
      exact (or_iff_left hnone).symm
    case isFalse hoff =>
      split at h
      case isTrue hstop =>
        obtain rfl := Option.some.inj h
        have hnone : ¬ Signalled s .go := by
          rintro ⟨-, -, -, hflight⟩
          rw [hstop.2] at hknown
          cases hknown.mpr hflight
        exact (or_iff_left hnone).symm
      case isFalse hstop =>
        obtain rfl := Option.some.inj h
        have hsubmitted : s.submitted = true :=
          eq_true_of_ne_false fun hnone => hstop ⟨hn, hnone⟩
        have hexit : s.exitSignum = true := by simpa [hsubmitted] using hoff
        exact iff_of_true rfl (Or.inr ⟨hpc, rfl, hexit, hknown.mp hsubmitted⟩)
  · have hsame : s'.result = s.result := step_result (fun hpc he => hgo ⟨hpc, he⟩) h
    have hnone : ¬ Signalled s e := fun hsignal => hgo ⟨hsignal.1, hsignal.2.1⟩
    rw [hsame, or_iff_left hnone]

/-- The function has nothing to wait for on its way to the end. -/
def Settled (s : Stream n) : Prop :=
  (s.pc = .cleanup ∨ s.pc = .waitLoop) ∧ s.submitted = false ∨ s.pc.ending = true

theorem free_go {i : Nat} (hpc : s.pc = .free i) : ∃ s', step s .go = some s' ∧
    (s'.pc = .returned ∨ s'.pc = .crashed ∨ i < n ∧ s'.pc = .free (i + 1)) := by
  simp only [step, go, hpc]
  split
  · split
    · exact ⟨_, rfl, Or.inl rfl⟩
    · next j hslot =>
        obtain rfl := slot_val hslot
        split
        · exact ⟨_, rfl, Or.inr (Or.inl rfl)⟩
        · split
          · exact ⟨_, rfl, Or.inr (Or.inr ⟨j.isLt, rfl⟩)⟩
          · exact ⟨_, rfl, Or.inr (Or.inr ⟨j.isLt, rfl⟩)⟩
  · exact ⟨_, rfl, Or.inl rfl⟩

def Ends (s : Stream n) (ends : StreamPc) : Prop :=
  ∃ m s', steps step s (List.replicate m .go) = some s' ∧ s'.pc = ends

theorem Ends.go {ends : StreamPc} (h : Ends s' ends) (hgo : step s .go = some s') :
    Ends s ends := by
  obtain ⟨m, s'', hrun, hpc⟩ := h
  exact ⟨m + 1, s'', steps_cons.mpr ⟨s', hgo, hrun⟩, hpc⟩

theorem free_ends {i : Nat} (hpc : s.pc = .free i) : Ends s .returned ∨ Ends s .crashed := by
  induction hm : n - i generalizing s i with
  | zero =>
      obtain ⟨s', hgo, hend | hend | ⟨hlt, -⟩⟩ := free_go hpc
      · exact Or.inl (Ends.go ⟨0, s', rfl, hend⟩ hgo)
      · exact Or.inr (Ends.go ⟨0, s', rfl, hend⟩ hgo)
      · omega
  | succ m ih =>
      obtain ⟨s', hgo, hend | hend | ⟨-, hnext⟩⟩ := free_go hpc
      · exact Or.inl (Ends.go ⟨0, s', rfl, hend⟩ hgo)
      · exact Or.inr (Ends.go ⟨0, s', rfl, hend⟩ hgo)
      · exact (ih hnext (by omega)).imp (fun h => h.go hgo) fun h => h.go hgo

theorem settled_ends (h : Settled s) : Ends s .returned ∨ Ends s .crashed := by
  have hwait {s : Stream n} (hpc : s.pc = .waitLoop) (hidle : s.submitted = false) :
      Ends s .returned ∨ Ends s .crashed := by
    have hgo : step s .go = some { s with pc := .free 0 } := by
      simp [step, go, hpc, hidle]
    have hends : Ends { s with pc := .free 0 } .returned ∨ Ends { s with pc := .free 0 } .crashed :=
      free_ends rfl
    exact hends.imp (fun h => h.go hgo) fun h => h.go hgo
  rcases h with ⟨hpc | hpc, hidle⟩ | hending
  · have hgo : step s .go = some { s with pc := .waitLoop } := by
      simp [step, go, hpc, hidle]
    have hends := hwait (s := { s with pc := .waitLoop }) rfl hidle
    exact hends.imp (fun h => h.go hgo) fun h => h.go hgo
  · exact hwait hpc hidle
  · cases hpc : s.pc
    case free i => exact free_ends hpc
    case returned => exact Or.inl ⟨0, s, rfl, hpc⟩
    all_goals
      rw [hpc] at hending
      cases hending

theorem Inv.goes {m : Nat} (h : Inv s) (hrun : steps step s (List.replicate m .go) = some s') :
    Inv s' := by
  have hnone : ∀ e ∈ List.replicate m (StreamEvent.go : StreamEvent n), e ≠ .alloc false := by
    intro e he
    rw [List.eq_of_mem_replicate he]
    nofun
  exact steps_invariant step_inv h hnone hrun

theorem Inv.ends (h : Inv s) (hsettled : Settled s) : Ends s .returned := by
  refine (settled_ends hsettled).resolve_right ?_
  rintro ⟨m, s', hrun, hpc⟩
  have hready := (h.goes hrun).ready
  rw [hpc] at hready
  exact hready

section Run

variable {list : List UhdIface} {events : List (StreamEvent list.length)} {s : Stream list.length}

theorem run_inv (hfresh : ∀ iface ∈ list, iface.submitted = false)
    (halloc : .alloc false ∉ events) (hrun : steps step (start list) events = some s) : Inv s := by
  have hallowed : ∀ e ∈ events, e ≠ .alloc false := by
    rintro e he rfl
    exact halloc he
  exact steps_invariant step_inv (start_inv hfresh) hallowed hrun

theorem run_result (hne : list ≠ []) (hfresh : ∀ iface ∈ list, iface.submitted = false)
    (halloc : .alloc false ∉ events) (hrun : steps step (start list) events = some s) :
    s.result = true ↔ Visits step (start list) events Signalled := by
  revert halloc
  refine steps_induction (motive := fun events s => .alloc false ∉ events →
    (s.result = true ↔ Visits step (start list) events Signalled)) ?_ ?_ hrun
  · exact fun _ => iff_of_false nofun not_visits_nil
  · intro events e s₁ s₂ hbefore he ih halloc
    rw [List.mem_append, not_or] at halloc
    rw [visits_concat hbefore, ← ih halloc.1]
    exact step_result_iff (List.length_pos_iff.mpr hne) (run_inv hfresh halloc.1 hbefore) he

theorem run_leak (hfresh : ∀ iface ∈ list, iface.submitted = false)
    (halloc : .alloc false ∉ events) (hrun : steps step (start list) events = some s)
    (hend : s.pc.ending = true) {i : Fin list.length} (hflight : s.inFlight i = true) :
    Visits step (start list) events Aborted := by
  revert halloc hend hflight
  refine steps_induction (motive := fun events s => .alloc false ∉ events → s.pc.ending = true →
    s.inFlight i = true → Visits step (start list) events Aborted) ?_ ?_ hrun
  · exact fun _ => nofun
  · intro events e s₁ s₂ hbefore he ih halloc hend hflight
    rw [List.mem_append, not_or] at halloc
    rw [visits_concat hbefore]
    obtain ⟨hsame, hending | ⟨hwait, hsubmitted⟩⟩ | haborted := step_ending he hend
    · exact Or.inl (ih halloc.1 hending (hsame ▸ hflight))
    · have hready := (run_inv hfresh halloc.1 hbefore).ready
      rw [hwait] at hready
      rw [hsame] at hflight
      rcases hready with ⟨-, hknown⟩ | hnone
      · rw [hknown ⟨i, hflight⟩] at hsubmitted
        cases hsubmitted
      · rw [hnone.2.2.2 i] at hflight
        cases hflight
    · exact Or.inr haborted

/-- In every run without a failing allocation: the flags say what is in flight, no transfer in
flight is freed, each other one is freed once before the function returns, a transfer is left in
flight only if the cancellation was aborted, and the result is true exactly if a signal ended
the loop while a transfer was in flight. The function returns where it has nothing to wait for. -/
theorem dumpIfaceListStream_lifecycle (hne : list ≠ [])
    (hfresh : ∀ iface ∈ list, iface.submitted = false) (halloc : .alloc false ∉ events)
    (hrun : steps step (start list) events = some s) :
    (∀ i, (s.iface i).submitted = s.inFlight i) ∧
    (∀ i, s.inFlight i = true → .free i ∉ s.calls) ∧
    s.pc ≠ .crashed ∧
    (Settled s → Ends s .returned) ∧
    (s.pc = .returned →
      (∀ i, s.calls.count (.free i) =
        if (s.transfer i).isSome = true ∧ s.inFlight i = false then 1 else 0) ∧
      ((∃ i, s.inFlight i = true) → Visits step (start list) events Aborted) ∧
      (s.result = true ↔ Visits step (start list) events Signalled)) := by
  have hinv : Inv s := run_inv hfresh halloc hrun
  refine ⟨hinv.flags, fun i hflight => ?_, fun hpc => ?_, hinv.ends, fun hpc =>
    ⟨fun i => ?_, ?_, ?_⟩⟩
  · have hfreed := hinv.freed i
    rw [if_neg (by simp [hflight])] at hfreed
    exact List.count_eq_zero.mp hfreed
  · have hready := hinv.ready
    rw [hpc] at hready
    exact hready
  · rw [hinv.freed, hpc]
    simp [StreamPc.freed]
  · rintro ⟨i, hflight⟩
    exact run_leak hfresh halloc hrun (hpc ▸ rfl) hflight
  · exact run_result hne hfresh halloc hrun

theorem dumpIfaceListStream_lifecycle_signal :
    ∃ s : Stream 1, steps step (start oneIface) (startUp ++ cancelledInTime) = some s ∧
      s.pc = .returned ∧
      (∀ i, s.calls.count (.free i) =
        if (s.transfer i).isSome = true ∧ s.inFlight i = false then 1 else 0) ∧
      ((∃ i, s.inFlight i = true) →
        Visits step (start oneIface) (startUp ++ cancelledInTime) Aborted) ∧
      (s.result = true ↔
        Visits step (start oneIface) (startUp ++ cancelledInTime) Signalled) :=
  have halloc : (.alloc false : StreamEvent 1) ∉ startUp ++ cancelledInTime := by decide
  ⟨_, rfl, rfl, (@dumpIfaceListStream_lifecycle oneIface (startUp ++ cancelledInTime) _ (by decide)
    (by decide) halloc rfl).2.2.2.2 rfl⟩

end Run

end Stream
end Usbutils
