import Usbutils.HidDump.Cancellation
import Usbutils.HidDump.Transfers

/-! The cleanup of `dump_iface_list_stream` after a call that fails, at any of the places it is
entered from. -/
namespace Usbutils
open Runs

namespace Stream

variable {n : Nat} {s s' : Stream n} {e : StreamEvent n} {k : Nat}

def Failed (s : Stream n) (e : StreamEvent n) : Prop :=
  e = .request false ∨ e = .alloc false ∨ e = .submit false ∨
    s.pc = .handleEvents ∧ e = .handled false

def TransferFailed (s : Stream n) (e : StreamEvent n) : Prop :=
  (∃ i, s.pc = .allocTransfer i) ∧ e = .alloc false

theorem failed_cleanup (hfailed : Failed s e) (h : step s e = some s') :
    s'.pc = .cleanup ∧ s'.result = s.result ∧ s.pc.cleaning = false := by
  rcases hfailed with rfl | rfl | rfl | ⟨hpc, rfl⟩
  · simp only [step, request] at h
    grind [StreamPc.cleaning]
  · simp only [step, alloc] at h
    grind [StreamPc.cleaning]
  · simp only [step, submit] at h
    grind [StreamPc.cleaning, submitTransfer, call]
  · simp only [step, handled, hpc] at h
    obtain rfl := Option.some.inj h
    exact ⟨rfl, rfl, hpc ▸ rfl⟩

theorem result_cleanup (hbefore : s.result = false) (h : step s e = some s')
    (hresult : s'.result = true) : s'.pc = .cleanup := by
  by_cases hgo : s.pc = .runLoop ∧ e = .go
  · obtain ⟨hpc, rfl⟩ := hgo
    simp only [step, go, hpc] at h
    grind
  · have hsame : s'.result = s.result := step_result (fun hpc he => hgo ⟨hpc, he⟩) h
    rw [hsame, hbefore] at hresult
    cases hresult

theorem run_failed {events : List (StreamEvent n)} (hstart : s.result = false)
    (hrun : steps step s events = some s') (hfailed : Visits step s events Failed) :
    s'.result = false := by
  have hinv : (s'.result = true → s'.pc.cleaning = true) ∧
      (Visits step s events Failed → s'.pc.cleaning = true ∧ s'.result = false) := by
    refine steps_induction (motive := fun events s' => (s'.result = true → s'.pc.cleaning = true) ∧
      (Visits step s events Failed → s'.pc.cleaning = true ∧ s'.result = false)) ?_ ?_ hrun
    · exact ⟨fun h => absurd (hstart.symm.trans h) nofun, fun h => absurd h not_visits_nil⟩
    · intro events e s₁ s₂ hbefore he ih
      rw [visits_concat hbefore]
      cases hclean : s₁.pc.cleaning with
      | true =>
          have hclean' := (step_cleaning hclean he).1
          have hsame : s₂.result = s₁.result := by
            refine step_result (fun hpc => ?_) he
            rw [hpc] at hclean
            cases hclean
          refine ⟨fun _ => hclean', fun h => ⟨hclean', ?_⟩⟩
          rcases h with h | h
          · exact hsame.trans (ih.2 h).2
          · rw [(failed_cleanup h he).2.2] at hclean
            cases hclean
      | false =>
          have hresult : s₁.result = false := by
            refine eq_false_of_ne_true fun h => ?_
            rw [ih.1 h] at hclean
            cases hclean
          refine ⟨fun h => by rw [result_cleanup hresult he h]; rfl, fun h => ?_⟩
          rcases h with h | h
          · rw [(ih.2 h).1] at hclean
            cases hclean
          · obtain ⟨hpc, hsame, -⟩ := failed_cleanup h he
            exact ⟨hpc ▸ rfl, hsame.trans hresult⟩
  exact (hinv.2 hfailed).2

def Unwound (n k : Nat) : StreamPc → Prop
  | .cleanup | .waitLoop => True
  | .free i => i ≤ k
  | .returned => k = n
  | .crashed => k < n
  | _ => False

/-- An allocation has failed when there were this many transfers. -/
structure Unwinding (s : Stream n) (k : Nat) : Prop where
  place : Unwound n k s.pc
  le : k ≤ n
  list : s.pc ≠ .returned → s.transferList = true
  num : s.transferNum = Fin.last n
  made : ∀ i : Fin n, (s.transfer i).isSome = true ↔ i < k
  idle : Idle s
  flags : ∀ i, (s.iface i).submitted = false
  freed : s.pc ≠ .crashed → ∀ i : Fin n, s.calls.count (.free i) =
    if i < s.pc.freed n ∧ i < k then 1 else 0

theorem Unwinding.move (h : Unwinding s k) (pc : StreamPc) (hplace : Unwound n k pc)
    (hfreed : pc.freed n = s.pc.freed n) (hnot : s.pc ≠ .crashed ∧ s.pc ≠ .returned) :
    Unwinding { s with pc } k where
  place := hplace
  le := h.le
  list _ := h.list hnot.2
  num := h.num
  made := h.made
  idle := h.idle
  flags := h.flags
  freed _ i := by
    rw [hfreed]
    exact h.freed hnot.1 i

theorem Unwinding.free (h : Unwinding s k) {i : Nat} (hpc : s.pc = .free i)
    (hgo : s.go = some s') : Unwinding s' k := by
  have hplace := h.place
  have hlist := h.list (by rw [hpc]; nofun)
  have hfreed := h.freed (by rw [hpc]; nofun)
  rw [hpc] at hplace
  simp only [hpc, StreamPc.freed] at hfreed
  simp only [go, hpc] at hgo
  rw [if_pos hlist] at hgo
  split at hgo
  case h_1 hslot =>
    obtain rfl := Option.some.inj hgo
    have hend : n ≤ i := by
      have hle := slot_none hslot
      rwa [h.num] at hle
    have hk : k = n := Nat.le_antisymm h.le (Nat.le_trans hend hplace)
    refine ⟨hk, h.le, fun hne => absurd rfl hne, h.num, h.made, h.idle, h.flags, fun _ j => ?_⟩
    rw [hfreed]
    simp [StreamPc.freed, Nat.lt_of_lt_of_le j.isLt hend]
  case h_2 j hslot =>
    obtain rfl := slot_val hslot
    cases htransfer : s.transfer j with
    | none =>
        have hnot : ¬j.val < k := fun hlt => by
          have hsome := (h.made j).mpr hlt
          rw [htransfer] at hsome
          cases hsome
        rw [htransfer] at hgo
        obtain rfl := Option.some.inj hgo
        have hk : k < n := Nat.lt_of_le_of_lt (Nat.not_lt.mp hnot) j.isLt
        exact ⟨hk, h.le, fun _ => hlist, h.num, h.made, h.idle, h.flags, fun hne => absurd rfl hne⟩
    | some transfer =>
        have hlt : j.val < k := (h.made j).mp (by rw [htransfer]; rfl)
        have hflag : s.isSubmitted j transfer = false := by
          rw [isSubmitted, h.flags, Bool.and_false]
        rw [htransfer] at hgo
        dsimp only at hgo
        rw [if_neg (by simp [hflag])] at hgo
        obtain rfl := Option.some.inj hgo
        exact ⟨hlt, h.le, fun _ => hlist, h.num, h.made, h.idle, h.flags,
          fun _ i => freed_next hfreed hlt i⟩

theorem asks_nothing (hplace : Unwound n k s.pc) (ok : Bool) :
    s.request ok = none ∧ s.alloc ok = none ∧ s.submit ok = none ∧ s.cancel ok = none ∧
      s.handled ok = none := by
  cases hpc : s.pc
  all_goals rw [hpc] at hplace
  case cleanup | waitLoop | free | returned | crashed =>
    simp only [request, alloc, submit, cancel, handled, hpc, and_self]
  all_goals exact hplace.elim

theorem Unwinding.step (h : Unwinding s k) (he : step s e = some s') : Unwinding s' k := by
  have hplace := h.place
  cases e with
  | signal =>
      obtain rfl := Option.some.inj he
      exact ⟨h.place, h.le, h.list, h.num, h.made, h.idle, h.flags, h.freed⟩
  | go =>
      cases hpc : s.pc
      case free i => exact h.free hpc he
      all_goals
        rw [hpc] at hplace
        simp only [Stream.step, go, hpc] at he
      case cleanup =>
        rw [if_neg (by simp [h.idle.1])] at he
        obtain rfl := Option.some.inj he
        exact h.move .waitLoop trivial (hpc ▸ rfl) (by simp [hpc])
      case waitLoop =>
        rw [if_neg (by simp [h.idle.1])] at he
        obtain rfl := Option.some.inj he
        exact h.move (.free 0) (Nat.zero_le _) (hpc ▸ rfl) (by simp [hpc])
      all_goals first | exact hplace.elim | cases he
  | complete i status resubmitted =>
      obtain ⟨hpc, -, -⟩ := complete_cases he
      rcases hpc with hpc | hpc <;> rw [hpc] at hplace <;> exact hplace.elim
  | request ok => exact absurd he (by simp [Stream.step, (asks_nothing hplace ok).1])
  | alloc ok => exact absurd he (by simp [Stream.step, (asks_nothing hplace ok).2.1])
  | submit ok => exact absurd he (by simp [Stream.step, (asks_nothing hplace ok).2.2.1])
  | cancel ok => exact absurd he (by simp [Stream.step, (asks_nothing hplace ok).2.2.2.1])
  | handled ok => exact absurd he (by simp [Stream.step, (asks_nothing hplace ok).2.2.2.2])

/-- The transfers that are not allocated yet. -/
def Blank (s : Stream n) : Prop := ∀ i, s.pc = .allocTransfer i →
  ∀ j : Fin n, i ≤ j → s.transfer j = none

theorem blank_step (h : Blank s) (he : step s e = some s') : Blank s' := by
  intro i hpc j hij
  cases e with
  | go =>
      simp only [step, go] at he
      grind [call]
  | signal =>
      obtain rfl := Option.some.inj he
      exact h i hpc j hij
  | request ok =>
      simp only [step, request] at he
      grind
  | alloc ok =>
      cases hat : s.pc <;> simp only [step, alloc, hat] at he <;> try cases he
      case mallocList => grind
      case mallocBuffer l => grind
      case allocTransfer l =>
        split at he
        · cases he
        case h_2 m hslot =>
          obtain rfl := slot_val hslot
          split at he
          · obtain rfl := Option.some.inj he
            obtain rfl := StreamPc.allocTransfer.inj hpc
            have hne : j ≠ m := by
              rintro rfl
              exact absurd hij (Nat.not_succ_le_self _)
            have hsame : Function.update s.transfer m (some { userData := false }) j =
                s.transfer j := Function.update_of_ne hne _ _
            exact hsame.trans (h _ hat j (Nat.le_of_succ_le hij))
          · obtain rfl := Option.some.inj he
            cases hpc
  | submit ok =>
      simp only [step, submit] at he
      grind
  | cancel ok =>
      simp only [step, cancel] at he
      grind
  | complete l status resubmitted =>
      obtain ⟨hat, -, rfl⟩ := complete_cases he
      rw [cb_pc] at hpc
      rcases hat with hat | hat <;> simp [setInFlight, hat] at hpc
  | handled ok =>
      simp only [step, handled] at he
      grind [rescan]

theorem unwinding_of_idle (hlist : s.transferList = true) (hnum : s.transferNum = Fin.last n)
    (hmade : ∀ i : Fin n, (s.transfer i).isSome = true ↔ i < k) (hidle : Idle s)
    (hflags : ∀ i, (s.iface i).submitted = s.inFlight i) (hfree : ∀ i, .free i ∉ s.calls)
    (hle : k ≤ n) : Unwinding { s with pc := .cleanup } k where
  place := trivial
  le := hle
  list _ := hlist
  num := hnum
  made := hmade
  idle := hidle
  flags i := (hflags i).trans (hidle.2 i)
  freed _ i := List.count_eq_zero.mpr (hfree i)

theorem alloc_failed (h : Inv s) (hblank : Blank s) (he : step s (.alloc false) = some s') :
    TransferFailed s (.alloc false) ∧ (∃ k < n, Unwinding s' k) ∨
      ¬TransferFailed s (.alloc false) ∧ (Inv s' ∨ Unwinding s' n) := by
  have hready := h.ready
  cases hpc : s.pc <;> rw [hpc] at hready <;> simp only [step, alloc, hpc] at he <;> try cases he
  all_goals have hfree := h.notMem_free (hpc ▸ rfl)
  case mallocList =>
    refine Or.inr ⟨?_, Or.inl (h.move rfl rfl rfl rfl (hpc ▸ rfl) (Or.inr hready.2))⟩
    rintro ⟨⟨i, hi⟩, -⟩
    rw [hpc] at hi
    cases hi
  case allocTransfer i =>
    split at he
    · cases he
    case h_2 j hslot =>
      obtain rfl := slot_val hslot
      obtain rfl := Option.some.inj he
      obtain ⟨hlist, hnum, hdone, hidle⟩ := hready
      have hmade (l : Fin n) : (s.transfer l).isSome = true ↔ l < j.val := by
        constructor
        · intro hsome
          by_contra hle
          rw [hblank _ hpc l (Nat.not_lt.mp hle)] at hsome
          cases hsome
        · exact hdone l
      exact Or.inl ⟨⟨⟨_, hpc⟩, rfl⟩, j, j.isLt,
        unwinding_of_idle hlist hnum hmade hidle h.flags hfree (Nat.le_of_lt j.isLt)⟩
  case mallocBuffer i =>
    split at he
    · cases he
    case h_2 j hslot =>
      obtain rfl := Option.some.inj he
      obtain ⟨⟨hlist, hnum, -, hidle⟩, hsome⟩ := hready
      have hmade (l : Fin n) : (s.transfer l).isSome = true ↔ l < n := iff_of_true (hsome l) l.isLt
      refine Or.inr ⟨?_, Or.inr
        (unwinding_of_idle hlist hnum hmade hidle h.flags hfree (Nat.le_refl n))⟩
      rintro ⟨⟨i, hi⟩, -⟩
      rw [hpc] at hi
      cases hi

inductive Block (n : Nat) where
  | transfer (i : Fin n)
  | buffer (i : Fin n)
  deriving DecidableEq, Repr

def Block.index : Block n → Fin n
  | .transfer i => i
  | .buffer i => i

def allocated (s : Stream n) : Block n → Bool
  | .transfer i => (s.transfer i).isSome
  | .buffer i => (s.transfer i).any Transfer.userData

/-- What a call frees; the flag `LIBUSB_TRANSFER_FREE_BUFFER` is set with the buffer. -/
def freedBy (s : Stream n) : StreamCall n → List (Block n)
  | .free i => .transfer i :: if s.allocated (.buffer i) then [.buffer i] else []
  | _ => []

def freedBlocks (s : Stream n) : List (Block n) := s.calls.flatMap s.freedBy

theorem count_freedBlocks_transfer (s : Stream n) (i : Fin n) :
    s.freedBlocks.count (.transfer i) = s.calls.count (.free i) := by
  unfold freedBlocks
  induction s.calls with
  | nil => rfl
  | cons c calls ih =>
      rw [List.flatMap_cons, List.count_append, ih, List.count_cons, Nat.add_comm]
      congr 1
      cases c with
      | free j =>
          rw [freedBy, List.count_cons]
          split <;> simp
      | _ => rfl

theorem count_freedBlocks_buffer (s : Stream n) (i : Fin n) :
    s.freedBlocks.count (.buffer i) =
      if s.allocated (.buffer i) then s.calls.count (.free i) else 0 := by
  unfold freedBlocks
  induction s.calls with
  | nil => simp
  | cons c calls ih =>
      rw [List.flatMap_cons, List.count_append, ih, List.count_cons]
      cases c with
      | free j =>
          by_cases hij : j = i
          · subst hij
            rw [freedBy]
            split <;> simp +arith
          · rw [freedBy]
            split <;> simp [hij]
      | _ => simp [freedBy]

/-- Nothing is freed twice or in flight, and in the end everything is freed that can be. -/
theorem freedBlocks_of_freed {m : Nat} {block : Block n}
    (h : ∀ i, s.calls.count (.free i) =
      if i < m ∧ (s.transfer i).isSome = true ∧ s.inFlight i = false then 1 else 0) :
    s.freedBlocks.count block =
      if block.index < m ∧ s.allocated block = true ∧ s.inFlight block.index = false then 1
      else 0 := by
  cases block with
  | transfer i => exact (count_freedBlocks_transfer s i).trans (h i)
  | buffer i =>
      rw [count_freedBlocks_buffer, h]
      cases htransfer : s.transfer i with
      | none => simp [allocated, Block.index, htransfer]
      | some transfer => cases hdata : transfer.userData <;>
          simp [allocated, Block.index, htransfer, hdata]

/-- The states of a run: as without failing allocations, or on the way back from one. -/
def Course (s : Stream n) : Prop := Inv s ∨ Unwinding s n

section Run

variable {list : List UhdIface} {events : List (StreamEvent list.length)} {s : Stream list.length}

theorem Course.step {s s' : Stream n} {e : StreamEvent n} (h : Course s) (hblank : Blank s)
    (he : step s e = some s') (hfailed : ¬TransferFailed s e) : Course s' := by
  rcases h with h | h
  · by_cases halloc : e = .alloc false
    · subst halloc
      rcases alloc_failed h hblank he with ⟨hat, -⟩ | ⟨-, hcourse⟩
      · exact absurd hat hfailed
      · exact hcourse
    · exact Or.inl (step_inv h halloc he)
  · exact Or.inr (h.step he)

theorem run_blank (hrun : steps step (start list) events = some s) : Blank s := by
  have hstep {s : Stream list.length} {e : StreamEvent list.length} {s' : Stream list.length}
      (h : Blank s) (_ : True) (he : step s e = some s') : Blank s' := blank_step h he
  exact steps_invariant hstep (fun _ _ _ _ => rfl) (fun _ _ => trivial) hrun

theorem run_course (hfresh : ∀ iface ∈ list, iface.submitted = false)
    (hrun : steps step (start list) events = some s) :
    (¬Visits step (start list) events TransferFailed → Course s) ∧
      (Visits step (start list) events TransferFailed →
        ∃ k < list.length, Unwinding s k) := by
  refine steps_induction (motive := fun events s =>
    (¬Visits step (start list) events TransferFailed → Course s) ∧
      (Visits step (start list) events TransferFailed →
        ∃ k < list.length, Unwinding s k)) ?_ ?_ hrun
  · exact ⟨fun _ => Or.inl (start_inv hfresh), fun h => absurd h not_visits_nil⟩
  · intro events e s₁ s₂ hbefore he ih
    have hblank := run_blank hbefore
    rw [visits_concat hbefore]
    constructor
    · intro hnot
      obtain ⟨hnone, hfailed⟩ := not_or.mp hnot
      exact (ih.1 hnone).step hblank he hfailed
    · rintro hvisits
      by_cases hbefore : Visits step (start list) events TransferFailed
      · obtain ⟨k, hk, h⟩ := ih.2 hbefore
        exact ⟨k, hk, h.step he⟩
      · have hfailed := hvisits.resolve_left hbefore
        obtain ⟨⟨i, hpc⟩, rfl⟩ := hfailed
        rcases ih.1 hbefore with h | h
        · rcases alloc_failed h hblank he with ⟨-, hunwinding⟩ | ⟨hnot, -⟩
          · exact hunwinding
          · exact absurd ⟨⟨i, hpc⟩, rfl⟩ hnot
        · have hplace := h.place
          rw [hpc] at hplace
          exact hplace.elim

theorem Course.not_crashed {s : Stream n} (h : Course s) : s.pc ≠ .crashed := by
  intro hpc
  rcases h with h | h
  · have hready := h.ready
    rw [hpc] at hready
    exact hready
  · have hplace := h.place
    rw [hpc] at hplace
    exact Nat.lt_irrefl n hplace

theorem Course.freed {s : Stream n} (h : Course s) (i : Fin n) : s.calls.count (.free i) =
    if i < s.pc.freed n ∧ (s.transfer i).isSome = true ∧ s.inFlight i = false then 1 else 0 := by
  rcases h with h | h
  · exact h.freed i
  · rw [h.freed (Course.not_crashed (Or.inr h)) i]
    simp [(h.made i).mpr i.isLt, h.idle.2 i]

theorem Unwinding.steps {s s' : Stream n} {events : List (StreamEvent n)} (h : Unwinding s k)
    (hrun : Runs.steps Stream.step s events = some s') : Unwinding s' k := by
  have hstep {s : Stream n} {e : StreamEvent n} {s' : Stream n} (h : Unwinding s k) (_ : True)
      (he : Stream.step s e = some s') : Unwinding s' k := h.step he
  have hinv := steps_invariant hstep h (fun _ _ => trivial) hrun
  exact hinv

theorem Course.goes {s s' : Stream n} {m : Nat} (h : Course s)
    (hrun : Runs.steps Stream.step s (List.replicate m .go) = some s') : Course s' :=
  h.imp (fun h => h.goes hrun) fun h => h.steps hrun

theorem Unwinding.ends {s : Stream n} (h : Unwinding s k) (hk : k < n) : Ends s .crashed := by
  have hsettled : Settled s ∨ s.pc = .crashed := by
    have hplace := h.place
    cases hpc : s.pc <;> rw [hpc] at hplace <;> first
      | exact hplace.elim
      | exact Or.inr rfl
      | exact Or.inl (Or.inl ⟨Or.inl hpc, h.idle.1⟩)
      | exact Or.inl (Or.inl ⟨Or.inr hpc, h.idle.1⟩)
      | exact Or.inl (Or.inr (hpc ▸ rfl))
  rcases hsettled with hsettled | hpc
  · rcases settled_ends hsettled with ⟨m, s', hrun, hpc⟩ | hcrashed
    · have hplace := (h.steps hrun).place
      rw [hpc] at hplace
      exact absurd hplace (Nat.ne_of_lt hk)
    · exact hcrashed
  · exact ⟨0, s, rfl, hpc⟩

/-- After a failing call the result is false. In every run without a failing
`libusb_alloc_transfer` no null pointer is followed, nothing is freed twice or in flight, what was
allocated and is not in flight is freed before the function returns, and it returns where it has
nothing to wait for; with one, the function follows a null pointer and never returns. -/
theorem dumpIfaceListStream_failures (hfresh : ∀ iface ∈ list, iface.submitted = false)
    (hrun : steps step (start list) events = some s) :
    (Visits step (start list) events Failed → s.result = false) ∧
    (¬Visits step (start list) events TransferFailed →
      s.pc ≠ .crashed ∧
      (∀ block, s.freedBlocks.count block ≤
        if s.allocated block = true ∧ s.inFlight block.index = false then 1 else 0) ∧
      (s.pc = .returned → ∀ block, s.freedBlocks.count block =
        if s.allocated block = true ∧ s.inFlight block.index = false then 1 else 0) ∧
      (Settled s → Ends s .returned)) ∧
    (Visits step (start list) events TransferFailed → s.pc ≠ .returned ∧ Ends s .crashed) := by
  obtain ⟨hcourse, hunwinding⟩ := run_course hfresh hrun
  refine ⟨run_failed rfl hrun, fun hnone => ?_, fun hfailed => ?_⟩
  · have h := hcourse hnone
    refine ⟨h.not_crashed, fun block => ?_, fun hpc block => ?_, fun hsettled => ?_⟩
    · rw [freedBlocks_of_freed h.freed]
      split
      case isTrue hblock => rw [if_pos hblock.2]
      case isFalse => exact Nat.zero_le _
    · rw [freedBlocks_of_freed h.freed, hpc]
      simp [StreamPc.freed]
    · refine (settled_ends hsettled).resolve_right ?_
      rintro ⟨m, s', hgo, hpc⟩
      exact (h.goes hgo).not_crashed hpc
  · obtain ⟨k, hk, h⟩ := hunwinding hfailed
    refine ⟨fun hpc => ?_, h.ends hk⟩
    have hplace := h.place
    rw [hpc] at hplace
    exact absurd hplace (Nat.ne_of_lt hk)

def noTransfer : List (StreamEvent 1) :=
  [.request true, .request true, .go, .alloc true, .alloc false, .go, .go, .go]

def refused : List (StreamEvent 1) :=
  [.request true, .request true, .go, .alloc true, .alloc true, .go, .alloc true, .go,
    .submit false, .go, .go, .go, .go]

theorem dumpIfaceListStream_failures_refused :
    ∃ s : Stream 1, steps step (start oneIface) refused = some s ∧ s.pc = .returned ∧
      s.freedBlocks = [.transfer 0, .buffer 0] ∧ s.result = false ∧
      ∀ block, s.freedBlocks.count block =
        if s.allocated block = true ∧ s.inFlight block.index = false then 1 else 0 := by
  have hfailed : Visits step (start oneIface) refused Failed :=
    ⟨refused.take 8, .submit false, refused.drop 9, _, rfl, rfl, Or.inr (Or.inr (Or.inl rfl))⟩
  have hnone : ¬Visits step (start oneIface) refused TransferFailed := by
    rintro ⟨before, e, after, s, hsplit, -, -, rfl⟩
    have hmem : .alloc false ∈ refused := by
      rw [hsplit]
      exact List.mem_append_right before List.mem_cons_self
    exact absurd hmem (by decide)
  have h := @dumpIfaceListStream_failures oneIface refused _ (by decide) rfl
  exact ⟨_, rfl, rfl, rfl, h.1 hfailed, (h.2.1 hnone).2.2.1 rfl⟩

/-- The cleanup follows the null pointer in the transfer list. -/
theorem dumpIfaceListStream_failures_transfer :
    ∃ s : Stream 1, steps step (start oneIface) noTransfer = some s ∧ s.pc = .crashed :=
  ⟨_, rfl, rfl⟩

end Run

end Stream
end Usbutils
