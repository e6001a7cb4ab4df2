import Usbutils.HidDump.Output

/-! The dumps that one run of `usbhid-dump` writes: what the interfaces answer for their report
descriptors, then what arrives in the stream while it is not paused. -/
namespace Usbutils
open Runs

/-- What `libusb_control_transfer` answers for the descriptor of an interface: an error, or the
bytes it writes into the buffer. -/
abbrev Descriptors :=
  (iface : UhdIface) → Except Int { data : List UInt8 // data.length ≤ iface.rdLen }

/-- `dump_iface_list_descriptor` from an interface on, with the buffer: what is dumped, and the
result. -/
def dumpIfaceListDescriptor (answer : Descriptors) :
    List UInt8 → List UhdIface → List (UhdIface × List UInt8) × Bool
  | _, [] => ([], true)
  | buf, iface :: rest =>
      if iface.rdLen > uhdMaxDescriptorSize then ([], false)
      else
        match answer iface with
        | .error _ => ([], false)
        | .ok data =>
            let buf := data.1 ++ buf.drop data.1.length
            let (dumped, result) := dumpIfaceListDescriptor answer buf rest
            ((iface, buf.take data.1.length) :: dumped, result)

def reportDescriptor (answer : Descriptors) (iface : UhdIface) : Option (List UInt8) :=
  if iface.rdLen > uhdMaxDescriptorSize then none
  else
    match answer iface with
    | .error _ => none
    | .ok data => some data.1

def described (answer : Descriptors) (iface : UhdIface) : Bool :=
  (reportDescriptor answer iface).isSome

theorem dumpIfaceListDescriptor_eq (answer : Descriptors) (buf : List UInt8)
    (list : List UhdIface) : dumpIfaceListDescriptor answer buf list =
      ((list.takeWhile (described answer)).map fun iface =>
        (iface, (reportDescriptor answer iface).getD []), list.all (described answer)) := by
  induction list generalizing buf with
  | nil => rfl
  | cons iface rest ih =>
      rw [dumpIfaceListDescriptor]
      split
      case isTrue hlong =>
        have hfails : described answer iface = false := by
          simp [described, reportDescriptor, hlong]
        simp [hfails]
      case isFalse hshort =>
        cases hanswer : answer iface with
        | error err =>
            have hfails : described answer iface = false := by
              simp [described, reportDescriptor, hanswer]
            simp [hfails]
        | ok data =>
            have hbytes : reportDescriptor answer iface = some data.1 := by
              simp [reportDescriptor, hshort, hanswer]
            have hok : described answer iface = true := by simp [described, hbytes]
            simp [ih, hok, hbytes]

/-- What happens while the stream is dumped; a transfer that completes has these bytes in its
buffer. -/
inductive StreamInput (n : Nat) where
  | event (e : StreamEvent n) (data : List UInt8)
  /-- `SIGUSR1` -/
  | pause
  /-- `SIGUSR2` -/
  | resume

structure StreamOutput (n : Nat) where
  stream : Stream n
  streamPaused : Bool
  dumped : List (Fin n × List UInt8)

namespace StreamOutput

variable {n : Nat}

def dumpedBy (streamPaused : Bool) (data : List UInt8) : StreamEvent n → List (Fin n × List UInt8)
  | .complete i .completed _ => if streamPaused then [] else [(i, data)]
  | _ => []

def step (s : StreamOutput n) : StreamInput n → Option (StreamOutput n)
  | .event e data =>
      (s.stream.step e).map fun stream =>
        { s with stream, dumped := s.dumped ++ dumpedBy s.streamPaused data e }
  | .pause => some { s with streamPaused := true }
  | .resume => some { s with streamPaused := false }

def start (list : List UhdIface) (streamPaused : Bool) : StreamOutput list.length where
  stream := Stream.start list
  streamPaused
  dumped := []

def received : Bool → List (StreamInput n) → List (Fin n × List UInt8)
  | _, [] => []
  | streamPaused, .event e data :: rest =>
      dumpedBy streamPaused data e ++ received streamPaused rest
  | _, .pause :: rest => received true rest
  | _, .resume :: rest => received false rest

variable {s s' : StreamOutput n} {inputs : List (StreamInput n)}

theorem dumped_eq (h : steps step s inputs = some s') :
    s'.dumped = s.dumped ++ received s.streamPaused inputs := by
  induction inputs generalizing s with
  | nil =>
      obtain rfl := Option.some.inj h
      exact (List.append_nil _).symm
  | cons input rest ih =>
      obtain ⟨next, hnext, hrest⟩ := steps_cons.mp h
      rw [ih hrest]
      cases input with
      | event e data =>
          obtain ⟨stream, -, rfl⟩ := Option.map_eq_some_iff.mp hnext
          exact List.append_assoc _ _ _
      | pause =>
          obtain rfl := Option.some.inj hnext
          rfl
      | resume =>
          obtain rfl := Option.some.inj hnext
          rfl

end StreamOutput

namespace Stream

variable {n : Nat} {s s' : Stream n} {e : StreamEvent n}

structure Still (s s' : Stream n) : Prop where
  inFlight : s'.inFlight = s.inFlight
  submits : ∀ i, s'.calls.count (.submit i) = s.calls.count (.submit i)

theorem still_call {c : StreamCall n} (hc : ∀ i, c ≠ .submit i) (hflight : s'.inFlight = s.inFlight)
    (hcalls : s'.calls = s.calls ++ [c]) : Still s s' := by
  refine ⟨hflight, fun i => ?_⟩
  rw [hcalls, List.count_append, List.count_singleton, if_neg (by simpa using hc i), Nat.add_zero]

theorem go_still (h : s.go = some s') : Still s s' := by
  unfold go at h
  repeat' split at h
  all_goals
    cases h
    try exact ⟨rfl, fun _ => rfl⟩
  exact still_call (by simp) rfl rfl

theorem cancel_still {ok : Bool} (h : s.cancel ok = some s') : Still s s' := by
  unfold cancel at h
  repeat' split at h
  all_goals cases h
  · exact still_call (by simp) rfl rfl
  · exact still_call (by simp) rfl rfl

theorem handled_still {ok : Bool} (h : s.handled ok = some s') : Still s s' := by
  have hrescan (next : StreamPc) : Still s (s.rescan next) := by
    rcases rescan_cases s next with heq | heq <;> rw [heq] <;> exact ⟨rfl, fun _ => rfl⟩
  unfold handled at h
  split at h
  · obtain rfl := Option.some.inj h
    cases ok
    · exact ⟨rfl, fun _ => rfl⟩
    · exact hrescan _
  · obtain rfl := Option.some.inj h
    cases ok
    · exact ⟨rfl, fun _ => rfl⟩
    · exact hrescan _
  · cases h

theorem submit_cases {ok : Bool} (h : s.submit ok = some s') :
    ∃ j, s'.calls = s.calls ++ [.submit j] ∧
      ∀ i, s'.inFlight i = true → i = j ∨ s.inFlight i = true := by
  unfold submit at h
  split at h
  · split at h
    · cases h
    · rename_i j _
      have hflight : ∀ i, (s.submitTransfer j ok).inFlight i = true →
          i = j ∨ s.inFlight i = true := by
        intro i hi
        cases ok with
        | false => exact .inr hi
        | true =>
            rcases eq_or_ne i j with rfl | hne
            · exact .inl rfl
            · exact .inr (Function.update_of_ne hne true s.inFlight ▸ hi)
      have hcalls : (s.submitTransfer j ok).calls = s.calls ++ [.submit j] := by cases ok <;> rfl
      dsimp only at h
      split at h <;> cases h <;> exact ⟨j, hcalls, hflight⟩
  · cases h

theorem step_still (hsubmit : ∀ ok, e ≠ .submit ok)
    (hcomplete : ∀ i status resubmitted, e ≠ .complete i status resubmitted)
    (h : step s e = some s') : Still s s' := by
  cases e with
  | go => exact go_still h
  | signal =>
      obtain rfl := Option.some.inj h
      exact ⟨rfl, fun _ => rfl⟩
  | request ok =>
      simp only [step, request] at h
      repeat' split at h
      all_goals
        cases h
        try exact ⟨rfl, fun _ => rfl⟩
  | alloc ok =>
      simp only [step, alloc] at h
      repeat' split at h
      all_goals
        cases h
        try exact ⟨rfl, fun _ => rfl⟩
  | submit ok => exact absurd rfl (hsubmit ok)
  | cancel ok => exact cancel_still h
  | complete i status resubmitted => exact absurd rfl (hcomplete i status resubmitted)
  | handled ok => exact handled_still h

end Stream

namespace StreamOutput

variable {n : Nat} {s s' : StreamOutput n} {inputs : List (StreamInput n)}

def dumpCount (s : StreamOutput n) (i : Fin n) : Nat := (s.dumped.map Prod.fst).count i

/-- Each dump takes a transfer that was submitted; the one in flight is still to come. -/
def Accounted (s : StreamOutput n) : Prop :=
  ∀ i, s.dumpCount i + (if s.stream.inFlight i then 1 else 0) ≤ s.stream.calls.count (.submit i)

theorem accounted_start (list : List UhdIface) (streamPaused : Bool) :
    Accounted (start list streamPaused) := fun _ => Nat.zero_le _

theorem Accounted.still (h : Accounted s) (hstill : Stream.Still s.stream s'.stream)
    (hdumped : s'.dumped = s.dumped) : Accounted s' := by
  intro i
  have hi := h i
  rw [dumpCount, hdumped, hstill.inFlight, hstill.submits i]
  exact hi

theorem Accounted.submit (h : Accounted s) {ok : Bool} {stream : Stream n}
    (hsubmit : s.stream.submit ok = some stream) : Accounted { s with stream } := by
  obtain ⟨j, hcalls, hflight⟩ := Stream.submit_cases hsubmit
  intro i
  have hi := h i
  have hdumped : dumpCount { s with stream } i = s.dumpCount i := rfl
  dsimp only
  rw [hdumped, hcalls, List.count_append, List.count_singleton]
  rcases eq_or_ne i j with rfl | hne
  · rw [beq_self_eq_true, if_pos rfl]
    split <;> omega
  · have hsame : stream.inFlight i = true → s.stream.inFlight i = true := fun hi =>
      (hflight i hi).resolve_left hne
    split
    · rw [if_pos (hsame ‹_›)] at hi
      omega
    · omega

theorem dumpedBy_count (streamPaused : Bool) (data : List UInt8) (i j : Fin n)
    (status : TransferStatus) (resubmitted : Bool) :
    ((dumpedBy streamPaused data (.complete j status resubmitted)).map Prod.fst).count i ≤
      if i = j ∧ status = .completed then 1 else 0 := by
  cases status
  case completed =>
    cases streamPaused with
    | true => exact Nat.zero_le _
    | false =>
        rcases eq_or_ne i j with rfl | hne
        · simp [dumpedBy]
        · simp [dumpedBy, hne, hne.symm]
  all_goals exact Nat.zero_le _

theorem Accounted.complete (h : Accounted s) {j : Fin n} {status : TransferStatus}
    {resubmitted : Bool} (data : List UInt8) {stream : Stream n}
    (hcomplete : s.stream.complete j status resubmitted = some stream) :
    Accounted { s with
      stream
      dumped := s.dumped ++ dumpedBy s.streamPaused data (.complete j status resubmitted) } := by
  obtain ⟨-, hj, rfl⟩ := Stream.complete_cases hcomplete
  intro i
  have hi := h i
  have hnew := dumpedBy_count s.streamPaused data i j status resubmitted
  dsimp only [dumpCount] at hi ⊢
  rw [Stream.cb_calls, Stream.cb_inFlight, List.map_append, List.count_append]
  have hcalls : (s.stream.setInFlight j false).calls = s.stream.calls := rfl
  have hflight : (s.stream.setInFlight j false).inFlight =
      Function.update s.stream.inFlight j false := rfl
  rw [hcalls, hflight]
  rcases eq_or_ne i j with rfl | hne
  · rw [hj, if_pos rfl] at hi
    by_cases hstatus : status = .completed
    · rw [if_pos ⟨rfl, hstatus⟩] at hnew
      rw [if_pos hstatus, List.count_append, List.count_singleton, beq_self_eq_true, if_pos rfl]
      split <;> split <;> omega
    · have hagain : Stream.again status resubmitted = false := by simp [Stream.again, hstatus]
      rw [if_neg fun h => hstatus h.2] at hnew
      rw [if_neg hstatus, hagain, if_neg Bool.false_ne_true, Function.update_self]
      simp only [Bool.false_eq_true, if_false]
      omega
  · rw [if_neg fun h => hne h.1] at hnew
    have hsame : (if Stream.again status resubmitted = true then
        Function.update (Function.update s.stream.inFlight j false) j true
        else Function.update s.stream.inFlight j false) i = s.stream.inFlight i := by
      split <;> simp [hne]
    have hcount : (if status = .completed then s.stream.calls ++ [.submit j]
        else s.stream.calls).count (.submit i) = s.stream.calls.count (.submit i) := by
      split
      · simp [hne.symm]
      · rfl
    rw [hsame, hcount]
    omega

theorem Accounted.step {input : StreamInput n} (h : Accounted s) (hstep : step s input = some s') :
    Accounted s' := by
  cases input with
  | pause =>
      obtain rfl := Option.some.inj hstep
      exact h
  | resume =>
      obtain rfl := Option.some.inj hstep
      exact h
  | event e data =>
      obtain ⟨stream, hstream, rfl⟩ := Option.map_eq_some_iff.mp hstep
      by_cases hcomplete : ∃ i status resubmitted, e = .complete i status resubmitted
      · obtain ⟨i, status, resubmitted, rfl⟩ := hcomplete
        exact h.complete data hstream
      · have hnone : dumpedBy s.streamPaused data e = [] := by
          cases e with
          | complete i status resubmitted => exact absurd ⟨i, status, resubmitted, rfl⟩ hcomplete
          | _ => rfl
        rw [hnone, List.append_nil]
        by_cases hsubmit : ∃ ok, e = .submit ok
        · obtain ⟨ok, rfl⟩ := hsubmit
          exact h.submit hstream
        · refine h.still (Stream.step_still (fun ok heq => hsubmit ⟨ok, heq⟩) ?_ hstream) rfl
          exact fun i status resubmitted heq => hcomplete ⟨i, status, resubmitted, heq⟩

/-- No data is dumped twice: there is a submission for each dump. -/
theorem run_accounted {list : List UhdIface} {streamPaused : Bool}
    {inputs : List (StreamInput list.length)} {s : StreamOutput list.length}
    (hrun : steps StreamOutput.step (start list streamPaused) inputs = some s) : Accounted s :=
  @steps_invariant _ _ StreamOutput.step _ _ inputs Accounted (fun _ => True)
    (fun h _ hstep => h.step hstep) (accounted_start list streamPaused) (fun _ _ => trivial) hrun

end StreamOutput

structure StreamSession where
  ifaceList : List UhdIface
  descriptors : Descriptors
  inputs : List (StreamInput ifaceList.length)
  streamPaused : Bool
  address : Nat → UInt8 × UInt8
  clock : Nat → Nat × Nat

namespace StreamSession

variable (session : StreamSession)

def stamp : Nat → List (UhdIface × Entity × List UInt8) → List Dumped
  | _, [] => []
  | k, (iface, entity, data) :: rest =>
      { busNumber := (session.address iface.dev).1
        deviceAddress := (session.address iface.dev).2
        number := .ofNat iface.number
        entity
        tvSec := (session.clock k).1
        tvUsec := (session.clock k).2
        data } :: stamp (k + 1) rest

def described (dumpDescriptor : Bool) : List (UhdIface × Entity × List UInt8) × Bool :=
  if dumpDescriptor then
    let (dumped, result) := dumpIfaceListDescriptor session.descriptors
      (List.replicate uhdMaxDescriptorSize 0) session.ifaceList
    (dumped.map fun d => (d.1, .descriptor, d.2), result)
  else ([], true)

def streamChunk (d : Fin session.ifaceList.length × List UInt8) : UhdIface × Entity × List UInt8 :=
  (session.ifaceList.get d.1, .stream, d.2)

def stdout (dumpDescriptor dumpStream : Bool) (out : StreamOutput session.ifaceList.length) :
    Name :=
  let descriptors := session.described dumpDescriptor
  stdoutText (session.stamp 0 (descriptors.1 ++
    if descriptors.2 && dumpStream then out.dumped.map session.streamChunk else []))

def descriptorChunk (iface : UhdIface) : UhdIface × Entity × List UInt8 :=
  (iface, .descriptor, (reportDescriptor session.descriptors iface).getD [])

theorem described_eq (dumpDescriptor : Bool) : session.described dumpDescriptor =
    (if dumpDescriptor then
      (session.ifaceList.takeWhile (Usbutils.described session.descriptors)).map
        session.descriptorChunk else [],
      !dumpDescriptor || session.ifaceList.all (Usbutils.described session.descriptors)) := by
  cases dumpDescriptor with
  | false => rfl
  | true =>
      rw [described, if_pos rfl, dumpIfaceListDescriptor_eq]
      simp [descriptorChunk, Function.comp_def]

/-- From the output, the report descriptors are read back up to the first interface that fails,
and if none does, all data that arrived while the stream was not paused, none of it twice. -/
theorem readOutput_stdout (dumpDescriptor dumpStream : Bool)
    {out : StreamOutput session.ifaceList.length}
    (hrun : steps StreamOutput.step (.start session.ifaceList session.streamPaused) session.inputs =
      some out) :
    (∃ descriptors streamed, readOutput (session.stdout dumpDescriptor dumpStream out) =
        some (session.stamp 0 (descriptors ++ streamed)) ∧
      descriptors = (if dumpDescriptor then
        (session.ifaceList.takeWhile (Usbutils.described session.descriptors)).map
          session.descriptorChunk else []) ∧
      streamed = if dumpStream ∧ (dumpDescriptor = true →
          ∀ iface ∈ session.ifaceList, Usbutils.described session.descriptors iface = true) then
        (StreamOutput.received session.streamPaused session.inputs).map session.streamChunk
        else []) ∧
    ∀ i, ((StreamOutput.received session.streamPaused session.inputs).map Prod.fst).count i ≤
      out.stream.calls.count (.submit i) := by
  have hdumped : out.dumped = StreamOutput.received session.streamPaused session.inputs :=
    StreamOutput.dumped_eq hrun
  constructor
  · refine ⟨(session.described dumpDescriptor).1,
      if (session.described dumpDescriptor).2 && dumpStream then
        out.dumped.map session.streamChunk else [], readOutput_stdoutText _, ?_, ?_⟩
    · rw [described_eq]
    · rw [described_eq, hdumped]
      cases dumpDescriptor <;> cases dumpStream <;> simp
  · intro i
    rw [← hdumped]
    exact le_trans (Nat.le_add_right _ _) (StreamOutput.run_accounted hrun i)

def pausedOnce : StreamSession where
  ifaceList := Stream.oneIface
  descriptors := fun iface => if h : 3 ≤ iface.rdLen then .ok ⟨[5, 1, 9], h⟩ else .error (-9)
  inputs :=
    [.request true, .request true, .go, .alloc true, .alloc true, .go, .alloc true, .go,
      .submit true, .go, .go].map (StreamInput.event · []) ++
    [.pause, .event (.complete ⟨0, Nat.zero_lt_one⟩ .completed true) [1, 2], .resume,
      .event (.complete ⟨0, Nat.zero_lt_one⟩ .completed true) [0xab, 0xcd]]
  streamPaused := false
  address := fun _ => (1, 2)
  clock := fun k => (100 + k, 7)

theorem readOutput_stdout_pausedOnce :
    ∃ out, steps StreamOutput.step (.start pausedOnce.ifaceList pausedOnce.streamPaused)
        pausedOnce.inputs = some out ∧
      readOutput (pausedOnce.stdout true true out) =
        some [⟨1, 2, 0, .descriptor, 100, 7, [5, 1, 9]⟩,
          ⟨1, 2, 0, .stream, 101, 7, [0xab, 0xcd]⟩] := by
  obtain ⟨out, hrun⟩ : ∃ out, steps StreamOutput.step
      (.start pausedOnce.ifaceList pausedOnce.streamPaused) pausedOnce.inputs = some out := ⟨_, rfl⟩
  obtain ⟨⟨_, _, hread, hdescriptors, hstreamed⟩, -⟩ := pausedOnce.readOutput_stdout true true hrun
  refine ⟨out, hrun, ?_⟩
  rw [if_pos rfl] at hdescriptors
  have hdescribed : ∀ iface ∈ pausedOnce.ifaceList,
      Usbutils.described pausedOnce.descriptors iface = true := by decide
  rw [if_pos ⟨rfl, fun _ => hdescribed⟩] at hstreamed
  rw [hread, hdescriptors, hstreamed]
  rfl

end StreamSession

end Usbutils
