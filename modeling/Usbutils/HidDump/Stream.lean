import Usbutils.Lib.Runs
import Usbutils.HidDump.IfaceList
import Mathlib.Data.List.FinRange

/-! `dump_iface_list_stream` of `usbhid-dump.c` and the callback of its transfers, as a
machine: the event handler of `libusb` runs the callbacks, in any order. -/
namespace Usbutils

inductive TransferStatus where
  | completed
  | error
  | timedOut
  | cancelled
  | stall
  | noDevice
  | overflow
  deriving DecidableEq, Repr

/-- Where the function stands; the loops have the index that they are at. -/
inductive StreamPc where
  | setProtocol (i : Nat)
  | setIdle (i : Nat)
  | mallocList
  | allocTransfer (i : Nat)
  | mallocBuffer (i : Nat)
  | submit (i : Nat)
  /-- The test of the loop that runs the event machine. -/
  | runLoop
  /-- Inside `libusb_handle_events` of that loop. -/
  | handleEvents
  | cleanup
  | cancel (i : Nat)
  /-- The test of the loop that waits for transfer cancellation. -/
  | waitLoop
  | handleCancellation
  | free (i : Nat)
  | returned
  /-- A null pointer has been followed. -/
  | crashed
  deriving DecidableEq, Repr

/-- A transfer; `user_data` is null or points to the interface of the same index. -/
structure Transfer where
  userData : Bool
  deriving DecidableEq, Repr

inductive StreamCall (n : Nat) where
  | submit (i : Fin n)
  | cancel (i : Fin n)
  | free (i : Fin n)
  deriving DecidableEq, Repr

structure Stream (n : Nat) where
  pc : StreamPc
  iface : Fin n → UhdIface
  transferList : Bool
  transferNum : Fin (n + 1)
  transfer : Fin n → Option Transfer
  submitted : Bool
  result : Bool
  exitSignum : Bool
  inFlight : Fin n → Bool
  calls : List (StreamCall n)

/-- What happens, with what the call that is made here answers. -/
inductive StreamEvent (n : Nat) where
  | go
  | signal
  | request (ok : Bool)
  | alloc (ok : Bool)
  | submit (ok : Bool)
  | cancel (ok : Bool)
  /-- A transfer completes; the answer is for the resubmission, where there is one. -/
  | complete (i : Fin n) (status : TransferStatus) (resubmitted : Bool)
  | handled (ok : Bool)
  deriving DecidableEq, Repr

namespace Stream

variable {n : Nat}

def start (list : List UhdIface) : Stream list.length where
  pc := .setProtocol 0
  iface := list.get
  transferList := false
  transferNum := 0
  transfer := fun _ => none
  submitted := false
  result := false
  exitSignum := false
  inFlight := fun _ => false
  calls := []

variable (s : Stream n)

def slot (i : Nat) : Option (Fin n) :=
  if h : i < s.transferNum then some ⟨i, by omega⟩ else none

def setSubmitted (i : Fin n) (submitted : Bool) : Stream n :=
  { s with iface := Function.update s.iface i { s.iface i with submitted } }

def setInFlight (i : Fin n) (inFlight : Bool) : Stream n :=
  { s with inFlight := Function.update s.inFlight i inFlight }

def call (c : StreamCall n) : Stream n :=
  { s with calls := s.calls ++ [c] }

def submitTransfer (i : Fin n) (ok : Bool) : Stream n :=
  let s := s.call (.submit i)
  if ok then s.setInFlight i true else s

/-- `dump_iface_list_stream_cb`, without the dump of the data. -/
def dumpIfaceListStreamCb (i : Fin n) (status : TransferStatus) (resubmitted : Bool) :
    Stream n :=
  let s := s.setSubmitted i false
  match status with
  | .completed =>
      let s := s.submitTransfer i resubmitted
      if resubmitted then s.setSubmitted i true else s
  | .error => s
  | .timedOut => s
  | .stall => s
  | .noDevice => s
  | .overflow => s
  | .cancelled => s

def isSubmitted (i : Fin n) (transfer : Transfer) : Bool :=
  transfer.userData && (s.iface i).submitted

/-- Check if there are any submitted transfers left. -/
def rescan (next : StreamPc) : Stream n :=
  let slots := (List.finRange n).take s.transferNum
  if slots.all fun i => (s.transfer i).isSome then
    { s with pc := next, submitted := slots.any fun i => (s.transfer i).any (s.isSubmitted i) }
  else { s with pc := .crashed }

/-- The code between two calls. -/
def go : Option (Stream n) :=
  match s.pc with
  | .setProtocol i =>
      if i < n then none else some { s with pc := .mallocList, transferNum := Fin.last n }
  | .allocTransfer i =>
      match s.slot i with
      | some _ => none
      | none => some { s with pc := .mallocBuffer 0 }
  | .mallocBuffer i =>
      match s.slot i with
      | some _ => none
      | none => some { s with pc := .submit 0 }
  | .submit i =>
      match s.slot i with
      | some _ => none
      | none => some { s with pc := .runLoop }
  | .runLoop =>
      if s.submitted && !s.exitSignum then some { s with pc := .handleEvents }
      -- all the transfers were terminated unexpectedly
      else if 0 < s.transferNum ∧ s.submitted = false then some { s with pc := .cleanup }
      else some { s with pc := .cleanup, result := true }
  | .cleanup =>
      if s.submitted then some { s with pc := .cancel 0, submitted := false }
      else some { s with pc := .waitLoop }
  | .cancel i =>
      match s.slot i with
      | none => some { s with pc := .waitLoop }
      | some j =>
          match s.transfer j with
          | none => some { s with pc := .crashed }
          | some transfer =>
              if s.isSubmitted j transfer then none else some { s with pc := .cancel (i + 1) }
  | .waitLoop =>
      if s.submitted then some { s with pc := .handleCancellation }
      else some { s with pc := .free 0 }
  | .free i =>
      if s.transferList then
        match s.slot i with
        | none => some { s with pc := .returned, transferList := false }
        | some j =>
            match s.transfer j with
            | none => some { s with pc := .crashed }
            | some transfer =>
                if s.isSubmitted j transfer then some { s with pc := .free (i + 1) }
                else some { s.call (.free j) with pc := .free (i + 1) }
      else some { s with pc := .returned }
  | _ => none

def request (ok : Bool) : Option (Stream n) :=
  match s.pc with
  | .setProtocol i =>
      if i < n then some { s with pc := if ok then .setIdle i else .cleanup } else none
  | .setIdle i => some { s with pc := if ok then .setProtocol (i + 1) else .cleanup }
  | _ => none

def alloc (ok : Bool) : Option (Stream n) :=
  match s.pc with
  | .mallocList =>
      if ok then
        some { s with pc := .allocTransfer 0, transferList := true, transfer := fun _ => none }
      else some { s with pc := .cleanup }
  | .allocTransfer i =>
      match s.slot i with
      | none => none
      | some j =>
          if ok then
            some { s with
              pc := .allocTransfer (i + 1)
              transfer := Function.update s.transfer j (some { userData := false }) }
          else some { s with pc := .cleanup }
  | .mallocBuffer i =>
      match s.slot i with
      | none => none
      | some j =>
          if ok then
            some { s with
              pc := .mallocBuffer (i + 1)
              transfer := Function.update s.transfer j (some { userData := true }) }
          else some { s with pc := .cleanup }
  | _ => none

def submit (ok : Bool) : Option (Stream n) :=
  match s.pc with
  | .submit i =>
      match s.slot i with
      | none => none
      | some j =>
          let s := s.submitTransfer j ok
          if ok then some { s.setSubmitted j true with pc := .submit (i + 1), submitted := true }
          else some { s with pc := .cleanup }
  | _ => none

def cancel (ok : Bool) : Option (Stream n) :=
  match s.pc with
  | .cancel i =>
      match s.slot i with
      | none => none
      | some j =>
          match s.transfer j with
          | none => none
          | some transfer =>
              if s.isSubmitted j transfer && (ok || !s.inFlight j) then
                let s := s.call (.cancel j)
                if ok then some { s with pc := .cancel (i + 1), submitted := true }
                else some { s.setSubmitted j false with pc := .cancel (i + 1) }
              else none
  | _ => none

def complete (i : Fin n) (status : TransferStatus) (resubmitted : Bool) : Option (Stream n) :=
  if (s.pc = .handleEvents ∨ s.pc = .handleCancellation) ∧ s.inFlight i = true then
    some ((s.setInFlight i false).dumpIfaceListStreamCb i status resubmitted)
  else none

/-- `libusb_handle_events` returns; an interruption counts as a success. -/
def handled (ok : Bool) : Option (Stream n) :=
  match s.pc with
  | .handleEvents => some (if ok then s.rescan .runLoop else { s with pc := .cleanup })
  | .handleCancellation => some (if ok then s.rescan .waitLoop else { s with pc := .free 0 })
  | _ => none

def step (s : Stream n) : StreamEvent n → Option (Stream n)
  | .go => s.go
  | .signal => some { s with exitSignum := true }
  | .request ok => s.request ok
  | .alloc ok => s.alloc ok
  | .submit ok => s.submit ok
  | .cancel ok => s.cancel ok
  | .complete i status resubmitted => s.complete i status resubmitted
  | .handled ok => s.handled ok

theorem rescan_cases (next : StreamPc) :
    s.rescan next = { s with
      pc := next
      submitted := ((List.finRange n).take s.transferNum).any
        fun i => (s.transfer i).any (s.isSubmitted i) } ∨
    s.rescan next = { s with pc := .crashed } := by
  rw [rescan]
  exact ite_eq_or_eq _ _ _

variable {s} in
theorem complete_cases {s' : Stream n} {i : Fin n} {status : TransferStatus} {resubmitted : Bool}
    (h : s.complete i status resubmitted = some s') :
    (s.pc = .handleEvents ∨ s.pc = .handleCancellation) ∧ s.inFlight i = true ∧
      s' = (s.setInFlight i false).dumpIfaceListStreamCb i status resubmitted := by
  unfold complete at h
  split at h
  case isTrue hopen => exact ⟨hopen.1, hopen.2, (Option.some.inj h).symm⟩
  case isFalse => cases h

section Callback

variable {s} {i : Fin n} {status : TransferStatus} {resubmitted : Bool}

def again (status : TransferStatus) (resubmitted : Bool) : Bool :=
  status == .completed && resubmitted

@[simp] theorem setSubmitted_submitted (s : Stream n) (i j : Fin n) (submitted : Bool) :
    ((s.setSubmitted i submitted).iface j).submitted =
      if j = i then submitted else (s.iface j).submitted := by
  unfold setSubmitted
  by_cases h : j = i
  · subst h
    simp
  · simp [h]

@[simp] theorem cb_pc : (s.dumpIfaceListStreamCb i status resubmitted).pc = s.pc := by
  cases status <;> cases resubmitted <;> rfl

@[simp] theorem cb_transfer :
    (s.dumpIfaceListStreamCb i status resubmitted).transfer = s.transfer := by
  cases status <;> cases resubmitted <;> rfl

@[simp] theorem cb_transferNum :
    (s.dumpIfaceListStreamCb i status resubmitted).transferNum = s.transferNum := by
  cases status <;> cases resubmitted <;> rfl

@[simp] theorem cb_transferList :
    (s.dumpIfaceListStreamCb i status resubmitted).transferList = s.transferList := by
  cases status <;> cases resubmitted <;> rfl

@[simp] theorem cb_submitted :
    (s.dumpIfaceListStreamCb i status resubmitted).submitted = s.submitted := by
  cases status <;> cases resubmitted <;> rfl

@[simp] theorem cb_result :
    (s.dumpIfaceListStreamCb i status resubmitted).result = s.result := by
  cases status <;> cases resubmitted <;> rfl

theorem cb_calls : (s.dumpIfaceListStreamCb i status resubmitted).calls =
    if status = .completed then s.calls ++ [.submit i] else s.calls := by
  cases status <;> cases resubmitted <;> rfl

theorem cb_inFlight : (s.dumpIfaceListStreamCb i status resubmitted).inFlight =
    if again status resubmitted then Function.update s.inFlight i true else s.inFlight := by
  cases status <;> cases resubmitted <;> rfl

theorem cb_iface_submitted (j : Fin n) :
    ((s.dumpIfaceListStreamCb i status resubmitted).iface j).submitted =
      if j = i then again status resubmitted else (s.iface j).submitted := by
  have hcleared : ((s.setSubmitted i false).iface j).submitted =
      if j = i then false else (s.iface j).submitted := setSubmitted_submitted s i j false
  cases status with
  | completed =>
      cases resubmitted with
      | false => exact hcleared
      | true =>
          refine (setSubmitted_submitted _ i j true).trans ?_
          by_cases h : j = i
          · rw [if_pos h, if_pos h]
            rfl
          · rw [if_neg h, if_neg h]
            exact hcleared.trans (if_neg h)
  | _ => exact hcleared

end Callback

def startUp : List (StreamEvent 1) :=
  [.request true, .request true, .go, .alloc true, .alloc true, .go, .alloc true, .go,
    .submit true, .go, .signal, .go]

def oneIface : List UhdIface := [⟨0, 0, 0, 0x81, 8, 63, false, false, false⟩]

def cancelledInTime : List (StreamEvent 1) :=
  [.go, .cancel true, .go, .go, .complete 0 .cancelled true, .handled true, .go, .go, .go]

def dataInBetween : List (StreamEvent 1) :=
  [.go, .cancel true, .go, .go, .complete 0 .completed true, .handled true, .go]

end Stream
end Usbutils
