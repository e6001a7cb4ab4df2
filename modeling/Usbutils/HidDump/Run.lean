import Usbutils.Lib.Calls
import Usbutils.HidDump.IfaceList

/-! `run` of `usbhid-dump.c`, with the functions of `iface.c` that take an interface from
its kernel driver and give it back. -/
namespace Usbutils
open Calls Calls.Proc

inductive IfaceOp where
  | detach
  | claim
  | release
  | attach
  deriving DecidableEq, Repr

/-- The calls of `run`; a call for an interface has the pointer to it and the arguments. -/
inductive RunCall where
  | init
  | openDevList
  | iface (op : IfaceOp) (pointer dev number : Nat)
  | dumpDescriptor
  | dumpStream
  | freeIfaceList
  | closeDevList
  | exit
  deriving DecidableEq, Repr

def libusbSuccess : Int := 0

def libusbErrorNotFound : Int := -5

def UhdIface.call (iface : UhdIface) (op : IfaceOp) : RunCall :=
  .iface op iface.pointer iface.dev iface.number

def uhdIfaceDetach (iface : UhdIface) : Proc RunCall (Int × UhdIface) := do
  let err ← ask (iface.call .detach)
  (if err = libusbSuccess then return (libusbSuccess, { iface with detached := true })
  else if err ≠ libusbErrorNotFound then return (err, iface)
  else return (libusbSuccess, iface))

def uhdIfaceAttach (iface : UhdIface) : Proc RunCall (Int × UhdIface) :=
  if iface.detached then do
    let err ← ask (iface.call .attach)
    (if err ≠ libusbSuccess then return (err, iface)
    else return (libusbSuccess, { iface with detached := false }))
  else return (libusbSuccess, iface)

def uhdIfaceClaim (iface : UhdIface) : Proc RunCall (Int × UhdIface) := do
  let err ← ask (iface.call .claim)
  (if err ≠ libusbSuccess then return (err, iface)
  else return (libusbSuccess, { iface with claimed := true }))

def uhdIfaceRelease (iface : UhdIface) : Proc RunCall (Int × UhdIface) := do
  let err ← ask (iface.call .release)
  (if err ≠ libusbSuccess then return (err, iface)
  else return (libusbSuccess, { iface with claimed := false }))

def acquire : List UhdIface → Proc RunCall (Bool × List UhdIface)
  | [] => return (true, [])
  | iface :: rest => do
      let (err, iface) ← uhdIfaceDetach iface
      (if err ≠ libusbSuccess then return (false, iface :: rest)
      else do
        let (err, iface) ← uhdIfaceClaim iface
        (if err ≠ libusbSuccess then return (false, iface :: rest)
        else do
          let (done, rest) ← acquire rest
          return (done, iface :: rest)))

def giveBack : List UhdIface → Proc RunCall Unit
  | [] => return ()
  | iface :: rest => do
      let (_, iface) ← uhdIfaceRelease iface
      let _ ← uhdIfaceAttach iface
      giveBack rest

/-- What stands behind the label `cleanup`; `ctx` says whether there is a context. -/
def cleanup (ifaceList : List UhdIface) (ctx : Bool) : Proc RunCall Unit := do
  giveBack ifaceList
  tell .freeIfaceList
  tell .closeDevList
  (if ctx then tell .exit else return ())

/-- The two dumps with the prepared list; they answer 0 for `false`. -/
def dumpIfaceList (dumpDescriptor dumpStream : Bool) : Proc RunCall Int := do
  let described ← (if dumpDescriptor then ask .dumpDescriptor else return 1)
  (if described = 0 then return 1
  else do
    let streamed ← (if dumpStream then ask .dumpStream else return 1)
    return if streamed = 0 then 1 else 0)

def takeAndDump (ifaceList : List UhdIface) (dumpDescriptor dumpStream : Bool) :
    Proc RunCall (Int × List UhdIface × Bool) := do
  let (done, ifaceList) ← acquire ifaceList
  (if done then do
    let result ← dumpIfaceList dumpDescriptor dumpStream
    return (result, ifaceList, true)
  else return (1, ifaceList, true))

structure Found where
  devList : List UhdDev
  memory : ByteProg.Memory
  malloc : Nat → Bool

variable (found : Found)

/-- The body of `run` up to `cleanup`: the result, the interface list and whether there is a
context. -/
def runBody (dumpDescriptor dumpStream : Bool) (ifaceNum : Nat) :
    Proc RunCall (Int × List UhdIface × Bool) := do
  let err ← ask .init
  (if err ≠ libusbSuccess then return (1, [], false)
  else do
    let err ← ask .openDevList
    (if err ≠ libusbSuccess then return (1, [], true)
    else
      match uhdIfaceListNew found.memory found.malloc found.devList with
      | .error _ => return (1, [], true)
      | .ok ifaceList => do
          let ifaceList :=
            if ifaceNum ≠ 0xff then uhdIfaceListFltrByNum ifaceList ifaceNum else ifaceList
          (if ifaceList = [] then return (1, [], true)
          else takeAndDump ifaceList dumpDescriptor dumpStream)))

def run (dumpDescriptor dumpStream : Bool) (ifaceNum : Nat) : Proc RunCall Int := do
  let (result, ifaceList, ctx) ← runBody found dumpDescriptor dumpStream ifaceNum
  cleanup ifaceList ctx
  return result

section Makes

variable (env : Oracle RunCall) (log : Log RunCall)

def UhdIface.Same (iface iface' : UhdIface) : Prop :=
  iface'.pointer = iface.pointer ∧ iface'.dev = iface.dev ∧ iface'.number = iface.number

theorem UhdIface.Same.call {iface iface' : UhdIface} (h : iface.Same iface') (op : IfaceOp) :
    iface'.call op = iface.call op := by
  obtain ⟨hpointer, hdev, hnumber⟩ := h
  rw [UhdIface.call, UhdIface.call, hpointer, hdev, hnumber]

theorem pointer_of_call {iface iface' : UhdIface} {op op' : IfaceOp}
    (h : iface.call op = iface'.call op') : iface.pointer = iface'.pointer ∧ op = op' := by
  injection h with hop hpointer
  exact ⟨hpointer, hop⟩

def passed : RunCall × Int → Bool
  | (.iface .detach _ _ _, ans) => ans == libusbSuccess || ans == libusbErrorNotFound
  | (.iface .claim _ _ _, ans) => ans == libusbSuccess
  | _ => true

theorem uhdIfaceDetach_makes (iface : UhdIface) :
    ∃ err iface' ans, Makes (uhdIfaceDetach iface) env log (err, iface') [(iface.call .detach, ans)] ∧
      iface.Same iface' ∧ iface'.detached = (iface.detached || ans = 0) ∧
      (err = libusbSuccess ↔ passed (iface.call .detach, ans) = true) := by
  have hask := makes_ask env log (iface.call .detach)
  generalize env log (iface.call .detach) = ans at hask
  have hsuccess : ans = libusbSuccess ↔ ans = 0 := Iff.rfl
  by_cases hans : ans = libusbSuccess
  · refine ⟨libusbSuccess, { iface with detached := true }, ans, hask.bind ?_, ⟨rfl, rfl, rfl⟩, ?_,
      ?_⟩
    · rw [if_pos hans]
      exact makes_pure _ _ _
    · simp [hsuccess.mp hans]
    · simp [UhdIface.call, passed, hans]
  · have hkept : iface.detached = (iface.detached || ans = 0) := by
      simp [mt hsuccess.mpr hans]
    by_cases hfound : ans ≠ libusbErrorNotFound
    · refine ⟨ans, iface, ans, hask.bind ?_, ⟨rfl, rfl, rfl⟩, hkept, ?_⟩
      · rw [if_neg hans, if_pos hfound]
        exact makes_pure _ _ _
      · simp [UhdIface.call, passed, hans, hfound]
    · refine ⟨libusbSuccess, iface, ans, hask.bind ?_, ⟨rfl, rfl, rfl⟩, hkept, ?_⟩
      · rw [if_neg hans, if_neg hfound]
        exact makes_pure _ _ _
      · simp [UhdIface.call, passed, Decidable.not_not.mp hfound]

theorem mark_makes {iface marked : UhdIface} (op : IfaceOp) (hsame : iface.Same marked)
    (hdetached : marked.detached = iface.detached) :
    ∃ err iface' ans, Makes (do
        let err ← ask (iface.call op)
        (if err ≠ libusbSuccess then return (err, iface)
        else return (libusbSuccess, marked))) env log (err, iface') [(iface.call op, ans)] ∧
      iface.Same iface' ∧ iface'.detached = iface.detached ∧ err = ans := by
  have hask := makes_ask env log (iface.call op)
  generalize env log (iface.call op) = ans at hask
  by_cases hans : ans ≠ libusbSuccess
  · refine ⟨ans, iface, ans, hask.bind ?_, ⟨rfl, rfl, rfl⟩, rfl, rfl⟩
    rw [if_pos hans]
    exact makes_pure _ _ _
  · refine ⟨libusbSuccess, marked, ans, hask.bind ?_, hsame, hdetached,
      (Decidable.not_not.mp hans).symm⟩
    rw [if_neg hans]
    exact makes_pure _ _ _

theorem uhdIfaceClaim_makes (iface : UhdIface) :
    ∃ err iface' ans, Makes (uhdIfaceClaim iface) env log (err, iface') [(iface.call .claim, ans)] ∧
      iface.Same iface' ∧ iface'.detached = iface.detached ∧ err = ans :=
  mark_makes env log .claim ⟨rfl, rfl, rfl⟩ rfl

theorem uhdIfaceRelease_makes (iface : UhdIface) :
    ∃ err iface' ans, Makes (uhdIfaceRelease iface) env log (err, iface')
        [(iface.call .release, ans)] ∧
      iface.Same iface' ∧ iface'.detached = iface.detached ∧ err = ans :=
  mark_makes env log .release ⟨rfl, rfl, rfl⟩ rfl

def attachCalls (iface : UhdIface) : List RunCall :=
  if iface.detached then [iface.call .attach] else []

theorem uhdIfaceAttach_makes (iface : UhdIface) :
    ∃ result calls, Makes (uhdIfaceAttach iface) env log result calls ∧
      calls.map Prod.fst = attachCalls iface := by
  unfold uhdIfaceAttach attachCalls
  cases hdetached : iface.detached with
  | false => exact ⟨_, [], makes_pure _ _ _, rfl⟩
  | true =>
      have hask := makes_ask env log (iface.call .attach)
      generalize env log (iface.call .attach) = ans at hask
      by_cases hans : ans ≠ libusbSuccess
      · refine ⟨(ans, iface), [(iface.call .attach, ans)], hask.bind ?_, rfl⟩
        rw [if_pos hans]
        exact makes_pure _ _ _
      · refine ⟨(libusbSuccess, { iface with detached := false }), [(iface.call .attach, ans)],
          hask.bind ?_, rfl⟩
        rw [if_neg hans]
        exact makes_pure _ _ _

def giveBackCalls (list : List UhdIface) : List RunCall :=
  list.flatMap fun iface => iface.call .release :: attachCalls iface

theorem giveBack_makes (list : List UhdIface) :
    ∃ calls, Makes (giveBack list) env log () calls ∧ calls.map Prod.fst = giveBackCalls list := by
  induction list generalizing log with
  | nil => exact ⟨[], makes_pure _ _ _, rfl⟩
  | cons iface rest ih =>
      obtain ⟨err, iface', ans, hrelease, hsame, hdetached, -⟩ :=
        uhdIfaceRelease_makes env log iface
      obtain ⟨result, attached, hattach, hcalls⟩ :=
        uhdIfaceAttach_makes env (log ++ [(iface.call .release, ans)]) iface'
      obtain ⟨calls, hrest, hrestCalls⟩ :=
        ih (log ++ [(iface.call .release, ans)] ++ attached)
      refine ⟨_, hrelease.bind (hattach.bind hrest), ?_⟩
      rw [List.map_append, List.map_append, hcalls, hrestCalls, attachCalls, hdetached,
        hsame.call .attach]
      rfl

/-- What the loop that takes the interfaces leaves: a detached interface is recorded. -/
structure Taken (list list' : List UhdIface) (calls : Log RunCall) : Prop where
  same : List.Forall₂ UhdIface.Same list list'
  only : ∀ c ∈ calls, ∃ iface ∈ list, c.1 = iface.call .detach ∨ c.1 = iface.call .claim
  recorded : ∀ iface ∈ list', (iface.call .detach, 0) ∈ calls → iface.detached = true

theorem taken_none (list : List UhdIface) : Taken list list [] where
  same := List.forall₂_same.mpr fun _ _ => ⟨rfl, rfl, rfl⟩
  only := nofun
  recorded := nofun

theorem Taken.pointers {list list' : List UhdIface} {calls : Log RunCall}
    (h : Taken list list' calls) : list'.map UhdIface.pointer = list.map UhdIface.pointer := by
  have hsame := h.same
  clear h
  induction hsame with
  | nil => rfl
  | cons hhead _ ih => rw [List.map_cons, List.map_cons, hhead.1, ih]

theorem Taken.cons {iface iface' : UhdIface} {rest rest' : List UhdIface} {ans : Int}
    {claims calls : Log RunCall} (h : Taken rest rest' calls)
    (hnodup : ((iface :: rest).map UhdIface.pointer).Nodup) (hsame : iface.Same iface')
    (hdetached : ans = 0 → iface'.detached = true)
    (hclaims : ∀ c ∈ claims, c.1 = iface.call .claim) :
    Taken (iface :: rest) (iface' :: rest') ((iface.call .detach, ans) :: (claims ++ calls)) where
  same := List.Forall₂.cons hsame h.same
  only c hc := by
    rcases List.mem_cons.mp hc with rfl | hc
    · exact ⟨iface, List.mem_cons_self, Or.inl rfl⟩
    · rcases List.mem_append.mp hc with hc | hc
      · exact ⟨iface, List.mem_cons_self, Or.inr (hclaims c hc)⟩
      · obtain ⟨other, hother, hcall⟩ := h.only c hc
        exact ⟨other, List.mem_cons_of_mem _ hother, hcall⟩
  recorded := by
    rw [List.map_cons, List.nodup_cons, ← h.pointers] at hnodup
    have hforeign : ∀ other ∈ rest', other.pointer ≠ iface.pointer := by
      intro other hother heq
      exact hnodup.1 (heq ▸ List.mem_map_of_mem hother)
    intro other hother hcall
    rcases List.mem_cons.mp hother with rfl | hother
    · rcases List.mem_cons.mp hcall with hcall | hcall
      · exact hdetached (congrArg Prod.snd hcall).symm
      · rcases List.mem_append.mp hcall with hcall | hcall
        · cases (pointer_of_call (hclaims _ hcall)).2
        · obtain ⟨found, hfound, hcall⟩ := h.only _ hcall
          rw [hsame.call] at hcall
          have hpointer : iface.pointer = found.pointer :=
            hcall.elim (fun h => (pointer_of_call h).1) fun h => (pointer_of_call h).1
          exact absurd (hpointer ▸ h.pointers ▸ List.mem_map_of_mem hfound) hnodup.1
    · rcases List.mem_cons.mp hcall with hcall | hcall
      · exact absurd (pointer_of_call (congrArg Prod.fst hcall)).1 (hforeign other hother)
      · rcases List.mem_append.mp hcall with hcall | hcall
        · exact absurd (pointer_of_call (hclaims _ hcall)).1 (hforeign other hother)
        · exact h.recorded other hother hcall

/-- Either every call passed and every interface has been claimed, or some call did not pass and
some interface has not been claimed. -/
def Claims (list' : List UhdIface) (calls : Log RunCall) : Prop :=
  (∀ c ∈ calls, passed c = true) ∧ (∀ iface ∈ list', (iface.call .claim, 0) ∈ calls) ∨
    (∃ c ∈ calls, passed c = false) ∧ ∃ iface ∈ list', (iface.call .claim, 0) ∉ calls

theorem claims_stop {iface iface' : UhdIface} {rest : List UhdIface} {calls : Log RunCall}
    (hsame : iface.Same iface') (hfailed : ∃ c ∈ calls, passed c = false)
    (hnone : (iface.call .claim, 0) ∉ calls) : Claims (iface' :: rest) calls := by
  refine Or.inr ⟨hfailed, iface', List.mem_cons_self, ?_⟩
  rwa [hsame.call]

theorem Claims.cons {iface iface' : UhdIface} {rest rest' : List UhdIface} {ans : Int}
    {calls : Log RunCall} (h : Claims rest' calls)
    (hnodup : ((iface :: rest).map UhdIface.pointer).Nodup) (hsame : iface.Same iface')
    (htaken : Taken rest rest' calls) (hdetach : passed (iface.call .detach, ans) = true) :
    Claims (iface' :: rest') ((iface.call .detach, ans) :: (iface.call .claim, 0) :: calls) := by
  rcases h with ⟨hpassed, hclaimed⟩ | ⟨⟨c, hc, hfailed⟩, other, hother, hnone⟩
  · refine Or.inl ⟨?_, ?_⟩
    · exact List.forall_mem_cons.mpr ⟨hdetach, List.forall_mem_cons.mpr ⟨rfl, hpassed⟩⟩
    · refine List.forall_mem_cons.mpr ⟨?_, fun other hother => ?_⟩
      · rw [hsame.call]
        exact List.mem_cons_of_mem _ List.mem_cons_self
      · exact List.mem_cons_of_mem _ (List.mem_cons_of_mem _ (hclaimed other hother))
  · refine Or.inr ⟨⟨c, ?_, hfailed⟩, other, List.mem_cons_of_mem _ hother, ?_⟩
    · exact List.mem_cons_of_mem _ (List.mem_cons_of_mem _ hc)
    · rw [List.map_cons, List.nodup_cons, ← htaken.pointers] at hnodup
      have hforeign : other.pointer ≠ iface.pointer :=
        fun heq => hnodup.1 (heq ▸ List.mem_map_of_mem hother)
      intro hcall
      rcases List.mem_cons.mp hcall with hcall | hcall
      · exact hforeign (pointer_of_call (congrArg Prod.fst hcall)).1
      · rcases List.mem_cons.mp hcall with hcall | hcall
        · exact hforeign (pointer_of_call (congrArg Prod.fst hcall)).1
        · exact hnone hcall

theorem acquire_makes {list : List UhdIface} (hnodup : (list.map UhdIface.pointer).Nodup) :
    ∃ done list' calls, Makes (acquire list) env log (done, list') calls ∧
      Taken list list' calls ∧ Claims list' calls := by
  induction list generalizing log with
  | nil => exact ⟨true, [], [], makes_pure _ _ _, taken_none [], Or.inl ⟨nofun, nofun⟩⟩
  | cons iface rest ih =>
      obtain ⟨err, iface', ans, hdetach, hsame, hdetached, hpassed⟩ :=
        uhdIfaceDetach_makes env log iface
      have hrecord : ans = 0 → iface'.detached = true := by
        rintro rfl
        simp [hdetached]
      by_cases herr : err ≠ libusbSuccess
      · have hrun : Makes (acquire (iface :: rest)) env log (false, iface' :: rest)
            ([(iface.call .detach, ans)] ++ []) := by
          apply hdetach.bind
          dsimp only
          rw [if_pos herr]
          exact makes_pure _ _ _
        have hfailed := eq_false_of_ne_true (mt hpassed.mpr herr)
        refine ⟨_, _, _, hrun, (taken_none rest).cons hnodup hsame hrecord (List.forall_mem_nil _),
          claims_stop hsame ⟨_, List.mem_cons_self, hfailed⟩ (by simp [UhdIface.call])⟩
      obtain ⟨err', iface'', ans', hclaim, hsame', hdetached', rfl⟩ :=
        uhdIfaceClaim_makes env (log ++ [(iface.call .detach, ans)]) iface'
      rw [hsame.call] at hclaim
      have hsame'' : iface.Same iface'' :=
        ⟨hsame'.1.trans hsame.1, hsame'.2.1.trans hsame.2.1, hsame'.2.2.trans hsame.2.2⟩
      have hrecord' (h : ans = 0) : iface''.detached = true := hdetached'.trans (hrecord h)
      have hclaims : ∀ c ∈ [(iface.call .claim, err')], c.1 = iface.call .claim := by
        simp
      by_cases herr' : err' ≠ libusbSuccess
      · have hrun : Makes (acquire (iface :: rest)) env log (false, iface'' :: rest)
            ([(iface.call .detach, ans)] ++ ([(iface.call .claim, err')] ++ [])) := by
          apply hdetach.bind
          dsimp only
          rw [if_neg herr]
          apply hclaim.bind
          dsimp only
          rw [if_pos herr']
          exact makes_pure _ _ _
        refine ⟨_, _, _, hrun, (taken_none rest).cons hnodup hsame'' hrecord' hclaims,
          claims_stop hsame'' ⟨(iface.call .claim, err'), by simp, ?_⟩ ?_⟩
        · exact beq_eq_false_iff_ne.mpr herr'
        · simpa [UhdIface.call, libusbSuccess] using Ne.symm herr'
      · obtain ⟨done, rest', calls, hrest, htaken, hrestClaims⟩ :=
          ih (log ++ [(iface.call .detach, ans)] ++ [(iface.call .claim, err')])
            (List.nodup_cons.mp hnodup).2
        have hrun : Makes (acquire (iface :: rest)) env log (done, iface'' :: rest')
            ([(iface.call .detach, ans)] ++ ([(iface.call .claim, err')] ++ (calls ++ []))) := by
          apply hdetach.bind
          dsimp only
          rw [if_neg herr]
          apply hclaim.bind
          dsimp only
          rw [if_neg herr']
          exact hrest.bind (makes_pure _ _ _)
        rw [List.append_nil] at hrun
        refine ⟨_, _, _, hrun, htaken.cons hnodup hsame'' hrecord' hclaims, ?_⟩
        have hans := hpassed.mp (Decidable.not_not.mp herr)
        rw [Decidable.not_not.mp herr']
        exact hrestClaims.cons hnodup hsame'' htaken hans

def RunCall.isSetup : RunCall → Bool
  | .init | .openDevList | .dumpDescriptor | .dumpStream => true
  | _ => false

theorem askIf_makes (c : RunCall) (wanted : Bool) (hc : c.isSetup = true) :
    ∃ answer calls, Makes (if wanted then ask c else return 1) env log answer calls ∧
      ∀ call ∈ calls, call.1.isSetup = true := by
  cases wanted with
  | false => exact ⟨1, [], makes_pure _ _ _, nofun⟩
  | true => exact ⟨_, _, makes_ask _ _ _, List.forall_mem_singleton.mpr hc⟩

theorem dumpIfaceList_makes (dumpDescriptor dumpStream : Bool) :
    ∃ result calls, Makes (dumpIfaceList dumpDescriptor dumpStream) env log result calls ∧
      ∀ call ∈ calls, call.1.isSetup = true := by
  obtain ⟨described, first, hfirst, hsetup⟩ :=
    askIf_makes env log .dumpDescriptor dumpDescriptor rfl
  by_cases hdescribed : described = 0
  · refine ⟨1, first ++ [], hfirst.bind ?_, by simpa using hsetup⟩
    rw [if_pos hdescribed]
    exact makes_pure _ _ _
  · obtain ⟨streamed, second, hsecond, hsetup'⟩ :=
      askIf_makes env (log ++ first) .dumpStream dumpStream rfl
    refine ⟨if streamed = 0 then 1 else 0, first ++ (second ++ []), hfirst.bind ?_, ?_⟩
    · rw [if_neg hdescribed]
      exact hsecond.bind (makes_pure _ _ _)
    · rw [List.append_nil]
      exact List.forall_mem_append.mpr ⟨hsetup, hsetup'⟩

variable (found : Found) (ifaceNum : Nat)

def Selected (list : List UhdIface) : Prop :=
  list = [] ∨ ∃ all, uhdIfaceListNew found.memory found.malloc found.devList = .ok all ∧
    list = if ifaceNum ≠ 0xff then uhdIfaceListFltrByNum all ifaceNum else all

/-- The course of `run` before its cleanup: the interfaces that are selected are taken, which
leaves `list'`. -/
structure Course (list' : List UhdIface) (calls : Log RunCall) : Prop where
  parts : ∃ list opening taken dumps, calls = opening ++ (taken ++ dumps) ∧
    Selected found ifaceNum list ∧ (list.map UhdIface.pointer).Nodup ∧ Taken list list' taken ∧
    (∀ call ∈ opening, call.1.isSetup = true) ∧ ∀ call ∈ dumps, call.1.isSetup = true

variable {found ifaceNum}

theorem course_none {calls : Log RunCall} (h : ∀ call ∈ calls, call.1.isSetup = true) :
    Course found ifaceNum [] calls where
  parts := ⟨[], calls, [], [], by simp, Or.inl rfl, List.nodup_nil, taken_none [], h, nofun⟩

theorem passed_setup {call : RunCall × Int} (h : call.1.isSetup = true) : passed call = true := by
  obtain ⟨c, ans⟩ := call
  cases c <;> first | rfl | cases h

theorem claims_none {calls : Log RunCall} (h : ∀ call ∈ calls, call.1.isSetup = true) :
    Claims [] calls := Or.inl ⟨fun call hcall => passed_setup (h call hcall), nofun⟩

theorem Claims.around {list' : List UhdIface} {opening taken dumps : Log RunCall}
    (h : Claims list' taken) (hopening : ∀ call ∈ opening, call.1.isSetup = true)
    (hdumps : ∀ call ∈ dumps, call.1.isSetup = true) :
    Claims list' (opening ++ (taken ++ dumps)) := by
  rcases h with ⟨hpassed, hclaimed⟩ | ⟨⟨c, hc, hfailed⟩, iface, hiface, hnone⟩
  · refine Or.inl ⟨?_, fun iface hiface => ?_⟩
    · exact List.forall_mem_append.mpr ⟨fun c hc => passed_setup (hopening c hc),
        List.forall_mem_append.mpr ⟨hpassed, fun c hc => passed_setup (hdumps c hc)⟩⟩
    · exact List.mem_append_right _ (List.mem_append_left _ (hclaimed iface hiface))
  · refine Or.inr ⟨⟨c, List.mem_append_right _ (List.mem_append_left _ hc), hfailed⟩, iface, hiface,
      fun hcall => ?_⟩
    rcases List.mem_append.mp hcall with hcall | hcall
    · cases hopening _ hcall
    · rcases List.mem_append.mp hcall with hcall | hcall
      · exact hnone hcall
      · cases hdumps _ hcall

theorem nodup_selected {list : List UhdIface} (h : Selected found ifaceNum list) :
    (list.map UhdIface.pointer).Nodup := by
  obtain rfl | ⟨all, hall, rfl⟩ := h
  · exact List.nodup_nil
  · have hnodup := (uhdIfaceListNew_built hall).nodup
    split
    · rw [uhdIfaceListFltrByNum_eq]
      exact hnodup.sublist (List.filter_sublist.map _)
    · exact hnodup

variable (found ifaceNum)

theorem takeAndDump_makes {list : List UhdIface} (hselected : Selected found ifaceNum list)
    {opening : Log RunCall} (hopening : ∀ call ∈ opening, call.1.isSetup = true)
    (dumpDescriptor dumpStream : Bool) :
    ∃ result list' calls,
      Makes (takeAndDump list dumpDescriptor dumpStream) env log (result, list', true) calls ∧
      Course found ifaceNum list' (opening ++ calls) ∧ Claims list' (opening ++ calls) := by
  have hnodup := nodup_selected hselected
  obtain ⟨done, list', taken, htake, htaken, hclaims⟩ := acquire_makes env log hnodup
  cases done with
  | false =>
      refine ⟨1, list', taken ++ [], htake.bind (makes_pure _ _ _), ?_, hclaims.around hopening nofun⟩
      exact ⟨list, opening, taken, [], rfl, hselected, hnodup, htaken, hopening, nofun⟩
  | true =>
      obtain ⟨result, dumps, hdump, hdumps⟩ :=
        dumpIfaceList_makes env (log ++ taken) dumpDescriptor dumpStream
      refine ⟨result, list', taken ++ (dumps ++ []), htake.bind (hdump.bind (makes_pure _ _ _)), ?_⟩
      rw [List.append_nil]
      refine ⟨?_, hclaims.around hopening hdumps⟩
      exact ⟨list, opening, taken, dumps, rfl, hselected, hnodup, htaken, hopening, hdumps⟩

theorem runBody_makes (dumpDescriptor dumpStream : Bool) :
    ∃ result list' ctx calls,
      Makes (runBody found dumpDescriptor dumpStream ifaceNum) env log (result, list', ctx) calls ∧
      Course found ifaceNum list' calls ∧ Claims list' calls := by
  have hinit := makes_ask env log RunCall.init
  generalize env log RunCall.init = err at hinit
  by_cases herr : err ≠ libusbSuccess
  · have hrun : Makes (runBody found dumpDescriptor dumpStream ifaceNum) env log (1, [], false)
        ([(.init, err)] ++ []) := by
      apply hinit.bind
      rw [if_pos herr]
      exact makes_pure _ _ _
    have hsetup : ∀ call ∈ [(RunCall.init, err)], call.1.isSetup = true := by
      simp [RunCall.isSetup]
    exact ⟨_, _, _, _, hrun, course_none hsetup, claims_none hsetup⟩
  have hopen := makes_ask env (log ++ [(.init, err)]) RunCall.openDevList
  generalize env (log ++ [(.init, err)]) RunCall.openDevList = err' at hopen
  have hopening : ∀ call ∈ [(RunCall.init, err), (.openDevList, err')], call.1.isSetup = true := by
    simp [RunCall.isSetup]
  by_cases herr' : err' ≠ libusbSuccess
  · have hrun : Makes (runBody found dumpDescriptor dumpStream ifaceNum) env log (1, [], true)
        ([(.init, err)] ++ ([(.openDevList, err')] ++ [])) := by
      apply hinit.bind
      rw [if_neg herr]
      apply hopen.bind
      rw [if_pos herr']
      exact makes_pure _ _ _
    exact ⟨_, _, _, _, hrun, course_none hopening, claims_none hopening⟩
  have hbody {result : Int × List UhdIface × Bool} {calls : Log RunCall}
      (h : Makes (match uhdIfaceListNew found.memory found.malloc found.devList with
        | .error _ => return (1, [], true)
        | .ok ifaceList => do
            let ifaceList :=
              if ifaceNum ≠ 0xff then uhdIfaceListFltrByNum ifaceList ifaceNum else ifaceList
            (if ifaceList = [] then return (1, [], true)
            else takeAndDump ifaceList dumpDescriptor dumpStream)) env
          (log ++ [(.init, err)] ++ [(.openDevList, err')]) result calls) :
      Makes (runBody found dumpDescriptor dumpStream ifaceNum) env log result
        ([(.init, err)] ++ ([(.openDevList, err')] ++ calls)) := by
    apply hinit.bind
    rw [if_neg herr]
    apply hopen.bind
    rw [if_neg herr']
    exact h
  cases hlist : uhdIfaceListNew found.memory found.malloc found.devList with
  | error _ =>
      rw [hlist] at hbody
      exact ⟨_, _, _, _, hbody (makes_pure _ _ _), course_none hopening, claims_none hopening⟩
  | ok all =>
      rw [hlist] at hbody
      by_cases hempty : (if ifaceNum ≠ 0xff then uhdIfaceListFltrByNum all ifaceNum else all) = []
      · simp only [if_pos hempty] at hbody
        exact ⟨_, _, _, _, hbody (makes_pure _ _ _), course_none hopening, claims_none hopening⟩
      · simp only [if_neg hempty] at hbody
        obtain ⟨result, list', calls, hrun, hcourse⟩ := takeAndDump_makes env
          (log ++ [(.init, err)] ++ [(.openDevList, err')]) found ifaceNum
          (Or.inr ⟨all, hlist, rfl⟩) hopening dumpDescriptor dumpStream
        exact ⟨_, _, _, _, hbody hrun, hcourse⟩

theorem cleanup_makes (list : List UhdIface) (ctx : Bool) :
    ∃ back closing, Makes (cleanup list ctx) env log () (back ++ closing) ∧
      back.map Prod.fst = giveBackCalls list ∧
      ∀ call ∈ closing, call.1 ∈ [RunCall.freeIfaceList, .closeDevList, .exit] := by
  obtain ⟨back, hback, hcalls⟩ := giveBack_makes env log list
  cases ctx with
  | true =>
      have hrun : Makes (cleanup list true) env log () (back ++ ([(.freeIfaceList, 0)] ++
          ([(.closeDevList, 0)] ++ [(.exit, 0)]))) :=
        hback.bind ((makes_tell _ _ _).bind ((makes_tell _ _ _).bind (makes_tell _ _ _)))
      exact ⟨back, _, hrun, hcalls, by simp⟩
  | false =>
      have hrun : Makes (cleanup list false) env log () (back ++ ([(.freeIfaceList, 0)] ++
          ([(.closeDevList, 0)] ++ []))) :=
        hback.bind ((makes_tell _ _ _).bind ((makes_tell _ _ _).bind (makes_pure _ _ _)))
      exact ⟨back, _, hrun, hcalls, by simp⟩

theorem run_makes (dumpDescriptor dumpStream : Bool) :
    ∃ result list' calls back closing,
      Makes (run found dumpDescriptor dumpStream ifaceNum) env log result
        (calls ++ (back ++ closing)) ∧
      Course found ifaceNum list' calls ∧ Claims list' calls ∧
      back.map Prod.fst = giveBackCalls list' ∧
      ∀ call ∈ closing, call.1 ∈ [RunCall.freeIfaceList, .closeDevList, .exit] := by
  obtain ⟨result, list', ctx, calls, hbody, hcourse, hclaims⟩ :=
    runBody_makes env log found ifaceNum dumpDescriptor dumpStream
  obtain ⟨back, closing, hcleanup, hback, hclosing⟩ := cleanup_makes env (log ++ calls) list' ctx
  have hrun : Makes (run found dumpDescriptor dumpStream ifaceNum) env log result
      (calls ++ (back ++ closing ++ [])) :=
    hbody.bind (hcleanup.bind (makes_pure _ _ _))
  rw [List.append_nil] at hrun
  exact ⟨result, list', calls, back, closing, hrun, hcourse, hclaims, hback, hclosing⟩

end Makes

section About

def RunCall.about (pointer : Nat) : RunCall → Bool
  | .iface _ p _ _ => p == pointer
  | _ => false

variable {found : Found} {ifaceNum : Nat} {list list' : List UhdIface} {iface : UhdIface}

@[simp] theorem about_call (pointer : Nat) (iface : UhdIface) (op : IfaceOp) :
    (iface.call op).about pointer = (iface.pointer == pointer) := rfl

theorem filter_about_attachCalls (pointer : Nat) (iface : UhdIface) :
    (attachCalls iface).filter (RunCall.about pointer) =
      if iface.pointer = pointer then attachCalls iface else [] := by
  unfold attachCalls
  split <;> simp [List.filter_cons]

theorem mem_attachCalls {c : RunCall} (h : c ∈ attachCalls iface) : c = iface.call .attach := by
  unfold attachCalls at h
  split at h
  · exact List.mem_singleton.mp h
  · cases h

theorem mem_giveBackCalls {c : RunCall} (h : c ∈ giveBackCalls list) :
    ∃ iface ∈ list, c = iface.call .release ∨ c = iface.call .attach := by
  obtain ⟨iface, hiface, hc⟩ := List.mem_flatMap.mp h
  exact ⟨iface, hiface, (List.mem_cons.mp hc).imp_right mem_attachCalls⟩

theorem filter_about_giveBackCalls (hnodup : (list.map UhdIface.pointer).Nodup)
    (hiface : iface ∈ list) :
    (giveBackCalls list).filter (RunCall.about iface.pointer) =
      iface.call .release :: attachCalls iface := by
  induction list with
  | nil => cases hiface
  | cons first rest ih =>
      obtain ⟨hfirst, hrest⟩ := List.nodup_cons.mp hnodup
      rw [giveBackCalls, List.flatMap_cons, List.filter_append, List.filter_cons, about_call,
        filter_about_attachCalls]
      rcases List.mem_cons.mp hiface with rfl | hiface
      · have hnone : (giveBackCalls rest).filter (RunCall.about iface.pointer) = [] := by
          apply List.filter_eq_nil_iff.mpr
          intro c hc
          obtain ⟨other, hother, rfl | rfl⟩ := mem_giveBackCalls hc <;>
            exact fun h => hfirst (beq_iff_eq.mp h ▸ List.mem_map_of_mem hother)
        rw [← giveBackCalls, hnone]
        simp
      · have hne : first.pointer ≠ iface.pointer :=
          fun h => hfirst (h ▸ List.mem_map_of_mem hiface)
        rw [← giveBackCalls, ih hrest hiface]
        simp [hne]

theorem exists_of_forall₂ {α β : Type} {R : α → β → Prop} {as : List α} {bs : List β} {a : α}
    (h : List.Forall₂ R as bs) (ha : a ∈ as) : ∃ b ∈ bs, R a b := by
  induction h with
  | nil => cases ha
  | cons hhead _ ih =>
      rcases List.mem_cons.mp ha with rfl | ha
      · exact ⟨_, List.mem_cons_self, hhead⟩
      · obtain ⟨b, hb, hab⟩ := ih ha
        exact ⟨b, List.mem_cons_of_mem _ hb, hab⟩

variable {calls : Log RunCall}

theorem Course.mem_iface (h : Course found ifaceNum list' calls) {op : IfaceOp}
    {pointer dev number : Nat} {ans : Int}
    (hcall : (RunCall.iface op pointer dev number, ans) ∈ calls) :
    (op = .detach ∨ op = .claim) ∧ ∃ iface ∈ list', iface.pointer = pointer ∧ iface.dev = dev ∧
      iface.number = number ∧ (op = .detach → ans = 0 → iface.detached = true) := by
  obtain ⟨list, opening, taken, dumps, rfl, -, -, htaken, hopening, hdumps⟩ := h.parts
  have htake : (RunCall.iface op pointer dev number, ans) ∈ taken := by
    rcases List.mem_append.mp hcall with hcall | hcall
    · cases hopening _ hcall
    · rcases List.mem_append.mp hcall with hcall | hcall
      · exact hcall
      · cases hdumps _ hcall
  obtain ⟨iface, hiface, hop⟩ := htaken.only _ htake
  obtain ⟨iface', hiface', hsame⟩ := exists_of_forall₂ htaken.same hiface
  rcases hop with hop | hop
  · obtain ⟨rfl, rfl, rfl, rfl⟩ := RunCall.iface.inj hop
    refine ⟨Or.inl rfl, iface', hiface', hsame.1, hsame.2.1, hsame.2.2, fun _ hans => ?_⟩
    subst hans
    apply htaken.recorded iface' hiface'
    rw [hsame.call]
    exact htake
  · obtain ⟨rfl, rfl, rfl, rfl⟩ := RunCall.iface.inj hop
    exact ⟨Or.inr rfl, iface', hiface', hsame.1, hsame.2.1, hsame.2.2, nofun⟩

theorem Course.not_closing (h : Course found ifaceNum list' calls) :
    ∀ call ∈ calls, call.1 ∉ [RunCall.freeIfaceList, .closeDevList, .exit] := by
  obtain ⟨list, opening, taken, dumps, rfl, -, -, htaken, hopening, hdumps⟩ := h.parts
  have hsetup {c : RunCall} (hc : c.isSetup = true) :
      c ∉ [RunCall.freeIfaceList, .closeDevList, .exit] := by
    cases c <;> simp_all [RunCall.isSetup]
  refine List.forall_mem_append.mpr ⟨fun call hcall => hsetup (hopening call hcall),
    List.forall_mem_append.mpr ⟨fun call hcall => ?_, fun call hcall => hsetup (hdumps call hcall)⟩⟩
  obtain ⟨iface, -, heq | heq⟩ := htaken.only call hcall <;> simp [heq, UhdIface.call]

theorem Course.nodup (h : Course found ifaceNum list' calls) :
    (list'.map UhdIface.pointer).Nodup := by
  obtain ⟨list, opening, taken, dumps, -, -, hnodup, htaken, -, -⟩ := h.parts
  rwa [htaken.pointers]

variable {back closing : Log RunCall}

/-- All calls for an interface, in order: those of the loop that takes it, its release and
perhaps its attachment. -/
theorem filter_about (h : Course found ifaceNum list' calls)
    (hback : back.map Prod.fst = giveBackCalls list')
    (hclosing : ∀ call ∈ closing, call.1 ∈ [RunCall.freeIfaceList, .closeDevList, .exit])
    (hiface : iface ∈ list') :
    ∃ taking, (∀ c ∈ taking, ∀ dev number, c ≠ .iface .attach iface.pointer dev number ∧
        c ≠ .iface .release iface.pointer dev number) ∧
      ((calls ++ (back ++ closing)).map Prod.fst).filter (RunCall.about iface.pointer) =
        taking ++ iface.call .release :: attachCalls iface := by
  refine ⟨(calls.map Prod.fst).filter (RunCall.about iface.pointer), ?_, ?_⟩
  · intro c hc dev number
    obtain ⟨⟨c', ans⟩, hmem, rfl⟩ := List.mem_map.mp (List.mem_filter.mp hc).1
    constructor <;>
    · rintro rfl
      rcases (h.mem_iface hmem).1 with hop | hop <;> cases hop
  · have hnone : (closing.map Prod.fst).filter (RunCall.about iface.pointer) = [] := by
      apply List.filter_eq_nil_iff.mpr
      intro c hc
      obtain ⟨call, hcall, rfl⟩ := List.mem_map.mp hc
      have hmem := hclosing call hcall
      simp only [List.mem_cons, List.not_mem_nil, or_false] at hmem
      rcases hmem with heq | heq | heq <;> simp [heq, RunCall.about]
    rw [List.map_append, List.map_append, List.filter_append, List.filter_append, hback,
      filter_about_giveBackCalls h.nodup hiface, hnone, List.append_nil]

theorem Course.number (h : Course found ifaceNum list' calls) (hnum : ifaceNum ≠ 0xff) :
    ∀ iface ∈ list', iface.number = ifaceNum := by
  obtain ⟨list, opening, taken, dumps, -, hselected, -, htaken, -, -⟩ := h.parts
  have hlist : ∀ iface ∈ list, iface.number = ifaceNum := by
    obtain rfl | ⟨all, -, rfl⟩ := hselected
    · nofun
    · rw [if_pos hnum, uhdIfaceListFltrByNum_eq]
      exact fun iface hiface => of_decide_eq_true (List.mem_filter.mp hiface).2
  intro iface' hiface'
  obtain ⟨iface, hiface, hsame⟩ := exists_of_forall₂ (R := flip UhdIface.Same) htaken.same.flip hiface'
  exact hsame.2.2.trans (hlist iface hiface)

theorem mem_iface_log (h : Course found ifaceNum list' calls)
    (hback : back.map Prod.fst = giveBackCalls list')
    (hclosing : ∀ call ∈ closing, call.1 ∈ [RunCall.freeIfaceList, .closeDevList, .exit])
    {op : IfaceOp} {pointer dev number : Nat} {ans : Int}
    (hcall : (RunCall.iface op pointer dev number, ans) ∈ calls ++ (back ++ closing)) :
    ∃ iface ∈ list', iface.call op = .iface op pointer dev number ∧
      (op = .detach → ans = 0 → iface.detached = true) := by
  rcases List.mem_append.mp hcall with hcall | hcall
  · obtain ⟨-, iface, hiface, rfl, rfl, rfl, hdetached⟩ := h.mem_iface hcall
    exact ⟨iface, hiface, rfl, hdetached⟩
  · rcases List.mem_append.mp hcall with hcall | hcall
    · have hmem : RunCall.iface op pointer dev number ∈ giveBackCalls list' :=
        hback ▸ List.mem_map_of_mem hcall
      obtain ⟨iface, hiface, heq | heq⟩ := mem_giveBackCalls hmem
      · obtain ⟨rfl, -⟩ := RunCall.iface.inj heq
        exact ⟨iface, hiface, heq.symm, nofun⟩
      · obtain ⟨rfl, -⟩ := RunCall.iface.inj heq
        exact ⟨iface, hiface, heq.symm, nofun⟩
    · have hmem := hclosing _ hcall
      simp at hmem

theorem exists_behind {α : Type} {log later before after : List α} {call : α}
    (hnone : call ∉ log) (hsplit : log ++ later = before ++ call :: after) :
    ∃ rest, before = log ++ rest ∧ later = rest ++ call :: after := by
  rcases List.append_eq_append_iff.mp hsplit with ⟨rest, hrest, hlater⟩ | ⟨rest, hlog, hcall⟩
  · exact ⟨rest, hrest, hlater⟩
  · cases rest with
    | nil => exact ⟨[], by rw [hlog, List.append_nil, List.append_nil], hcall.symm⟩
    | cons first rest =>
        have hfirst : call = first := (List.cons.inj hcall).1
        exact absurd (hlog ▸ List.mem_append_right before (hfirst ▸ List.mem_cons_self)) hnone

theorem before_closing (h : Course found ifaceNum list' calls)
    (hback : back.map Prod.fst = giveBackCalls list')
    (hclosing : ∀ call ∈ closing, call.1 ∈ [RunCall.freeIfaceList, .closeDevList, .exit])
    {before after : List RunCall} {c : RunCall}
    (hc : c ∈ [RunCall.freeIfaceList, .closeDevList, .exit])
    (hsplit : (calls ++ (back ++ closing)).map Prod.fst = before ++ c :: after) :
    ∀ op pointer dev number, RunCall.iface op pointer dev number ∉ after := by
  have hworking : c ∉ (calls ++ back).map Prod.fst := by
    intro hmem
    obtain ⟨call, hcall, rfl⟩ := List.mem_map.mp hmem
    rcases List.mem_append.mp hcall with hcall | hcall
    · exact h.not_closing call hcall hc
    · have hgiven : call.1 ∈ giveBackCalls list' := hback ▸ List.mem_map_of_mem hcall
      obtain ⟨iface, -, heq | heq⟩ := mem_giveBackCalls hgiven <;> simp [heq, UhdIface.call] at hc
  rw [← List.append_assoc, List.map_append] at hsplit
  obtain ⟨rest, -, hrest⟩ := exists_behind hworking hsplit
  intro op pointer dev number hmem
  have hlater : RunCall.iface op pointer dev number ∈ closing.map Prod.fst :=
    hrest ▸ List.mem_append_right rest (List.mem_cons_of_mem c hmem)
  obtain ⟨call, hcall, heq⟩ := List.mem_map.mp hlater
  have hclose := hclosing call hcall
  simp [heq] at hclose

theorem count_attach (h : Course found ifaceNum list' calls)
    (hback : back.map Prod.fst = giveBackCalls list')
    (hclosing : ∀ call ∈ closing, call.1 ∈ [RunCall.freeIfaceList, .closeDevList, .exit])
    (hiface : iface ∈ list') (hdetached : iface.detached = true) :
    ((calls ++ (back ++ closing)).map Prod.fst).count (iface.call .attach) = 1 := by
  obtain ⟨taking, htaking, hfilter⟩ := filter_about h hback hclosing hiface
  have habout : (iface.call .attach).about iface.pointer = true := beq_self_eq_true _
  have hnone : iface.call .attach ∉ taking := fun hc => (htaking _ hc _ _).1 rfl
  have hne : iface.call .release ≠ iface.call .attach := by simp [UhdIface.call]
  rw [← List.count_filter habout, hfilter, attachCalls, if_pos hdetached, List.count_append,
    List.count_eq_zero.mpr hnone, List.count_cons_of_ne hne, List.count_singleton_self]

theorem release_before_attach (h : Course found ifaceNum list' calls)
    (hback : back.map Prod.fst = giveBackCalls list')
    (hclosing : ∀ call ∈ closing, call.1 ∈ [RunCall.freeIfaceList, .closeDevList, .exit])
    (hiface : iface ∈ list') {before after : List RunCall}
    (hsplit : (calls ++ (back ++ closing)).map Prod.fst =
      before ++ iface.call .attach :: after) :
    iface.call .release ∈ before ∧ iface.call .release ∉ after := by
  obtain ⟨taking, htaking, hfilter⟩ := filter_about h hback hclosing hiface
  have habout (op : IfaceOp) : (iface.call op).about iface.pointer = true := beq_self_eq_true _
  have hnone : iface.call .attach ∉ taking ++ [iface.call .release] := by
    rw [List.mem_append, List.mem_singleton]
    rintro (hc | hc)
    · exact (htaking _ hc _ _).1 rfl
    · cases (pointer_of_call hc).2
  rw [hsplit, List.filter_append, List.filter_cons_of_pos (habout _),
    List.append_cons taking] at hfilter
  -- the attachment stands at the end of the calls for this interface
  have hattach : attachCalls iface = [iface.call .attach] := by
    have hc : iface.call .attach ∈ taking ++ [iface.call .release] ++ attachCalls iface :=
      hfilter ▸ List.mem_append_right _ List.mem_cons_self
    have hc := (List.mem_append.mp hc).resolve_left hnone
    unfold attachCalls at hc ⊢
    split at hc
    · rw [if_pos ‹_›]
    · cases hc
  rw [hattach] at hfilter
  obtain ⟨hbefore, -, hafter⟩ :=
    (List.append_cons_inj_of_notMem hnone List.not_mem_nil).mp hfilter.symm
  constructor
  · have hmem : iface.call .release ∈ before.filter (RunCall.about iface.pointer) :=
      hbefore ▸ List.mem_append_right _ (List.mem_singleton_self _)
    exact (List.mem_filter.mp hmem).1
  · intro hmem
    have hmem : iface.call .release ∈ after.filter (RunCall.about iface.pointer) :=
      List.mem_filter.mpr ⟨hmem, habout _⟩
    rw [← hafter] at hmem
    cases hmem

/-- Whatever each call answers: an interface whose driver was detached has it attached once, a
claimed one is released, a release comes before the attachment, all of this comes before the
lists are freed, the devices closed and the context destroyed, and an interface that the filter
takes out is not touched. -/
theorem run_givesBack (found : Found) (env : Oracle RunCall) (dumpDescriptor dumpStream : Bool)
    (ifaceNum : Nat) :
    let log := (run found dumpDescriptor dumpStream ifaceNum env []).2
    let calls := log.map Prod.fst
    (∀ pointer dev number, (RunCall.iface .detach pointer dev number, 0) ∈ log →
      calls.count (.iface .attach pointer dev number) = 1) ∧
    (∀ pointer dev number, (RunCall.iface .claim pointer dev number, 0) ∈ log →
      RunCall.iface .release pointer dev number ∈ calls) ∧
    (∀ pointer dev number before after,
      calls = before ++ .iface .attach pointer dev number :: after →
        RunCall.iface .release pointer dev number ∈ before ∧
        RunCall.iface .release pointer dev number ∉ after) ∧
    (∀ before c after, c ∈ [RunCall.freeIfaceList, .closeDevList, .exit] →
      calls = before ++ c :: after →
        ∀ op pointer dev number, RunCall.iface op pointer dev number ∉ after) ∧
    ∀ all, uhdIfaceListNew found.memory found.malloc found.devList = .ok all → ifaceNum ≠ 0xff →
      ∀ iface ∈ all, iface.number ≠ ifaceNum → ∀ op, iface.call op ∉ calls := by
  obtain ⟨result, list', calls, back, closing, hrun, hcourse, -, hback, hclosing⟩ :=
    run_makes env [] found ifaceNum dumpDescriptor dumpStream
  intro log calls'
  have hlog : log = calls ++ (back ++ closing) := congrArg Prod.snd hrun
  have hcalls : calls' = (calls ++ (back ++ closing)).map Prod.fst := congrArg (List.map _) hlog
  have hmem {op : IfaceOp} {pointer dev number : Nat} {ans : Int}
      (hcall : (RunCall.iface op pointer dev number, ans) ∈ log) :
      ∃ iface ∈ list', iface.call op = .iface op pointer dev number ∧
        (op = .detach → ans = 0 → iface.detached = true) := by
    rw [hlog] at hcall
    exact mem_iface_log hcourse hback hclosing hcall
  have hmem' {op : IfaceOp} {pointer dev number : Nat}
      (hcall : RunCall.iface op pointer dev number ∈ calls') :
      ∃ iface ∈ list', iface.call op = .iface op pointer dev number := by
    obtain ⟨⟨c, ans⟩, hcall, rfl⟩ := List.mem_map.mp hcall
    obtain ⟨iface, hiface, heq, -⟩ := hmem hcall
    exact ⟨iface, hiface, heq⟩
  refine ⟨?_, ?_, ?_, ?_, ?_⟩
  · intro pointer dev number hcall
    obtain ⟨iface, hiface, heq, hdetached⟩ := hmem hcall
    obtain ⟨-, rfl, rfl, rfl⟩ := RunCall.iface.inj heq
    rw [hcalls]
    exact count_attach hcourse hback hclosing hiface (hdetached rfl rfl)
  · intro pointer dev number hcall
    obtain ⟨iface, hiface, heq, -⟩ := hmem hcall
    obtain ⟨-, rfl, rfl, rfl⟩ := RunCall.iface.inj heq
    have hrelease : iface.call .release ∈ back.map Prod.fst :=
      hback ▸ List.mem_flatMap.mpr ⟨iface, hiface, List.mem_cons_self⟩
    rw [hcalls, List.map_append, List.map_append]
    exact List.mem_append_right _ (List.mem_append_left _ hrelease)
  · intro pointer dev number before after hsplit
    have hattach : RunCall.iface .attach pointer dev number ∈ calls' :=
      hsplit ▸ List.mem_append_right _ List.mem_cons_self
    obtain ⟨iface, hiface, heq⟩ := hmem' hattach
    obtain ⟨-, rfl, rfl, rfl⟩ := RunCall.iface.inj heq
    exact release_before_attach hcourse hback hclosing hiface (hcalls.symm.trans hsplit)
  · intro before c after hc hsplit
    exact before_closing hcourse hback hclosing hc (hcalls.symm.trans hsplit)
  · intro all _ hnum iface _ hother op hcall
    obtain ⟨iface', hiface', heq⟩ := hmem' hcall
    obtain ⟨-, -, -, hnumber⟩ := RunCall.iface.inj heq
    exact hother (hnumber ▸ hcourse.number hnum iface' hiface')

end About

end Usbutils
