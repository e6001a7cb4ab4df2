import Mathlib.Data.List.Induction
import Usbutils.HidDump.ReportLength
import Usbutils.HidDump.Run

/-! `uhd_iface_release` does not look at `claimed`: the cleanup of `run` releases interfaces
that were never claimed. -/
namespace Usbutils
open Calls Calls.Proc

def claimedAfter (pointer dev number : Nat) (log : Log RunCall) : Bool :=
  log.foldl (fun claimed call =>
    if call = (.iface .claim pointer dev number, 0) then true
    else if call = (.iface .release pointer dev number, 0) then false
    else claimed) false

/-- An interface is released only while it is claimed. -/
def ReleasesClaimed (log : Log RunCall) : Prop :=
  ∀ before pointer dev number ans after,
    log = before ++ (.iface .release pointer dev number, ans) :: after →
      claimedAfter pointer dev number before = true

section Claimed

variable {pointer dev number : Nat} {log : Log RunCall}

theorem claimedAfter_concat (call : RunCall × Int) :
    claimedAfter pointer dev number (log ++ [call]) =
      if call = (.iface .claim pointer dev number, 0) then true
      else if call = (.iface .release pointer dev number, 0) then false
      else claimedAfter pointer dev number log := by
  rw [claimedAfter, List.foldl_append]
  rfl

theorem mem_of_claimedAfter (h : claimedAfter pointer dev number log = true) :
    (.iface .claim pointer dev number, 0) ∈ log := by
  induction log using List.reverseRecOn with
  | nil => cases h
  | append_singleton log call ih =>
      rw [claimedAfter_concat] at h
      split at h
      case isTrue hcall => exact hcall ▸ List.mem_append_right log (List.mem_singleton_self call)
      case isFalse =>
        split at h
        · cases h
        · exact List.mem_append_left _ (ih h)

theorem claimedAfter_of_mem (hclaim : (.iface .claim pointer dev number, 0) ∈ log)
    (hnone : .iface .release pointer dev number ∉ log.map Prod.fst) :
    claimedAfter pointer dev number log = true := by
  induction log using List.reverseRecOn with
  | nil => cases hclaim
  | append_singleton log call ih =>
      rw [List.map_append, List.mem_append, not_or] at hnone
      rw [claimedAfter_concat]
      by_cases hcall : call = (.iface .claim pointer dev number, 0)
      · exact if_pos hcall
      · have hrelease : call ≠ (.iface .release pointer dev number, 0) := by
          rintro rfl
          exact hnone.2 (List.mem_singleton_self _)
        rw [if_neg hcall, if_neg hrelease]
        refine ih ?_ hnone.1
        exact (List.mem_append.mp hclaim).resolve_right fun h =>
          hcall (List.mem_singleton.mp h).symm

end Claimed

section Release

variable {found : Found} {ifaceNum : Nat} {list' : List UhdIface} {calls back closing : Log RunCall}

theorem passed_of_not_taking {call : RunCall × Int}
    (h : ∀ op pointer dev number, call.1 = .iface op pointer dev number →
      op = .release ∨ op = .attach) : passed call = true := by
  obtain ⟨c, ans⟩ := call
  cases c with
  | iface op pointer dev number =>
      rcases h op pointer dev number rfl with rfl | rfl <;> rfl
  | _ => rfl

theorem passed_back (hback : back.map Prod.fst = giveBackCalls list') :
    ∀ call ∈ back, passed call = true := by
  intro call hcall
  have hgiven : call.1 ∈ giveBackCalls list' := hback ▸ List.mem_map_of_mem hcall
  obtain ⟨iface, -, heq | heq⟩ := mem_giveBackCalls hgiven
  · apply passed_of_not_taking
    intro op pointer dev number hop
    exact Or.inl (RunCall.iface.inj (hop.symm.trans heq)).1
  · apply passed_of_not_taking
    intro op pointer dev number hop
    exact Or.inr (RunCall.iface.inj (hop.symm.trans heq)).1

theorem passed_closing
    (hclosing : ∀ call ∈ closing, call.1 ∈ [RunCall.freeIfaceList, .closeDevList, .exit]) :
    ∀ call ∈ closing, passed call = true := by
  intro call hcall
  apply passed_of_not_taking
  intro op pointer dev number hop
  have hmem := hclosing call hcall
  simp [hop] at hmem

theorem count_release (h : Course found ifaceNum list' calls)
    (hback : back.map Prod.fst = giveBackCalls list')
    (hclosing : ∀ call ∈ closing, call.1 ∈ [RunCall.freeIfaceList, .closeDevList, .exit])
    {iface : UhdIface} (hiface : iface ∈ list') :
    ((calls ++ (back ++ closing)).map Prod.fst).count (iface.call .release) = 1 := by
  obtain ⟨taking, htaking, hfilter⟩ := filter_about h hback hclosing hiface
  have habout : (iface.call .release).about iface.pointer = true := beq_self_eq_true _
  have hnone : iface.call .release ∉ taking := fun hc => (htaking _ hc _ _).2 rfl
  have hattach : iface.call .release ∉ attachCalls iface := fun hc => by
    cases (pointer_of_call (mem_attachCalls hc)).2
  rw [← List.count_filter habout, hfilter, List.count_append, List.count_eq_zero.mpr hnone,
    List.count_cons_self, List.count_eq_zero.mpr hattach]

theorem releasesClaimed_of_claimed (h : Course found ifaceNum list' calls)
    (hback : back.map Prod.fst = giveBackCalls list')
    (hclosing : ∀ call ∈ closing, call.1 ∈ [RunCall.freeIfaceList, .closeDevList, .exit])
    (hclaimed : ∀ iface ∈ list', (iface.call .claim, 0) ∈ calls) :
    ReleasesClaimed (calls ++ (back ++ closing)) := by
  intro before pointer dev number ans after hsplit
  have hrelease : (RunCall.iface .release pointer dev number, ans) ∈ calls ++ (back ++ closing) :=
    hsplit ▸ List.mem_append_right before List.mem_cons_self
  obtain ⟨iface, hiface, heq, -⟩ := mem_iface_log h hback hclosing hrelease
  obtain ⟨-, rfl, rfl, rfl⟩ := RunCall.iface.inj heq
  have hnone : (RunCall.iface .release iface.pointer iface.dev iface.number, ans) ∉ calls := by
    intro hcall
    rcases (h.mem_iface hcall).1 with hop | hop <;> cases hop
  obtain ⟨rest, hrest, -⟩ := exists_behind hnone hsplit
  apply claimedAfter_of_mem
  · rw [hrest]
    exact List.mem_append_left rest (hclaimed iface hiface)
  · have hcount := count_release h hback hclosing hiface
    rw [hsplit, List.map_append, List.map_cons, List.count_append, UhdIface.call,
      List.count_cons_self] at hcount
    exact List.count_eq_zero.mp (by omega)

theorem not_releasesClaimed {iface : UhdIface} (hback : back.map Prod.fst = giveBackCalls list')
    (hclosing : ∀ call ∈ closing, call.1 ∈ [RunCall.freeIfaceList, .closeDevList, .exit])
    (hiface : iface ∈ list') (hnone : (iface.call .claim, 0) ∉ calls) :
    ¬ReleasesClaimed (calls ++ (back ++ closing)) := by
  intro h
  have hrelease : iface.call .release ∈ back.map Prod.fst :=
    hback ▸ List.mem_flatMap.mpr ⟨iface, hiface, List.mem_cons_self⟩
  obtain ⟨⟨c, ans⟩, hcall, hc⟩ := List.mem_map.mp hrelease
  obtain rfl : c = iface.call .release := hc
  obtain ⟨before, after, hsplit⟩ := List.append_of_mem
    (List.mem_append_right calls (List.mem_append_left closing hcall))
  have hclaim : (iface.call .claim, 0) ∈ calls ++ (back ++ closing) := by
    rw [hsplit]
    exact List.mem_append_left _ (mem_of_claimedAfter (h _ _ _ _ _ _ hsplit))
  rcases List.mem_append.mp hclaim with hclaim | hclaim
  · exact hnone hclaim
  · rcases List.mem_append.mp hclaim with hclaim | hclaim
    · have hgiven : iface.call .claim ∈ giveBackCalls list' :=
        hback ▸ List.mem_map_of_mem hclaim
      obtain ⟨other, -, heq | heq⟩ := mem_giveBackCalls hgiven <;>
        cases (pointer_of_call heq).2
    · have hmem := hclosing _ hclaim
      simp [UhdIface.call] at hmem

end Release

/-- Every release is that of a claimed interface exactly if every interface that `run` works with
is claimed: no detachment fails, except that no driver is active, and no claim fails. -/
theorem run_releasesClaimed_iff (found : Found) (env : Oracle RunCall)
    (dumpDescriptor dumpStream : Bool) (ifaceNum : Nat) :
    ReleasesClaimed (run found dumpDescriptor dumpStream ifaceNum env []).2 ↔
      ∀ call ∈ (run found dumpDescriptor dumpStream ifaceNum env []).2, passed call = true := by
  obtain ⟨result, list', calls, back, closing, hrun, hcourse, hclaims, hback, hclosing⟩ :=
    run_makes env [] found ifaceNum dumpDescriptor dumpStream
  have hlog : (run found dumpDescriptor dumpStream ifaceNum env []).2 =
      calls ++ (back ++ closing) := congrArg Prod.snd hrun
  rw [hlog]
  rcases hclaims with ⟨hpassed, hclaimed⟩ | ⟨⟨call, hcall, hfailed⟩, iface, hiface, hnone⟩
  · apply iff_of_true
    · exact releasesClaimed_of_claimed hcourse hback hclosing hclaimed
    · exact List.forall_mem_append.mpr ⟨hpassed,
        List.forall_mem_append.mpr ⟨passed_back hback, passed_closing hclosing⟩⟩
  · apply iff_of_false
    · exact not_releasesClaimed hback hclosing hiface hnone
    · intro hpassed
      rw [hpassed call (List.mem_append_left _ hcall)] at hfailed
      cases hfailed

def busyKeyboard : Found where
  devList := [keyboard 9]
  memory := hidOnly
  malloc := fun _ => true

def busy : Oracle RunCall := fun _ call =>
  match call with
  | .iface .claim _ _ _ => -6
  | _ => 0

theorem run_releasesClaimed_busy :
    ¬ReleasesClaimed (run busyKeyboard true false 0xff busy []).2 := by
  intro h
  have hlog : (run busyKeyboard true false 0xff busy []).2 =
      [(.init, 0), (.openDevList, 0), (.iface .detach 0 0 0, 0), (.iface .claim 0 0 0, -6)] ++
        (.iface .release 0 0 0, 0) :: [(.iface .attach 0 0 0, 0), (.freeIfaceList, 0),
          (.closeDevList, 0), (.exit, 0)] := by
    decide
  cases h _ _ _ _ _ _ hlog

end Usbutils
