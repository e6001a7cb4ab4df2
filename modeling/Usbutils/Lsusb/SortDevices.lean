import Usbutils.Lib.Bubble
import Usbutils.Strings.Fallback

/-! `sort_device_list` of `lsusb.c`. The devices are any type, with what libusb tells of them. -/
namespace Usbutils
open Bubble

structure Libusb (δ : Type) where
  getBusNumber : δ → UInt8
  getDeviceAddress : δ → UInt8
  getDeviceDescriptor : δ → DeviceIds

section SortDevices

variable {δ : Type} (lib : Libusb δ)

/-- `(bnum == bnum_next && dnum > dnum_next) || bnum > bnum_next` -/
def Libusb.misplaced (dev devNext : δ) : Bool :=
  let bnum : Int := (lib.getBusNumber dev).toNat
  let dnum : Int := (lib.getDeviceAddress dev).toNat
  let bnumNext : Int := (lib.getBusNumber devNext).toNat
  let dnumNext : Int := (lib.getDeviceAddress devNext).toNat
  bnum == bnumNext && dnum > dnumNext || bnum > bnumNext

/-- The `for` loop from an index on, for a number of turns: the list and `sorted`. -/
def sortTurns (i : Nat) : Nat → List δ → Bool → Option (List δ × Bool)
  | 0, list, sorted => some (list, sorted)
  | turns + 1, list, sorted => do
      let dev ← list[i]?
      let devNext ← list[i + 1]?
      if lib.misplaced dev devNext then
        sortTurns (i + 1) turns ((list.set i devNext).set (i + 1) dev) false
      else sortTurns (i + 1) turns list sorted

/-- `none` where the loop does not end, or leaves the list. -/
def Libusb.sortDeviceList (lib : Libusb δ) (list : List δ) : Option (List δ) := do
  let (list, sorted) ← sortTurns lib 0 (list.length - 1) list true
  if sorted then return list else lib |>.sortDeviceList list
partial_fixpoint

def Libusb.key (dev : δ) : Nat ×ₗ Nat :=
  toLex ((lib.getBusNumber dev).toNat, (lib.getDeviceAddress dev).toNat)

theorem misplaced_eq : lib.misplaced = above lib.key := by
  funext dev devNext
  rw [Bool.eq_iff_iff]
  simp only [Libusb.misplaced, above, Libusb.key, Bool.or_eq_true, Bool.and_eq_true, beq_iff_eq,
    decide_eq_true_eq, Prod.Lex.toLex_lt_toLex]
  omega

theorem sortTurns_pass (before : List δ) (dev : δ) (rest : List δ) (sorted : Bool) :
    sortTurns lib before.length rest.length (before ++ dev :: rest) sorted =
      some (before ++ (Bubble.pass lib.misplaced (dev :: rest)).1,
        sorted && !(Bubble.pass lib.misplaced (dev :: rest)).2) := by
  induction rest generalizing before dev sorted with
  | nil => simp [sortTurns, Bubble.pass]
  | cons devNext rest ih =>
      rw [List.length_cons, sortTurns, Bubble.pass]
      have hdev : (before ++ dev :: devNext :: rest)[before.length]? = some dev := by simp
      have hnext : (before ++ dev :: devNext :: rest)[before.length + 1]? = some devNext := by simp
      rw [hdev, hnext]
      simp only [Option.bind_eq_bind, Option.bind_some]
      by_cases hwrong : lib.misplaced dev devNext = true
      · have hset : ((before ++ dev :: devNext :: rest).set before.length devNext).set
            (before.length + 1) dev = (before ++ [devNext]) ++ dev :: rest := by
          simp
        have hrest := ih (before ++ [devNext]) dev false
        rw [List.length_append, List.length_singleton] at hrest
        rw [if_pos hwrong, if_pos hwrong, hset, hrest]
        simp
      · have hrest := ih (before ++ [dev]) devNext sorted
        rw [List.length_append, List.length_singleton, List.append_assoc] at hrest
        rw [if_neg hwrong, if_neg hwrong]
        simpa using hrest

/-- The list comes out in the stable order by bus and device number. A pass that exchanges
something leaves fewer inversions, so there is a last one. -/
theorem sortDeviceList_eq (list : List δ) : lib.sortDeviceList list = some (byKey lib.key list) := by
  induction hn : inversions lib.misplaced list using Nat.strong_induction_on generalizing list with
  | _ n ih =>
      have hturns : sortTurns lib 0 (list.length - 1) list true =
          some ((Bubble.pass lib.misplaced list).1, !(Bubble.pass lib.misplaced list).2) := by
        cases list with
        | nil => simp [sortTurns, Bubble.pass]
        | cons dev rest => exact sortTurns_pass lib [] dev rest true
      have hfewer := inversions_pass lib.misplaced
        (misplaced_eq lib ▸ above_asymm lib.key) list
      rw [Libusb.sortDeviceList, hturns]
      simp only [Option.bind_eq_bind, Option.bind_some]
      cases hflag : (Bubble.pass lib.misplaced list).2 with
      | true =>
          rw [hflag, if_pos rfl] at hfewer
          rw [if_neg (by simp), ih _ (by omega) _ rfl]
          apply congrArg some
          apply eq_byKey lib.key (pairwise_byKey lib.key _)
          intro k
          rw [withKey_byKey, misplaced_eq, withKey_pass]
      | false =>
          rw [if_pos (by simp), (pass_unflagged _ hflag).1]
          rw [misplaced_eq] at hflag
          exact congrArg some (eq_byKey lib.key (sorted_of_unflagged lib.key hflag) fun _ => rfl)

/-- The sort comes to its end with a permutation of the list that is ascending by bus and device
number and keeps devices with the same numbers in their order. -/
theorem sortDeviceList_sorts (list : List δ) :
    ∃ sorted, lib.sortDeviceList list = some sorted ∧ sorted.Perm list ∧
      sorted.Pairwise (fun dev devNext => lib.key dev ≤ lib.key devNext) ∧
      ∀ k, sorted.filter (fun dev => lib.key dev = k) = list.filter fun dev => lib.key dev = k :=
  ⟨byKey lib.key list, sortDeviceList_eq lib list, byKey_perm lib.key list,
    pairwise_byKey lib.key list, fun k => withKey_byKey lib.key k list⟩

end SortDevices
end Usbutils
