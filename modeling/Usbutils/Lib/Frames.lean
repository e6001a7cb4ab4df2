import Mathlib.Algebra.GroupWithZero.Nat
import Usbutils.Lib.Prog
import Mathlib.Algebra.Order.BigOperators.Group.List

/-! Strings of records that begin with their own length. The well-formed records
at the front of a string are determined by the string alone; a walk that steps by
the stored lengths visits exactly these and then stops. -/
namespace Frames
open ByteProg

section Records

variable (m : Memory) (least : Nat)

/-- The addresses are the first records of `size` bytes from `start`: one follows
the other, and each holds at least `least` bytes and at most what is left. -/
def Leading : Nat → Nat → List Nat → Prop
  | _, _, [] => True
  | start, size, a :: rest =>
      a = start ∧ least ≤ (m a).toNat ∧ (m a).toNat ≤ size ∧
        Leading (start + (m a).toNat) (size - (m a).toNat) rest

def span (addresses : List Nat) : Nat := (addresses.map fun a => (m a).toNat).sum

def Tiles (start size : Nat) (addresses : List Nat) : Prop :=
  Leading m least start size addresses ∧ span m addresses = size

def framesFor : Nat → Nat → Nat → List Nat
  | 0, _, _ => []
  | fuel + 1, start, size =>
      if least ≤ (m start).toNat ∧ (m start).toNat ≤ size then
        start :: framesFor fuel (start + (m start).toNat) (size - (m start).toNat)
      else []

def frames (start size : Nat) : List Nat := framesFor m least size start size

end Records

variable {m : Memory} {least start size : Nat}

@[simp] theorem span_nil : span m [] = 0 := rfl

@[simp] theorem span_cons (a : Nat) (rest : List Nat) :
    span m (a :: rest) = (m a).toNat + span m rest := by
  simp [span]

theorem Leading.span_le {addresses : List Nat} (h : Leading m least start size addresses) :
    span m addresses ≤ size := by
  induction addresses generalizing start size with
  | nil => exact Nat.zero_le size
  | cons a rest ih =>
      obtain ⟨rfl, -, hsize, hrest⟩ := h
      have := ih hrest
      rw [span_cons]
      omega

theorem Leading.bounds {addresses : List Nat} (h : Leading m least start size addresses) {a : Nat}
    (ha : a ∈ addresses) :
    start ≤ a ∧ least ≤ (m a).toNat ∧ a + (m a).toNat ≤ start + size := by
  induction addresses generalizing start size with
  | nil => cases ha
  | cons b rest ih =>
      obtain ⟨rfl, hleast, hsize, hrest⟩ := h
      rcases List.mem_cons.mp ha with rfl | ha
      · exact ⟨Nat.le_refl a, hleast, by omega⟩
      · have := ih hrest ha
        omega

theorem leading_framesFor (fuel : Nat) :
    Leading m least start size (framesFor m least fuel start size) := by
  induction fuel generalizing start size with
  | zero => trivial
  | succ fuel ih =>
      unfold framesFor
      split
      case isTrue h => exact ⟨rfl, h.1, h.2, ih⟩
      case isFalse h => trivial

theorem leading_frames (m : Memory) (least start size : Nat) :
    Leading m least start size (frames m least start size) :=
  leading_framesFor size

/-- No string of leading records is longer. -/
theorem Leading.prefix_framesFor {addresses : List Nat} {fuel : Nat} (hleast : 1 ≤ least)
    (hfuel : size ≤ fuel) (h : Leading m least start size addresses) :
    addresses <+: framesFor m least fuel start size := by
  induction addresses generalizing start size fuel with
  | nil => exact List.nil_prefix
  | cons a rest ih =>
      obtain ⟨rfl, hlow, hhigh, hrest⟩ := h
      cases fuel with
      | zero => omega
      | succ fuel =>
          rw [framesFor, if_pos ⟨hlow, hhigh⟩]
          exact List.cons_prefix_cons.mpr ⟨rfl, ih (by omega) hrest⟩

theorem Leading.prefix_frames {addresses : List Nat} (hleast : 1 ≤ least)
    (h : Leading m least start size addresses) : addresses <+: frames m least start size :=
  h.prefix_framesFor hleast (Nat.le_refl size)

theorem eq_frames_iff {addresses : List Nat} (hleast : 1 ≤ least) :
    addresses = frames m least start size ↔
      Leading m least start size addresses ∧
        ∀ others, Leading m least start size others → others <+: addresses := by
  constructor
  · rintro rfl
    exact ⟨leading_frames m least start size, fun others h => h.prefix_frames hleast⟩
  · rintro ⟨hleading, hmax⟩
    exact (hleading.prefix_frames hleast).eq_of_length_le
      (hmax _ (leading_frames m least start size)).length_le

theorem span_append (left right : List Nat) : span m (left ++ right) = span m left + span m right := by
  simp [span]

theorem Tiles.eq_frames {addresses : List Nat} (hleast : 1 ≤ least)
    (h : Tiles m least start size addresses) : addresses = frames m least start size := by
  obtain ⟨rest, hrest⟩ := h.1.prefix_frames hleast
  have hspan := (leading_frames m least start size).span_le
  rw [← hrest, span_append, h.2] at hspan
  cases rest with
  | nil => rw [← hrest, List.append_nil]
  | cons a rest =>
      have ha : a ∈ frames m least start size := by rw [← hrest]; simp
      have := ((leading_frames m least start size).bounds ha).2.1
      rw [span_cons] at hspan
      omega

theorem framesFor_eq {fuel : Nat} (hleast : 1 ≤ least) (hfuel : size ≤ fuel) :
    framesFor m least fuel start size = frames m least start size := by
  refine ((leading_framesFor fuel).prefix_frames hleast).eq_of_length_le ?_
  exact ((leading_frames m least start size).prefix_framesFor hleast hfuel).length_le

theorem frames_eq (hleast : 1 ≤ least) :
    frames m least start size =
      if least ≤ (m start).toNat ∧ (m start).toNat ≤ size then
        start :: frames m least (start + (m start).toNat) (size - (m start).toNat)
      else [] := by
  rw [← framesFor_eq hleast (Nat.le_succ size), framesFor]
  split
  case isTrue h => rw [framesFor_eq hleast (by omega)]
  case isFalse h => rfl

theorem frames_stops (hleast : 1 ≤ least) :
    (m (start + span m (frames m least start size))).toNat < least ∨
      size - span m (frames m least start size) <
        (m (start + span m (frames m least start size))).toNat := by
  induction size using Nat.strong_induction_on generalizing start with
  | _ size ih =>
      rw [frames_eq hleast]
      split
      case isTrue h =>
          have := @ih (size - (m start).toNat) (by omega) (start + (m start).toNat)
          rwa [span_cons, ← Nat.add_assoc, ← Nat.sub_sub]
      case isFalse h =>
          simp only [span_nil, Nat.add_zero, Nat.sub_zero]
          omega

section Walk

variable {ε σ : Type} (endless : σ) (least : Nat) (bad : Nat → Nat → Prog ε σ Unit)
  (body : Nat → Prog ε σ Unit)

def walkFor : Nat → Nat → Nat → Prog ε σ Unit
  | 0, _, _ => Prog.stop endless
  | fuel + 1, buf, size =>
      Prog.when (least ≤ size) do
        let bLength ← Prog.byte buf
        (if bLength < least ∨ size < bLength then bad bLength size
        else do
          body buf
          walkFor fuel (buf + bLength) (size - bLength))

/-- `while (size >= least)`: leave at a length out of bounds, else do the body and
go on behind the record. Each round takes a byte at least. -/
def walk (buf size : Nat) : Prog ε σ Unit := walkFor endless least bad body (size + 1) buf size

def atRest (m : Memory) (buf size : Nat) : Prog ε σ Unit :=
  Prog.when (least ≤ size) (bad (m buf).toNat size)

variable {endless least bad body}

theorem walkFor_spec {fuel : Nat} (hleast : 1 ≤ least) (hfuel : size < fuel)
    (hbad : ∀ b s, (bad b s).result m = .ok ()) (hbody : ∀ a, (body a).result m = .ok ()) :
    (walkFor endless least bad body fuel start size).result m = .ok () ∧
      (walkFor endless least bad body fuel start size).acts m =
        (frames m least start size).flatMap (fun a => (body a).acts m) ++
          (atRest least bad m (start + span m (frames m least start size))
            (size - span m (frames m least start size))).acts m := by
  induction fuel generalizing start size with
  | zero => omega
  | succ fuel ih =>
      by_cases hframe : least ≤ (m start).toNat ∧ (m start).toNat ≤ size
      · obtain ⟨hlow, hhigh⟩ := hframe
        have ih := @ih (start + (m start).toNat) (size - (m start).toNat) (by omega)
        have hsize : least ≤ size := by omega
        have hgood : ¬((m start).toNat < least ∨ size < (m start).toNat) := by omega
        rw [frames_eq hleast, if_pos ⟨hlow, hhigh⟩]
        simp only [span_cons, ← Nat.sub_sub, ← Nat.add_assoc, List.flatMap_cons, List.append_assoc]
        rw [← ih.2, walkFor, Prog.when, if_pos hsize]
        constructor
        · simp [hgood, hbody, ih.1]
        · rw [Prog.acts_bind_ok (Prog.result_byte start m), if_neg hgood, Prog.acts_bind_ok (hbody _)]
          rfl
      · rw [frames_eq hleast, if_neg hframe]
        simp only [span_nil, Nat.sub_zero, Nat.add_zero, List.flatMap_nil, List.nil_append]
        rw [walkFor, atRest]
        by_cases hsize : least ≤ size
        · have hbad' : (m start).toNat < least ∨ size < (m start).toNat := by omega
          simp only [Prog.when, if_pos hsize]
          constructor
          · simp [hbad', hbad]
          · rw [Prog.acts_bind_ok (Prog.result_byte start m), if_pos hbad']
            rfl
        · simp [Prog.when, hsize]

theorem result_walk (hleast : 1 ≤ least) (hbad : ∀ b s, (bad b s).result m = .ok ())
    (hbody : ∀ a, (body a).result m = .ok ()) :
    (walk endless least bad body start size).result m = .ok () :=
  (walkFor_spec hleast (Nat.lt_succ_self size) hbad hbody).1

/-- A walk does its body on the leading records, in order. -/
theorem acts_walk (hleast : 1 ≤ least) (hbad : ∀ b s, (bad b s).result m = .ok ())
    (hbody : ∀ a, (body a).result m = .ok ()) :
    (walk endless least bad body start size).acts m =
      (frames m least start size).flatMap (fun a => (body a).acts m) ++
        (atRest least bad m (start + span m (frames m least start size))
          (size - span m (frames m least start size))).acts m :=
  (walkFor_spec hleast (Nat.lt_succ_self size) hbad hbody).2

theorem acts_walk_tiles {addresses : List Nat} (hleast : 1 ≤ least)
    (hbad : ∀ b s, (bad b s).result m = .ok ()) (hbody : ∀ a, (body a).result m = .ok ())
    (h : Tiles m least start size addresses) :
    (walk endless least bad body start size).acts m =
      addresses.flatMap fun a => (body a).acts m := by
  rw [acts_walk hleast hbad hbody, ← h.eq_frames hleast, h.2, Nat.sub_self, atRest, Prog.when,
    if_neg (by omega), Prog.acts_pure, List.append_nil]

theorem all_walkFor {E : Entry ε → Prop} {fuel : Nat} (hleast : 1 ≤ least)
    (hread : ∀ i, start ≤ i → i < start + size → E (.read i))
    (hbad : ∀ b s, Prog.All E (bad b s) m)
    (hbody : ∀ a ∈ frames m least start size, Prog.All E (body a) m) :
    Prog.All E (walkFor endless least bad body fuel start size) m := by
  induction fuel generalizing start size with
  | zero => simp [walkFor]
  | succ fuel ih =>
      simp only [walkFor, Prog.all_when, Prog.all_bind, Prog.all_byte, Prog.result_byte,
        Except.ok.injEq, forall_eq', Prog.all_ite]
      intro hsize
      refine ⟨hread start (Nat.le_refl start) (by omega), fun _ => hbad _ _, fun hgood => ?_⟩
      have hframe : least ≤ (m start).toNat ∧ (m start).toNat ≤ size := by omega
      rw [frames_eq hleast, if_pos hframe] at hbody
      refine ⟨hbody start (List.mem_cons_self ..), fun _ _ => ih ?_ ?_⟩
      · exact fun i hlo hhi => hread i (by omega) (by omega)
      · exact fun a ha => hbody a (List.mem_cons_of_mem start ha)

theorem all_walk {E : Entry ε → Prop} (hleast : 1 ≤ least)
    (hread : ∀ i, start ≤ i → i < start + size → E (.read i))
    (hbad : ∀ b s, Prog.All E (bad b s) m)
    (hbody : ∀ a ∈ frames m least start size, Prog.All E (body a) m) :
    Prog.All E (walk endless least bad body start size) m :=
  all_walkFor hleast hread hbad hbody

end Walk

end Frames
