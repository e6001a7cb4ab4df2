import Mathlib.Data.List.Cycle
import Mathlib.Logic.Function.Basic

/-! Nodes that are linked in both directions and form rings. A node that is not allocated can
be neither read nor written: such an access is `none`. The rings are Mathlib's cycles. -/
namespace Rings

/-- Which nodes are allocated, their links (`none` is the null pointer), and the nodes that have
been freed, in order. -/
structure Memory (π : Type) where
  live : π → Bool
  next : π → Option π
  prev : π → Option π
  freed : List π

variable {π : Type}

namespace Memory

def readNext (mem : Memory π) (p : π) : Option π := if mem.live p then mem.next p else none

def readPrev (mem : Memory π) (p : π) : Option π := if mem.live p then mem.prev p else none

variable [DecidableEq π] (mem : Memory π) (p q : π)

def setNext : Option (Memory π) :=
  if mem.live p then some { mem with next := Function.update mem.next p (some q) } else none

def setPrev : Option (Memory π) :=
  if mem.live p then some { mem with prev := Function.update mem.prev p (some q) } else none

/-- A new node, with null pointers. -/
def alloc : Memory π where
  live := Function.update mem.live p true
  next := Function.update mem.next p none
  prev := Function.update mem.prev p none
  freed := mem.freed

def free : Option (Memory π) :=
  if mem.live p then
    some { mem with live := Function.update mem.live p false, freed := mem.freed ++ [p] }
  else none

variable {mem p q} {mem' : Memory π}

theorem setNext_keeps (h : mem.setNext p q = some mem') :
    mem'.live = mem.live ∧ mem'.freed = mem.freed := by
  rw [setNext] at h
  split at h
  · obtain rfl := Option.some.inj h
    exact ⟨rfl, rfl⟩
  · cases h

theorem setPrev_keeps (h : mem.setPrev p q = some mem') :
    mem'.live = mem.live ∧ mem'.freed = mem.freed := by
  rw [setPrev] at h
  split at h
  · obtain rfl := Option.some.inj h
    exact ⟨rfl, rfl⟩
  · cases h

theorem free_keeps (h : mem.free p = some mem') :
    mem'.live = Function.update mem.live p false ∧ mem'.freed = mem.freed ++ [p] := by
  rw [free] at h
  split at h
  · obtain rfl := Option.some.inj h
    exact ⟨rfl, rfl⟩
  · cases h

end Memory

def Link (mem : Memory π) (p q : π) : Prop := mem.next p = some q ∧ mem.prev q = some p

structure Ring (mem : Memory π) (l : List π) : Prop where
  chain : Cycle.Chain (Link mem) (l : Cycle π)
  nodup : l.Nodup
  live : ∀ p ∈ l, mem.live p = true

section General

variable {R : π → π → Prop}

theorem chain_coe_iff {l : List π} :
    Cycle.Chain R (l : Cycle π) ↔ l.IsChain R ∧ ∀ x ∈ l.getLast?, ∀ y ∈ l.head?, R x y := by
  cases l with
  | nil => simp
  | cons a l =>
      rw [Cycle.chain_coe_cons, ← List.cons_append, List.isChain_append]
      simp

end General

variable {mem mem' : Memory π}

theorem isChain_of_agree {l : List π} (h : l.IsChain (Link mem))
    (hnext : ∀ p ∈ l.dropLast, mem'.next p = mem.next p)
    (hprev : ∀ p ∈ l.tail, mem'.prev p = mem.prev p) : l.IsChain (Link mem') := by
  induction l with
  | nil => exact .nil
  | cons a l ih =>
      cases l with
      | nil => exact .singleton a
      | cons b l =>
          obtain ⟨⟨hab, hba⟩, hrest⟩ := List.isChain_cons_cons.mp h
          rw [List.dropLast_cons_cons] at hnext
          obtain ⟨hnextA, hnextRest⟩ := List.forall_mem_cons.mp hnext
          obtain ⟨hprevB, hprevRest⟩ := List.forall_mem_cons.mp hprev
          exact List.isChain_cons_cons.mpr
            ⟨⟨hnextA.trans hab, hprevB.trans hba⟩, ih hrest hnextRest hprevRest⟩

theorem Ring.of_agree {l : List π} (h : Ring mem l)
    (hagree : ∀ p ∈ l, mem'.next p = mem.next p ∧ mem'.prev p = mem.prev p ∧
      mem'.live p = mem.live p) : Ring mem' l := by
  obtain ⟨hchain, hnodup, hlive⟩ := h
  obtain ⟨hsegment, hclosed⟩ := chain_coe_iff.mp hchain
  refine ⟨chain_coe_iff.mpr ⟨?_, fun x hx y hy => ?_⟩, hnodup, fun p hp => ?_⟩
  · exact isChain_of_agree hsegment (fun p hp => (hagree p (List.mem_of_mem_dropLast hp)).1)
      fun p hp => (hagree p (List.mem_of_mem_tail hp)).2.1
  · obtain ⟨hxy, hyx⟩ := hclosed x hx y hy
    exact ⟨(hagree x (List.mem_of_getLast? hx)).1.trans hxy,
      (hagree y (List.mem_of_mem_head? hy)).2.1.trans hyx⟩
  · exact (hagree p hp).2.2.trans (hlive p hp)

theorem Ring.closed {x y : π} {l : List π} (h : Ring mem l) (hx : l.getLast? = some x)
    (hy : l.head? = some y) : mem.next x = some y ∧ mem.prev y = some x :=
  (chain_coe_iff.mp h.chain).2 x hx y hy

theorem isChain_of_inner {l : List π} (h : l.IsChain (Link mem)) (hnodup : l.Nodup)
    (hnext : ∀ p ∈ l, l.getLast? ≠ some p → mem'.next p = mem.next p)
    (hprev : ∀ p ∈ l, l.head? ≠ some p → mem'.prev p = mem.prev p) : l.IsChain (Link mem') := by
  refine isChain_of_agree h (fun p hp => hnext p (List.mem_of_mem_dropLast hp) fun hlast => ?_)
    fun p hp => hprev p (List.mem_of_mem_tail hp) fun hfirst => ?_
  · obtain ⟨init, rfl⟩ := List.getLast?_eq_some_iff.mp hlast
    rw [List.dropLast_concat] at hp
    exact List.disjoint_of_nodup_append hnodup hp (List.mem_singleton_self p)
  · obtain ⟨rest, rfl⟩ := List.head?_eq_some_iff.mp hfirst
    exact (List.nodup_cons.mp hnodup).1 hp

/-- A segment is made a ring: only the link out of its last node and the one back from its first
are new. -/
theorem Ring.close {l : List π} {x y : π} (h : l.IsChain (Link mem)) (hnodup : l.Nodup)
    (hx : l.getLast? = some x) (hy : l.head? = some y) (hlink : Link mem' x y)
    (hnext : ∀ p ∈ l, p ≠ x → mem'.next p = mem.next p)
    (hprev : ∀ p ∈ l, p ≠ y → mem'.prev p = mem.prev p)
    (hlive : ∀ p ∈ l, mem'.live p = true) : Ring mem' l := by
  refine ⟨chain_coe_iff.mpr ⟨?_, fun x' hx' y' hy' => ?_⟩, hnodup, hlive⟩
  · refine isChain_of_inner h hnodup (fun p hp hlast => hnext p hp ?_)
      fun p hp hfirst => hprev p hp ?_
    · rintro rfl
      exact hlast hx
    · rintro rfl
      exact hfirst hy
  · obtain rfl : x = x' := Option.some.inj (hx.symm.trans hx')
    obtain rfl : y = y' := Option.some.inj (hy.symm.trans hy')
    exact hlink

/-- Two segments are made one ring: the last node of each leads to the first of the other. -/
theorem Ring.join {l₁ l₂ : List π} {x₁ y₁ x₂ y₂ : π} (h₁ : l₁.IsChain (Link mem))
    (h₂ : l₂.IsChain (Link mem)) (hnodup : (l₁ ++ l₂).Nodup)
    (hx₁ : l₁.getLast? = some x₁) (hy₁ : l₁.head? = some y₁)
    (hx₂ : l₂.getLast? = some x₂) (hy₂ : l₂.head? = some y₂)
    (hlink₁ : Link mem' x₁ y₂) (hlink₂ : Link mem' x₂ y₁)
    (hnext : ∀ p ∈ l₁ ++ l₂, p ≠ x₁ → p ≠ x₂ → mem'.next p = mem.next p)
    (hprev : ∀ p ∈ l₁ ++ l₂, p ≠ y₁ → p ≠ y₂ → mem'.prev p = mem.prev p)
    (hlive : ∀ p ∈ l₁ ++ l₂, mem'.live p = true) : Ring mem' (l₁ ++ l₂) := by
  obtain ⟨hnodup₁, hnodup₂, hdisjoint⟩ := List.nodup_append'.mp hnodup
  have hne : ∀ {p q : π}, p ∈ l₁ → q ∈ l₂ → p ≠ q := by
    rintro p _ hp hq rfl
    exact hdisjoint hp hq
  have hchain₁ : l₁.IsChain (Link mem') := by
    refine isChain_of_inner h₁ hnodup₁ (fun p hp hlast => ?_) fun p hp hfirst => ?_
    · refine hnext p (List.mem_append_left _ hp) ?_ (hne hp (List.mem_of_getLast? hx₂))
      rintro rfl
      exact hlast hx₁
    · refine hprev p (List.mem_append_left _ hp) ?_ (hne hp (List.mem_of_mem_head? hy₂))
      rintro rfl
      exact hfirst hy₁
  have hchain₂ : l₂.IsChain (Link mem') := by
    refine isChain_of_inner h₂ hnodup₂ (fun p hp hlast => ?_) fun p hp hfirst => ?_
    · refine hnext p (List.mem_append_right _ hp) (hne (List.mem_of_getLast? hx₁) hp).symm ?_
      rintro rfl
      exact hlast hx₂
    · refine hprev p (List.mem_append_right _ hp) (hne (List.mem_of_mem_head? hy₁) hp).symm ?_
      rintro rfl
      exact hfirst hy₂
  have hsegment : (l₁ ++ l₂).IsChain (Link mem') := by
    refine List.isChain_append.mpr ⟨hchain₁, hchain₂, fun x hx y hy => ?_⟩
    obtain rfl : x₁ = x := Option.some.inj (hx₁.symm.trans hx)
    obtain rfl : y₂ = y := Option.some.inj (hy₂.symm.trans hy)
    exact hlink₁
  refine @Ring.close _ mem' mem' _ x₂ y₁ hsegment hnodup ?_ ?_ hlink₂ (fun _ _ _ => rfl)
    (fun _ _ _ => rfl) hlive
  · rw [List.getLast?_append, hx₂, Option.some_or]
  · rw [List.head?_append, hy₁, Option.some_or]

theorem Ring.of_isRotated {l₁ l₂ : List π} (h : Ring mem l₁) (hrotated : l₁ ~r l₂) :
    Ring mem l₂ where
  chain := Cycle.coe_eq_coe.mpr hrotated ▸ h.chain
  nodup := hrotated.nodup_iff.mp h.nodup
  live := fun p hp => h.live p (hrotated.mem_iff.mpr hp)

theorem Ring.rotate {l₁ l₂ : List π} (h : Ring mem (l₁ ++ l₂)) : Ring mem (l₂ ++ l₁) :=
  h.of_isRotated List.isRotated_append

theorem Ring.segment {l : List π} (h : Ring mem l) : l.IsChain (Link mem) :=
  (chain_coe_iff.mp h.chain).1

structure Frame (mem mem' : Memory π) (touched : List π) : Prop where
  live : mem'.live = mem.live
  freed : mem'.freed = mem.freed
  next : ∀ p, p ∉ touched → mem'.next p = mem.next p
  prev : ∀ p, p ∉ touched → mem'.prev p = mem.prev p

theorem Frame.mono {touched touched' : List π} (h : Frame mem mem' touched)
    (hsubset : touched ⊆ touched') : Frame mem mem' touched' where
  live := h.live
  freed := h.freed
  next := fun p hp => h.next p fun hmem => hp (hsubset hmem)
  prev := fun p hp => h.prev p fun hmem => hp (hsubset hmem)

theorem Frame.trans {mem'' : Memory π} {touched : List π} (h : Frame mem mem' touched)
    (h' : Frame mem' mem'' touched) : Frame mem mem'' touched where
  live := h'.live.trans h.live
  freed := h'.freed.trans h.freed
  next := fun p hp => (h'.next p hp).trans (h.next p hp)
  prev := fun p hp => (h'.prev p hp).trans (h.prev p hp)

theorem Ring.of_frame {l touched : List π} (h : Ring mem l)
    (hframe : Frame mem mem' touched) (hdisjoint : ∀ p ∈ l, p ∉ touched) : Ring mem' l :=
  h.of_agree fun p hp => ⟨hframe.next p (hdisjoint p hp), hframe.prev p (hdisjoint p hp),
    congrFun hframe.live p⟩

theorem exists_head (l : List π) (p : π) : ∃ y, (l ++ [p]).head? = some y ∧ y ∈ l ++ [p] := by
  cases l with
  | nil => exact ⟨p, rfl, by simp⟩
  | cons y l => exact ⟨y, rfl, by simp⟩

theorem exists_last (p : π) (l : List π) : ∃ x, (p :: l).getLast? = some x ∧ x ∈ p :: l := by
  have hlast := List.getLast?_eq_some_getLast (List.cons_ne_nil p l)
  exact ⟨_, hlast, List.mem_of_getLast? hlast⟩

theorem Ring.nodup_concat {n : π} {l : List π} (h : Ring mem l) (hn : n ∉ l) : (l ++ [n]).Nodup := by
  refine List.nodup_append'.mpr ⟨h.nodup, List.nodup_singleton n, fun q hq hqn => ?_⟩
  exact hn (List.mem_singleton.mp hqn ▸ hq)

theorem Ring.live_concat {n : π} {l : List π} (h : Ring mem l) (hn : mem.live n = true) :
    ∀ q ∈ l ++ [n], mem.live q = true := by
  intro q hq
  rcases List.mem_append.mp hq with hq | hq
  · exact h.live q hq
  · exact List.mem_singleton.mp hq ▸ hn

theorem Ring.neighbours {n : π} {l : List π} (h : Ring mem (n :: l)) (hne : l ≠ []) :
    ∃ x y, l.getLast? = some x ∧ l.head? = some y ∧ x ∈ l ∧ y ∈ l ∧
      mem.prev n = some x ∧ mem.next n = some y := by
  obtain ⟨y, rest, rfl⟩ := List.exists_cons_of_ne_nil hne
  obtain ⟨x, hx, hmem⟩ := exists_last y rest
  have hrotated : Ring mem (y :: rest ++ [n]) := Ring.rotate h
  have hlast : (n :: y :: rest).getLast? = some x := by rw [List.getLast?_cons_cons, hx]
  exact ⟨x, y, hx, rfl, hmem, by simp, (h.closed hlast rfl).2,
    (hrotated.closed List.getLast?_concat rfl).1⟩

theorem Ring.readNext {h : π} {l : List π} (hring : Ring mem (h :: l)) :
    mem.readNext h = (l ++ [h]).head? := by
  obtain ⟨y, hy, -⟩ := exists_head l h
  have hrotated : Ring mem (l ++ [h]) := Ring.rotate hring
  rw [Memory.readNext, if_pos (hring.live h (by simp)),
    (hrotated.closed List.getLast?_concat hy).1, hy]

theorem Ring.readPrev {h : π} {l : List π} (hring : Ring mem (h :: l)) :
    mem.readPrev h = (h :: l).getLast? := by
  obtain ⟨x, hx, -⟩ := exists_last h l
  rw [Memory.readPrev, if_pos (hring.live h (by simp)), (hring.closed hx rfl).2, hx]

section Changes

variable [DecidableEq π] (mem) (x y n : π)

def Memory.insert : Memory π where
  live := mem.live
  next := Function.update (Function.update mem.next n (some y)) x (some n)
  prev := Function.update (Function.update mem.prev n (some x)) y (some n)
  freed := mem.freed

def Memory.bridge : Memory π where
  live := mem.live
  next := Function.update mem.next x (some y)
  prev := Function.update mem.prev y (some x)
  freed := mem.freed

variable {mem x y n}

theorem frame_insert : Frame mem (mem.insert x y n) [x, y, n] := by
  refine ⟨rfl, rfl, fun p hp => ?_, fun p hp => ?_⟩
  all_goals
    simp only [List.mem_cons, List.not_mem_nil, or_false, not_or] at hp
    simp [Memory.insert, hp]

theorem frame_bridge : Frame mem (mem.bridge x y) [x, y] := by
  refine ⟨rfl, rfl, fun p hp => ?_, fun p hp => ?_⟩
  all_goals
    simp only [List.mem_cons, List.not_mem_nil, or_false, not_or] at hp
    simp [Memory.bridge, hp]

/-- A node comes between the last node of a segment and the first, and closes the ring. -/
theorem Ring.insert {l : List π} (h : l.IsChain (Link mem)) (hnodup : (l ++ [n]).Nodup)
    (hlive : ∀ p ∈ l ++ [n], mem.live p = true) (hx : l.getLast? = some x)
    (hy : l.head? = some y) : Ring (mem.insert x y n) (l ++ [n]) := by
  have hn : n ∉ l := fun hmem =>
    List.disjoint_of_nodup_append hnodup hmem (List.mem_singleton_self n)
  have hxn : n ≠ x := fun heq => hn (heq ▸ List.mem_of_getLast? hx)
  have hyn : n ≠ y := fun heq => hn (heq ▸ List.mem_of_mem_head? hy)
  refine Ring.join h (.singleton n) hnodup hx hy rfl rfl ?_ ?_
    (fun p hp hpx (hpn : p ≠ n) => ?_) (fun p hp hpy (hpn : p ≠ n) => ?_) hlive
  · exact ⟨by simp [Memory.insert], by simp [Memory.insert, hyn]⟩
  · exact ⟨by simp [Memory.insert, hxn], by simp [Memory.insert]⟩
  · simp [Memory.insert, hpx, hpn]
  · simp [Memory.insert, hpy, hpn]

theorem Ring.remove {l : List π} (h : Ring mem (n :: l)) (hx : l.getLast? = some x)
    (hy : l.head? = some y) : Ring (mem.bridge x y) l := by
  refine Ring.close h.segment.of_cons (List.nodup_cons.mp h.nodup).2 hx hy ?_
    (fun p _ hp => ?_) (fun p _ hp => ?_) fun p hp => h.live p (List.mem_cons_of_mem n hp)
  · exact ⟨by simp [Memory.bridge], by simp [Memory.bridge]⟩
  · simp [Memory.bridge, hp]
  · simp [Memory.bridge, hp]

theorem Ring.merge {l₁ l₂ : List π} {x₁ y₁ x₂ y₂ : π} (h₁ : Ring mem l₁)
    (h₂ : Ring mem l₂) (hdisjoint : l₁.Disjoint l₂)
    (hx₁ : l₁.getLast? = some x₁) (hy₁ : l₁.head? = some y₁)
    (hx₂ : l₂.getLast? = some x₂) (hy₂ : l₂.head? = some y₂) :
    Ring ((mem.bridge x₁ y₂).bridge x₂ y₁) (l₁ ++ l₂) := by
  have hne : x₁ ≠ x₂ := by
    rintro rfl
    exact hdisjoint (List.mem_of_getLast? hx₁) (List.mem_of_getLast? hx₂)
  have hne' : y₂ ≠ y₁ := by
    rintro rfl
    exact hdisjoint (List.mem_of_mem_head? hy₁) (List.mem_of_mem_head? hy₂)
  refine Ring.join h₁.segment h₂.segment (List.nodup_append'.mpr ⟨h₁.nodup, h₂.nodup, hdisjoint⟩)
    hx₁ hy₁ hx₂ hy₂ ?_ ?_ (fun p _ hp₁ hp₂ => ?_) (fun p _ hp₁ hp₂ => ?_) fun p hp => ?_
  · exact ⟨by simp [Memory.bridge, hne], by simp [Memory.bridge, hne']⟩
  · exact ⟨by simp [Memory.bridge], by simp [Memory.bridge]⟩
  · simp [Memory.bridge, hp₁, hp₂]
  · simp [Memory.bridge, hp₁, hp₂]
  · exact (List.mem_append.mp hp).elim (h₁.live p) (h₂.live p)

end Changes

end Rings
