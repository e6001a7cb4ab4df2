import Mathlib.Data.List.Nodup
import Mathlib.Logic.Function.Basic

/-! Nodes of singly linked lists that are allocated and freed. An access to a node that is not
allocated is `none`, so an operation with a result never makes one. -/
namespace Nodes

structure Node (π α : Type) where
  next : Option π
  data : α

/-- The nodes that are allocated, and the pointers that have been freed, in order. -/
structure Heap (π α : Type) where
  node : π → Option (Node π α)
  freed : List π

variable {π α : Type}

def Heap.read (heap : Heap π α) (p : π) : Option (Node π α) := heap.node p

section Operations

variable [DecidableEq π]

def Heap.setNext (heap : Heap π α) (p : π) (next : Option π) : Option (Heap π α) :=
  (heap.node p).map fun node =>
    { heap with node := Function.update heap.node p (some { node with next }) }

def Heap.free (heap : Heap π α) (p : π) : Option (Heap π α) :=
  (heap.node p).map fun _ =>
    ⟨Function.update heap.node p none, heap.freed ++ [p]⟩

end Operations

/-- From the pointer on, the links lead through these nodes to where they stop. -/
def Segment (heap : Heap π α) : Option π → List (π × α) → Option π → Prop
  | start, [], stop => start = stop
  | start, (p, a) :: rest, stop =>
      start = some p ∧ ∃ next, heap.node p = some ⟨next, a⟩ ∧ Segment heap next rest stop

section Segments

variable {heap heap' : Heap π α} {start stop : Option π} {nodes front back : List (π × α)}

@[simp] theorem segment_nil : Segment heap start [] stop ↔ start = stop := Iff.rfl

theorem segment_append : Segment heap start (front ++ back) stop ↔
    ∃ middle, Segment heap start front middle ∧ Segment heap middle back stop := by
  induction front generalizing start with
  | nil => simp
  | cons entry front ih =>
      obtain ⟨p, a⟩ := entry
      simp only [List.cons_append, Segment, ih]
      constructor
      · rintro ⟨hstart, next, hnode, middle, hfront, hback⟩
        exact ⟨middle, ⟨hstart, next, hnode, hfront⟩, hback⟩
      · rintro ⟨middle, ⟨hstart, next, hnode, hfront⟩, hback⟩
        exact ⟨hstart, next, hnode, middle, hfront, hback⟩

/-- Only the nodes of a segment matter. -/
theorem Segment.of_agree (h : Segment heap start nodes stop)
    (hagree : ∀ p ∈ nodes.map Prod.fst, heap'.node p = heap.node p) :
    Segment heap' start nodes stop := by
  induction nodes generalizing start with
  | nil => exact h
  | cons entry nodes ih =>
      obtain ⟨p, a⟩ := entry
      obtain ⟨hp, hnodes⟩ := List.forall_mem_cons.mp hagree
      obtain ⟨hstart, next, hnode, hrest⟩ := h
      exact ⟨hstart, next, hp.trans hnode, ih hrest hnodes⟩

theorem Segment.unique {nodes' : List (π × α)} (h : Segment heap start nodes none)
    (h' : Segment heap start nodes' none) : nodes = nodes' := by
  induction nodes generalizing start nodes' with
  | nil =>
      obtain rfl : start = none := h
      cases nodes' with
      | nil => rfl
      | cons entry nodes' => cases h'.1
  | cons entry nodes ih =>
      obtain ⟨p, a⟩ := entry
      obtain ⟨rfl, next, hnode, hrest⟩ := h
      cases nodes' with
      | nil => cases h'
      | cons entry' nodes' =>
          obtain ⟨p', a'⟩ := entry'
          obtain ⟨hp, next', hnode', hrest'⟩ := h'
          obtain rfl := Option.some.inj hp
          obtain ⟨rfl, rfl⟩ : next = next' ∧ a = a' := by
            simpa using hnode.symm.trans hnode'
          rw [ih hrest hrest']

theorem Segment.nodup (h : Segment heap start nodes none) : (nodes.map Prod.fst).Nodup := by
  induction nodes generalizing start with
  | nil => exact List.nodup_nil
  | cons entry nodes ih =>
      obtain ⟨p, a⟩ := entry
      have hwhole := h
      obtain ⟨hstart, next, hnode, hrest⟩ := h
      refine List.nodup_cons.mpr ⟨fun hp => ?_, ih hrest⟩
      obtain ⟨⟨q, b⟩, hentry, rfl⟩ := List.mem_map.mp hp
      obtain ⟨front, back, rfl⟩ := List.append_of_mem hentry
      obtain ⟨middle, -, hback⟩ := segment_append.mp hrest
      have hagain : Segment heap start ((q, b) :: back) none := by
        rw [hstart, ← hback.1]
        exact hback
      have hlength := congrArg List.length (hagain.unique hwhole)
      simp at hlength
      omega

variable [DecidableEq π] {p q : π}

theorem Heap.setNext_of_node {next next' : Option π} {a : α} (h : heap.node p = some ⟨next, a⟩) :
    heap.setNext p next' =
      some { heap with node := Function.update heap.node p (some ⟨next', a⟩) } := by
  rw [Heap.setNext, h]
  rfl

theorem Heap.free_of_node {node : Node π α} (h : heap.node p = some node) :
    heap.free p = some ⟨Function.update heap.node p none, heap.freed ++ [p]⟩ := by
  rw [Heap.free, h]
  rfl

theorem Segment.setNext_last {b : α} (h : Segment heap start (front ++ [(q, b)]) stop)
    (hnodup : ((front ++ [(q, b)]).map Prod.fst).Nodup) (stop' : Option π) :
    ∃ heap', heap.setNext q stop' = some heap' ∧
      Segment heap' start (front ++ [(q, b)]) stop' ∧ heap'.freed = heap.freed ∧
      ∀ p, p ≠ q → heap'.node p = heap.node p := by
  obtain ⟨middle, hfront, hmiddle, next, hnode, -⟩ := segment_append.mp h
  have hother : ∀ p, p ≠ q →
      Function.update heap.node q (some ⟨stop', b⟩) p = heap.node p :=
    fun p hp => Function.update_of_ne hp _ _
  refine ⟨_, Heap.setNext_of_node hnode, segment_append.mpr ⟨middle, ?_, hmiddle, stop', ?_, rfl⟩,
    rfl, hother⟩
  · refine hfront.of_agree fun p hp => hother p ?_
    rintro rfl
    rw [List.map_append] at hnodup
    exact List.disjoint_of_nodup_append hnodup hp (by simp)
  · exact Function.update_self ..

end Segments

end Nodes
