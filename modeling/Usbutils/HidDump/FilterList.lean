import Mathlib.Data.Option.Basic
import Mathlib.Data.List.Induction
import Usbutils.Lib.Heap
import Usbutils.HidDump.IfaceList

/-! `uhd_iface_list_fltr_by_num` of `iface_list.c` on the nodes themselves: a node that does not
have the number is unlinked through the one before it, and freed. -/
namespace Usbutils
open Nodes

/-- `uhd_iface_valid`; the device and the address string are set when a node is made. -/
def uhdIfaceValid (iface : UhdIface) : Bool := iface.number < 255

abbrev IfaceHeap (π : Type) := Heap π UhdIface

section FilterList

variable {π : Type}

/-- `none` where a node is not allocated, or the list does not end. -/
def IfaceHeap.uhdIfaceListValid (heap : IfaceHeap π) : Option π → Option Bool
  | none => some true
  | some list => do
      let node ← heap.read list
      if uhdIfaceValid node.data then heap |>.uhdIfaceListValid node.next else return false
partial_fixpoint

variable [DecidableEq π]

def uhdIfaceFree (heap : IfaceHeap π) (iface : π) : Option (IfaceHeap π) := do
  let node ← heap.read iface
  guard (uhdIfaceValid node.data)
  heap.free iface

def IfaceHeap.fltrNodes (number : Nat) (heap : IfaceHeap π) (list prev iface : Option π) :
    Option (IfaceHeap π × Option π) :=
  match iface with
  | none => some (heap, list)
  | some iface => do
      let node ← heap.read iface
      if node.data.number = number then heap |>.fltrNodes number list (some iface) node.next
      else
        match prev with
        | none => do
            let heap ← uhdIfaceFree heap iface
            heap |>.fltrNodes number node.next none node.next
        | some prev => do
            let heap ← heap.setNext prev node.next
            let heap ← uhdIfaceFree heap iface
            heap |>.fltrNodes number list (some prev) node.next
partial_fixpoint

def uhdIfaceListFltrNodes (heap : IfaceHeap π) (list : Option π) (number : Nat) :
    Option (IfaceHeap π × Option π) := do
  guard (← heap.uhdIfaceListValid list)
  guard (number < 255)
  heap.fltrNodes number list none list

/-- What the filter does: the nodes with the number are the list now, all others have been freed
once, and nothing else has changed. -/
structure Filtered (number : Nat) (nodes : List (π × UhdIface)) (heap heap' : IfaceHeap π)
    (list' : Option π) : Prop where
  list : Segment heap' list' (nodes.filter (·.2.number = number)) none
  freed : heap'.freed = heap.freed ++ (nodes.filter (·.2.number ≠ number)).map Prod.fst
  once : ((nodes.filter (·.2.number ≠ number)).map Prod.fst).Nodup
  gone : ∀ entry ∈ nodes, entry.2.number ≠ number → heap'.node entry.1 = none
  frame : ∀ p, p ∉ nodes.map Prod.fst → heap'.node p = heap.node p

/-- The loop in the middle: the kept nodes lead to the current one, the last of them is the
previous one, and the rest of the list is behind it. -/
structure Between (heap : IfaceHeap π) (list prev iface : Option π)
    (kept rest : List (π × UhdIface)) : Prop where
  front : Segment heap list kept iface
  last : prev = kept.getLast?.map Prod.fst
  back : Segment heap iface rest none
  distinct : ((kept ++ rest).map Prod.fst).Nodup

omit [DecidableEq π] in
theorem uhdIfaceListValid_segment {heap : IfaceHeap π} {list : Option π}
    {nodes : List (π × UhdIface)} (h : Segment heap list nodes none)
    (hvalid : ∀ entry ∈ nodes, uhdIfaceValid entry.2 = true) :
    heap.uhdIfaceListValid list = some true := by
  induction nodes generalizing list with
  | nil =>
      obtain rfl : list = none := h
      rw [IfaceHeap.uhdIfaceListValid]
  | cons entry nodes ih =>
      obtain ⟨p, a⟩ := entry
      obtain ⟨rfl, next, hnode, hrest⟩ := h
      obtain ⟨hp, hnodes⟩ := List.forall_mem_cons.mp hvalid
      rw [IfaceHeap.uhdIfaceListValid, Heap.read, hnode]
      simp only [Option.bind_eq_bind, Option.bind_some, hp, if_true]
      exact ih hrest hnodes

theorem uhdIfaceFree_node {heap : IfaceHeap π} {p : π} {node : Node π UhdIface}
    (h : heap.node p = some node) (hvalid : uhdIfaceValid node.data = true) :
    uhdIfaceFree heap p = some ⟨Function.update heap.node p none, heap.freed ++ [p]⟩ := by
  rw [uhdIfaceFree, Heap.read, h]
  simp [hvalid, guard, Heap.free_of_node h]

variable {number : Nat} {heap : IfaceHeap π} {list prev iface : Option π}
  {kept rest : List (π × UhdIface)} {p : π} {a : UhdIface}

omit [DecidableEq π] in
theorem Between.current_not_mem (h : Between heap list prev iface kept ((p, a) :: rest)) :
    p ∉ (kept ++ rest).map Prod.fst ∧ ((kept ++ rest).map Prod.fst).Nodup := by
  have hdistinct := h.distinct
  rw [List.map_append, List.map_cons, List.nodup_middle, ← List.map_append] at hdistinct
  exact List.nodup_cons.mp hdistinct

theorem fltrNodes_keep (h : Between heap list prev iface kept ((p, a) :: rest))
    (hnumber : a.number = number) :
    ∃ next, heap.fltrNodes number list prev iface = heap.fltrNodes number list (some p) next ∧
      Between heap list (some p) next (kept ++ [(p, a)]) rest := by
  obtain ⟨hfront, hlast, ⟨rfl, next, hnode, hback⟩, hdistinct⟩ := h
  refine ⟨next, ?_, ?_, ?_, hback, ?_⟩
  · rw [IfaceHeap.fltrNodes, Heap.read, hnode]
    simp only [Option.bind_eq_bind, Option.bind_some, hnumber, if_true]
  · exact segment_append.mpr ⟨some p, hfront, rfl, next, hnode, rfl⟩
  · simp
  · rwa [List.append_assoc]

/-- Before the first kept node the head of the list moves on, behind it the link of the previous
one does; either way the kept nodes lead to the next one. -/
theorem fltrNodes_remove (h : Between heap list prev iface kept ((p, a) :: rest))
    (hvalid : uhdIfaceValid a = true) (hnumber : a.number ≠ number) :
    ∃ heap' list' next, heap.fltrNodes number list prev iface =
        heap'.fltrNodes number list' prev next ∧
      Between heap' list' prev next kept rest ∧ heap'.freed = heap.freed ++ [p] ∧
      heap'.node p = none ∧
      ∀ q, q ∉ (kept ++ (p, a) :: rest).map Prod.fst → heap'.node q = heap.node q := by
  obtain ⟨hcurrent, hdistinct⟩ := h.current_not_mem
  obtain ⟨hfront, rfl, ⟨rfl, next, hnode, hback⟩, -⟩ := h
  have hother {heap : IfaceHeap π} {q : π} (hq : q ∈ (kept ++ rest).map Prod.fst) :
      Function.update heap.node p none q = heap.node q :=
    Function.update_of_ne (ne_of_mem_of_not_mem hq hcurrent) _ _
  have hmem {q : π} : q ∈ (kept ++ (p, a) :: rest).map Prod.fst ↔
      q = p ∨ q ∈ (kept ++ rest).map Prod.fst := by
    simp only [List.map_append, List.map_cons, List.mem_append, List.mem_cons]
    tauto
  cases kept using List.reverseRecOn with
  | nil =>
      refine ⟨⟨Function.update heap.node p none, heap.freed ++ [p]⟩, next, next, ?_,
        ⟨rfl, rfl, ?_, hdistinct⟩, rfl, Function.update_self .., ?_⟩
      · rw [IfaceHeap.fltrNodes, Heap.read, hnode]
        simp [hnumber, uhdIfaceFree_node hnode hvalid]
      · exact hback.of_agree fun q hq => hother hq
      · exact fun q hq => Function.update_of_ne (fun h => hq (hmem.mpr (Or.inl h))) _ _
  | append_singleton kept entry =>
      obtain ⟨q, b⟩ := entry
      have hq : q ∈ ((kept ++ [(q, b)]) ++ rest).map Prod.fst := by simp
      have hne : p ≠ q := ne_of_mem_of_not_mem hq hcurrent |>.symm
      have hkept : ((kept ++ [(q, b)]).map Prod.fst).Nodup := by
        rw [List.map_append] at hdistinct
        exact hdistinct.of_append_left
      obtain ⟨heap₁, hset, hfront₁, hfreed, hsame⟩ := hfront.setNext_last hkept next
      have hnode₁ : heap₁.node p = some ⟨next, a⟩ := (hsame p hne).trans hnode
      refine ⟨⟨Function.update heap₁.node p none, heap₁.freed ++ [p]⟩, list, next, ?_,
        ⟨?_, rfl, ?_, hdistinct⟩, by rw [hfreed], Function.update_self .., ?_⟩
      · rw [IfaceHeap.fltrNodes, Heap.read, hnode]
        simp [hnumber, hset, uhdIfaceFree_node hnode₁ hvalid]
      · refine hfront₁.of_agree fun r hr => hother ?_
        rw [List.map_append]
        exact List.mem_append_left _ hr
      · refine hback.of_agree fun r hr => ?_
        have hr' : r ∈ ((kept ++ [(q, b)]) ++ rest).map Prod.fst := by
          rw [List.map_append]
          exact List.mem_append_right _ hr
        have hrq : r ≠ q := by
          rintro rfl
          rw [List.map_append] at hdistinct
          exact List.disjoint_of_nodup_append hdistinct (by simp) hr
        exact (hother hr').trans (hsame r hrq)
      · intro r hr
        rw [hmem, not_or] at hr
        have hrq : r ≠ q := fun h => hr.2 (h ▸ hq)
        exact (Function.update_of_ne hr.1 _ _).trans (hsame r hrq)

theorem fltrNodes_run (h : Between heap list prev iface kept rest)
    (hvalid : ∀ entry ∈ rest, uhdIfaceValid entry.2 = true) :
    ∃ heap' list', heap.fltrNodes number list prev iface = some (heap', list') ∧
      Segment heap' list' (kept ++ rest.filter (·.2.number = number)) none ∧
      heap'.freed = heap.freed ++ (rest.filter (·.2.number ≠ number)).map Prod.fst ∧
      (∀ entry ∈ rest, entry.2.number ≠ number → heap'.node entry.1 = none) ∧
      ∀ q, q ∉ (kept ++ rest).map Prod.fst → heap'.node q = heap.node q := by
  induction rest generalizing heap list prev iface kept with
  | nil =>
      obtain rfl : iface = none := h.back
      refine ⟨heap, list, by rw [IfaceHeap.fltrNodes], ?_, ?_, nofun, fun q _ => rfl⟩
      · simpa using h.front
      · simp
  | cons entry rest ih =>
      obtain ⟨p, a⟩ := entry
      obtain ⟨ha, hrest⟩ := List.forall_mem_cons.mp hvalid
      by_cases hnumber : a.number = number
      · obtain ⟨next, hstep, hbetween⟩ := fltrNodes_keep h hnumber
        obtain ⟨heap', list', hrun, hlist, hfreed, hgone, hframe⟩ := ih hbetween hrest
        refine ⟨heap', list', hstep.trans hrun, ?_, ?_, ?_, ?_⟩
        · rw [List.filter_cons_of_pos (by simpa using hnumber)]
          rwa [List.append_assoc] at hlist
        · rw [List.filter_cons_of_neg (by simpa using hnumber), hfreed]
        · exact List.forall_mem_cons.mpr ⟨fun hne => absurd hnumber hne, hgone⟩
        · rwa [List.append_assoc] at hframe
      · obtain ⟨heap₁, list₁, next, hstep, hbetween, hfreed₁, hp, hsame⟩ :=
          fltrNodes_remove h ha hnumber
        obtain ⟨heap', list', hrun, hlist, hfreed, hgone, hframe⟩ := ih hbetween hrest
        have hcurrent := h.current_not_mem.1
        refine ⟨heap', list', hstep.trans hrun, ?_, ?_, ?_, ?_⟩
        · rwa [List.filter_cons_of_neg (by simpa using hnumber)]
        · rw [List.filter_cons_of_pos (by simpa using hnumber), hfreed, hfreed₁]
          simp
        · exact List.forall_mem_cons.mpr ⟨fun _ => (hframe p hcurrent).trans hp, hgone⟩
        · intro q hq
          refine (hframe q fun hmem => hq ?_).trans (hsame q hq)
          simp only [List.map_append, List.map_cons, List.mem_append, List.mem_cons] at hmem ⊢
          tauto

/-- The filter keeps the nodes with the number in their order, with nothing changed but their
links, frees every other node once, and makes no access to a node that is freed. -/
theorem uhdIfaceListFltrNodes_filtered {heap : IfaceHeap π} {list : Option π}
    {nodes : List (π × UhdIface)} (hlist : Segment heap list nodes none)
    (hvalid : ∀ entry ∈ nodes, uhdIfaceValid entry.2 = true) {number : Nat}
    (hnumber : number < 255) :
    ∃ heap' list', uhdIfaceListFltrNodes heap list number = some (heap', list') ∧
      Filtered number nodes heap heap' list' ∧
      (nodes.filter (·.2.number = number)).map Prod.snd =
        uhdIfaceListFltrByNum (nodes.map Prod.snd) number := by
  have hnodup := hlist.nodup
  have hstart : Between heap list none list [] nodes := ⟨rfl, rfl, hlist, by simpa using hnodup⟩
  obtain ⟨heap', list', hrun, hfiltered, hfreed, hgone, hframe⟩ :=
    @fltrNodes_run _ _ number _ _ _ _ _ _ hstart hvalid
  refine ⟨heap', list', ?_,
    ⟨by simpa using hfiltered, hfreed, ?_, hgone, by simpa using hframe⟩, ?_⟩
  · rw [uhdIfaceListFltrNodes, uhdIfaceListValid_segment hlist hvalid]
    simp [guard, hnumber, hrun]
  · exact hnodup.sublist (List.filter_sublist.map _)
  · rw [uhdIfaceListFltrByNum_eq, List.filter_map]
    rfl

end FilterList

def ifaceWith (pointer number : Nat) : UhdIface :=
  { pointer, dev := 0, number, intInEpAddr := 0x81, intInEpMaxp := 8, rdLen := 64 }

def threeNodes : IfaceHeap Nat where
  node p := [⟨some 1, ifaceWith 0 2⟩, ⟨some 2, ifaceWith 1 0⟩, ⟨none, ifaceWith 2 2⟩][p]?
  freed := []

theorem uhdIfaceListFltrNodes_three :
    ∃ heap' list', uhdIfaceListFltrNodes threeNodes (some 0) 0 = some (heap', list') ∧
      Filtered 0 [(0, ifaceWith 0 2), (1, ifaceWith 1 0), (2, ifaceWith 2 2)] threeNodes heap'
        list' ∧
      [ifaceWith 1 0] = uhdIfaceListFltrByNum [ifaceWith 0 2, ifaceWith 1 0, ifaceWith 2 2] 0 :=
  @uhdIfaceListFltrNodes_filtered Nat _ threeNodes (some 0)
    [(0, ifaceWith 0 2), (1, ifaceWith 1 0), (2, ifaceWith 2 2)]
    ⟨rfl, some 1, rfl, rfl, some 2, rfl, rfl, none, rfl, rfl⟩ (by decide) 0 (by decide)

end Usbutils
