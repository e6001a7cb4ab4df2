import Mathlib.Data.Set.Insert
import Usbutils.Ccan.List

/-! Any run of list operations that keep to their contracts, against lists that are only lists.
The contract of an operation is what `list.h` asks of its arguments: a node that is added is
allocated and in no list, one that is deleted is in a list or links to itself. -/
namespace Usbutils.Ccan
open Rings

variable {head entry : Type}

/-- What the lists are for: each head has its entries in order. An entry that rests links to
itself, as after `list_del_init`. -/
structure Lists (head entry : Type) where
  items : head → List entry
  resting : Set entry
  allocated : Set entry

inductive Answer (head entry : Type) where
  | nothing
  | empty (b : Bool)
  | pointer (p : Option (ListNode head entry))

inductive ListOp (head entry : Type) where
  | malloc (e : entry)
  | free (e : entry)
  | headInit (h : head)
  | nodeInit (e : entry)
  | addAfter (p : ListNode head entry) (e : entry)
  | addBefore (p : ListNode head entry) (e : entry)
  | add (h : head) (e : entry)
  | addTail (h : head) (e : entry)
  | del (e : entry)
  | delInit (e : entry)
  | delFrom (h : head) (e : entry)
  | swap (o n : entry)
  | appendList (to' from' : head)
  | prependList (to' from' : head)
  | empty (h : head)
  | top (h : head)
  | tail (h : head)
  | pop (h : head)
  | next (h : head) (e : entry)
  | prev (h : head) (e : entry)

abbrev ListMemory (head entry : Type) := Memory (ListNode head entry)

section Contract

variable (s : Lists head entry)

def Lists.Loose (e : entry) : Prop := e ∈ s.allocated ∧ ∀ h, e ∉ s.items h

def Lists.Placed : ListNode head entry → Prop
  | .head _ => True
  | .entry e => ∃ h, e ∈ s.items h

end Contract

def ringOf (h : head) (items : List entry) : List (ListNode head entry) :=
  .head h :: items.map .entry

structure Represents (mem : ListMemory head entry) (s : Lists head entry) : Prop where
  ring : ∀ h, Ring mem (ringOf h (s.items h))
  alone : ∀ e ∈ s.resting, Ring mem ([.entry e] : List (ListNode head entry))
  disjoint : ∀ {h h' e}, e ∈ s.items h → e ∈ s.items h' → h = h'
  apart : ∀ {h e}, e ∈ s.items h → e ∉ s.resting
  placed : ∀ {h e}, e ∈ s.items h → e ∈ s.allocated
  rests : ∀ e ∈ s.resting, e ∈ s.allocated
  live : ∀ e ∈ s.allocated, mem.live (.entry e) = true

theorem mem_ringOf {p : ListNode head entry} {h : head} {items : List entry} :
    p ∈ ringOf h items ↔ p = .head h ∨ ∃ e ∈ items, p = .entry e := by
  simp [ringOf, eq_comm]

variable {mem mem' : ListMemory head entry} {s : Lists head entry} {h h₀ : head} {e : entry}

theorem Represents.rings_apart (hrep : Represents mem s) (hne : h ≠ h₀) {p : ListNode head entry}
    (hp : p ∈ ringOf h (s.items h)) : p ∉ ringOf h₀ (s.items h₀) := by
  intro hp'
  rcases mem_ringOf.mp hp with rfl | ⟨e, he, rfl⟩
  · rcases mem_ringOf.mp hp' with heq | ⟨e, -, heq⟩
    · exact hne (ListNode.head.inj heq)
    · cases heq
  · rcases mem_ringOf.mp hp' with heq | ⟨e', he', heq⟩
    · cases heq
    · obtain rfl := ListNode.entry.inj heq
      exact hne (hrep.disjoint he he')

theorem Represents.nodup (hrep : Represents mem s) (h : head) : (s.items h).Nodup := by
  have hring : (ringOf h (s.items h)).Nodup := (hrep.ring h).nodup
  exact (List.nodup_cons.mp hring).2.of_map _

theorem Represents.loose (hrep : Represents mem s) (he : e ∈ s.resting) : s.Loose e :=
  ⟨hrep.rests e he, fun _ hmem => hrep.apart hmem he⟩

theorem Lists.Loose.not_mem (hloose : s.Loose e) (h : head) :
    ListNode.entry e ∉ ringOf h (s.items h) := by
  intro hmem
  rcases mem_ringOf.mp hmem with heq | ⟨e', he', heq⟩
  · cases heq
  · obtain rfl := ListNode.entry.inj heq
    exact hloose.2 h he'

theorem entry_mem_ringOf {items : List entry} : .entry e ∈ ringOf h items ↔ e ∈ items := by
  simp [ringOf]

theorem Represents.elsewhere {resting allocated : Set entry} (hrep : Represents mem s)
    (he : ∀ h, e ∉ s.items h)
    (hagree : ∀ p, p ≠ .entry e → mem'.next p = mem.next p ∧ mem'.prev p = mem.prev p ∧
      mem'.live p = mem.live p)
    (hallocated : ∀ x, x ≠ e → (x ∈ allocated ↔ x ∈ s.allocated))
    (hlive : e ∈ allocated → mem'.live (.entry e) = true)
    (hresting : ∀ x ∈ resting, x ≠ e ∧ x ∈ s.resting ∨
      x = e ∧ e ∈ allocated ∧ Ring mem' [.entry e]) :
    Represents mem' ⟨s.items, resting, allocated⟩ := by
  have hne : ∀ {h x}, x ∈ s.items h → x ≠ e := fun hx heq => he _ (heq ▸ hx)
  refine ⟨fun h => (hrep.ring h).of_agree fun p hp => hagree p ?_, fun x hx => ?_,
    hrep.disjoint, fun {h x} hx hxr => ?_, fun {h x} hx => (hallocated x (hne hx)).mpr
      (hrep.placed hx), fun x hx => ?_, fun x hx => ?_⟩
  · rintro rfl
    exact he h (entry_mem_ringOf.mp hp)
  · rcases hresting x hx with ⟨hxe, hxr⟩ | ⟨rfl, -, hring⟩
    · refine (hrep.alone x hxr).of_agree fun p hp => hagree p fun hpe => hxe ?_
      rw [hpe] at hp
      exact (ListNode.entry.inj (List.mem_singleton.mp hp)).symm
    · exact hring
  · rcases hresting x hxr with ⟨-, hxr⟩ | ⟨rfl, -, -⟩
    · exact hrep.apart hx hxr
    · exact he h hx
  · rcases hresting x hx with ⟨hxe, hxr⟩ | ⟨rfl, hxa, -⟩
    · exact (hallocated x hxe).mpr (hrep.rests x hxr)
    · exact hxa
  · by_cases hxe : x = e
    · subst hxe
      exact hlive hx
    · have hother : (.entry x : ListNode head entry) ≠ .entry e := fun heq =>
        hxe (ListNode.entry.inj heq)
      rw [(hagree _ hother).2.2]
      exact hrep.live x ((hallocated x hxe).mp hx)

theorem Represents.rings_disjoint {t f : head} (hrep : Represents mem s) (hne : t ≠ f) :
    (ringOf t (s.items t)).Disjoint (ringOf f (s.items f)) :=
  fun _ hp hp' => hrep.rings_apart hne hp hp'

section Change

variable [DecidableEq head]

theorem Represents.change (hrep : Represents mem s) {touched : List (ListNode head entry)}
    {items : List entry} {resting : Set entry} (further : List entry) (hframe : Frame mem mem' touched)
    (htouched : ∀ p ∈ touched, p ∈ ringOf h₀ (s.items h₀) ∨ ∃ e ∈ further, p = .entry e)
    (hfurther : ∀ e ∈ further, s.Loose e) (hring : Ring mem' (ringOf h₀ items))
    (hitems : ∀ x ∈ items, x ∈ s.items h₀ ∨ x ∈ further)
    (hresting : ∀ x ∈ resting, x ∈ s.resting ∧ x ∉ further) :
    Represents mem' ⟨Function.update s.items h₀ items, resting, s.allocated⟩ := by
  have hof : ∀ {h x}, x ∈ Function.update s.items h₀ items h →
      x ∈ s.items h ∨ x ∈ further ∧ h = h₀ := by
    intro h x hx
    by_cases hh : h = h₀
    · subst hh
      rw [Function.update_self] at hx
      exact (hitems x hx).imp_right fun hmem => ⟨hmem, rfl⟩
    · rw [Function.update_of_ne hh] at hx
      exact .inl hx
  refine ⟨fun h => ?_, fun x hx => ?_, fun {h h' x} hx hx' => ?_, fun {h x} hx hxr => ?_,
    fun {h x} hx => ?_, fun x hx => hrep.rests x (hresting x hx).1, fun x hx => ?_⟩
  · by_cases hh : h = h₀
    · subst hh
      simpa using hring
    · simp only [Function.update_of_ne hh]
      refine (hrep.ring h).of_frame hframe fun p hp hpt => ?_
      rcases htouched p hpt with hmem | ⟨e, he, rfl⟩
      · exact hrep.rings_apart hh hp hmem
      · exact (hfurther e he).not_mem h hp
  · obtain ⟨hxr, hxf⟩ := hresting x hx
    refine (hrep.alone x hxr).of_frame hframe fun p hp hpt => ?_
    obtain rfl : p = .entry x := List.mem_singleton.mp hp
    rcases htouched _ hpt with hmem | ⟨e, he, heq⟩
    · exact (hrep.loose hxr).not_mem h₀ hmem
    · exact hxf (ListNode.entry.inj heq ▸ he)
  · rcases hof hx with hold | ⟨hnew, rfl⟩
    · rcases hof hx' with hold' | ⟨hnew', -⟩
      · exact hrep.disjoint hold hold'
      · exact absurd hold ((hfurther x hnew').2 h)
    · rcases hof hx' with hold' | ⟨-, rfl⟩
      · exact absurd hold' ((hfurther x hnew).2 h')
      · rfl
  · rcases hof hx with hold | ⟨hnew, -⟩
    · exact hrep.apart hold (hresting x hxr).1
    · exact (hresting x hxr).2 hnew
  · rcases hof hx with hold | ⟨hnew, -⟩
    · exact hrep.placed hold
    · exact (hfurther x hnew).1
  · rw [hframe.live]
    exact hrep.live x hx

theorem Represents.added {touched : List (ListNode head entry)} {items : List entry}
    (hrep : Represents mem s) (he : s.Loose e) (hframe : Frame mem mem' touched)
    (htouched : touched ⊆ .entry e :: ringOf h (s.items h)) (hring : Ring mem' (ringOf h items))
    (hitems : ringOf h items ⊆ .entry e :: ringOf h (s.items h)) :
    Represents mem'
      { s with items := Function.update s.items h items, resting := s.resting \ {e} } := by
  refine hrep.change [e] hframe (fun q hq => ?_) (by simpa using he) hring
    (fun x hx => ?_) fun x hx => by simpa using hx
  · simpa [or_comm] using htouched hq
  · simpa [or_comm, entry_mem_ringOf] using hitems (entry_mem_ringOf.mpr hx)

theorem Represents.onlyList (hrep : Represents mem s) {a : entry} (ha : a ∈ s.items h)
    {f : List entry → List entry} {g : List entry} (hskip : ∀ l, a ∉ l → f l = l)
    (happend : ∀ l l', f (l ++ l') = f l ++ f l') (hone : f [a] = g) :
    ∃ front back, s.items h = front ++ a :: back ∧
      (fun h => f (s.items h)) = Function.update s.items h (front ++ g ++ back) := by
  obtain ⟨front, back, heq⟩ := List.append_of_mem ha
  have hnodup := hrep.nodup h
  rw [heq, List.nodup_middle, List.nodup_cons, List.mem_append, not_or] at hnodup
  obtain ⟨⟨hfront, hback⟩, -⟩ := hnodup
  refine ⟨front, back, heq, funext fun h' => ?_⟩
  by_cases hh : h' = h
  · subst hh
    rw [Function.update_self, heq, List.append_cons, happend, happend, hone, hskip front hfront,
      hskip back hback]
  · rw [Function.update_of_ne hh]
    exact hskip _ fun hmem => hh (hrep.disjoint hmem ha)

def Lists.itemsMoved (s : Lists head entry) (to' from' : head) (all : List entry) :
    head → List entry :=
  Function.update (Function.update s.items to' all) from' []

theorem Represents.moved {t f : head} {all : List entry}
    (hrep : Represents mem s) (hne : t ≠ f)
    (hframe : Frame mem mem' (ringOf t (s.items t) ++ ringOf f (s.items f)))
    (hring : Ring mem' (ringOf t all)) (hhead : Ring mem' (ringOf f []))
    (hall : ∀ x ∈ all, x ∈ s.items t ∨ x ∈ s.items f) :
    Represents mem' { s with items := s.itemsMoved t f all } := by
  have hat : s.itemsMoved t f all t = all := by
    rw [Lists.itemsMoved, Function.update_of_ne hne, Function.update_self]
  have haf : s.itemsMoved t f all f = [] := Function.update_self ..
  have hother : ∀ {h}, h ≠ t → h ≠ f → s.itemsMoved t f all h = s.items h := fun ht hf => by
    rw [Lists.itemsMoved, Function.update_of_ne hf, Function.update_of_ne ht]
  have hof : ∀ {h x}, x ∈ s.itemsMoved t f all h →
      x ∈ s.items h ∧ h ≠ t ∧ h ≠ f ∨ (x ∈ s.items t ∨ x ∈ s.items f) ∧ h = t := by
    intro h x hx
    by_cases ht : h = t
    · subst ht
      rw [hat] at hx
      exact .inr ⟨hall x hx, rfl⟩
    · by_cases hf : h = f
      · subst hf
        rw [haf] at hx
        cases hx
      · rw [hother ht hf] at hx
        exact .inl ⟨hx, ht, hf⟩
  have hapart : ∀ {h x}, x ∈ s.items h → h ≠ t → h ≠ f → ¬(x ∈ s.items t ∨ x ∈ s.items f) :=
    fun hx ht hf hor => hor.elim (fun hmem => ht (hrep.disjoint hx hmem))
      fun hmem => hf (hrep.disjoint hx hmem)
  refine ⟨fun h => ?_, fun x hx => (hrep.alone x hx).of_frame hframe fun p hp => ?_,
    fun {h h' x} hx hx' => ?_, fun {h x} hx => ?_, fun {h x} hx => ?_, hrep.rests,
    fun x hx => ?_⟩
  · by_cases ht : h = t
    · subst ht
      simpa only [hat] using hring
    · by_cases hf : h = f
      · subst hf
        simpa only [haf] using hhead
      · simp only [hother ht hf]
        refine (hrep.ring h).of_frame hframe fun p hp hmem => ?_
        rcases List.mem_append.mp hmem with hmem | hmem
        · exact hrep.rings_apart ht hp hmem
        · exact hrep.rings_apart hf hp hmem
  · obtain rfl : p = .entry x := List.mem_singleton.mp hp
    rw [List.mem_append, not_or]
    exact ⟨(hrep.loose hx).not_mem t, (hrep.loose hx).not_mem f⟩
  · rcases hof hx with ⟨hx, ht, hf⟩ | ⟨hx, rfl⟩
    · rcases hof hx' with ⟨hx', -, -⟩ | ⟨hx', -⟩
      · exact hrep.disjoint hx hx'
      · exact absurd hx' (hapart hx ht hf)
    · rcases hof hx' with ⟨hx', ht, hf⟩ | ⟨-, rfl⟩
      · exact absurd hx (hapart hx' ht hf)
      · rfl
  · rcases hof hx with ⟨hx, -, -⟩ | ⟨hx | hx, -⟩
    all_goals exact hrep.apart hx
  · rcases hof hx with ⟨hx, -, -⟩ | ⟨hx | hx, -⟩
    all_goals exact hrep.placed hx
  · rw [hframe.live]
    exact hrep.live x hx

end Change

variable [DecidableEq head] [DecidableEq entry]

section Run

def quiet (mem : Option (ListMemory head entry)) :
    Option (Answer head entry × ListMemory head entry) :=
  mem.map fun mem => (.nothing, mem)

def reading (mem : ListMemory head entry) (p : Option (Option (ListNode head entry))) :
    Option (Answer head entry × ListMemory head entry) :=
  p.map fun p => (.pointer p, mem)

def ListOp.run (mem : ListMemory head entry) :
    ListOp head entry → Option (Answer head entry × ListMemory head entry)
  | .malloc e => some (.nothing, mem.alloc (.entry e))
  | .free e => quiet (mem.free (.entry e))
  | .headInit h => quiet (listHeadInit (.head h) mem)
  | .nodeInit e => quiet (listNodeInit (.entry e) mem)
  | .addAfter p e => quiet (listAddAfter p (.entry e) mem)
  | .addBefore p e => quiet (listAddBefore p (.entry e) mem)
  | .add h e => quiet (listAdd (.head h) (.entry e) mem)
  | .addTail h e => quiet (listAddTail (.head h) (.entry e) mem)
  | .del e => quiet (listDel (.entry e) mem)
  | .delInit e => quiet (listDelInit (.entry e) mem)
  | .delFrom h e => quiet (listDelFrom (.head h) (.entry e) mem)
  | .swap o n => quiet (listSwap (.entry o) (.entry n) mem)
  | .appendList to' from' => quiet (listAppendList (.head to') (.head from') mem)
  | .prependList to' from' => quiet (listPrependList (.head to') (.head from') mem)
  | .empty h => (listEmpty (.head h) mem).map fun b => (.empty b, mem)
  | .top h => reading mem (listTop (.head h) mem)
  | .tail h => reading mem (listTail (.head h) mem)
  | .pop h => (listPop (.head h) mem).map fun r => (.pointer r.1, r.2)
  | .next h e => reading mem (listNext (.head h) (.entry e) mem)
  | .prev h e => reading mem (listPrev (.head h) (.entry e) mem)

def runAll : List (ListOp head entry) → ListMemory head entry →
    Option (List (Answer head entry) × ListMemory head entry)
  | [], mem => some ([], mem)
  | op :: ops, mem => do
      let (answer, mem) ← op.run mem
      let (answers, mem) ← runAll ops mem
      return (answer :: answers, mem)

end Run

namespace Lists

variable (s : Lists head entry)

def Allowed : ListOp head entry → Prop
  | .malloc e => e ∉ s.allocated
  | .free e => s.Loose e
  | .headInit _ => True
  | .nodeInit e => s.Loose e
  | .addAfter p e => s.Placed p ∧ s.Loose e
  | .addBefore p e => s.Placed p ∧ s.Loose e
  | .add _ e => s.Loose e
  | .addTail _ e => s.Loose e
  | .del e => s.Placed (.entry e) ∨ e ∈ s.resting
  | .delInit e => s.Placed (.entry e) ∨ e ∈ s.resting
  | .delFrom h e => e ∈ s.items h
  | .swap o n => s.Placed (.entry o) ∧ s.Loose n
  | .appendList to' from' => to' ≠ from'
  | .prependList to' from' => to' ≠ from'
  | .empty _ => True
  | .top _ => True
  | .tail _ => True
  | .pop _ => True
  | .next h e => e ∈ s.items h
  | .prev h e => e ∈ s.items h

def itemsAddedAfter (e : entry) : ListNode head entry → head → List entry
  | .head h => Function.update s.items h (e :: s.items h)
  | .entry a => fun h => (s.items h).flatMap fun x => if x = a then [x, e] else [x]

def itemsAddedBefore (e : entry) : ListNode head entry → head → List entry
  | .head h => Function.update s.items h (s.items h ++ [e])
  | .entry a => fun h => (s.items h).flatMap fun x => if x = a then [e, x] else [x]

def delete (e : entry) : Lists head entry :=
  { s with items := fun h => (s.items h).filter (· ≠ e) }

def after (h : head) (e : entry) : List entry := ((s.items h).dropWhile (· ≠ e)).tail

def before (h : head) (e : entry) : List entry := (s.items h).takeWhile (· ≠ e)

def apply : ListOp head entry → Lists head entry
  | .malloc e => { s with allocated := insert e s.allocated }
  | .free e => { s with resting := s.resting \ {e}, allocated := s.allocated \ {e} }
  | .headInit h => { s with items := Function.update s.items h [] }
  | .nodeInit e => { s with resting := insert e s.resting }
  | .addAfter p e => { s with items := s.itemsAddedAfter e p, resting := s.resting \ {e} }
  | .addBefore p e => { s with items := s.itemsAddedBefore e p, resting := s.resting \ {e} }
  | .add h e => { s with items := s.itemsAddedAfter e (.head h), resting := s.resting \ {e} }
  | .addTail h e => { s with items := s.itemsAddedBefore e (.head h), resting := s.resting \ {e} }
  | .del e => s.delete e
  | .delInit e => { s.delete e with resting := insert e s.resting }
  | .delFrom _ e => s.delete e
  | .swap o n =>
      { s with
        items := fun h => (s.items h).map fun x => if x = o then n else x
        resting := s.resting \ {n} }
  | .appendList to' from' =>
      { s with items := s.itemsMoved to' from' (s.items to' ++ s.items from') }
  | .prependList to' from' =>
      { s with items := s.itemsMoved to' from' (s.items from' ++ s.items to') }
  | .pop h => { s with items := Function.update s.items h (s.items h).tail }
  | .empty _ | .top _ | .tail _ | .next _ _ | .prev _ _ => s

def answer : ListOp head entry → Answer head entry
  | .empty h => .empty (s.items h).isEmpty
  | .top h => .pointer ((s.items h).head?.map .entry)
  | .tail h => .pointer ((s.items h).getLast?.map .entry)
  | .pop h => .pointer ((s.items h).head?.map .entry)
  | .next h e => .pointer ((s.after h e).head?.map .entry)
  | .prev h e => .pointer ((s.before h e).getLast?.map .entry)
  | _ => .nothing

/-- Every operation keeps to its contract when its turn comes. -/
def AllAllowed : Lists head entry → List (ListOp head entry) → Prop
  | _, [] => True
  | s, op :: ops => s.Allowed op ∧ AllAllowed (s.apply op) ops

def applyAll : Lists head entry → List (ListOp head entry) → Lists head entry
  | s, [] => s
  | s, op :: ops => applyAll (s.apply op) ops

def answers : Lists head entry → List (ListOp head entry) → List (Answer head entry)
  | _, [] => []
  | s, op :: ops => s.answer op :: answers (s.apply op) ops

end Lists

section Steps

variable {mem : ListMemory head entry} {s : Lists head entry} {h : head} {a e n o : entry}
  {p : ListNode head entry}

theorem filter_ne_self {l : List entry} (ha : a ∉ l) : l.filter (· ≠ a) = l := by
  refine List.filter_eq_self.mpr fun x hx => ?_
  simpa using fun hxa : x = a => ha (hxa ▸ hx)

theorem flatMap_skip {g : entry → List entry} {l : List entry} (ha : a ∉ l) :
    (l.flatMap fun x => if x = a then g x else [x]) = l := by
  induction l with
  | nil => rfl
  | cons b l ih =>
      obtain ⟨hne, hl⟩ := not_or.mp (List.mem_cons.not.mp ha)
      rw [List.flatMap_cons, if_neg (Ne.symm hne), ih hl, List.singleton_append]

theorem Represents.itemsAddedAfter_eq (hrep : Represents mem s) (hp : s.Placed p) (e : entry) :
    ∃ h front back items, ringOf h (s.items h) = front ++ p :: back ∧
      s.itemsAddedAfter e p = Function.update s.items h items ∧
      ringOf h items = front ++ p :: .entry e :: back := by
  cases p with
  | head h => exact ⟨h, [], (s.items h).map .entry, e :: s.items h, rfl, rfl, rfl⟩
  | entry a =>
      obtain ⟨h, ha⟩ := hp
      obtain ⟨front, back, heq, hupdate⟩ := hrep.onlyList ha
        (f := fun l => l.flatMap fun x => if x = a then [x, e] else [x]) (g := [a, e])
        (fun _ hl => flatMap_skip hl) (fun _ _ => List.flatMap_append) (by simp)
      exact ⟨h, .head h :: front.map .entry, back.map .entry, _, by simp [ringOf, heq], hupdate,
        by simp [ringOf]⟩

theorem Represents.itemsAddedBefore_eq (hrep : Represents mem s) (hp : s.Placed p) (e : entry) :
    ∃ h front back items, ringOf h (s.items h) = front ++ p :: back ∧
      s.itemsAddedBefore e p = Function.update s.items h items ∧
      ringOf h items ~r (front ++ .entry e :: p :: back) := by
  cases p with
  | head h =>
      refine ⟨h, [], (s.items h).map .entry, s.items h ++ [e], rfl, rfl, ?_⟩
      rw [ringOf, List.map_append, ← List.cons_append]
      exact List.isRotated_append
  | entry a =>
      obtain ⟨h, ha⟩ := hp
      obtain ⟨front, back, heq, hupdate⟩ := hrep.onlyList ha
        (f := fun l => l.flatMap fun x => if x = a then [e, x] else [x]) (g := [e, a])
        (fun _ hl => flatMap_skip hl) (fun _ _ => List.flatMap_append) (by simp)
      have hnew : ringOf h (front ++ [e, a] ++ back) =
          .head h :: front.map .entry ++ .entry e :: .entry a :: back.map .entry := by
        simp [ringOf]
      exact ⟨h, .head h :: front.map .entry, back.map .entry, _, by simp [ringOf, heq], hupdate,
        hnew ▸ List.IsRotated.refl _⟩

theorem Represents.listAddAfter (hrep : Represents mem s) (hp : s.Placed p) (he : s.Loose e) :
    ∃ mem', listAddAfter p (.entry e) mem = some mem' ∧
      Represents mem' { s with items := s.itemsAddedAfter e p, resting := s.resting \ {e} } := by
  obtain ⟨h, front, back, items, heq, hitems, hnew⟩ := hrep.itemsAddedAfter_eq hp e
  have hring : Ring mem (p :: (back ++ front)) := by
    have hring := hrep.ring h
    rw [heq] at hring
    exact hring.rotate
  have hloose : .entry e ∉ p :: (back ++ front) := by
    simpa [heq, or_comm, or_left_comm] using he.not_mem h
  obtain ⟨mem', hrun, hring', hframe⟩ := listAddAfter_ring hring hloose (hrep.live e he.1)
  have hrotated : Ring mem' (front ++ p :: .entry e :: back) :=
    Ring.rotate hring'
  rw [hitems]
  refine ⟨mem', hrun, hrep.added he hframe ?_ (hnew ▸ hrotated) ?_⟩
  all_goals
    intro q hq
    simp only [hnew, heq, List.mem_cons, List.mem_append] at hq ⊢
    grind

theorem Represents.listAddBefore (hrep : Represents mem s) (hp : s.Placed p) (he : s.Loose e) :
    ∃ mem', listAddBefore p (.entry e) mem = some mem' ∧
      Represents mem' { s with items := s.itemsAddedBefore e p, resting := s.resting \ {e} } := by
  obtain ⟨h, front, back, items, heq, hitems, hnew⟩ := hrep.itemsAddedBefore_eq hp e
  have hring : Ring mem (p :: (back ++ front)) := by
    have hring := hrep.ring h
    rw [heq] at hring
    exact hring.rotate
  have hloose : .entry e ∉ p :: (back ++ front) := by
    simpa [heq, or_comm, or_left_comm] using he.not_mem h
  obtain ⟨mem', hrun, hring', hframe⟩ := listAddBefore_ring hring hloose (hrep.live e he.1)
  have hrotated : Ring mem' (front ++ .entry e :: p :: back) := by
    have hcycle : p :: (back ++ front) ++ [.entry e] = p :: back ++ (front ++ [.entry e]) := by simp
    rw [hcycle] at hring'
    simpa using hring'.rotate
  have hmem : ∀ q, q ∈ ringOf h items ↔ q ∈ front ++ .entry e :: p :: back :=
    fun q => hnew.mem_iff
  rw [hitems]
  refine ⟨mem', hrun, hrep.added he hframe ?_ (hrotated.of_isRotated hnew.symm) ?_⟩
  all_goals
    intro q hq
    simp only [hmem, heq, List.mem_cons, List.mem_append] at hq ⊢
    grind

theorem Represents.listDel (hrep : Represents mem s) (he : e ∈ s.items h) :
    ∃ mem', listDel (.entry e) mem = some mem' ∧ Represents mem' (s.delete e) := by
  obtain ⟨front, back, heq, hitems⟩ := hrep.onlyList he (f := fun l => l.filter (· ≠ e)) (g := [])
    (fun _ hl => filter_ne_self hl) (fun _ _ => List.filter_append ..) (by simp)
  have hring : Ring mem (.entry e :: (back.map .entry ++ .head h :: front.map .entry)) := by
    have hring := hrep.ring h
    rw [heq, ringOf, List.map_append, List.map_cons, ← List.cons_append] at hring
    exact hring.rotate
  obtain ⟨mem', hrun, hring', hframe⟩ := listDel_ring hring (by simp)
  have hrotated : Ring mem' (ringOf h (front ++ [] ++ back)) := by
    simpa [ringOf] using hring'.rotate
  rw [Lists.delete, hitems]
  refine ⟨mem', hrun, hrep.change [] hframe (fun q hq => .inl ?_) (by simp)
    hrotated (fun x hx => .inl ?_) fun x hx => ⟨hx, List.not_mem_nil⟩⟩
  · rw [heq]
    simp only [ringOf, List.mem_append, List.mem_cons, List.map_append, List.map_cons] at hq ⊢
    grind
  · rw [heq]
    simp only [List.append_nil, List.mem_append, List.mem_cons] at hx ⊢
    grind

theorem Represents.listSwap (hrep : Represents mem s) (ho : s.Placed (.entry o))
    (hn : s.Loose n) :
    ∃ mem', listSwap (.entry o) (.entry n) mem = some mem' ∧
      Represents mem' (s.apply (.swap o n)) := by
  obtain ⟨h, ho⟩ := ho
  obtain ⟨front, back, heq, hitems⟩ := hrep.onlyList ho
    (f := fun l => l.map fun x => if x = o then n else x) (g := [n])
    (fun l hl => (List.map_congr_left fun x hx => if_neg fun hxo => hl (by rwa [← hxo])).trans
      (List.map_id' l)) (fun _ _ => List.map_append ..) (by simp)
  have hold : ringOf h (s.items h) =
      .head h :: front.map .entry ++ .entry o :: back.map .entry := by
    simp [ringOf, heq]
  have hring : Ring mem (.entry o :: (back.map .entry ++ .head h :: front.map .entry)) := by
    have hring := hrep.ring h
    rw [hold] at hring
    exact hring.rotate
  have hloose : ListNode.entry n ∉
      .entry o :: (back.map .entry ++ ListNode.head h :: front.map .entry) := by
    simpa [hold, or_comm, or_left_comm] using hn.not_mem h
  obtain ⟨mem', hrun, hring', hframe⟩ := listSwap_ring hring (by simp) hloose (hrep.live n hn.1)
  have hrotated : Ring mem' (ringOf h (front ++ [n] ++ back)) := by
    have hrotated : Ring mem' ((.head h :: front.map .entry) ++ .entry n :: back.map .entry) := Ring.rotate hring'
    simpa [ringOf] using hrotated
  simp only [Lists.apply, hitems]
  refine ⟨mem', hrun, hrep.added hn hframe ?_ hrotated ?_⟩
  · intro q hq
    simp only [hold, List.mem_cons, List.mem_append] at hq ⊢
    grind
  · intro q hq
    simp only [ringOf, List.map_append, List.map_cons, List.map_nil, List.mem_cons,
      List.mem_append, List.not_mem_nil, or_false] at hq ⊢
    grind

omit [DecidableEq head] in
theorem delete_of_not_mem (he : ∀ h, e ∉ s.items h) : s.delete e = s := by
  have hitems : (fun h => (s.items h).filter (· ≠ e)) = s.items :=
    funext fun h => filter_ne_self (he h)
  rw [Lists.delete, hitems]

theorem Represents.delete_eq (hrep : Represents mem s) (he : e ∈ s.items h) :
    s.delete e =
      { s with items := Function.update s.items h ((s.items h).filter (· ≠ e)) } := by
  rw [Lists.delete]
  congr 1
  funext h'
  by_cases hh : h' = h
  · rw [hh, Function.update_self]
  · rw [Function.update_of_ne hh]
    exact filter_ne_self fun hmem => hh (hrep.disjoint hmem he)

theorem Represents.listNodeInit (hrep : Represents mem s) (he : s.Loose e) :
    ∃ mem', listNodeInit (.entry e) mem = some mem' ∧
      Represents mem' { s with resting := insert e s.resting } := by
  obtain ⟨mem', hrun, hring, hframe⟩ := listNodeInit_ring (hrep.live e he.1)
  refine ⟨mem', hrun, hrep.elsewhere he.2 (fun p hp => ?_) (fun _ _ => Iff.rfl) (fun hmem => ?_)
    fun x hx => ?_⟩
  · have hp : p ∉ [ListNode.entry e] := by simpa using hp
    exact ⟨hframe.next p hp, hframe.prev p hp, congrFun hframe.live p⟩
  · rw [hframe.live]
    exact hrep.live e hmem
  · by_cases hxe : x = e
    · exact .inr ⟨hxe, he.1, hring⟩
    · exact .inl ⟨hxe, Set.mem_of_mem_insert_of_ne hx hxe⟩

theorem Represents.listDel_any (hrep : Represents mem s)
    (he : s.Placed (.entry e) ∨ e ∈ s.resting) :
    ∃ mem', Ccan.listDel (.entry e) mem = some mem' ∧ Represents mem' (s.delete e) := by
  rcases he with ⟨h, he⟩ | he
  · exact hrep.listDel he
  · refine ⟨mem, listDel_alone (hrep.alone e he), ?_⟩
    rwa [delete_of_not_mem (hrep.loose he).2]

theorem Represents.listDelInit (hrep : Represents mem s)
    (he : s.Placed (.entry e) ∨ e ∈ s.resting) :
    ∃ mem', listDelInit (.entry e) mem = some mem' ∧
      Represents mem' { s.delete e with resting := insert e s.resting } := by
  obtain ⟨mem₁, hdel, hrep₁⟩ := hrep.listDel_any he
  have hloose : (s.delete e).Loose e := by
    refine ⟨?_, fun h hmem => by simp [Lists.delete] at hmem⟩
    exact he.elim (fun ⟨h, hmem⟩ => hrep.placed hmem) (hrep.rests e)
  obtain ⟨mem₂, hinit, hrep₂⟩ := hrep₁.listNodeInit hloose
  refine ⟨mem₂, ?_, hrep₂⟩
  rw [Ccan.listDelInit, hdel]
  exact hinit

theorem Represents.listDelFrom (hrep : Represents mem s) (he : e ∈ s.items h) :
    ∃ mem', listDelFrom (.head h) (.entry e) mem = some mem' ∧ Represents mem' (s.delete e) := by
  obtain ⟨mem', hdel, hrep'⟩ := hrep.listDel he
  have hnonempty : ((s.items h).map (.entry : entry → ListNode head entry)).isEmpty = false := by
    cases hitems : s.items h with
    | nil => simp [hitems] at he
    | cons => rfl
  refine ⟨mem', ?_, hrep'⟩
  rw [Ccan.listDelFrom, listEmpty_ring (hrep.ring h), hnonempty]
  exact hdel

theorem Represents.malloc (hrep : Represents mem s) (he : e ∉ s.allocated) :
    Represents (mem.alloc (.entry e)) { s with allocated := insert e s.allocated } := by
  refine hrep.elsewhere (fun h hmem => he (hrep.placed hmem)) (fun p hp => ?_) (fun x hx => ?_)
    (fun _ => ?_) fun x hx => .inl ⟨?_, hx⟩
  · simp [Memory.alloc, hp]
  · simp [hx]
  · simp [Memory.alloc]
  · rintro rfl
    exact he (hrep.rests x hx)

theorem Represents.free (hrep : Represents mem s) (he : s.Loose e) :
    ∃ mem', mem.free (.entry e) = some mem' ∧
      Represents mem'
        { s with resting := s.resting \ {e}, allocated := s.allocated \ {e} } := by
  refine ⟨_, if_pos (hrep.live e he.1), hrep.elsewhere he.2 (fun p hp => ?_) (fun x hx => ?_)
    (fun hmem => ?_) fun x hx => .inl ⟨?_, hx.1⟩⟩
  · simp [hp]
  · simp [hx]
  · simp at hmem
  · exact fun hxe => hx.2 hxe

theorem Represents.listHeadInit (hrep : Represents mem s) (h : head) :
    ∃ mem', listHeadInit (.head h) mem = some mem' ∧
      Represents mem' { s with items := Function.update s.items h [] } := by
  have hlive : mem.live (.head h) = true := (hrep.ring h).live _ (List.mem_cons_self ..)
  obtain ⟨mem', hrun, hring, hframe⟩ := listNodeInit_ring hlive
  refine ⟨mem', hrun, hrep.change [] hframe (fun p hp => .inl ?_) (by simp) hring (by simp)
    fun x hx => ⟨hx, List.not_mem_nil⟩⟩
  rw [List.mem_singleton.mp hp]
  exact List.mem_cons_self ..

theorem Represents.listPop (hrep : Represents mem s) (h : head) :
    ∃ mem', listPop (.head h) mem = some ((s.items h).head?.map .entry, mem') ∧
      Represents mem' { s with items := Function.update s.items h (s.items h).tail } := by
  have hempty := listEmpty_ring (hrep.ring h)
  have hnext := (hrep.ring h).readNext
  cases hitems : s.items h with
  | nil =>
      rw [hitems] at hempty
      refine ⟨mem, ?_, ?_⟩
      · rw [Ccan.listPop, hempty]
        rfl
      · rw [List.tail_nil, ← hitems, Function.update_eq_self]
        exact hrep
  | cons e rest =>
      have he : e ∈ s.items h := by simp [hitems]
      obtain ⟨mem', hdel, hrep'⟩ := hrep.listDel he
      refine ⟨mem', ?_, ?_⟩
      · rw [hitems] at hempty hnext
        rw [Ccan.listPop, hempty, hnext]
        simp only [List.map_cons, List.cons_append, List.head?_cons, Option.bind_eq_bind,
          Option.bind_some]
        rw [if_neg (by simp), hdel]
        rfl
      · have hnodup := hrep.nodup h
        rw [hitems] at hnodup
        have hrest : (e :: rest).filter (· ≠ e) = rest := by
          rw [List.filter_cons_of_neg (by simp)]
          exact filter_ne_self (List.nodup_cons.mp hnodup).1
        rw [hrep.delete_eq he, hitems, hrest] at hrep'
        exact hrep'

theorem Represents.listAppendList {t f : head} (hrep : Represents mem s) (hne : t ≠ f) :
    ∃ mem', listAppendList (.head t) (.head f) mem = some mem' ∧
      Represents mem' { s with items := s.itemsMoved t f (s.items t ++ s.items f) } := by
  obtain ⟨mem', hrun, hring, hhead, hframe⟩ :=
    listAppendList_ring (hrep.ring t) (hrep.ring f) (hrep.rings_disjoint hne)
  refine ⟨mem', hrun, hrep.moved hne hframe ?_ hhead fun x hx => List.mem_append.mp hx⟩
  simpa [ringOf] using hring

theorem Represents.listPrependList {t f : head} (hrep : Represents mem s) (hne : t ≠ f) :
    ∃ mem', listPrependList (.head t) (.head f) mem = some mem' ∧
      Represents mem' { s with items := s.itemsMoved t f (s.items f ++ s.items t) } := by
  obtain ⟨mem', hrun, hring, hhead, hframe⟩ :=
    listPrependList_ring (hrep.ring t) (hrep.ring f) (hrep.rings_disjoint hne)
  refine ⟨mem', hrun, hrep.moved hne hframe ?_ hhead fun x hx => (List.mem_append.mp hx).symm⟩
  simpa [ringOf] using hring

omit [DecidableEq head] in
theorem Represents.before_after (hrep : Represents mem s) (he : e ∈ s.items h) :
    Ring mem (.entry e :: ((s.after h e).map .entry ++ .head h :: (s.before h e).map .entry)) := by
  have hsplit : s.items h = s.before h e ++ e :: s.after h e := by
    obtain ⟨front, back, heq⟩ := List.append_of_mem he
    have hnodup := hrep.nodup h
    rw [heq, List.nodup_middle, List.nodup_cons, List.mem_append, not_or] at hnodup
    have hfront : ∀ x ∈ front, decide (x ≠ e) = true := fun x hx =>
      decide_eq_true fun hxe => hnodup.1.1 (hxe ▸ hx)
    rw [Lists.before, Lists.after, heq, List.takeWhile_append_of_pos hfront,
      List.dropWhile_append_of_pos hfront]
    simp
  have hring := hrep.ring h
  rw [hsplit, ringOf, List.map_append, List.map_cons, ← List.cons_append] at hring
  exact hring.rotate

theorem Represents.listNext (hrep : Represents mem s) (he : e ∈ s.items h) :
    listNext (.head h) (.entry e) mem = some ((s.after h e).head?.map .entry) := by
  rw [Ccan.listNext, (hrep.before_after he).readNext]
  cases s.after h e <;> simp [listEntryOrNull]

theorem Represents.listPrev (hrep : Represents mem s) (he : e ∈ s.items h) :
    listPrev (.head h) (.entry e) mem = some ((s.before h e).getLast?.map .entry) := by
  have hprev := (hrep.before_after he).readPrev
  rw [← List.cons_append, List.getLast?_append_of_ne_nil _ (by simp), List.getLast?_cons] at hprev
  rw [Ccan.listPrev, hprev]
  cases hb : (s.before h e).getLast? <;> simp [listEntryOrNull, List.getLast?_map, hb]

/-- Every operation that keeps to its contract does to the memory what it should do to the
lists, and answers what it should. -/
theorem Represents.step (hrep : Represents mem s) {op : ListOp head entry}
    (hallowed : s.Allowed op) :
    ∃ mem', op.run mem = some (s.answer op, mem') ∧ Represents mem' (s.apply op) := by
  have hquiet : ∀ {run : Option (ListMemory head entry)} {s' : Lists head entry},
      (∃ mem', run = some mem' ∧ Represents mem' s') →
      ∃ mem', quiet run = some (.nothing, mem') ∧ Represents mem' s' := by
    rintro _ s' ⟨mem', rfl, hrep'⟩
    exact ⟨mem', rfl, hrep'⟩
  have hreading : ∀ {p : Option (ListNode head entry)} {read : Option _}, read = some p →
      ∃ mem', reading mem read = some (.pointer p, mem') ∧ Represents mem' s := by
    rintro p _ rfl
    exact ⟨mem, rfl, hrep⟩
  cases op with
  | malloc e => exact ⟨_, rfl, hrep.malloc hallowed⟩
  | free e => exact hquiet (hrep.free hallowed)
  | headInit h => exact hquiet (hrep.listHeadInit h)
  | nodeInit e => exact hquiet (hrep.listNodeInit hallowed)
  | addAfter p e => exact hquiet (hrep.listAddAfter hallowed.1 hallowed.2)
  | addBefore p e => exact hquiet (hrep.listAddBefore hallowed.1 hallowed.2)
  | add h e => exact hquiet (hrep.listAddAfter (p := .head h) trivial hallowed)
  | addTail h e => exact hquiet (hrep.listAddBefore (p := .head h) trivial hallowed)
  | del e => exact hquiet (hrep.listDel_any hallowed)
  | delInit e => exact hquiet (hrep.listDelInit hallowed)
  | delFrom h e => exact hquiet (hrep.listDelFrom hallowed)
  | swap o n => exact hquiet (hrep.listSwap hallowed.1 hallowed.2)
  | appendList to' from' => exact hquiet (hrep.listAppendList hallowed)
  | prependList to' from' => exact hquiet (hrep.listPrependList hallowed)
  | empty h =>
      refine ⟨mem, ?_, hrep⟩
      rw [ListOp.run, listEmpty_ring (hrep.ring h), List.isEmpty_map]
      rfl
  | top h => exact hreading ((listTop_ring (hrep.ring h)).trans (by rw [List.head?_map]))
  | tail h => exact hreading ((listTail_ring (hrep.ring h)).trans (by rw [List.getLast?_map]))
  | pop h =>
      obtain ⟨mem', hrun, hrep'⟩ := hrep.listPop h
      refine ⟨mem', ?_, hrep'⟩
      rw [ListOp.run, hrun]
      rfl
  | next h e => exact hreading (hrep.listNext hallowed)
  | prev h e => exact hreading (hrep.listPrev hallowed)

end Steps

def initialMemory (head entry : Type) : ListMemory head entry where
  live := fun p => match p with
    | .head _ => true
    | .entry _ => false
  next := some
  prev := some
  freed := []

def Lists.initial (head entry : Type) : Lists head entry := ⟨fun _ => [], ∅, ∅⟩

omit [DecidableEq head] [DecidableEq entry] in
theorem represents_initial : Represents (initialMemory head entry) (.initial head entry) where
  ring := fun h => ⟨(Cycle.chain_singleton ..).mpr ⟨rfl, rfl⟩, List.nodup_singleton _, by
    simp [ringOf, initialMemory, Lists.initial]⟩
  alone := fun _ h => h.elim
  disjoint := fun h => by cases h
  apart := fun h => by cases h
  placed := fun h => by cases h
  rests := fun _ h => h.elim
  live := fun _ h => h.elim

theorem runAll_represents {ops : List (ListOp head entry)} {mem : ListMemory head entry}
    {s : Lists head entry} (hrep : Represents mem s) (hallowed : s.AllAllowed ops) :
    ∃ mem', runAll ops mem = some (s.answers ops, mem') ∧ Represents mem' (s.applyAll ops) := by
  induction ops generalizing mem s with
  | nil => exact ⟨mem, rfl, hrep⟩
  | cons op ops ih =>
      obtain ⟨mem₁, hrun, hrep₁⟩ := hrep.step hallowed.1
      obtain ⟨mem₂, hrest, hrep₂⟩ := ih hrep₁ hallowed.2
      refine ⟨mem₂, ?_, hrep₂⟩
      rw [runAll, hrun]
      simp only [Option.bind_eq_bind, Option.bind_some]
      rw [hrest]
      rfl

/-- Every run of operations that keep to their contracts, on any number of lists, makes no access
to a node that is not allocated, gives the answers of lists that are only lists, and leaves rings
that hold these lists. -/
theorem runAll_refines {ops : List (ListOp head entry)}
    (hallowed : (Lists.initial head entry).AllAllowed ops) :
    ∃ mem, runAll ops (initialMemory head entry) =
        some ((Lists.initial head entry).answers ops, mem) ∧
      Represents mem ((Lists.initial head entry).applyAll ops) :=
  runAll_represents represents_initial hallowed

theorem runAll_refines_twoLists :
    ∃ mem, runAll [.malloc 1, .malloc 2, .malloc 3, .addTail false 1, .add false 2, .addTail true 3,
        .appendList false true, .delInit 1, .del 1, .swap 3 1, .next false 2, .pop false, .free 2]
        (initialMemory Bool Nat) =
      some (((Lists.initial Bool Nat).answers [.malloc 1, .malloc 2, .malloc 3, .addTail false 1,
        .add false 2, .addTail true 3, .appendList false true, .delInit 1, .del 1, .swap 3 1,
        .next false 2, .pop false, .free 2]), mem) ∧
      Represents mem ((Lists.initial Bool Nat).applyAll [.malloc 1, .malloc 2, .malloc 3,
        .addTail false 1, .add false 2, .addTail true 3, .appendList false true, .delInit 1,
        .del 1, .swap 3 1, .next false 2, .pop false, .free 2]) := by
  refine runAll_refines ?_
  simp [Lists.AllAllowed, Lists.Allowed, Lists.apply, Lists.Loose, Lists.Placed, Lists.initial,
    Lists.itemsAddedAfter, Lists.itemsAddedBefore, Lists.itemsMoved, Lists.delete,
    Function.update_apply]

end Usbutils.Ccan
