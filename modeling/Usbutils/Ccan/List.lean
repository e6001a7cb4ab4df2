import Usbutils.Lib.Rings

/-! The lists of `ccan/list/list.h`: a head and the nodes of the entries form a ring. A pointer
to a node stands for the entry that contains it. -/
namespace Usbutils.Ccan
open Rings

inductive ListNode (head entry : Type) where
  | head (h : head)
  | entry (e : entry)
  deriving DecidableEq

variable {π : Type} [DecidableEq π]

def listNodeInit (n : π) (mem : Memory π) : Option (Memory π) := do
  let mem ← mem.setPrev n n
  mem.setNext n n

def listHeadInit (h : π) (mem : Memory π) : Option (Memory π) := listNodeInit h mem

def listAddAfter (p n : π) (mem : Memory π) : Option (Memory π) := do
  let next ← mem.readNext p
  let mem ← mem.setNext n next
  let mem ← mem.setPrev n p
  let next ← mem.readNext p
  let mem ← mem.setPrev next n
  mem.setNext p n

def listAdd (h n : π) (mem : Memory π) : Option (Memory π) := listAddAfter h n mem

def listAddBefore (p n : π) (mem : Memory π) : Option (Memory π) := do
  let mem ← mem.setNext n p
  let prev ← mem.readPrev p
  let mem ← mem.setPrev n prev
  let prev ← mem.readPrev p
  let mem ← mem.setNext prev n
  mem.setPrev p n

def listAddTail (h n : π) (mem : Memory π) : Option (Memory π) := listAddBefore h n mem

def listEmpty (h : π) (mem : Memory π) : Option Bool := do
  let next ← mem.readNext h
  return next = h

def listDel (n : π) (mem : Memory π) : Option (Memory π) := do
  let next ← mem.readNext n
  let prev ← mem.readPrev n
  let mem ← mem.setPrev next prev
  let prev ← mem.readPrev n
  let next ← mem.readNext n
  mem.setNext prev next

def listDelInit (n : π) (mem : Memory π) : Option (Memory π) := do
  let mem ← listDel n mem
  listNodeInit n mem

/-- A failed assertion ends the program, which is `none` here. -/
def listDelFrom (h n : π) (mem : Memory π) : Option (Memory π) := do
  let empty ← listEmpty h mem
  if empty then none else listDel n mem

def listSwap (o n : π) (mem : Memory π) : Option (Memory π) := do
  let next ← mem.readNext o
  let prev ← mem.readPrev o
  let mem ← mem.setNext n next
  let mem ← mem.setPrev n prev
  let next ← mem.readNext n
  let mem ← mem.setPrev next n
  let prev ← mem.readPrev n
  mem.setNext prev n

/-- The null pointer is `some none`. -/
def listTop (h : π) (mem : Memory π) : Option (Option π) := do
  let empty ← listEmpty h mem
  if empty then return none
  let next ← mem.readNext h
  return some next

def listTail (h : π) (mem : Memory π) : Option (Option π) := do
  let empty ← listEmpty h mem
  if empty then return none
  let prev ← mem.readPrev h
  return some prev

def listPop (h : π) (mem : Memory π) : Option (Option π × Memory π) := do
  let empty ← listEmpty h mem
  if empty then return (none, mem)
  let n ← mem.readNext h
  let mem ← listDel n mem
  return (some n, mem)

def listEntryOrNull (h n : π) : Option π := if n = h then none else some n

def listNext (h i : π) (mem : Memory π) : Option (Option π) := do
  let next ← mem.readNext i
  return listEntryOrNull h next

def listPrev (h i : π) (mem : Memory π) : Option (Option π) := do
  let prev ← mem.readPrev i
  return listEntryOrNull h prev

def listAppendList (to' from' : π) (mem : Memory π) : Option (Memory π) := do
  let fromTail ← mem.readPrev from'
  let toTail ← mem.readPrev to'
  let mem ← mem.setPrev to' fromTail
  let mem ← mem.setNext fromTail to'
  let mem ← mem.setNext toTail from'
  let mem ← mem.setPrev from' toTail
  let mem ← listDel from' mem
  listHeadInit from' mem

def listPrependList (to' from' : π) (mem : Memory π) : Option (Memory π) := do
  let fromTail ← mem.readPrev from'
  let toHead ← mem.readNext to'
  let mem ← mem.setNext to' from'
  let mem ← mem.setPrev from' to'
  let mem ← mem.setPrev toHead fromTail
  let mem ← mem.setNext fromTail toHead
  let mem ← listDel from' mem
  listHeadInit from' mem

section Accesses

variable {mem : Memory π} {p x y n : π} {l : List π}

theorem listAddAfter_eq (hx : mem.live x = true) (hy : mem.live y = true)
    (hn : mem.live n = true) (hnext : mem.next x = some y) (hne : n ≠ x) :
    listAddAfter x n mem = some (mem.insert x y n) := by
  simp [listAddAfter, Memory.readNext, Memory.setNext, Memory.setPrev, Memory.insert, hx, hy, hn,
    hnext, hne.symm]

theorem listAddBefore_eq (hx : mem.live x = true) (hy : mem.live y = true)
    (hn : mem.live n = true) (hprev : mem.prev y = some x) (hne : n ≠ y) :
    listAddBefore y n mem = some (mem.insert x y n) := by
  simp [listAddBefore, Memory.readPrev, Memory.setNext, Memory.setPrev, Memory.insert, hx, hy, hn,
    hprev, hne.symm]

theorem listDel_eq (hx : mem.live x = true) (hy : mem.live y = true) (hn : mem.live n = true)
    (hnext : mem.next n = some y) (hprev : mem.prev n = some x) :
    listDel n mem = some (mem.bridge x y) := by
  have hprev' : Function.update mem.prev y (some x) n = some x := by
    by_cases h : n = y
    · rw [h, Function.update_self]
    · rw [Function.update_of_ne h, hprev]
  simp [listDel, Memory.readNext, Memory.readPrev, Memory.setNext, Memory.setPrev, Memory.bridge,
    hx, hy, hn, hnext, hprev, hprev']

theorem listDel_keeps {mem' : Memory π} (h : listDel n mem = some mem') :
    mem'.live = mem.live ∧ mem'.freed = mem.freed := by
  simp only [listDel, Option.bind_eq_bind, Option.bind_eq_some_iff] at h
  obtain ⟨_, -, _, -, mem₁, hprev, _, -, _, -, hnext⟩ := h
  have h₁ := Memory.setPrev_keeps hprev
  have h₂ := Memory.setNext_keeps hnext
  exact ⟨h₂.1.trans h₁.1, h₂.2.trans h₁.2⟩

theorem listAddBefore_keeps {mem' : Memory π} (h : listAddBefore p n mem = some mem') :
    mem'.live = mem.live ∧ mem'.freed = mem.freed := by
  simp only [listAddBefore, Option.bind_eq_bind, Option.bind_eq_some_iff] at h
  obtain ⟨mem₁, h₁, _, -, mem₂, h₂, _, -, mem₃, h₃, h₄⟩ := h
  have hlive := (Memory.setPrev_keeps h₄).1.trans ((Memory.setNext_keeps h₃).1.trans
    ((Memory.setPrev_keeps h₂).1.trans (Memory.setNext_keeps h₁).1))
  have hfreed := (Memory.setPrev_keeps h₄).2.trans ((Memory.setNext_keeps h₃).2.trans
    ((Memory.setPrev_keeps h₂).2.trans (Memory.setNext_keeps h₁).2))
  exact ⟨hlive, hfreed⟩

theorem listNodeInit_eq (hn : mem.live n = true) : listNodeInit n mem = some (mem.bridge n n) := by
  simp [listNodeInit, Memory.setNext, Memory.setPrev, Memory.bridge, hn]

theorem listSwap_eq {o : π} (hx : mem.live x = true) (hy : mem.live y = true)
    (ho : mem.live o = true) (hn : mem.live n = true) (hnext : mem.next o = some y)
    (hprev : mem.prev o = some x) (hne : n ≠ y) : listSwap o n mem = some (mem.insert x y n) := by
  simp [listSwap, Memory.readNext, Memory.readPrev, Memory.setNext, Memory.setPrev, Memory.insert,
    hx, hy, ho, hn, hnext, hprev, hne]

end Accesses

section OnRings

variable {mem : Memory π} {p n o : π} {l : List π}

theorem listAddAfter_ring (h : Ring mem (p :: l)) (hn : n ∉ p :: l)
    (hlive : mem.live n = true) :
    ∃ mem', listAddAfter p n mem = some mem' ∧ Ring mem' (p :: n :: l) ∧
      Frame mem mem' (n :: p :: l) := by
  obtain ⟨y, hy, hmem⟩ := exists_head l p
  have hrotated : Ring mem (l ++ [p]) := Ring.rotate h
  have hlast : (l ++ [p]).getLast? = some p := List.getLast?_concat
  have hn' : n ∉ l ++ [p] := by simpa [or_comm] using hn
  refine ⟨mem.insert p y n, ?_, ?_, ?_⟩
  · refine listAddAfter_eq (h.live p (by simp)) (hrotated.live y hmem) hlive
      (hrotated.closed hlast hy).1 fun heq => hn ?_
    simp [heq]
  · have hring := Ring.insert hrotated.segment (hrotated.nodup_concat hn')
      (hrotated.live_concat hlive) hlast hy
    rw [List.append_assoc] at hring
    exact hring.rotate
  · refine frame_insert.mono fun q hq => ?_
    simp only [List.mem_cons, List.not_mem_nil, or_false, List.mem_append] at hq hmem ⊢
    grind

theorem listAddBefore_ring (h : Ring mem (p :: l)) (hn : n ∉ p :: l)
    (hlive : mem.live n = true) :
    ∃ mem', listAddBefore p n mem = some mem' ∧ Ring mem' (p :: l ++ [n]) ∧
      Frame mem mem' (n :: p :: l) := by
  obtain ⟨x, hx, hmem⟩ := exists_last p l
  refine ⟨mem.insert x p n, ?_, ?_, ?_⟩
  · refine listAddBefore_eq (h.live x hmem) (h.live p (by simp)) hlive (h.closed hx rfl).2
      fun heq => hn ?_
    simp [heq]
  · exact Ring.insert h.segment (h.nodup_concat hn) (h.live_concat hlive) hx rfl
  · refine frame_insert.mono fun q hq => ?_
    simp only [List.mem_cons, List.not_mem_nil, or_false] at hq hmem ⊢
    grind

theorem listDel_ring (h : Ring mem (n :: l)) (hne : l ≠ []) :
    ∃ mem', listDel n mem = some mem' ∧ Ring mem' l ∧ Frame mem mem' l := by
  obtain ⟨x, y, hx, hy, hxl, hyl, hprev, hnext⟩ := h.neighbours hne
  refine ⟨mem.bridge x y, ?_, h.remove hx hy, frame_bridge.mono fun q hq => ?_⟩
  · exact listDel_eq (h.live x (by simp [hxl])) (h.live y (by simp [hyl])) (h.live n (by simp))
      hnext hprev
  · simp only [List.mem_cons, List.not_mem_nil, or_false] at hq
    rcases hq with rfl | rfl
    · exact hxl
    · exact hyl

theorem listDel_alone (h : Ring mem [n]) : listDel n mem = some mem := by
  have hn := h.live n (by simp)
  obtain ⟨hnext, hprev⟩ := h.closed (x := n) (y := n) rfl rfl
  rw [listDel_eq hn hn hn hnext hprev]
  have hnext' : Function.update mem.next n (some n) = mem.next := by
    rw [← hnext, Function.update_eq_self]
  have hprev' : Function.update mem.prev n (some n) = mem.prev := by
    rw [← hprev, Function.update_eq_self]
  rw [Memory.bridge, hnext', hprev']

theorem listNodeInit_ring (hlive : mem.live n = true) :
    ∃ mem', listNodeInit n mem = some mem' ∧ Ring mem' [n] ∧ Frame mem mem' [n] := by
  refine ⟨mem.bridge n n, listNodeInit_eq hlive, ?_, frame_bridge.mono (by simp)⟩
  refine @Ring.close _ mem _ _ n n (.singleton n) (List.nodup_singleton n) rfl rfl ?_ ?_ ?_ ?_
  · exact ⟨by simp [Memory.bridge], by simp [Memory.bridge]⟩
  · exact fun p hp hne => absurd (List.mem_singleton.mp hp) hne
  · exact fun p hp hne => absurd (List.mem_singleton.mp hp) hne
  · exact fun p hp => List.mem_singleton.mp hp ▸ hlive

theorem listSwap_ring (h : Ring mem (o :: l)) (hne : l ≠ []) (hn : n ∉ o :: l)
    (hlive : mem.live n = true) :
    ∃ mem', listSwap o n mem = some mem' ∧ Ring mem' (n :: l) ∧
      Frame mem mem' (n :: l) := by
  obtain ⟨x, y, hx, hy, hxl, hyl, hprev, hnext⟩ := h.neighbours hne
  obtain ⟨hno, hnl⟩ := not_or.mp (List.mem_cons.not.mp hn)
  have hsegment : l.IsChain (Link mem) := h.segment.of_cons
  have hnodup : (l ++ [n]).Nodup := by
    refine List.nodup_append'.mpr ⟨(List.nodup_cons.mp h.nodup).2, List.nodup_singleton n, ?_⟩
    simpa using hnl
  refine ⟨mem.insert x y n, ?_, ?_, frame_insert.mono fun q hq => ?_⟩
  · refine listSwap_eq (h.live x (by simp [hxl])) (h.live y (by simp [hyl])) (h.live o (by simp))
      hlive hnext hprev fun heq => hnl (heq ▸ hyl)
  · refine Ring.rotate (Ring.insert hsegment hnodup (fun q hq => ?_) hx hy)
    rcases List.mem_append.mp hq with hq | hq
    · exact h.live q (List.mem_cons_of_mem o hq)
    · exact List.mem_singleton.mp hq ▸ hlive
  · simp only [List.mem_cons, List.not_mem_nil, or_false] at hq ⊢
    rcases hq with rfl | rfl | rfl
    · exact .inr hxl
    · exact .inr hyl
    · exact .inl rfl

/-- What `list_append_list` and `list_prepend_list` do after the rings are sewn together. -/
theorem dropHead_ring {f : π} {others : List π} (h : Ring mem (f :: others))
    (hne : others ≠ []) :
    ∃ mem', (do let mem ← listDel f mem; listHeadInit f mem) = some mem' ∧
      Ring mem' others ∧ Ring mem' [f] ∧
      Frame mem mem' (f :: others) := by
  obtain ⟨mem₁, hdel, hothers, hframe₁⟩ := listDel_ring h hne
  have hlive : mem₁.live f = true := by
    rw [hframe₁.live]
    exact h.live f (List.mem_cons_self ..)
  obtain ⟨mem₂, hinit, hhead, hframe₂⟩ := listNodeInit_ring hlive
  have hf : f ∉ others := (List.nodup_cons.mp h.nodup).1
  refine ⟨mem₂, ?_, hothers.of_frame hframe₂ fun q hq hqf => ?_, hhead, ?_⟩
  · rw [hdel]
    exact hinit
  · exact hf (List.mem_singleton.mp hqf ▸ hq)
  · refine (hframe₁.mono ?_).trans (hframe₂.mono ?_)
    · exact List.subset_cons_self f others
    · simp

theorem listAppendList_ring {t f : π} {xs ys : List π} (ht : Ring mem (t :: xs))
    (hf : Ring mem (f :: ys)) (hdisjoint : (t :: xs).Disjoint (f :: ys)) :
    ∃ mem', listAppendList t f mem = some mem' ∧ Ring mem' (t :: xs ++ ys) ∧
      Ring mem' [f] ∧ Frame mem mem' (t :: xs ++ f :: ys) := by
  obtain ⟨x₁, hx₁, hmem₁⟩ := exists_last t xs
  obtain ⟨x₂, hx₂, hmem₂⟩ := exists_last f ys
  have hne : x₂ ≠ x₁ := fun heq => hdisjoint (heq ▸ hmem₁) hmem₂
  have htf : t ≠ f := fun heq => hdisjoint (List.mem_cons_self ..) (heq ▸ List.mem_cons_self ..)
  have hmerged : Ring ((mem.bridge x₁ f).bridge x₂ t) (t :: xs ++ f :: ys) :=
    ht.merge hf hdisjoint hx₁ rfl hx₂ rfl
  have hframe : Frame mem ((mem.bridge x₁ f).bridge x₂ t) (t :: xs ++ f :: ys) := by
    refine (frame_bridge.mono ?_).trans (frame_bridge.mono ?_)
    all_goals
      intro q hq
      simp only [List.mem_cons, List.not_mem_nil, or_false, List.mem_append] at hq hmem₁ hmem₂ ⊢
      grind
  have hrotated : Ring _ (f :: (ys ++ t :: xs)) := hmerged.rotate
  obtain ⟨mem', hdrop, hothers, hhead, hframe'⟩ := dropHead_ring hrotated (by simp)
  refine ⟨mem', ?_, hothers.rotate, hhead, hframe.trans (hframe'.mono fun q hq => ?_)⟩
  · rw [← hdrop]
    simp only [listAppendList, Memory.readPrev, Memory.setNext, Memory.setPrev,
      ht.live t (by simp), ht.live x₁ hmem₁, hf.live f (by simp), hf.live x₂ hmem₂,
      (ht.closed hx₁ rfl).2, (hf.closed hx₂ rfl).2, if_true, Option.bind_eq_bind,
      Option.bind_some, Memory.bridge]
    rw [Function.update_comm hne, Function.update_comm htf]
  · simpa [or_comm, or_assoc, or_left_comm] using hq

theorem listPrependList_ring {t f : π} {xs ys : List π} (ht : Ring mem (t :: xs))
    (hf : Ring mem (f :: ys)) (hdisjoint : (t :: xs).Disjoint (f :: ys)) :
    ∃ mem', listPrependList t f mem = some mem' ∧ Ring mem' (t :: ys ++ xs) ∧
      Ring mem' [f] ∧ Frame mem mem' (t :: xs ++ f :: ys) := by
  obtain ⟨y₁, hy₁, hmem₁⟩ := exists_head xs t
  obtain ⟨x₂, hx₂, hmem₂⟩ := exists_last f ys
  have ht' : Ring mem (xs ++ [t]) := Ring.rotate ht
  have hlast : (xs ++ [t]).getLast? = some t := List.getLast?_concat
  have hdisjoint' : (xs ++ [t]).Disjoint (f :: ys) := by
    intro q hq
    exact hdisjoint (by simpa [or_comm] using hq)
  have hmerged : Ring ((mem.bridge t f).bridge x₂ y₁) (xs ++ [t] ++ f :: ys) :=
    ht'.merge hf hdisjoint' hlast hy₁ hx₂ rfl
  have hframe : Frame mem ((mem.bridge t f).bridge x₂ y₁) (t :: xs ++ f :: ys) := by
    refine (frame_bridge.mono ?_).trans (frame_bridge.mono ?_)
    all_goals
      intro q hq
      simp only [List.mem_cons, List.not_mem_nil, or_false, List.mem_append] at hq hmem₁ hmem₂ ⊢
      grind
  have hrotated : Ring _ (f :: (ys ++ (xs ++ [t]))) := hmerged.rotate
  obtain ⟨mem', hdrop, hothers, hhead, hframe'⟩ := dropHead_ring hrotated (by simp)
  refine ⟨mem', ?_, ?_, hhead, hframe.trans (hframe'.mono fun q hq => ?_)⟩
  · rw [← hdrop]
    simp only [listPrependList, Memory.readPrev, Memory.readNext, Memory.setNext, Memory.setPrev,
      ht.live t (by simp), ht'.live y₁ hmem₁, hf.live f (by simp), hf.live x₂ hmem₂,
      (ht'.closed hlast hy₁).1, (hf.closed hx₂ rfl).2, if_true, Option.bind_eq_bind,
      Option.bind_some, Memory.bridge]
  · rw [← List.append_assoc] at hothers
    exact hothers.rotate
  · simp only [List.mem_cons, List.mem_append, List.not_mem_nil, or_false] at hq ⊢
    grind

theorem listEmpty_ring {h : π} (hring : Ring mem (h :: l)) :
    listEmpty h mem = some l.isEmpty := by
  obtain ⟨y, hy, -⟩ := exists_head l h
  have hrotated : Ring mem (l ++ [h]) := Ring.rotate hring
  have hnext := (hrotated.closed List.getLast?_concat hy).1
  have hh : h ∉ l := (List.nodup_cons.mp hring.nodup).1
  cases l with
  | nil =>
      obtain rfl : h = y := by simpa using hy
      simp [listEmpty, Memory.readNext, hring.live h (by simp), hnext]
  | cons a l =>
      obtain rfl : a = y := by simpa using hy
      have hne : a ≠ h := fun heq => hh (heq ▸ List.mem_cons_self ..)
      simp [listEmpty, Memory.readNext, hring.live h (by simp), hnext, hne]

theorem listTop_ring {h : π} (hring : Ring mem (h :: l)) :
    listTop h mem = some l.head? := by
  rw [listTop, listEmpty_ring hring, hring.readNext]
  cases l <;> rfl

theorem listTail_ring {h : π} (hring : Ring mem (h :: l)) :
    listTail h mem = some l.getLast? := by
  rw [listTail, listEmpty_ring hring, hring.readPrev]
  cases l with
  | nil => rfl
  | cons a l =>
      rw [List.getLast?_cons_cons]
      obtain ⟨x, hx, -⟩ := exists_last a l
      simp [hx]

end OnRings

end Usbutils.Ccan
