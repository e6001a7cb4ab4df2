import Mathlib.Logic.Relation
import Usbutils.Ccan.Refinement

/-! The loops of `list.h` over a list. The body may change the list; what it may do depends on
the loop: `list_for_each_safe` has read the next node before the body runs. -/
namespace Usbutils.Ccan
open Rings

inductive Dir where
  | next
  | prev

variable {π σ : Type}

def Dir.read : Dir → Memory π → π → Option π
  | .next, mem, p => mem.readNext p
  | .prev, mem, p => mem.readPrev p

/-- The arguments of a loop. The variables of the body are a state, which has the memory. -/
structure ForEach (π σ : Type) where
  h : π
  dir : Dir
  memory : σ → Memory π
  body : π → σ → Option σ

namespace ForEach

variable [DecidableEq π]

def follow (loop : ForEach π σ) (s : σ) (p : π) : Option π := loop.dir.read (loop.memory s) p

def turns (loop : ForEach π σ) (i : π) (s : σ) : Option σ :=
  if i = loop.h then some s
  else do
    let s ← loop.body i s
    let i ← loop.follow s i
    loop |>.turns i s
partial_fixpoint

def safeTurns (loop : ForEach π σ) (i nxt : π) (s : σ) : Option σ :=
  if i = loop.h then some s
  else do
    let s ← loop.body i s
    let nxt' ← loop.follow s nxt
    loop |>.safeTurns nxt nxt' s
partial_fixpoint

variable (loop : ForEach π σ)

def listForEachOffDir (s : σ) : Option σ := do
  let i ← loop.follow s loop.h
  loop.turns i s

def listForEachSafeOffDir (s : σ) : Option σ := do
  let i ← loop.follow s loop.h
  let nxt ← loop.follow s i
  loop.safeTurns i nxt s

def logged : ForEach π (σ × List π) where
  h := loop.h
  dir := loop.dir
  memory s := loop.memory s.1
  body i s := (loop.body i s.1).map (·, s.2 ++ [i])

def Turn (t t' : π × σ) : Prop :=
  t.1 ≠ loop.h ∧ loop.body t.1 t.2 = some t'.2 ∧ loop.follow t'.2 t.1 = some t'.1

/-- `list_for_each` comes to the node `i`, and when its link is read behind the body, it is not
allocated. -/
def ReadsFreed (s : σ) (i : π) (s' : σ) : Prop :=
  ∃ first si, loop.follow s loop.h = some first ∧
    Relation.ReflTransGen loop.Turn (first, s) (i, si) ∧
    i ≠ loop.h ∧ loop.body i si = some s' ∧ (loop.memory s').live i = false

/-- From its first node the loop is led through these nodes to the head. -/
def Leads (nodes : List π) (s : σ) : Prop :=
  (nodes ++ [loop.h]).IsChain (fun p q => loop.follow s p = some q) ∧ loop.h ∉ nodes

variable {loop} {nodes : List π} {s : σ} {p : π}

omit [DecidableEq π] in
theorem Leads.first (h : loop.Leads (p :: nodes) s) :
    loop.follow s p = (nodes ++ [loop.h]).head? := by
  cases nodes with
  | nil => exact (List.isChain_cons_cons.mp h.1).1
  | cons q nodes => exact (List.isChain_cons_cons.mp h.1).1

/-- The body may do anything to the current node; it leaves the nodes behind it linked, and does
not free the head. -/
theorem safeTurns_eq {inv : List π → σ → Prop} (hleads : ∀ {nodes s}, inv nodes s → loop.Leads nodes s)
    (hhead : ∀ {nodes s}, inv nodes s → ∃ p, loop.follow s loop.h = some p)
    (hbody : ∀ {i nodes s s'}, inv (i :: nodes) s → loop.body i s = some s' → inv nodes s')
    (h : inv nodes s) {i nxt : π} (hi : (nodes ++ [loop.h]).head? = some i)
    (hnxt : loop.follow s i = some nxt) :
    loop.safeTurns i nxt s = nodes.foldlM (fun s i => loop.body i s) s := by
  induction nodes generalizing s i nxt with
  | nil =>
      obtain rfl : loop.h = i := by simpa using hi
      rw [safeTurns, if_pos rfl]
      rfl
  | cons a nodes ih =>
      obtain rfl : a = i := by simpa using hi
      have hne : a ≠ loop.h := fun heq => (hleads h).2 (heq ▸ List.mem_cons_self ..)
      rw [safeTurns, if_neg hne, List.foldlM_cons]
      cases hrun : loop.body a s with
      | none => rfl
      | some s' =>
          have hinv := hbody h hrun
          have hfirst : (nodes ++ [loop.h]).head? = some nxt := (hleads h).first.symm.trans hnxt
          obtain ⟨nxt', hnxt'⟩ : ∃ nxt', loop.follow s' nxt = some nxt' := by
            cases nodes with
            | nil =>
                obtain rfl : loop.h = nxt := by simpa using hfirst
                exact hhead hinv
            | cons b nodes =>
                obtain rfl : b = nxt := by simpa using hfirst
                obtain ⟨q, hq, -⟩ := exists_head nodes loop.h
                exact ⟨q, (hleads hinv).first.trans hq⟩
          simp only [Option.bind_eq_bind, Option.bind_some, hnxt']
          exact ih hinv hfirst hnxt'

theorem listForEachSafeOffDir_eq {inv : List π → σ → Prop}
    (hleads : ∀ {nodes s}, inv nodes s → loop.Leads nodes s)
    (hhead : ∀ {nodes s}, inv nodes s → ∃ p, loop.follow s loop.h = some p)
    (hbody : ∀ {i nodes s s'}, inv (i :: nodes) s → loop.body i s = some s' → inv nodes s')
    (h : inv nodes s) (hstart : loop.follow s loop.h = (nodes ++ [loop.h]).head?) :
    loop.listForEachSafeOffDir s = nodes.foldlM (fun s i => loop.body i s) s := by
  obtain ⟨i, hi⟩ := hhead h
  have hfirst : (nodes ++ [loop.h]).head? = some i := hstart.symm.trans hi
  obtain ⟨nxt, hnxt⟩ : ∃ nxt, loop.follow s i = some nxt := by
    cases nodes with
    | nil =>
        obtain rfl : loop.h = i := by simpa using hfirst
        exact hhead h
    | cons a nodes =>
        obtain rfl : a = i := by simpa using hfirst
        obtain ⟨q, hq, -⟩ := exists_head nodes loop.h
        exact ⟨q, (hleads h).first.trans hq⟩
  rw [listForEachSafeOffDir, hi]
  simp only [Option.bind_eq_bind, Option.bind_some, hnxt]
  exact safeTurns_eq hleads hhead hbody h hfirst hnxt

omit [DecidableEq π] in
theorem logged_body (i : π) (s : σ) (seen : List π) :
    loop.logged.body i (s, seen) = (loop.body i s).map (·, seen ++ [i]) := rfl

omit [DecidableEq π] in
theorem foldlM_logged (seen : List π) :
    nodes.foldlM (fun s i => loop.logged.body i s) (s, seen) =
      (nodes.foldlM (fun s i => loop.body i s) s).map (·, seen ++ nodes) := by
  induction nodes generalizing s seen with
  | nil => simp
  | cons i nodes ih =>
      rw [List.foldlM_cons, List.foldlM_cons, logged_body]
      cases loop.body i s with
      | none => rfl
      | some s' => simp [ih]

/-- The body is run once for each of the nodes, in their order. -/
theorem listForEachSafeOffDir_logged {inv : List π → σ → Prop}
    (hleads : ∀ {nodes s}, inv nodes s → loop.Leads nodes s)
    (hhead : ∀ {nodes s}, inv nodes s → ∃ p, loop.follow s loop.h = some p)
    (hbody : ∀ {i nodes s s'}, inv (i :: nodes) s → loop.body i s = some s' → inv nodes s')
    (h : inv nodes s) (hstart : loop.follow s loop.h = (nodes ++ [loop.h]).head?) :
    loop.logged.listForEachSafeOffDir (s, []) =
      (loop.listForEachSafeOffDir s).map (·, nodes) := by
  rw [listForEachSafeOffDir_eq hleads hhead hbody h hstart]
  have hlogged := @listForEachSafeOffDir_eq _ _ _ loop.logged nodes (s, [])
    (fun nodes s => inv nodes s.1) (fun hinv => hleads hinv) (fun hinv => hhead hinv)
    (fun hinv hrun => ?_) h hstart
  · exact hlogged.trans (foldlM_logged [])
  · obtain ⟨s', hrun', rfl⟩ := Option.map_eq_some_iff.mp hrun
    exact hbody hinv hrun'

theorem turns_head : loop.turns loop.h s = some s := by
  rw [turns, if_pos rfl]

theorem turns_of_turn {t t' : π × σ} (h : loop.Turn t t') :
    loop.turns t.1 t.2 = loop.turns t'.1 t'.2 := by
  obtain ⟨hne, hrun, hnext⟩ := h
  rw [turns, if_neg hne, hrun]
  simp only [Option.bind_eq_bind, Option.bind_some, hnext]

theorem turns_of_reaches {t t' : π × σ} (h : Relation.ReflTransGen loop.Turn t t') :
    loop.turns t.1 t.2 = loop.turns t'.1 t'.2 := by
  induction h with
  | refl => rfl
  | tail _ hturn ih => exact ih.trans (turns_of_turn hturn)

omit [DecidableEq π] in
theorem follow_freed (h : (loop.memory s).live p = false) : loop.follow s p = none := by
  rw [follow]
  cases loop.dir <;> simp [Dir.read, Memory.readNext, Memory.readPrev, h]

theorem ReadsFreed.result {i : π} {s' : σ} (h : loop.ReadsFreed s i s') :
    loop.listForEachOffDir s = none := by
  obtain ⟨first, si, hfirst, hreach, hne, hrun, hdead⟩ := h
  rw [listForEachOffDir, hfirst]
  simp only [Option.bind_eq_bind, Option.bind_some]
  rw [turns_of_reaches hreach, turns, if_neg hne, hrun]
  simp only [Option.bind_eq_bind, Option.bind_some, follow_freed hdead, Option.bind_none]

omit [DecidableEq π] in
theorem Turn.of_logged {t t' : π × σ × List π} (h : loop.logged.Turn t t') :
    loop.Turn (t.1, t.2.1) (t'.1, t'.2.1) := by
  obtain ⟨hne, hrun, hnext⟩ := h
  obtain ⟨s', hrun', heq⟩ := Option.map_eq_some_iff.mp hrun
  obtain rfl : s' = t'.2.1 := congrArg Prod.fst heq
  exact ⟨hne, hrun', hnext⟩

omit [DecidableEq π] in
theorem reaches_of_logged {t t' : π × σ × List π}
    (h : Relation.ReflTransGen loop.logged.Turn t t') :
    Relation.ReflTransGen loop.Turn (t.1, t.2.1) (t'.1, t'.2.1) := by
  induction h with
  | refl => exact .refl
  | tail _ hturn ih => exact ih.tail hturn.of_logged

omit [DecidableEq π] in
theorem ReadsFreed.of_logged {i : π} {s' : σ} {seen seen' : List π}
    (h : loop.logged.ReadsFreed (s, seen) i (s', seen')) : loop.ReadsFreed s i s' := by
  obtain ⟨first, si, hfirst, hreach, hne, hrun, hdead⟩ := h
  obtain ⟨_, hrun', heq⟩ := Option.map_eq_some_iff.mp hrun
  obtain rfl := congrArg Prod.fst heq
  exact ⟨first, si.1, hfirst, reaches_of_logged hreach, hne, hrun', hdead⟩

end ForEach

def Dir.order {α : Type} : Dir → List α → List α
  | .next, items => items
  | .prev, items => items.reverse

@[simp] theorem Dir.order_order {α : Type} (dir : Dir) (items : List α) :
    dir.order (dir.order items) = items := by
  cases dir <;> simp [Dir.order]

@[simp] theorem Dir.mem_order {α : Type} {dir : Dir} {items : List α} {a : α} :
    a ∈ dir.order items ↔ a ∈ items := by
  cases dir <;> simp [Dir.order]

theorem Dir.filter_order {α : Type} (dir : Dir) (items : List α) (p : α → Bool) :
    (dir.order items).filter p = dir.order (items.filter p) := by
  cases dir <;> simp [Dir.order]

theorem Dir.map_order {α β : Type} (dir : Dir) (items : List α) (f : α → β) :
    (dir.order items).map f = dir.order (items.map f) := by
  cases dir <;> simp [Dir.order]

theorem isChain_ring {π : Type} {mem : Memory π} {h : π} {l : List π} (hring : Ring mem (h :: l))
    (dir : Dir) :
    (h :: (dir.order l ++ [h])).IsChain (fun p q => dir.read mem p = some q) := by
  have hchain := (Cycle.chain_coe_cons ..).mp hring.chain
  have hlive : ∀ p ∈ h :: (l ++ [h]), mem.live p = true := fun p hp => by
    refine hring.live p ?_
    simp only [List.mem_cons, List.mem_append, List.not_mem_nil, or_false] at hp ⊢
    grind
  cases dir with
  | next =>
      refine hchain.imp_of_mem_imp fun p q hp _ hlink => ?_
      rw [Dir.read, Memory.readNext, if_pos (hlive p hp), hlink.1]
  | prev =>
      have hreverse : h :: (l.reverse ++ [h]) = (h :: (l ++ [h])).reverse := by simp
      rw [Dir.order, hreverse, List.isChain_reverse]
      refine hchain.imp_of_mem_imp fun p q _ hq hlink => ?_
      rw [Dir.read, Memory.readPrev, if_pos (hlive q hq), hlink.2]

section Freeing

variable [DecidableEq π] {mem m : Memory π} {h : π} {l nodes : List π} {dir : Dir}

def freeing (h : π) (dir : Dir) : ForEach π (Memory π) := ⟨h, dir, id, fun p mem => mem.free p⟩

/-- What holds when these nodes are left: no link has changed. -/
structure Freeing (mem : Memory π) (l : List π) (dir : Dir) (nodes : List π) (m : Memory π) :
    Prop where
  next : m.next = mem.next
  prev : m.prev = mem.prev
  split : ∃ done, dir.order l = done ++ nodes ∧ m.freed = mem.freed ++ done ∧
    ∀ p, m.live p = (mem.live p && !decide (p ∈ done))

theorem Freeing.live (hring : Ring mem (h :: l)) (hinv : Freeing mem l dir nodes m) {p : π}
    (hp : p = h ∨ p ∈ nodes) : m.live p = true := by
  obtain ⟨done, horder, -, hlive⟩ := hinv.split
  have hnodup : (done ++ nodes).Nodup := by
    have hl := (List.nodup_cons.mp hring.nodup).2
    rw [← horder]
    cases dir with
    | next => exact hl
    | prev => exact List.nodup_reverse.mpr hl
  have hmem : ∀ q, q ∈ done ++ nodes → q ∈ l := fun q hq => Dir.mem_order.mp (horder ▸ hq)
  have hdone : p ∉ done := by
    rcases hp with rfl | hp
    · exact fun hp => (List.nodup_cons.mp hring.nodup).1 (hmem _ (List.mem_append_left _ hp))
    · exact fun hp' => List.disjoint_of_nodup_append hnodup hp' hp
  have hring' : mem.live p = true := by
    refine hring.live p ?_
    rcases hp with rfl | hp
    · exact List.mem_cons_self ..
    · exact List.mem_cons_of_mem h (hmem p (List.mem_append_right _ hp))
  simp [hlive, hring', hdone]

theorem Freeing.leads (hring : Ring mem (h :: l)) (hinv : Freeing mem l dir nodes m) :
    (freeing h dir).Leads nodes m := by
  obtain ⟨done, horder, -, -⟩ := hinv.split
  have hchain := isChain_ring hring dir
  rw [horder, List.append_assoc] at hchain
  refine ⟨?_, fun hmem => ?_⟩
  · refine (List.isChain_append.mp hchain.of_cons).2.1.imp_of_mem_imp fun p q hp _ hread => ?_
    have hlive := hinv.live hring (p := p) (by simpa [or_comm, freeing] using hp)
    have hlive' : mem.live p = true := by
      obtain ⟨_, -, -, hlives⟩ := hinv.split
      rw [hlives] at hlive
      exact (Bool.and_eq_true_iff.mp hlive).1
    cases dir with
    | next =>
        simp only [Dir.read, Memory.readNext, hlive', if_true] at hread
        simp [ForEach.follow, freeing, Dir.read, Memory.readNext, hlive, hinv.next, hread]
    | prev =>
        simp only [Dir.read, Memory.readPrev, hlive', if_true] at hread
        simp [ForEach.follow, freeing, Dir.read, Memory.readPrev, hlive, hinv.prev, hread]
  · have horder' : h ∈ dir.order l := horder ▸ List.mem_append_right _ hmem
    exact (List.nodup_cons.mp hring.nodup).1 (Dir.mem_order.mp horder')

theorem Freeing.fromHead (hring : Ring mem (h :: l)) (hinv : Freeing mem l dir nodes m) :
    (freeing h dir).follow m h = ((dir.order l) ++ [h]).head? := by
  obtain ⟨q, hq, -⟩ := exists_head (dir.order l) h
  have hread := (List.isChain_cons.mp (isChain_ring hring dir)).1 q hq
  have hlive := hinv.live hring (.inl rfl)
  have hlive' := hring.live h (List.mem_cons_self ..)
  rw [hq]
  cases dir with
  | next =>
      simp only [Dir.read, Memory.readNext, hlive', if_true] at hread
      simp [ForEach.follow, freeing, Dir.read, Memory.readNext, hlive, hinv.next, hread]
  | prev =>
      simp only [Dir.read, Memory.readPrev, hlive', if_true] at hread
      simp [ForEach.follow, freeing, Dir.read, Memory.readPrev, hlive, hinv.prev, hread]

theorem Freeing.turn {i : π} (hring : Ring mem (h :: l))
    (hinv : Freeing mem l dir (i :: nodes) m) :
    ∃ m', m.free i = some m' ∧ Freeing mem l dir nodes m' := by
  obtain ⟨done, horder, hfreed, hlive⟩ := hinv.split
  have hi := hinv.live hring (.inr (List.mem_cons_self ..))
  refine ⟨_, if_pos hi, hinv.next, hinv.prev, done ++ [i], by simp [horder], by simp [hfreed],
    fun p => ?_⟩
  by_cases hp : p = i
  · simp [hp]
  · simp [hp, hlive]

/-- `list_for_each_safe` frees every node of the list, and nothing else; no freed node is read. -/
theorem listForEachSafe_freeing (hring : Ring mem (h :: l)) (dir : Dir) :
    ∃ mem', (freeing h dir).listForEachSafeOffDir mem = some mem' ∧
      mem'.freed = mem.freed ++ dir.order l ∧ mem'.next = mem.next ∧ mem'.prev = mem.prev ∧
      ∀ p, mem'.live p = (mem.live p && !decide (p ∈ l)) := by
  have hstart : Freeing mem l dir (dir.order l) mem := ⟨rfl, rfl, [], rfl, by simp, by simp⟩
  have hfold : ∀ {nodes m}, Freeing mem l dir nodes m →
      ∃ m', nodes.foldlM (fun m i => m.free i) m = some m' ∧ Freeing mem l dir [] m' := by
    intro nodes
    induction nodes with
    | nil => exact fun hinv => ⟨_, rfl, hinv⟩
    | cons i nodes ih =>
        intro m hinv
        obtain ⟨m₁, hfree, hinv₁⟩ := hinv.turn hring
        obtain ⟨m', hrest, hinv'⟩ := ih hinv₁
        refine ⟨m', ?_, hinv'⟩
        rw [List.foldlM_cons, hfree]
        exact hrest
  obtain ⟨mem', hrun, hinv⟩ := hfold hstart
  obtain ⟨done, horder, hfreed, hlive⟩ := hinv.split
  rw [List.append_nil] at horder
  subst horder
  refine ⟨mem', ?_, hfreed, hinv.next, hinv.prev, fun p => ?_⟩
  · refine Eq.trans ?_ hrun
    refine @ForEach.listForEachSafeOffDir_eq _ _ _ (freeing h dir) _ _ _ (fun hinv => hinv.leads hring)
      (fun hinv => ?_) (fun hinv hbody => ?_) hstart (hstart.fromHead hring)
    · obtain ⟨q, hq, -⟩ := exists_head (dir.order l) h
      exact ⟨q, (hinv.fromHead hring).trans hq⟩
    · obtain ⟨m', hfree, hinv'⟩ := hinv.turn hring
      obtain rfl := Option.some.inj (hfree.symm.trans hbody)
      exact hinv'
  · rw [hlive]
    simp

end Freeing

section Deleting

variable {head entry : Type} [DecidableEq head]

variable {mem m : ListMemory head entry} {s : Lists head entry} {h : head} {dir : Dir}
  {keep : entry → Bool} {nodes : List (ListNode head entry)}

/-- The lists once the loop is through with the entries `done` of the list. -/
def Lists.swept (s : Lists head entry) (h : head) (dir : Dir) (keep : entry → Bool)
    (done rest : List entry) : Lists head entry where
  items := Function.update s.items h (dir.order (done.filter keep ++ rest))
  resting := s.resting
  allocated := s.allocated \ {e | e ∈ done ∧ keep e = false}

/-- What holds when these nodes are left. -/
def Sweeping (mem : ListMemory head entry) (s : Lists head entry) (h : head) (dir : Dir)
    (keep : entry → Bool) (nodes : List (ListNode head entry)) (m : ListMemory head entry) : Prop :=
  ∃ done rest, nodes = rest.map .entry ∧ dir.order (s.items h) = done ++ rest ∧
    Represents m (s.swept h dir keep done rest) ∧
    m.freed = mem.freed ++ (done.filter (!keep ·)).map .entry

theorem Sweeping.start (hrep : Represents mem s) :
    Sweeping mem s h dir keep ((dir.order (s.items h)).map .entry) mem := by
  refine ⟨[], _, rfl, rfl, ?_, by simp⟩
  have hswept : s.swept h dir keep [] (dir.order (s.items h)) = s := by
    simp [Lists.swept]
  rwa [hswept]

variable [DecidableEq entry]

def deleteUnless (keep : entry → Bool) :
    ListNode head entry → ListMemory head entry → Option (ListMemory head entry)
  | .head _, mem => some mem
  | .entry e, mem =>
      if keep e then some mem
      else do
        let mem ← listDel (.entry e) mem
        mem.free (.entry e)

def deleting (keep : entry → Bool) (h : head) (dir : Dir) :
    ForEach (ListNode head entry) (ListMemory head entry) :=
  ⟨.head h, dir, id, deleteUnless keep⟩

theorem Sweeping.leads (hinv : Sweeping mem s h dir keep nodes m) :
    (deleting keep h dir).Leads nodes m := by
  obtain ⟨done, rest, rfl, -, hrep, -⟩ := hinv
  have hchain := isChain_ring (hrep.ring h) dir
  simp only [Lists.swept, Function.update_self, ← Dir.map_order, Dir.order_order, List.map_append,
    List.append_assoc] at hchain
  refine ⟨?_, by simp [deleting]⟩
  exact (List.isChain_append.mp hchain.of_cons).2.1

theorem Sweeping.fromHead (hinv : Sweeping mem s h dir keep nodes m) :
    ∃ p, (deleting keep h dir).follow m (.head h) = some p := by
  obtain ⟨done, rest, -, -, hrep, -⟩ := hinv
  have hchain := isChain_ring (hrep.ring h) dir
  obtain ⟨q, hq, -⟩ := exists_head
    (dir.order (((s.swept h dir keep done rest).items h).map ListNode.entry)) (ListNode.head h)
  exact ⟨q, (List.isChain_cons.mp hchain).1 q hq⟩

theorem Sweeping.turn {i : ListNode head entry} (hrep₀ : Represents mem s)
    (hinv : Sweeping mem s h dir keep (i :: nodes) m) :
    ∃ e m', i = .entry e ∧ e ∈ s.items h ∧ deleteUnless keep i m = some m' ∧
      Sweeping mem s h dir keep nodes m' ∧ (keep e = true → m' = m) ∧
      (keep e = false → m'.live i = false) := by
  obtain ⟨done, rest, hnodes, horder, hrep, hfreed⟩ := hinv
  obtain ⟨e, rest, rfl⟩ : ∃ e rest', rest = e :: rest' := by
    cases rest with
    | nil => cases hnodes
    | cons e rest => exact ⟨e, rest, rfl⟩
  obtain ⟨rfl, rfl⟩ := List.cons.inj hnodes
  have horder' : dir.order (s.items h) = (done ++ [e]) ++ rest := by simp [horder]
  have he : e ∈ s.items h := by
    have hmem : e ∈ dir.order (s.items h) := by simp [horder]
    exact Dir.mem_order.mp hmem
  cases hkeep : keep e with
  | true =>
      have hswept : s.swept h dir keep (done ++ [e]) rest = s.swept h dir keep done (e :: rest) := by
        have hset : {x | x ∈ done ++ [e] ∧ keep x = false} = {x | x ∈ done ∧ keep x = false} := by
          ext x
          simp only [List.mem_append, List.mem_singleton, Set.mem_ofPred_eq]
          grind
        rw [Lists.swept, hset, List.filter_append]
        simp [Lists.swept, hkeep]
      refine ⟨e, m, rfl, he, by simp [deleteUnless, hkeep],
        ⟨done ++ [e], rest, rfl, horder', hswept ▸ hrep, ?_⟩, fun _ => rfl,
        fun h => absurd (hkeep.symm.trans h) (by decide)⟩
      simp [hfreed, hkeep]
  | false =>
      have hmem : e ∈ (s.swept h dir keep done (e :: rest)).items h := by simp [Lists.swept]
      obtain ⟨m₁, hdel, hrep₁⟩ := hrep.listDel hmem
      have hloose : (Lists.delete (s.swept h dir keep done (e :: rest)) e).Loose e :=
        ⟨hrep.placed hmem, fun h' hmem' => by simp [Lists.delete] at hmem'⟩
      obtain ⟨m₂, hfree, hrep₂⟩ := hrep₁.free hloose
      obtain ⟨hdead, hfreed₂⟩ := Memory.free_keeps hfree
      have hnodup : (done ++ e :: rest).Nodup := by
        rw [← horder]
        cases dir with
        | next => exact hrep₀.nodup h
        | prev => exact List.nodup_reverse.mpr (hrep₀.nodup h)
      have hswept : Lists.swept s h dir keep (done ++ [e]) rest =
          { Lists.delete (s.swept h dir keep done (e :: rest)) e with
            resting := s.resting \ {e}
            allocated := (s.allocated \ {x | x ∈ done ∧ keep x = false}) \ {e} } := by
        rw [hrep.delete_eq hmem]
        simp only [Lists.swept, Function.update_self, Function.update_idem, Lists.mk.injEq]
        refine ⟨?_, ?_, ?_⟩
        · have hfilter : (done.filter keep ++ e :: rest).filter (· ≠ e) = done.filter keep ++ rest := by
            rw [List.nodup_middle, List.nodup_cons, List.mem_append, not_or] at hnodup
            rw [List.filter_append, List.filter_cons_of_neg (by simp),
              filter_ne_self fun h => hnodup.1.1 (List.mem_of_mem_filter h),
              filter_ne_self hnodup.1.2]
          rw [Dir.filter_order, hfilter]
          simp [hkeep]
        · rw [Set.sdiff_singleton_eq_self (hrep₀.apart he)]
        · ext x
          simp only [Set.mem_sdiff, Set.mem_ofPred_eq, List.mem_append, List.mem_singleton,
            Set.mem_singleton_iff]
          grind
      refine ⟨e, m₂, rfl, he, ?_, ⟨done ++ [e], rest, rfl, horder', hswept ▸ hrep₂, ?_⟩,
        fun h => absurd (hkeep.symm.trans h) (by decide), fun _ => ?_⟩
      · simp [deleteUnless, hkeep, hdel, hfree]
      · simp [hfreed₂, (listDel_keeps hdel).2, hfreed, hkeep]
      · simp [hdead]

theorem foldlM_sweeping (hrep : Represents mem s) (hinv : Sweeping mem s h dir keep nodes m) :
    ∃ m', nodes.foldlM (fun m i => deleteUnless keep i m) m = some m' ∧
      Sweeping mem s h dir keep [] m' := by
  induction nodes generalizing m with
  | nil => exact ⟨m, rfl, hinv⟩
  | cons i nodes ih =>
      obtain ⟨e, m₁, -, -, hrun, hinv₁, -, -⟩ := hinv.turn hrep
      obtain ⟨m', hrest, hinv'⟩ := ih hinv₁
      refine ⟨m', ?_, hinv'⟩
      rw [List.foldlM_cons, hrun]
      exact hrest

theorem reaches_kept (hrep : Represents mem s) {kept : List entry} (rest : List entry)
    (hkept : ∀ e ∈ kept, keep e = true)
    (hinv : Sweeping mem s h dir keep ((kept ++ rest).map .entry) m) {i : ListNode head entry}
    (hi : ((kept ++ rest).map ListNode.entry ++ [ListNode.head h]).head? = some i)
    (seen : List (ListNode head entry)) :
    ∃ i', (rest.map ListNode.entry ++ [ListNode.head h]).head? = some i' ∧
      Relation.ReflTransGen (deleting keep h dir).logged.Turn (i, m, seen)
        (i', m, seen ++ kept.map .entry) ∧ Sweeping mem s h dir keep (rest.map .entry) m := by
  induction kept generalizing i seen with
  | nil => exact ⟨i, hi, by simpa using Relation.ReflTransGen.refl, hinv⟩
  | cons e kept ih =>
      obtain rfl : .entry e = i := by simpa using hi
      obtain ⟨e', m', he', -, hrun, hinv', hsame, -⟩ := hinv.turn hrep
      obtain rfl := ListNode.entry.inj he'
      obtain rfl := hsame (hkept e (List.mem_cons_self ..))
      obtain ⟨q, hq, -⟩ := exists_head ((kept ++ rest).map ListNode.entry) (ListNode.head h)
      have hturn : (deleting keep h dir).logged.Turn (.entry e, m', seen)
          (q, m', seen ++ [.entry e]) :=
        ⟨by simp [deleting, ForEach.logged], by simp [deleting, ForEach.logged, hrun],
          hinv.leads.first.trans hq⟩
      obtain ⟨i', hi', hreach, hend⟩ := ih (fun e he => hkept e (List.mem_cons_of_mem _ he)) hinv'
        hq (seen ++ [.entry e])
      refine ⟨i', hi', Relation.ReflTransGen.head hturn ?_, hend⟩
      simpa using hreach

theorem follow_deleting (hrep : Represents mem s) : (deleting keep h dir).follow mem (.head h) =
    ((dir.order (s.items h)).map ListNode.entry ++ [ListNode.head h]).head? := by
  have hchain := isChain_ring (hrep.ring h) dir
  rw [← Dir.map_order] at hchain
  obtain ⟨q, hq, -⟩ := exists_head ((dir.order (s.items h)).map ListNode.entry) (ListNode.head h)
  rw [hq]
  exact (List.isChain_cons.mp hchain).1 q hq

theorem listForEachSafe_deleting (hrep : Represents mem s) (h : head) (dir : Dir)
    (keep : entry → Bool) :
    ∃ mem', (deleting keep h dir).listForEachSafeOffDir mem = some mem' ∧
      (deleting keep h dir).logged.listForEachSafeOffDir (mem, []) =
        some (mem', (dir.order (s.items h)).map .entry) ∧
      Represents mem'
        { s with
          items := Function.update s.items h ((s.items h).filter keep)
          allocated := s.allocated \ {e | e ∈ s.items h ∧ keep e = false} } ∧
      mem'.freed = mem.freed ++ ((dir.order (s.items h)).filter (!keep ·)).map .entry := by
  have hinv : Sweeping mem s h dir keep ((dir.order (s.items h)).map .entry) mem := .start hrep
  have hbody {i nodes m m'} (hinv : Sweeping mem s h dir keep (i :: nodes) m)
      (hrun : (deleting keep h dir).body i m = some m') : Sweeping mem s h dir keep nodes m' := by
    obtain ⟨e, m', rfl, -, hrun', hinv', -, -⟩ := hinv.turn hrep
    obtain rfl := Option.some.inj (hrun'.symm.trans hrun)
    exact hinv'
  obtain ⟨mem', hfold, done, rest, hnodes, horder, hrep', hfreed⟩ := foldlM_sweeping hrep hinv
  obtain rfl : rest = [] := by simpa using hnodes.symm
  rw [List.append_nil] at horder
  have hsafe : (deleting keep h dir).listForEachSafeOffDir mem = some mem' :=
    (ForEach.listForEachSafeOffDir_eq (fun hinv => hinv.leads) (fun hinv => hinv.fromHead)
      hbody hinv (follow_deleting hrep)).trans hfold
  have hlogged := ForEach.listForEachSafeOffDir_logged (fun hinv => hinv.leads)
    (fun hinv => hinv.fromHead) hbody hinv (follow_deleting hrep)
  refine ⟨mem', hsafe, ?_, ?_, horder ▸ hfreed⟩
  · rw [hlogged, hsafe]
    rfl
  · have hswept : s.swept h dir keep done [] =
        { s with
          items := Function.update s.items h ((s.items h).filter keep)
          allocated := s.allocated \ {e | e ∈ s.items h ∧ keep e = false} } := by
      simp only [Lists.swept, List.append_nil, ← horder, Dir.filter_order, Dir.order_order,
        Dir.mem_order]
    rwa [← hswept]

/-- The first entry that is deleted is where the loop reads a freed node; without one the loop
ends. -/
theorem listForEach_deleting (hrep : Represents mem s) {kept rest : List entry}
    (hsplit : dir.order (s.items h) = kept ++ rest) (hkept : ∀ e ∈ kept, keep e = true) :
    (rest = [] → (deleting keep h dir).listForEachOffDir mem = some mem ∧
      (deleting keep h dir).logged.listForEachOffDir (mem, []) =
        some (mem, kept.map .entry)) ∧
    ∀ e behind, rest = e :: behind → keep e = false →
      ∃ mem', (deleting keep h dir).logged.ReadsFreed (mem, []) (.entry e)
        (mem', (kept ++ [e]).map .entry) := by
  have hstart : Sweeping mem s h dir keep ((kept ++ rest).map .entry) mem :=
    hsplit ▸ Sweeping.start hrep
  obtain ⟨i, hi⟩ := hstart.fromHead
  have hfirst := (follow_deleting hrep).symm.trans hi
  rw [hsplit] at hfirst
  obtain ⟨i', hi', hreach, hinv⟩ := reaches_kept hrep rest hkept hstart hfirst []
  have hfollow : (deleting keep h dir).logged.follow (mem, [])
    (deleting keep h dir).logged.h = some i := hi
  constructor
  · rintro rfl
    obtain rfl : ListNode.head h = i' := by simpa using hi'
    constructor
    · have hplain : (deleting keep h dir).follow mem (deleting keep h dir).h = some i := hi
      rw [ForEach.listForEachOffDir, hplain]
      exact (ForEach.turns_of_reaches (ForEach.reaches_of_logged hreach)).trans
        ForEach.turns_head
    · rw [ForEach.listForEachOffDir, hfollow]
      exact (ForEach.turns_of_reaches hreach).trans ForEach.turns_head
  · rintro e behind rfl hdeleted
    obtain rfl : .entry e = i' := by simpa using hi'
    obtain ⟨e', mem', he', -, hrun, -, -, hdead⟩ := hinv.turn hrep
    obtain rfl := ListNode.entry.inj he'
    exact ⟨mem', i, _, hfollow, hreach, by simp [deleting, ForEach.logged],
      by simp [deleting, ForEach.logged, hrun], hdead hdeleted⟩

/-- `list_for_each_safe` meets every entry once, also when the body deletes and frees it: what is
to be kept is left, in its order, and the others are freed in the order of the loop. With
`list_for_each` the first deletion makes the loop read a freed node. -/
theorem forEach_deleting (hrep : Represents mem s) (h : head) (dir : Dir) (keep : entry → Bool) :
    (∃ mem', (deleting keep h dir).listForEachSafeOffDir mem = some mem' ∧
      (deleting keep h dir).logged.listForEachSafeOffDir (mem, []) =
        some (mem', (dir.order (s.items h)).map .entry) ∧
      Represents mem'
        { s with
          items := Function.update s.items h ((s.items h).filter keep)
          allocated := s.allocated \ {e | e ∈ s.items h ∧ keep e = false} } ∧
      mem'.freed = mem.freed ++ ((dir.order (s.items h)).filter (!keep ·)).map .entry) ∧
    if (s.items h).all keep then
      (deleting keep h dir).listForEachOffDir mem = some mem ∧
      (deleting keep h dir).logged.listForEachOffDir (mem, []) =
        some (mem, (dir.order (s.items h)).map .entry)
    else
      (deleting keep h dir).listForEachOffDir mem = none ∧
      ∃ kept e rest mem', dir.order (s.items h) = kept ++ e :: rest ∧
        (∀ e ∈ kept, keep e = true) ∧ keep e = false ∧
        (deleting keep h dir).logged.ReadsFreed (mem, []) (.entry e)
          (mem', (kept ++ [e]).map .entry) := by
  refine ⟨listForEachSafe_deleting hrep h dir keep, ?_⟩
  have hall : (dir.order (s.items h)).all keep = (s.items h).all keep := by
    cases dir <;> simp [Dir.order]
  split
  case isTrue hkeep =>
    have hkept : ∀ e ∈ dir.order (s.items h), keep e = true :=
      List.all_eq_true.mp (hall.trans hkeep)
    exact (listForEach_deleting hrep (List.append_nil _).symm hkept).1 rfl
  case isFalse hkeep =>
    rw [← hall, Bool.not_eq_true, List.all_eq_false] at hkeep
    obtain ⟨e, he⟩ : ∃ e, (dir.order (s.items h)).find? (!keep ·) = some e := by
      rw [← Option.isSome_iff_exists, List.find?_isSome]
      simpa using hkeep
    obtain ⟨hdeleted, kept, rest, hsplit, hkept⟩ := List.find?_eq_some_iff_append.mp he
    rw [Bool.not_eq_true'] at hdeleted
    have hkept : ∀ e ∈ kept, keep e = true := by simpa using hkept
    obtain ⟨mem', hfreed⟩ := (listForEach_deleting hrep hsplit hkept).2 e rest rfl hdeleted
    exact ⟨hfreed.of_logged.result, kept, e, rest, mem', hsplit, hkept, hdeleted, hfreed⟩

theorem forEach_deleting_second :
    ∃ (mem mem' : ListMemory Unit Nat) (s : Lists Unit Nat), s.items () = [1, 2, 3] ∧
      (deleting (· != 2) () .next).logged.listForEachSafeOffDir (mem, []) =
        some (mem', [.entry 1, .entry 2, .entry 3]) ∧
      mem'.freed = mem.freed ++ [.entry 2] ∧
      (deleting (· != 2) () .next).listForEachOffDir mem = none := by
  obtain ⟨mem, -, hrep⟩ := @runAll_represents Unit Nat _ _
    [.malloc 1, .malloc 2, .malloc 3, .addTail () 1, .addTail () 2, .addTail () 3] _ _
    represents_initial (by simp [Lists.AllAllowed, Lists.Allowed, Lists.apply, Lists.Loose, Lists.initial,
      Lists.itemsAddedBefore])
  have hitems : ((Lists.initial Unit Nat).applyAll [.malloc 1, .malloc 2, .malloc 3,
      .addTail () 1, .addTail () 2, .addTail () 3]).items () = [1, 2, 3] := by
    simp [Lists.applyAll, Lists.apply, Lists.initial, Lists.itemsAddedBefore]
  obtain ⟨⟨mem', -, hsafe, -, hfreed⟩, hplain⟩ := forEach_deleting hrep () .next (· != 2)
  rw [hitems] at hsafe hfreed hplain
  exact ⟨mem, mem', _, hitems, hsafe, hfreed, hplain.1⟩

end Deleting

end Usbutils.Ccan
