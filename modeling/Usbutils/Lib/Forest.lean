import Usbutils.Lib.Linked

/-! Forests in a memory of pointer cells: each node has a cell for the first of its
children and a cell for its next sibling. -/
namespace Linked

/-- The cells of a forest: the heads of whole forests, and two cells for each node. -/
inductive Cell (root node : Type) where
  | root (r : root)
  | child (i : node)
  | next (i : node)
  deriving DecidableEq

/-- A node with the forest below it, and the siblings behind it. -/
inductive Forest (node : Type) where
  | nil
  | cons (i : node) (kids rest : Forest node)

namespace Forest

variable {root node : Type}

def nodes : Forest node → List node
  | nil => []
  | cons i kids rest => i :: (kids.nodes ++ rest.nodes)

def roots : Forest node → List node
  | nil => []
  | cons i _ rest => i :: rest.roots

def siblings : Forest node → List (node × Forest node)
  | nil => []
  | cons i kids rest => (i, kids) :: rest.siblings

def Inside (f : Forest node) : Cell root node → Prop
  | .root _ => False
  | .child i => i ∈ f.nodes
  | .next i => i ∈ f.nodes

/-- From the cell on, the pointers make up the forest. -/
def Holds (mem : Links (Cell root node) node) : Cell root node → Forest node → Prop
  | cell, nil => mem cell = none
  | cell, cons i kids rest =>
      mem cell = some i ∧ Holds mem (.child i) kids ∧ Holds mem (.next i) rest

variable {mem mem' : Links (Cell root node) node} {cell c : Cell root node} {f kids rest : Forest node}
  {i : node}

@[simp] theorem holds_nil : Holds mem cell nil ↔ mem cell = none := Iff.rfl

@[simp] theorem holds_cons : Holds mem cell (cons i kids rest) ↔
    mem cell = some i ∧ Holds mem (.child i) kids ∧ Holds mem (.next i) rest := Iff.rfl

theorem Inside.of_perm {f' : Forest node} (hperm : f'.nodes.Perm f.nodes) (h : f'.Inside c) :
    f.Inside c := by
  cases c with
  | root r => exact h
  | child i => exact hperm.subset h
  | next i => exact hperm.subset h

theorem Inside.of_kids (h : kids.Inside c) : (cons i kids rest).Inside c := by
  cases c with
  | root r => exact h
  | child j => exact List.mem_cons_of_mem i (List.mem_append_left _ h)
  | next j => exact List.mem_cons_of_mem i (List.mem_append_left _ h)

theorem Inside.of_rest (h : rest.Inside c) : (cons i kids rest).Inside c := by
  cases c with
  | root r => exact h
  | child j => exact List.mem_cons_of_mem i (List.mem_append_right _ h)
  | next j => exact List.mem_cons_of_mem i (List.mem_append_right _ h)

theorem inside_child : (cons i kids rest).Inside (.child i : Cell root node) :=
  List.mem_cons_self ..

theorem inside_next : (cons i kids rest).Inside (.next i : Cell root node) :=
  List.mem_cons_self ..

theorem Holds.of_agree {cell' : Cell root node} (h : Holds mem cell f)
    (hcell : mem' cell' = mem cell) (hagree : ∀ c, f.Inside c → mem' c = mem c) :
    Holds mem' cell' f := by
  induction f generalizing cell cell' with
  | nil => exact hcell.trans h
  | cons i kids rest ihkids ihrest =>
      refine ⟨hcell.trans h.1, ?_, ?_⟩
      · exact ihkids h.2.1 (hagree _ inside_child) fun c hc => hagree c hc.of_kids
      · exact ihrest h.2.2 (hagree _ inside_next) fun c hc => hagree c hc.of_rest

theorem Holds.chain (h : Holds mem cell f) : Chain .next mem cell f.roots := by
  induction f generalizing cell with
  | nil => exact h
  | cons i kids rest _ ih => exact ⟨h.1, ih h.2.2⟩

theorem Holds.below (h : Holds mem cell f) : ∀ s ∈ f.siblings, Holds mem (.child s.1) s.2 := by
  induction f generalizing cell with
  | nil => nofun
  | cons i kids rest _ ih => exact List.forall_mem_cons.mpr ⟨h.2.1, ih h.2.2⟩

/-- Exchanging two neighbours with all that is below them. -/
theorem holds_exchange [DecidableEq root] [DecidableEq node] {p t : node} {below : Forest node}
    (h : Holds mem cell (cons p kids (cons t below rest)))
    (hnodes : (cons p kids (cons t below rest)).nodes.Nodup)
    (hcell : ¬(cons p kids (cons t below rest)).Inside cell) :
    Holds (exchange .next mem cell p t) cell (cons t below (cons p kids rest)) := by
  obtain ⟨hp, hkids, ht, hbelow, hrest⟩ := h
  simp only [nodes, List.nodup_cons, List.mem_append, List.mem_cons, not_or, List.nodup_append] at hnodes
  obtain ⟨⟨hpkids, hpt, hpbelow, hprest⟩, -, ⟨⟨htbelow, htrest⟩, -⟩, hdisj⟩ := hnodes
  have hcellp : cell ≠ .next p := by
    rintro rfl
    exact hcell inside_next
  have hcellt : cell ≠ .next t := by
    rintro rfl
    exact hcell (Inside.of_rest inside_next)
  -- the exchange writes no cell of the forests below and behind
  have hagree : ∀ (f : Forest node) c, (∀ j ∈ f.nodes, j ≠ p ∧ j ≠ t) →
      (f.Inside c → (cons p kids (cons t below rest)).Inside c) → f.Inside c →
      exchange .next mem cell p t c = mem c := by
    intro f c hne hsub hin
    apply exchange_of_ne
    · rintro rfl
      exact hcell (hsub hin)
    · rintro rfl
      exact (hne p hin).1 rfl
    · rintro rfl
      exact (hne t hin).2 rfl
  have hchild : ∀ j, (cons p kids (cons t below rest)).Inside (.child j : Cell root node) →
      exchange .next mem cell p t (.child j) = mem (.child j) := by
    intro j hj
    apply exchange_of_ne _ (by simp) (by simp)
    rintro rfl
    exact hcell hj
  have hfirst : exchange .next mem cell p t cell = some t := Function.update_self ..
  have hsecond : exchange .next mem cell p t (.next t) = some p := by
    simp [exchange, hcellt.symm]
  have hthird : exchange .next mem cell p t (.next p) = mem (.next t) := by
    simp [exchange, hcellp.symm, hpt]
  refine ⟨hfirst, ?_, hsecond, ?_, ?_⟩
  · apply hbelow.of_agree (hchild t (Inside.of_rest inside_child))
    intro c hc
    apply hagree below c _ (fun h => h.of_kids.of_rest) hc
    exact fun j hj => ⟨fun h => hpbelow (h ▸ hj), fun h => htbelow (h ▸ hj)⟩
  · apply hkids.of_agree (hchild p inside_child)
    intro c hc
    apply hagree kids c _ (fun h => h.of_kids) hc
    exact fun j hj => ⟨fun h => hpkids (h ▸ hj), hdisj j hj t (.inl rfl)⟩
  · apply hrest.of_agree hthird
    intro c hc
    apply hagree rest c _ (fun h => h.of_rest.of_rest) hc
    exact fun j hj => ⟨fun h => hprest (h ▸ hj), fun h => htrest (h ▸ hj)⟩

section Sorting

variable {β : Type} [LinearOrder β] (key : node → β)

def insert (i : node) (kids : Forest node) : Forest node → Forest node
  | nil => cons i kids nil
  | cons j below rest =>
      if key j < key i then cons j below (insert i kids rest) else cons i kids (cons j below rest)

def sorted : Forest node → Forest node
  | nil => nil
  | cons i kids rest => insert key i kids.sorted rest.sorted

def Ascending : Forest node → Prop
  | nil => True
  | cons i kids rest => Ascending kids ∧ Ascending rest ∧ ∀ j ∈ rest.roots, key i ≤ key j

theorem nodes_insert (i : node) (kids f : Forest node) :
    (insert key i kids f).nodes.Perm (i :: (kids.nodes ++ f.nodes)) := by
  induction f with
  | nil => exact List.Perm.refl _
  | cons j below rest _ ih =>
      unfold insert
      split
      · apply ((ih.append_left below.nodes).cons j).trans
        exact List.perm_append_comm_assoc (j :: below.nodes) (i :: kids.nodes) rest.nodes
      · exact List.Perm.refl _

theorem roots_insert (i : node) (kids f : Forest node) :
    (insert key i kids f).roots.Perm (i :: f.roots) := by
  induction f with
  | nil => exact List.Perm.refl _
  | cons j below rest _ ih =>
      unfold insert
      split
      · exact (ih.cons j).trans (List.Perm.swap ..)
      · exact List.Perm.refl _

theorem nodes_sorted (f : Forest node) : (f.sorted key).nodes.Perm f.nodes := by
  induction f with
  | nil => exact List.Perm.refl _
  | cons i kids rest ihkids ihrest =>
      exact (nodes_insert key i _ _).trans ((ihkids.append ihrest).cons i)

theorem ascending_insert (i : node) {kids f : Forest node} (hkids : Ascending key kids)
    (hf : Ascending key f) : Ascending key (insert key i kids f) := by
  induction f with
  | nil => exact ⟨hkids, trivial, fun _ h => nomatch h⟩
  | cons j below rest _ ih =>
      unfold insert
      split
      case isTrue h =>
        refine ⟨hf.1, ih hf.2.1, fun k hk => ?_⟩
        rcases List.mem_cons.mp ((roots_insert key i kids rest).subset hk) with rfl | hk
        · exact h.le
        · exact hf.2.2 k hk
      case isFalse h =>
        refine ⟨hkids, hf, fun k hk => ?_⟩
        rcases List.mem_cons.mp hk with rfl | hk
        · exact not_lt.mp h
        · exact (not_lt.mp h).trans (hf.2.2 k hk)

theorem ascending_sorted (f : Forest node) : Ascending key (f.sorted key) := by
  induction f with
  | nil => trivial
  | cons i kids rest ihkids ihrest => exact ascending_insert key i ihkids ihrest

theorem insert_of_ascending (h : Ascending key (cons i kids rest)) :
    insert key i kids rest = cons i kids rest := by
  cases rest with
  | nil => rfl
  | cons j below rest => exact if_neg (not_lt.mpr (h.2.2 j (List.mem_cons_self ..)))

theorem sorted_of_ascending (h : Ascending key f) : f.sorted key = f := by
  induction f with
  | nil => rfl
  | cons i kids rest ihkids ihrest =>
      rw [sorted, ihkids h.1, ihrest h.2.1, insert_of_ascending key h]

theorem siblings_insert (i : node) (kids f : Forest node) :
    (insert key i kids f).siblings =
      f.siblings.orderedInsert (fun a b => key a.1 ≤ key b.1) (i, kids) := by
  induction f with
  | nil => rfl
  | cons j below rest _ ih =>
      rw [insert, siblings, List.orderedInsert_cons]
      by_cases hlt : key j < key i
      · rw [if_pos hlt, if_neg (not_le.mpr hlt), siblings, ih]
      · rw [if_neg hlt, if_pos (not_lt.mp hlt), siblings, siblings]

/-- Sorting a forest sorts its siblings, with the forest below each of them sorted. -/
theorem siblings_sorted (f : Forest node) :
    (f.sorted key).siblings =
      Bubble.byKey (fun s => key s.1) (f.siblings.map fun s => (s.1, s.2.sorted key)) := by
  induction f with
  | nil => rfl
  | cons i kids rest _ ih =>
      rw [sorted, siblings_insert, ih, siblings, List.map_cons]
      rfl

theorem roots_eq (f : Forest node) : f.roots = f.siblings.map Prod.fst := by
  induction f with
  | nil => rfl
  | cons i kids rest _ ih => rw [roots, siblings, List.map_cons, ih]

theorem roots_sorted (f : Forest node) : (f.sorted key).roots = Bubble.byKey key f.roots := by
  have hmap (s : List (node × Forest node)) :
      (Bubble.byKey (fun s => key s.1) s).map Prod.fst = Bubble.byKey key (s.map Prod.fst) :=
    List.map_insertionSort _ _ Prod.fst s fun _ _ _ _ => Iff.rfl
  rw [roots_eq, siblings_sorted, hmap, roots_eq, List.map_map]
  rfl

theorem Holds.chain_sorted (h : Holds mem cell (f.sorted key)) :
    Chain .next mem cell (Bubble.byKey key f.roots) := by
  rw [← roots_sorted]
  exact h.chain

theorem Holds.below_sorted (h : Holds mem cell (f.sorted key)) :
    ∀ s ∈ f.siblings, Holds mem (.child s.1) (s.2.sorted key) := by
  intro s hs
  apply h.below (s.1, s.2.sorted key)
  rw [siblings_sorted, (Bubble.byKey_perm _ _).mem_iff]
  exact List.mem_map_of_mem hs

/-- Where a memory holds a forest below its nodes and another one holds it sorted, each list of
children of the second is that of the first, sorted. -/
theorem children_sorted (h : ∀ s ∈ f.siblings, Holds mem (.child s.1) s.2)
    (h' : ∀ s ∈ f.siblings, Holds mem' (.child s.1) (s.2.sorted key)) :
    ∀ i ∈ f.nodes, ∃ siblings, Chain .next mem (.child i) siblings ∧
      Chain .next mem' (.child i) (Bubble.byKey key siblings) := by
  induction f with
  | nil => nofun
  | cons i kids rest ihkids ihrest =>
      obtain ⟨hkids, hrest⟩ := List.forall_mem_cons.mp h
      obtain ⟨hkids', hrest'⟩ := List.forall_mem_cons.mp h'
      intro j hj
      rcases List.mem_cons.mp hj with rfl | hj
      · exact ⟨kids.roots, hkids.chain, hkids'.chain_sorted key⟩
      · rcases List.mem_append.mp hj with hj | hj
        · exact ihkids hkids.below (hkids'.below_sorted key) j hj
        · exact ihrest hrest hrest' j hj

end Sorting

section Growing

def row (below : node → Forest node) (siblings : List node) : Forest node :=
  siblings.foldr (fun i rest => cons i (below i) rest) nil

def grow (lists : Cell root node → List node) : Nat → List node → Forest node
  | 0, _ => nil
  | depth + 1, siblings => row (fun i => grow lists depth (lists (.child i))) siblings

@[simp] theorem row_cons (below : node → Forest node) (i : node) (siblings : List node) :
    row below (i :: siblings) = cons i (below i) (row below siblings) := rfl

/-- Each node has a path, which goes one step beyond that of the node above it. -/
structure Branching {κ : Type} (lists : Cell root node → List node) (path : node → List κ)
    (deepest : Nat) : Prop where
  child : ∀ i, ∀ j ∈ lists (.child i), ∃ p, path j = path i ++ [p]
  nodup : ∀ i, ((lists (.child i)).map path).Nodup
  deepest : ∀ i, (path i).length ≤ deepest

variable {κ : Type} {lists : Cell root node → List node} {path : node → List κ}
  {deepest depth : Nat} {siblings : List node}

theorem Branching.length_child (h : Branching lists path deepest) {i j : node}
    (hj : j ∈ lists (.child i)) : (path j).length = (path i).length + 1 := by
  obtain ⟨p, hp⟩ := h.child i j hj
  rw [hp, List.length_append, List.length_singleton]

/-- The pointers of the lists make up the forest, if it is grown deep enough. -/
theorem holds_grow (hlists : Lists .next mem lists) (h : Branching lists path deepest)
    (hchain : Chain .next mem cell siblings)
    (hdepth : ∀ i ∈ siblings, deepest < (path i).length + depth) :
    Holds mem cell (grow lists depth siblings) := by
  induction depth generalizing cell siblings with
  | zero =>
      cases siblings with
      | nil => exact hchain
      | cons i rest =>
          exact absurd (hdepth i List.mem_cons_self) (Nat.not_lt_of_le (h.deepest i))
  | succ depth ih =>
      rw [grow]
      induction siblings generalizing cell with
      | nil => exact hchain
      | cons i rest ihrest =>
          obtain ⟨hi, hrest⟩ := List.forall_mem_cons.mp hdepth
          refine ⟨hchain.1, ?_, ihrest hchain.2 hrest⟩
          apply ih (hlists.chain (.child i) (by simp))
          intro j hj
          rw [h.length_child hj]
          omega

theorem nodup_nodes_row {below : node → Forest node} {length : Nat}
    (hnodup : (siblings.map path).Nodup) (hlength : ∀ i ∈ siblings, (path i).length = length)
    (hbelow : ∀ i ∈ siblings, (below i).nodes.Nodup)
    (hpath : ∀ i ∈ siblings, ∀ x ∈ (below i).nodes, ∃ p, path i ++ [p] <+: path x) :
    (row below siblings).nodes.Nodup ∧
      ∀ x ∈ (row below siblings).nodes, ∃ i ∈ siblings, path i <+: path x := by
  induction siblings with
  | nil => exact ⟨List.nodup_nil, fun _ h => nomatch h⟩
  | cons i rest ih =>
      rw [List.map_cons, List.nodup_cons] at hnodup
      obtain ⟨hi, hrest⟩ := List.forall_mem_cons.mp hlength
      obtain ⟨hibelow, hrestbelow⟩ := List.forall_mem_cons.mp hbelow
      obtain ⟨hipath, hrestpath⟩ := List.forall_mem_cons.mp hpath
      obtain ⟨hnodes, hfound⟩ := ih hnodup.2 hrest hrestbelow hrestpath
      have hkids : ∀ x ∈ (below i).nodes, path i <+: path x := by
        intro x hx
        obtain ⟨p, hp⟩ := hipath x hx
        exact (List.prefix_append _ _).trans hp
      -- a node below `i` or `i` itself is not below another sibling
      have happart : ∀ x, path i <+: path x → x ∉ (row below rest).nodes := by
        intro x hx hmem
        obtain ⟨j, hj, hjx⟩ := hfound x hmem
        have hij := List.prefix_of_prefix_length_le hx hjx (by rw [hi, hrest j hj])
        have heq := hij.eq_of_length (by rw [hi, hrest j hj])
        exact hnodup.1 (heq ▸ List.mem_map_of_mem hj)
      constructor
      · rw [row_cons, nodes, List.nodup_cons, List.nodup_append, List.mem_append, not_or]
        refine ⟨⟨fun hmem => ?_, happart i (List.prefix_refl _)⟩, hibelow, hnodes, fun x hx y hy => ?_⟩
        · obtain ⟨p, hp⟩ := hipath i hmem
          have hle := hp.length_le
          rw [List.length_append, List.length_singleton] at hle
          exact absurd hle (Nat.not_succ_le_self _)
        · rintro rfl
          exact happart x (hkids x hx) hy
      · intro x hx
        rcases List.mem_cons.mp hx with rfl | hx
        · exact ⟨x, List.mem_cons_self, List.prefix_refl _⟩
        · rcases List.mem_append.mp hx with hx | hx
          · exact ⟨i, List.mem_cons_self, hkids x hx⟩
          · obtain ⟨j, hj, hjx⟩ := hfound x hx
            exact ⟨j, List.mem_cons_of_mem i hj, hjx⟩

theorem Branching.nodup_nodes_grow (h : Branching lists path deepest) {length : Nat}
    (hnodup : (siblings.map path).Nodup) (hlength : ∀ i ∈ siblings, (path i).length = length) :
    (grow lists depth siblings).nodes.Nodup ∧
      ∀ x ∈ (grow lists depth siblings).nodes, ∃ i ∈ siblings, path i <+: path x := by
  induction depth generalizing siblings length with
  | zero => exact ⟨List.nodup_nil, fun _ h => nomatch h⟩
  | succ depth ih =>
      have hkids : ∀ i, ∀ j ∈ lists (.child i), (path j).length = (path i).length + 1 :=
        fun i j hj => h.length_child hj
      rw [grow]
      apply nodup_nodes_row hnodup hlength
      · intro i _
        exact (ih (h.nodup i) (hkids i)).1
      · intro i _ x hx
        obtain ⟨j, hj, hjx⟩ := (ih (h.nodup i) (hkids i)).2 x hx
        obtain ⟨p, hp⟩ := h.child i j hj
        exact ⟨p, hp ▸ hjx⟩

section Sorting

variable {β : Type} [LinearOrder β] (key : node → β)

theorem insert_row (below : node → Forest node) (i : node) (siblings : List node) :
    insert key i (below i) (row below siblings) =
      row below (siblings.orderedInsert (fun a b => key a ≤ key b) i) := by
  induction siblings with
  | nil => rfl
  | cons j rest ih =>
      rw [row_cons, insert, List.orderedInsert_cons]
      by_cases hlt : key j < key i
      · rw [if_pos hlt, if_neg (not_le.mpr hlt), ih, row_cons]
      · rw [if_neg hlt, if_pos (not_lt.mp hlt), row_cons, row_cons]

/-- Sorting the forest is growing it from sorted lists. -/
theorem sorted_grow (lists : Cell root node → List node) (depth : Nat) (siblings : List node) :
    (grow lists depth siblings).sorted key =
      grow (fun c => Bubble.byKey key (lists c)) depth (Bubble.byKey key siblings) := by
  induction depth generalizing siblings with
  | zero => rfl
  | succ depth ih =>
      rw [grow, grow]
      induction siblings with
      | nil => rfl
      | cons i rest ihrest =>
          rw [row_cons, sorted, ih, ihrest]
          exact insert_row key (fun i => grow (fun c => Bubble.byKey key (lists c)) depth
            (Bubble.byKey key (lists (.child i)))) i (Bubble.byKey key rest)

end Sorting

end Growing

end Forest

end Linked
