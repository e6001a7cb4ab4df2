import Mathlib.Logic.Function.Basic
import Usbutils.Lib.Bubble

/-! Singly linked lists in a memory of pointer cells: appending at the end by walking
to the null pointer, and bubble sort by exchanging neighbours through the pointer to
their pointer. Each operation is shown to do to the list of nodes what its name says,
and to leave every other cell alone. -/
namespace Linked

abbrev Links (loc node : Type) := loc → Option node

variable {loc node : Type} (next : node → loc)

/-- From the cell on, the pointers lead through these nodes and end in null. -/
def Chain (mem : Links loc node) : loc → List node → Prop
  | cell, [] => mem cell = none
  | cell, i :: rest => mem cell = some i ∧ Chain mem (next i) rest

def cells (cell : loc) (nodes : List node) : List loc := cell :: nodes.map next

def lastCell : loc → List node → loc
  | cell, [] => cell
  | _, i :: rest => lastCell (next i) rest

variable {next} {mem mem' : Links loc node} {cell : loc} {nodes : List node}

@[simp] theorem chain_nil : Chain next mem cell [] ↔ mem cell = none := Iff.rfl

@[simp] theorem chain_cons {i : node} {rest : List node} :
    Chain next mem cell (i :: rest) ↔ mem cell = some i ∧ Chain next mem (next i) rest := Iff.rfl

theorem cells_cons (i : node) (rest : List node) :
    cells next cell (i :: rest) = cell :: cells next (next i) rest := rfl

theorem lastCell_mem : lastCell next cell nodes ∈ cells next cell nodes := by
  induction nodes generalizing cell with
  | nil => exact List.mem_singleton.mpr rfl
  | cons i rest ih => exact List.mem_cons_of_mem cell ih

theorem cells_perm {nodes' : List node} (h : nodes'.Perm nodes) :
    (cells next cell nodes').Perm (cells next cell nodes) :=
  (h.map next).cons cell

theorem Chain.of_agree (h : Chain next mem cell nodes)
    (hagree : ∀ c ∈ cells next cell nodes, mem' c = mem c) : Chain next mem' cell nodes := by
  induction nodes generalizing cell with
  | nil => exact (hagree cell (List.mem_singleton.mpr rfl)).trans h
  | cons i rest ih =>
      refine ⟨(hagree cell (List.mem_cons_self ..)).trans h.1, ih h.2 fun c hc => ?_⟩
      exact hagree c (List.mem_cons_of_mem cell hc)

theorem Chain.unique {nodes' : List node} (h : Chain next mem cell nodes)
    (h' : Chain next mem cell nodes') : nodes = nodes' := by
  induction nodes generalizing cell nodes' with
  | nil =>
      cases nodes' with
      | nil => rfl
      | cons i rest => exact absurd (h.symm.trans h'.1) (by simp)
  | cons i rest ih =>
      cases nodes' with
      | nil => exact absurd (h'.symm.trans h.1) (by simp)
      | cons j rest' =>
          obtain rfl : i = j := Option.some.inj (h.1.symm.trans h'.1)
          exact congrArg (i :: ·) (ih h.2 h'.2)

theorem Chain.shorter {c : loc} (h : Chain next mem cell nodes) (hc : c ∈ nodes.map next) :
    ∃ nodes', Chain next mem c nodes' ∧ nodes'.length < nodes.length := by
  induction nodes generalizing cell with
  | nil => cases hc
  | cons i rest ih =>
      rcases List.mem_cons.mp hc with rfl | hc
      · exact ⟨rest, h.2, Nat.lt_succ_self _⟩
      · obtain ⟨nodes', hchain, hlength⟩ := ih h.2 hc
        exact ⟨nodes', hchain, Nat.lt_succ_of_lt hlength⟩

theorem Chain.cells_nodup (h : Chain next mem cell nodes) : (cells next cell nodes).Nodup := by
  induction nodes generalizing cell with
  | nil => exact List.nodup_singleton cell
  | cons i rest ih =>
      refine List.nodup_cons.mpr ⟨fun hmem => ?_, ih h.2⟩
      obtain ⟨nodes', hchain, hlength⟩ := h.shorter hmem
      rw [hchain.unique h] at hlength
      exact Nat.lt_irrefl _ hlength

theorem mem_cells {c : loc} : c ∈ cells next cell nodes ↔ c = cell ∨ ∃ i ∈ nodes, c = next i := by
  simp [cells, eq_comm]

/-- Each head cell is the start of its own list, and no node is in two of them. A node
that is in none has nothing behind it. -/
structure Lists (next : node → loc) (mem : Links loc node) (lists : loc → List node) : Prop where
  chain : ∀ c, (∀ i, c ≠ next i) → Chain next mem c (lists c)
  nodup : ∀ c, (lists c).Nodup
  once : ∀ c c' i, i ∈ lists c → i ∈ lists c' → c = c'
  unused : ∀ i, (∀ c, i ∉ lists c) → mem (next i) = none

theorem lists_empty : Lists next (fun _ => none) fun _ => [] :=
  ⟨fun _ _ => rfl, fun _ => List.nodup_nil, fun _ _ _ h => (nomatch h), fun _ _ => rfl⟩

def Links.forEach {σ : Type} (next : node → loc) (mem : Links loc node) (body : node → σ → Option σ)
    (cell : loc) (s : σ) : Option σ :=
  match mem cell with
  | none => some s
  | some i => do mem |>.forEach next body (next i) (← body i s)
partial_fixpoint

theorem forEach_chain {σ : Type} {body : node → σ → Option σ} (h : Chain next mem cell nodes)
    (s : σ) : Links.forEach next mem body cell s = nodes.foldlM (fun s i => body i s) s := by
  induction nodes generalizing cell s with
  | nil =>
      rw [Links.forEach, chain_nil.mp h]
      rfl
  | cons i rest ih =>
      rw [Links.forEach, h.1, List.foldlM_cons]
      exact bind_congr fun s' => ih h.2 s'

section Operations

variable [DecidableEq loc] (next)

/-- `while (i->next) { if (stop) return; i = i->next; } if (stop) return; i->next = new;` -/
def Links.appendFrom (stop : node → Bool) (mem : Links loc node) (i new : node) :
    Option (Links loc node) :=
  match mem (next i) with
  | some e => if stop i then some mem else mem |>.appendFrom stop e new
  | none => if stop i then some mem else some (Function.update mem (next i) (some new))
partial_fixpoint

/-- `if (first) append(first, new); else first = new;` -/
def appendAt (stop : node → Bool) (mem : Links loc node) (first : loc) (new : node) :
    Option (Links loc node) :=
  match mem first with
  | some i => Links.appendFrom next stop mem i new
  | none => some (Function.update mem first (some new))

def exchange (mem : Links loc node) (pp : loc) (p t : node) : Links loc node :=
  Function.update (Function.update (Function.update mem (next p) (mem (next t)))
    (next t) (some p)) pp (some t)

def compare (pp : loc) (state : Links loc node × node × Bool) (wrong : node → node → Bool) :
    Option (Links loc node × node × Bool) := do
  let t ← state.1 (next state.2.1)
  if wrong state.2.1 t then return (exchange next state.1 pp state.2.1 t, t, true)
  else return state

/-- `while (p->next) { compare by each order; pp = &p->next; p = p->next; }` -/
def Links.bubblePass (orders : List (node → node → Bool)) (pp : loc) (p : node) (swapped : Bool)
    (mem : Links loc node) : Option (Links loc node × Bool) :=
  match mem (next p) with
  | none => some (mem, swapped)
  | some _ => do
      let (mem, p, swapped) ← orders.foldlM (compare next pp) (mem, p, swapped)
      let q ← mem (next p)
      mem |>.bubblePass orders (next p) q swapped
partial_fixpoint

/-- `do { p = *i; pp = i; swapped = 0; pass } while (swapped);` -/
def Links.bubbleSort (orders : List (node → node → Bool)) (first : loc) (mem : Links loc node) :
    Option (Links loc node) := do
  let p ← mem first
  let (mem, swapped) ← Links.bubblePass next orders first p false mem
  if swapped then mem |>.bubbleSort orders first else return mem
partial_fixpoint

variable {next}

theorem chain_snoc (h : Chain next mem cell nodes) {new : node} (hnew : mem (next new) = none)
    (hfresh : next new ∉ cells next cell nodes) :
    Chain next (Function.update mem (lastCell next cell nodes) (some new)) cell
      (nodes ++ [new]) := by
  induction nodes generalizing cell with
  | nil =>
      have hne : next new ≠ cell := fun heq => hfresh (List.mem_singleton.mpr heq)
      exact ⟨Function.update_self .., (Function.update_of_ne hne ..).trans hnew⟩
  | cons i rest ih =>
      have hcell := (List.nodup_cons.mp h.cells_nodup).1
      have hrest := ih h.2 fun hmem => hfresh (List.mem_cons_of_mem cell hmem)
      have hlast : cell ≠ lastCell next (next i) rest := by
        intro heq
        exact hcell (heq ▸ lastCell_mem)
      exact ⟨(Function.update_of_ne hlast ..).trans h.1, hrest⟩

theorem appendFrom_eq {stop : node → Bool} {i : node} {rest : List node}
    (h : Chain next mem (next i) rest) (hstop : ∀ j ∈ i :: rest, stop j = false) (new : node) :
    Links.appendFrom next stop mem i new =
      some (Function.update mem (lastCell next (next i) rest) (some new)) := by
  induction rest generalizing i with
  | nil =>
      rw [Links.appendFrom, chain_nil.mp h]
      simp [hstop i, lastCell]
  | cons j rest ih =>
      rw [Links.appendFrom, h.1]
      have hrest := ih h.2 fun k hk => hstop k (List.mem_cons_of_mem i hk)
      simp [hstop i, hrest, lastCell]

theorem appendAt_eq {stop : node → Bool} (h : Chain next mem cell nodes)
    (hstop : ∀ j ∈ nodes, stop j = false) (new : node) :
    appendAt next stop mem cell new =
      some (Function.update mem (lastCell next cell nodes) (some new)) := by
  cases nodes with
  | nil =>
      rw [appendAt, chain_nil.mp h]
      rfl
  | cons i rest =>
      rw [appendAt, h.1]
      exact appendFrom_eq h.2 hstop new

theorem appendFrom_stop {stop : node → Bool} {i : node} {rest : List node}
    (h : Chain next mem (next i) rest) (hstop : ∃ j ∈ i :: rest, stop j = true) (new : node) :
    Links.appendFrom next stop mem i new = some mem := by
  induction rest generalizing i with
  | nil =>
      have hi : stop i = true := by simpa using hstop
      rw [Links.appendFrom, chain_nil.mp h]
      simp [hi]
  | cons j rest ih =>
      rw [Links.appendFrom, h.1]
      by_cases hi : stop i = true
      · simp [hi]
      · have hrest := ih h.2 (by simpa [hi] using hstop)
        simp [hi, hrest]

theorem appendAt_stop {stop : node → Bool} (h : Chain next mem cell nodes)
    (hstop : ∃ j ∈ nodes, stop j = true) (new : node) :
    appendAt next stop mem cell new = some mem := by
  cases nodes with
  | nil => simp at hstop
  | cons i rest =>
      rw [appendAt, h.1]
      exact appendFrom_stop h.2 hstop new

theorem exchange_of_ne {pp c : loc} {p t : node} (hpp : c ≠ pp) (hp : c ≠ next p)
    (ht : c ≠ next t) : exchange next mem pp p t c = mem c := by
  simp [exchange, hpp, hp, ht]

theorem chain_exchange {pp : loc} {p t : node} {rest : List node}
    (h : Chain next mem pp (p :: t :: rest)) :
    Chain next (exchange next mem pp p t) pp (t :: p :: rest) := by
  have hcells := h.cells_nodup
  obtain ⟨hp, ht, hrest⟩ := h
  simp only [cells_cons, List.nodup_cons] at hcells
  obtain ⟨hpp, hnext, hrestcells⟩ := hcells
  have hppt : pp ≠ next t := fun heq => hpp (by simp [cells, heq])
  have hppp : pp ≠ next p := fun heq => hpp (by simp [cells, heq])
  have hpt : next p ≠ next t := fun heq => hnext (by simp [cells, heq])
  have hfirst : exchange next mem pp p t pp = some t := Function.update_self ..
  have hsecond : exchange next mem pp p t (next t) = some p := by
    simp [exchange, hppt.symm]
  have hthird : exchange next mem pp p t (next p) = mem (next t) := by
    simp [exchange, hppp.symm, hpt]
  have htail : ∀ c ∈ rest.map next, exchange next mem pp p t c = mem c := by
    intro c hc
    have hct : c ≠ next t := fun heq => (List.nodup_cons.mp hrestcells).1 (heq ▸ hc)
    have hcp : c ≠ next p := fun heq => hnext (by simp [cells, ← heq, List.mem_map.mp hc])
    have hcpp : c ≠ pp := fun heq => hpp (by simp [cells, ← heq, List.mem_map.mp hc])
    exact exchange_of_ne hcpp hcp hct
  refine ⟨hfirst, hsecond, ?_⟩
  cases rest with
  | nil => exact hthird.trans hrest
  | cons j rest => exact ⟨hthird.trans hrest.1, hrest.2.of_agree htail⟩

section Sorting

variable {orders : List (node → node → Bool)} {p t : node}

theorem compare_settle {pp : loc} {rest : List node} (swapped : Bool)
    (h : Chain next mem pp (p :: t :: rest)) :
    ∃ mem', orders.foldlM (compare next pp) (mem, p, swapped) =
        some (mem', (Bubble.settle orders p t).1, swapped || (Bubble.settle orders p t).2.2) ∧
      Chain next mem' pp
        ((Bubble.settle orders p t).1 :: (Bubble.settle orders p t).2.1 :: rest) ∧
      ∀ c, c ∉ cells next pp [p, t] → mem' c = mem c := by
  induction orders generalizing p t mem swapped with
  | nil => exact ⟨mem, by simp [Bubble.settle], h, fun _ _ => rfl⟩
  | cons wrong orders ih =>
      rw [List.foldlM_cons]
      simp only [compare, h.2.1, Option.bind_eq_bind, Option.bind_some]
      rw [Bubble.settle]
      by_cases hwrong : wrong p t = true
      case pos =>
        obtain ⟨mem', hrun, hchain, hframe⟩ := ih true (chain_exchange h)
        simp only [if_pos hwrong]
        refine ⟨mem', by simpa using hrun, hchain, fun c hc => ?_⟩
        rw [hframe c fun hmem => hc ((cells_perm (List.Perm.swap p t [])).subset hmem)]
        simp only [cells, List.map_cons, List.mem_cons, not_or] at hc
        exact exchange_of_ne hc.1 hc.2.1 hc.2.2.1
      case neg =>
        obtain ⟨mem', hrun, hchain, hframe⟩ := ih swapped h
        simp only [if_neg hwrong]
        exact ⟨mem', hrun, hchain, hframe⟩

/-- A pass over the chain does to its nodes what `Bubble.passBy` does. -/
theorem bubblePass_chain {pp : loc} {rest : List node} (swapped : Bool)
    (h : Chain next mem pp (p :: rest)) :
    ∃ mem', Links.bubblePass next orders pp p swapped mem =
        some (mem', swapped || (Bubble.passBy orders (p :: rest)).2) ∧
      Chain next mem' pp (Bubble.passBy orders (p :: rest)).1 ∧
      ∀ c, c ∉ cells next pp (p :: rest) → mem' c = mem c := by
  induction rest generalizing pp p swapped mem with
  | nil =>
      have hpass : Bubble.passBy orders [p] = ([p], false) := by rw [Bubble.passBy]
      rw [Links.bubblePass, chain_nil.mp h.2, hpass]
      exact ⟨mem, by simp, h, fun _ _ => rfl⟩
  | cons t rest ih =>
      obtain ⟨mem₁, hrun₁, hchain₁, hframe₁⟩ := @compare_settle _ _ _ _ _ orders _ _ _ _ swapped h
      have hperm := @cells_perm _ _ next pp _ _ (Bubble.settle_perm orders p t rest)
      rw [Links.bubblePass, h.2.1, Bubble.passBy]
      dsimp only
      simp only [hrun₁, hchain₁.2.1, Option.bind_eq_bind, Option.bind_some]
      obtain ⟨mem₂, hrun₂, hchain₂, hframe₂⟩ :=
        ih (swapped || (Bubble.settle orders p t).2.2) hchain₁.2
      refine ⟨mem₂, by rw [hrun₂, Bool.or_assoc], ⟨?_, hchain₂⟩, fun c hc => ?_⟩
      · exact (hframe₂ pp (List.nodup_cons.mp hchain₁.cells_nodup).1).trans hchain₁.1
      · rw [hframe₂ c fun hmem => hc (hperm.subset (List.mem_cons_of_mem pp hmem))]
        apply hframe₁
        intro hmem
        apply hc
        simp only [cells, List.map_cons, List.map_nil, List.mem_cons, List.not_mem_nil] at hmem ⊢
        tauto

theorem bubbleSort_pass (h : Chain next mem cell nodes) (hne : nodes ≠ []) :
    ∃ p mem', mem cell = some p ∧ Links.bubblePass next orders cell p false mem =
        some (mem', (Bubble.passBy orders nodes).2) ∧
      Chain next mem' cell (Bubble.passBy orders nodes).1 ∧
      ∀ c, c ∉ cells next cell nodes → mem' c = mem c := by
  cases nodes with
  | nil => exact absurd rfl hne
  | cons p rest =>
      obtain ⟨mem', hrun, hchain, hframe⟩ := @bubblePass_chain _ _ _ _ _ orders _ _ _ false h
      exact ⟨p, mem', h.1, by rw [hrun, Bool.false_or], hchain, hframe⟩

/-- Where the orders amount to one by a key, bubble sort is the stable sort by that key. Each
pass that exchanges something leaves fewer inversions, so there is a last one. -/
theorem bubbleSort_byKey {β : Type} [LinearOrder β] (key : node → β)
    (h : Chain next mem cell nodes) (hne : nodes ≠ [])
    (hamount : ∀ a ∈ nodes, ∀ b ∈ nodes, Bubble.Amount orders (Bubble.above key) a b) :
    ∃ mem', Links.bubbleSort next orders cell mem = some mem' ∧
      Chain next mem' cell (Bubble.byKey key nodes) ∧
      ∀ c, c ∉ cells next cell nodes → mem' c = mem c := by
  induction hn : Bubble.inversions (Bubble.above key) nodes using Nat.strong_induction_on
    generalizing nodes mem with
  | _ n ih =>
      obtain ⟨p, mem', hp, hrun, hchain, hframe⟩ := bubbleSort_pass h hne
      have hpass := Bubble.passBy_eq orders hamount
      rw [hpass] at hrun hchain
      have hperm := Bubble.pass_perm (Bubble.above key) nodes
      have hfewer := Bubble.inversions_pass _ (Bubble.above_asymm key) nodes
      rw [Links.bubbleSort, hp]
      simp only [hrun, Option.bind_eq_bind, Option.bind_some]
      by_cases hflag : (Bubble.pass (Bubble.above key) nodes).2 = true
      case pos =>
        rw [if_pos hflag] at hfewer ⊢
        obtain ⟨mem'', hrun', hchain', hframe'⟩ :=
          @ih _ (by omega) _ _ hchain (Bubble.pass_ne_nil _ hne)
            (fun a ha b hb => hamount a (hperm.subset ha) b (hperm.subset hb)) rfl
        have hsame : Bubble.byKey key (Bubble.pass (Bubble.above key) nodes).1 =
            Bubble.byKey key nodes := by
          apply Bubble.eq_byKey key (Bubble.pairwise_byKey key _)
          exact fun k => (Bubble.withKey_byKey key k _).trans (Bubble.withKey_pass key k nodes)
        refine ⟨mem'', hrun', hsame ▸ hchain', fun c hc => ?_⟩
        exact (hframe' c fun hmem => hc ((cells_perm hperm).subset hmem)).trans (hframe c hc)
      case neg =>
        have hunflagged := Bool.eq_false_iff.mpr hflag
        have hsorted := Bubble.eq_byKey key (Bubble.sorted_of_unflagged key hunflagged) fun _ => rfl
        rw [if_neg hflag]
        rw [(Bubble.pass_unflagged _ hunflagged).1, hsorted] at hchain
        exact ⟨mem', rfl, hchain, hframe⟩

theorem bubbleSort_chain {β : Type} [LinearOrder β] (key : node → β)
    {skip : List (node → node → Bool)} (h : Chain next mem cell nodes) (hne : nodes ≠ [])
    (hskip : ∀ w ∈ skip, ∀ a ∈ nodes, ∀ b ∈ nodes, w a b = false) :
    ∃ mem', Links.bubbleSort next (skip ++ [Bubble.above key]) cell mem = some mem' ∧
      Chain next mem' cell (Bubble.byKey key nodes) ∧
      ∀ c, c ∉ cells next cell nodes → mem' c = mem c :=
  bubbleSort_byKey key h hne fun a ha b hb => Bubble.amount_skip fun w hw => hskip w hw a ha b hb

/-- When bubble sort returns, its last pass has exchanged nothing. -/
theorem bubbleSort_returned (h : Chain next mem cell nodes) (hne : nodes ≠ [])
    (hrun : Links.bubbleSort next orders cell mem = some mem') :
    ∃ sorted, Chain next mem' cell sorted ∧ sorted.Perm nodes ∧
      sorted.IsChain fun a b => ∀ w ∈ orders, w a b = false := by
  refine Links.bubbleSort.partial_correctness next orders cell (fun mem mem' => ∀ nodes,
    Chain next mem cell nodes → nodes ≠ [] →
      ∃ sorted, Chain next mem' cell sorted ∧ sorted.Perm nodes ∧
        sorted.IsChain fun a b => ∀ w ∈ orders, w a b = false) ?_ mem mem' hrun nodes h hne
  intro sort ih mem mem' hrun nodes h hne
  obtain ⟨p, mem₁, hp, hpass, hchain, -⟩ := @bubbleSort_pass _ _ _ _ _ _ _ orders h hne
  have hperm := Bubble.passBy_perm orders nodes
  rw [hp] at hrun
  simp only [hpass, Option.bind_eq_bind, Option.bind_some] at hrun
  by_cases hflag : (Bubble.passBy orders nodes).2 = true
  case pos =>
    rw [if_pos hflag] at hrun
    have hne₁ : (Bubble.passBy orders nodes).1 ≠ [] := fun hnil => hne (hnil ▸ hperm).symm.eq_nil
    obtain ⟨sorted, hchain', hperm', hagree⟩ :=
      ih mem₁ mem' hrun _ hchain hne₁
    exact ⟨sorted, hchain', hperm'.trans hperm, hagree⟩
  case neg =>
    rw [if_neg hflag] at hrun
    cases hrun
    obtain ⟨hsame, hagree⟩ := Bubble.passBy_unflagged orders (Bool.eq_false_iff.mpr hflag)
    exact ⟨nodes, hsame ▸ hchain, List.Perm.refl _, hagree⟩

end Sorting

omit [DecidableEq loc] in
theorem Lists.cells_disjoint {lists : loc → List node} (h : Lists next mem lists)
    (hinj : Function.Injective next) {c c' x : loc} (hc : ∀ i, c ≠ next i) (hc' : ∀ i, c' ≠ next i)
    (hne : c ≠ c') (hx : x ∈ cells next c (lists c)) : x ∉ cells next c' (lists c') := by
  intro hx'
  rcases mem_cells.mp hx with rfl | ⟨i, hi, rfl⟩ <;> rcases mem_cells.mp hx' with heq | ⟨j, hj, heq⟩
  · exact hne heq
  · exact hc j heq
  · exact hc' i heq.symm
  · exact hne (h.once c c' i hi (hinj heq ▸ hj))

theorem Lists.update {lists : loc → List node} (h : Lists next mem lists)
    (hinj : Function.Injective next) (hhead : ∀ i, cell ≠ next i)
    (hchain : Chain next mem' cell nodes) (hnodes : nodes.Nodup)
    (hsub : ∀ i ∈ lists cell, i ∈ nodes) (hnew : ∀ i ∈ nodes, ∀ c, i ∈ lists c → c = cell)
    (hframe : ∀ c, c ∉ cells next cell (lists cell) → (∀ i ∈ nodes, c ≠ next i) → mem' c = mem c) :
    Lists next mem' (Function.update lists cell nodes) := by
  have hmem : ∀ c i, i ∈ Function.update lists cell nodes c → i ∈ nodes ∧ c = cell ∨ i ∈ lists c := by
    intro c i hi
    by_cases hc : c = cell
    · subst hc
      rw [Function.update_self] at hi
      exact .inl ⟨hi, rfl⟩
    · rw [Function.update_of_ne hc] at hi
      exact .inr hi
  refine ⟨fun c hheadc => ?_, fun c => ?_, fun c c' i hi hi' => ?_, fun i hi => ?_⟩
  · by_cases hc : c = cell
    · subst hc
      rwa [Function.update_self]
    · rw [Function.update_of_ne hc]
      apply (h.chain c hheadc).of_agree
      intro x hx
      apply hframe x (h.cells_disjoint hinj hheadc hhead hc hx)
      rintro i hi rfl
      rcases mem_cells.mp hx with heq | ⟨j, hj, heq⟩
      · exact hheadc i heq.symm
      · exact hc (hnew i hi c (hinj heq ▸ hj))
  · by_cases hc : c = cell
    · subst hc
      rwa [Function.update_self]
    · rw [Function.update_of_ne hc]
      exact h.nodup c
  · rcases hmem c i hi with ⟨hnodes, hc⟩ | hlist <;>
      rcases hmem c' i hi' with ⟨hnodes', hc'⟩ | hlist'
    · exact hc.trans hc'.symm
    · exact hc.trans (hnew i hnodes c' hlist').symm
    · exact (hnew i hnodes' c hlist).trans hc'.symm
    · exact h.once c c' i hlist hlist'
  · have hnot : i ∉ nodes := by
      intro hmem
      exact hi cell (by rwa [Function.update_self])
    rw [hframe]
    · apply h.unused i
      intro c hc
      by_cases heq : c = cell
      · exact hnot (hsub i (heq ▸ hc))
      · exact hi c (by rwa [Function.update_of_ne heq])
    · intro hcell
      rcases mem_cells.mp hcell with heq | ⟨j, hj, heq⟩
      · exact hhead i heq.symm
      · exact hnot (hsub i (hinj heq ▸ hj))
    · intro j hj heq
      exact hnot (hinj heq ▸ hj)

theorem Lists.append {lists : loc → List node} (h : Lists next mem lists)
    (hinj : Function.Injective next) (hhead : ∀ i, cell ≠ next i) {new : node}
    (hnew : ∀ c, new ∉ lists c) :
    Lists next (Function.update mem (lastCell next cell (lists cell)) (some new))
      (Function.update lists cell (lists cell ++ [new])) := by
  have hfresh : next new ∉ cells next cell (lists cell) := by
    intro hmem
    rcases mem_cells.mp hmem with heq | ⟨i, hi, heq⟩
    · exact hhead new heq.symm
    · exact hnew cell (hinj heq ▸ hi)
  apply h.update hinj hhead
  · exact chain_snoc (h.chain cell hhead) (h.unused new hnew) hfresh
  · exact List.perm_append_comm.nodup_iff.mpr (List.nodup_cons.mpr ⟨hnew cell, h.nodup cell⟩)
  · exact fun i hi => List.mem_append_left _ hi
  · intro i hi c hc
    rcases List.mem_append.mp hi with hi | hi
    · exact h.once c cell i hc hi
    · exact absurd (List.mem_singleton.mp hi ▸ hc) (hnew c)
  · intro c hc _
    apply Function.update_of_ne
    rintro rfl
    exact hc lastCell_mem

theorem Lists.sort {lists : loc → List node} {β : Type} [LinearOrder β] (key : node → β)
    {skip : List (node → node → Bool)} (h : Lists next mem lists)
    (hinj : Function.Injective next) (hhead : ∀ i, cell ≠ next i) (hne : lists cell ≠ [])
    (hskip : ∀ w ∈ skip, ∀ a ∈ lists cell, ∀ b ∈ lists cell, w a b = false) :
    ∃ mem', Links.bubbleSort next (skip ++ [Bubble.above key]) cell mem = some mem' ∧
      Lists next mem' (Function.update lists cell (Bubble.byKey key (lists cell))) := by
  obtain ⟨mem', hrun, hchain, hframe⟩ := bubbleSort_chain key (h.chain cell hhead) hne hskip
  have hperm := Bubble.byKey_perm key (lists cell)
  refine ⟨mem', hrun, h.update hinj hhead hchain (hperm.nodup_iff.mpr (h.nodup cell)) ?_ ?_ ?_⟩
  · exact fun i hi => hperm.mem_iff.mpr hi
  · exact fun i hi c hc => h.once c cell i hc (hperm.subset hi)
  · exact fun c hc _ => hframe c hc

end Operations

end Linked
