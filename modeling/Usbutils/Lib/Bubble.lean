import Mathlib.Data.Finset.Sort
import Mathlib.Data.List.Sort
import Mathlib.Data.Prod.Lex

/-! Bubble sort on lists, pass by pass. A pass that exchanges something leaves fewer
inversions, and one that exchanges nothing has found the list sorted. -/
namespace Bubble

variable {α β : Type} (wrong : α → α → Bool)

/-- One pass, and whether it has exchanged anything; `wrong a b` if `a` may not stand
before `b`. -/
def pass : List α → List α × Bool
  | [] => ([], false)
  | [a] => ([a], false)
  | a :: b :: rest =>
      if wrong a b then (b :: (pass (a :: rest)).1, true)
      else (a :: (pass (b :: rest)).1, (pass (b :: rest)).2)
termination_by items => items.length

def inversions : List α → Nat
  | [] => 0
  | a :: rest => rest.countP (wrong a) + inversions rest

theorem pass_perm (items : List α) : (pass wrong items).1.Perm items := by
  fun_induction pass wrong items with
  | case1 => exact List.Perm.refl []
  | case2 a => exact List.Perm.refl [a]
  | case3 a b rest h ih => exact (ih.cons b).trans (List.Perm.swap a b rest)
  | case4 a b rest h ih => exact ih.cons a

theorem pass_ne_nil {items : List α} (h : items ≠ []) : (pass wrong items).1 ≠ [] := by
  intro hnil
  exact h (hnil ▸ pass_perm wrong items).symm.eq_nil

theorem inversions_exchange {a b : α} (rest : List α) (hab : wrong a b = true)
    (hba : wrong b a = false) :
    inversions wrong (a :: b :: rest) = inversions wrong (b :: a :: rest) + 1 := by
  simp only [inversions, List.countP_cons_of_pos hab,
    List.countP_cons_of_neg (Bool.eq_false_iff.mp hba)]
  omega

/-- A pass never adds an inversion and an exchange takes one away. -/
theorem inversions_pass (hasymm : ∀ a b, wrong a b = true → wrong b a = false) (items : List α) :
    inversions wrong (pass wrong items).1 + (if (pass wrong items).2 then 1 else 0) ≤
      inversions wrong items := by
  fun_induction pass wrong items with
  | case1 => exact Nat.le_refl _
  | case2 a => exact Nat.le_refl _
  | case3 a b rest h ih =>
      have hcount := (pass_perm wrong (a :: rest)).countP_eq (wrong b)
      have hswap := inversions_exchange wrong rest h (hasymm a b h)
      simp only [inversions] at hswap ih ⊢
      rw [hcount, if_pos trivial]
      omega
  | case4 a b rest h ih =>
      have hcount := (pass_perm wrong (b :: rest)).countP_eq (wrong a)
      simp only [inversions] at ih ⊢
      omega

theorem pass_unflagged {items : List α} (h : (pass wrong items).2 = false) :
    (pass wrong items).1 = items ∧ items.IsChain fun a b => wrong a b = false := by
  fun_induction pass wrong items with
  | case1 => exact ⟨rfl, List.IsChain.nil⟩
  | case2 a => exact ⟨rfl, List.IsChain.singleton a⟩
  | case3 a b rest hwrong ih => cases h
  | case4 a b rest hwrong ih =>
      have hrest := ih h
      exact ⟨congrArg (a :: ·) hrest.1, hrest.2.cons_cons (Bool.eq_false_iff.mpr hwrong)⟩

section Orders

variable (orders : List (α → α → Bool))

/-- Two neighbours after each of the orders has compared them, and whether one of them
has exchanged them. -/
def settle : List (α → α → Bool) → α → α → α × α × Bool
  | [], a, b => (a, b, false)
  | wrong :: orders, a, b =>
      if wrong a b then ((settle orders b a).1, (settle orders b a).2.1, true)
      else settle orders a b

def passBy : List α → List α × Bool
  | [] => ([], false)
  | [a] => ([a], false)
  | a :: b :: rest =>
      let s := settle orders a b
      (s.1 :: (passBy (s.2.1 :: rest)).1, s.2.2 || (passBy (s.2.1 :: rest)).2)
termination_by items => items.length

theorem settle_perm (a b : α) (rest : List α) :
    ((settle orders a b).1 :: (settle orders a b).2.1 :: rest).Perm (a :: b :: rest) := by
  fun_induction settle orders a b with
  | case1 => exact List.Perm.refl _
  | case2 wrong orders a b h ih => exact ih.trans (List.Perm.swap a b rest)
  | case3 wrong orders a b h ih => exact ih

theorem passBy_perm (items : List α) : (passBy orders items).1.Perm items := by
  fun_induction passBy orders items with
  | case1 => exact List.Perm.refl []
  | case2 a => exact List.Perm.refl [a]
  | case3 a b rest s ih => exact (ih.cons s.1).trans (settle_perm orders a b rest)

theorem settle_unflagged {a b : α} (h : (settle orders a b).2.2 = false) :
    settle orders a b = (a, b, false) ∧ ∀ w ∈ orders, w a b = false := by
  fun_induction settle orders a b with
  | case1 => exact ⟨rfl, fun _ h => nomatch h⟩
  | case2 wrong orders a b hwrong ih => cases h
  | case3 wrong orders a b hwrong ih =>
      have hrest := ih h
      exact ⟨hrest.1, List.forall_mem_cons.mpr ⟨Bool.eq_false_iff.mpr hwrong, hrest.2⟩⟩

theorem passBy_unflagged {items : List α} (h : (passBy orders items).2 = false) :
    (passBy orders items).1 = items ∧ items.IsChain fun a b => ∀ w ∈ orders, w a b = false := by
  fun_induction passBy orders items with
  | case1 => exact ⟨rfl, List.IsChain.nil⟩
  | case2 a => exact ⟨rfl, List.IsChain.singleton a⟩
  | case3 a b rest s ih =>
      obtain ⟨hsettle, hrest⟩ := Bool.or_eq_false_iff.mp h
      obtain ⟨hs, hagree⟩ := settle_unflagged orders hsettle
      have hs : s = (a, b, false) := hs
      rw [hs] at ih hrest ⊢
      have htail := ih hrest
      exact ⟨congrArg (a :: ·) htail.1, htail.2.cons_cons hagree⟩

/-- Several orders that together exchange what one order finds wrong. -/
def Amount (wrong : α → α → Bool) (a b : α) : Prop :=
  settle orders a b = if wrong a b then (b, a, true) else (a, b, false)

theorem passBy_eq {wrong : α → α → Bool} {items : List α}
    (h : ∀ a ∈ items, ∀ b ∈ items, Amount orders wrong a b) :
    passBy orders items = pass wrong items := by
  fun_induction pass wrong items with
  | case1 => rw [passBy]
  | case2 a => rw [passBy]
  | case3 a b rest hwrong ih =>
      have hs := h a (by simp) b (by simp)
      rw [Amount, if_pos hwrong] at hs
      rw [passBy, hs, ih fun x hx y hy => h x (by simp at hx ⊢; tauto) y (by simp at hy ⊢; tauto)]
      rfl
  | case4 a b rest hwrong ih =>
      have hs := h a (by simp) b (by simp)
      rw [Amount, if_neg hwrong] at hs
      rw [passBy, hs, ih fun x hx y hy => h x (List.mem_cons_of_mem a hx) y (List.mem_cons_of_mem a hy)]
      rfl

theorem amount_skip {skip : List (α → α → Bool)} {wrong : α → α → Bool} {a b : α}
    (h : ∀ w ∈ skip, w a b = false) : Amount (skip ++ [wrong]) wrong a b := by
  induction skip with
  | nil => rfl
  | cons w rest ih =>
      obtain ⟨hw, hrest⟩ := List.forall_mem_cons.mp h
      rw [Amount, List.cons_append, settle, hw]
      exact ih hrest

end Orders

section Key

variable [LinearOrder β] (key : α → β)

def above (a b : α) : Bool := decide (key b < key a)

theorem above_asymm (a b : α) (h : above key a b = true) : above key b a = false := by
  simp only [above, decide_eq_true_eq, decide_eq_false_iff_not, not_lt] at *
  exact h.le

def byKey (items : List α) : List α := items.insertionSort fun a b => key a ≤ key b

theorem byKey_perm (items : List α) : (byKey key items).Perm items :=
  List.perm_insertionSort _ items

theorem pairwise_byKey (items : List α) : (byKey key items).Pairwise fun a b => key a ≤ key b := by
  have htotal : Std.Total fun a b : α => key a ≤ key b := ⟨fun a b => le_total (key a) (key b)⟩
  have htrans : IsTrans α fun a b => key a ≤ key b := ⟨fun _ _ _ h h' => h.trans h'⟩
  exact List.pairwise_insertionSort _ items

def withKey (k : β) (items : List α) : List α := items.filter fun a => key a = k

theorem withKey_cons (k : β) (a : α) (rest : List α) :
    withKey key k (a :: rest) =
      if key a = k then a :: withKey key k rest else withKey key k rest := by
  simp [withKey, List.filter_cons]

theorem withKey_exchange {a b : α} (h : key b < key a) (k : β) (rest : List α) :
    withKey key k (b :: a :: rest) = withKey key k (a :: b :: rest) := by
  simp only [withKey_cons]
  by_cases ha : key a = k
  · have hb : key b ≠ k := (ha ▸ h).ne
    simp [ha, hb]
  · simp [ha]

theorem withKey_pass (k : β) (items : List α) :
    withKey key k (pass (above key) items).1 = withKey key k items := by
  fun_induction pass (above key) items with
  | case1 => rfl
  | case2 a => rfl
  | case3 a b rest h ih =>
      rw [← withKey_exchange key (of_decide_eq_true h), withKey_cons, ih, ← withKey_cons]
  | case4 a b rest h ih => rw [withKey_cons, ih, ← withKey_cons]

theorem withKey_byKey (k : β) (items : List α) :
    withKey key k (byKey key items) = withKey key k items := by
  have hinsert (a : α) (sorted : List α) :
      withKey key k (sorted.orderedInsert (fun a b => key a ≤ key b) a) =
        withKey key k (a :: sorted) := by
    induction sorted with
    | nil => rfl
    | cons b rest ih =>
        rw [List.orderedInsert_cons]
        split
        · rfl
        · next h =>
            rw [← withKey_exchange key (not_le.mp h), withKey_cons, ih, ← withKey_cons]
  unfold byKey
  induction items with
  | nil => rfl
  | cons a rest ih => rw [List.insertionSort_cons, hinsert, withKey_cons, ih, ← withKey_cons]

/-- There is one ascending order that leaves the elements with one key in their order. -/
theorem eq_of_ascending {left right : List α} (hleft : left.Pairwise fun a b => key a ≤ key b)
    (hright : right.Pairwise fun a b => key a ≤ key b)
    (h : ∀ k, withKey key k left = withKey key k right) : left = right := by
  have hmem {x : α} : x ∈ left ↔ x ∈ right := by
    have hx := congrArg (x ∈ ·) (h (key x))
    simpa [withKey] using hx
  induction left generalizing right with
  | nil =>
      symm
      rw [List.eq_nil_iff_forall_not_mem]
      exact fun x hx => nomatch hmem.mpr hx
  | cons a left ih =>
      cases right with
      | nil => exact nomatch hmem.mp List.mem_cons_self
      | cons b right =>
          rw [List.pairwise_cons] at hleft hright
          have hab : key a ≤ key b := by
            rcases List.mem_cons.mp (hmem.mpr List.mem_cons_self) with rfl | hb
            · exact le_rfl
            · exact hleft.1 b hb
          have hba : key b ≤ key a := by
            rcases List.mem_cons.mp (hmem.mp List.mem_cons_self) with rfl | ha
            · exact le_rfl
            · exact hright.1 a ha
          have hkey := le_antisymm hab hba
          have hhead := h (key a)
          rw [withKey_cons, withKey_cons, if_pos rfl, if_pos hkey.symm] at hhead
          obtain ⟨rfl, -⟩ := List.cons.inj hhead
          have htail (k : β) : withKey key k left = withKey key k right := by
            have hk := h k
            rw [withKey_cons, withKey_cons] at hk
            split at hk
            · exact (List.cons.inj hk).2
            · exact hk
          rw [ih hleft.2 hright.2 htail]
          intro x
          have hx := congrArg (x ∈ ·) (htail (key x))
          simpa [withKey] using hx

theorem eq_byKey {items sorted : List α} (hsorted : sorted.Pairwise fun a b => key a ≤ key b)
    (h : ∀ k, withKey key k sorted = withKey key k items) : sorted = byKey key items :=
  eq_of_ascending key hsorted (pairwise_byKey key items)
    fun k => (h k).trans (withKey_byKey key k items).symm

theorem byKey_byKey (items : List α) : byKey key (byKey key items) = byKey key items :=
  (eq_byKey key (pairwise_byKey key items) fun _ => rfl).symm

theorem map_byKey {γ : Type} [LinearOrder γ] {value : α → γ} {items : List α} {s : Finset γ}
    (hmono : ∀ a ∈ items, ∀ b ∈ items, key a ≤ key b → value a ≤ value b)
    (hvalues : (items.map value).Nodup) (hmem : ∀ c, c ∈ s ↔ c ∈ items.map value) :
    (byKey key items).map value = s.sort := by
  have hperm := byKey_perm key items
  have hsorted : ((byKey key items).map value).Pairwise (· ≤ ·) := by
    rw [List.pairwise_map]
    apply (pairwise_byKey key items).imp_of_mem
    exact fun ha hb => hmono _ (hperm.subset ha) _ (hperm.subset hb)
  apply ((hperm.map value).trans _).eq_of_pairwise (fun _ _ _ _ => le_antisymm) hsorted
    (Finset.pairwise_sort s _)
  rw [List.perm_ext_iff_of_nodup hvalues (Finset.sort_nodup s _)]
  intro c
  rw [Finset.mem_sort, hmem]

theorem sorted_of_unflagged {items : List α} (h : (pass (above key) items).2 = false) :
    items.Pairwise fun a b => key a ≤ key b := by
  have htrans : IsTrans α fun a b => key a ≤ key b := ⟨fun _ _ _ h h' => h.trans h'⟩
  apply List.IsChain.pairwise
  apply (pass_unflagged (above key) h).2.imp
  intro a b hab
  simpa [above] using hab

/-- Comparing by one key and then by another amounts to comparing by the second and then
by the first, for elements that the two keys do not order in opposite ways. -/
theorem amount_keys (key₁ key₂ : α → β) {a b : α} (hab : key₂ a < key₂ b → key₁ a ≤ key₁ b)
    (hba : key₂ b < key₂ a → key₁ b ≤ key₁ a) :
    Amount [above key₁, above key₂] (above fun a => toLex (key₂ a, key₁ a)) a b := by
  simp only [Amount, settle, above, decide_eq_true_eq, Prod.Lex.toLex_lt_toLex]
  rcases lt_trichotomy (key₂ a) (key₂ b) with h₂ | h₂ | h₂
  · have h₁ := hab h₂
    simp [not_lt.mpr h₁, not_lt.mpr h₂.le, h₂.ne']
  · by_cases h₁ : key₁ b < key₁ a <;> simp [h₁, h₂]
  · have h₁ := hba h₂
    by_cases h₁' : key₁ b < key₁ a <;> simp [h₁', h₂, not_lt.mpr h₂.le]

end Key

end Bubble
