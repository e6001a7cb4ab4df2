import Usbutils.Lib.Bubble
import Mathlib.Data.List.Forall2
import Mathlib.Data.List.Perm.Basic

/-! Lists in loops that can raise an exception, and the `sort` of Python. An exception is `none`. -/
namespace PyText

variable {α β γ : Type}

section MapM

variable {f : α → Option β} {items items' : List α}

theorem mapM_cons_some {a : α} {results : List β} : (a :: items).mapM f = some results ↔
    ∃ b rest, f a = some b ∧ items.mapM f = some rest ∧ results = b :: rest := by
  rw [List.mapM_cons]
  simp only [bind, Option.bind_eq_some_iff, pure, Option.some.injEq]
  constructor
  · rintro ⟨b, hb, rest, hrest, rfl⟩
    exact ⟨b, rest, hb, hrest, rfl⟩
  · rintro ⟨b, rest, hb, hrest, rfl⟩
    exact ⟨b, hb, rest, hrest, rfl⟩

theorem mapM_eq_some {results : List β} :
    items.mapM f = some results ↔ List.Forall₂ (fun a b => f a = some b) items results := by
  induction items generalizing results with
  | nil =>
      rw [List.mapM_nil, List.forall₂_nil_left_iff]
      exact ⟨fun h => (Option.some.inj h).symm, fun h => congrArg some h.symm⟩
  | cons a items ih =>
      rw [mapM_cons_some, List.forall₂_cons_left_iff]
      simp only [ih]

theorem mapM_isSome : (items.mapM f).isSome ↔ ∀ a ∈ items, (f a).isSome := by
  induction items with
  | nil => exact ⟨fun _ a h => absurd h List.not_mem_nil, fun _ => rfl⟩
  | cons a items ih =>
      rw [List.forall_mem_cons, ← ih]
      simp only [Option.isSome_iff_exists, mapM_cons_some]
      constructor
      · rintro ⟨results, b, rest, hb, hrest, rfl⟩
        exact ⟨⟨b, hb⟩, ⟨rest, hrest⟩⟩
      · rintro ⟨⟨b, hb⟩, ⟨rest, hrest⟩⟩
        exact ⟨b :: rest, b, rest, hb, hrest, rfl⟩

theorem mapM_perm {results : List β} (hperm : items.Perm items')
    (h : items.mapM f = some results) :
    ∃ results', items'.mapM f = some results' ∧ results.Perm results' := by
  obtain ⟨results', hresults', hperm'⟩ := List.perm_comp_forall₂ hperm.symm (mapM_eq_some.mp h)
  exact ⟨results', mapM_eq_some.mpr hresults', hperm'.symm⟩

theorem exists_of_mem_mapM {results : List β} (h : items.mapM f = some results) {b : β}
    (hb : b ∈ results) : ∃ a ∈ items, f a = some b := by
  have hpairs := mapM_eq_some.mp h
  clear h
  induction hpairs with
  | nil => exact absurd hb List.not_mem_nil
  | cons hhead _ ih =>
      rcases List.mem_cons.mp hb with rfl | hb
      · exact ⟨_, List.mem_cons_self, hhead⟩
      · obtain ⟨a, ha, hab⟩ := ih hb
        exact ⟨a, List.mem_cons_of_mem _ ha, hab⟩

theorem map_of_mapM (name : β → α) (hname : ∀ a b, f a = some b → name b = a) {results : List β}
    (h : items.mapM f = some results) : results.map name = items := by
  have hpairs := mapM_eq_some.mp h
  clear h
  induction hpairs with
  | nil => rfl
  | cons hhead _ ih => rw [List.map_cons, hname _ _ hhead, ih]

theorem mapM_keyed {key : α → Option β} {keyed : List (β × α)} :
    items.mapM (fun item => (key item).map (·, item)) = some keyed ↔
      keyed.map Prod.snd = items ∧ items.mapM key = some (keyed.map Prod.fst) := by
  induction items generalizing keyed with
  | nil =>
      rw [List.mapM_nil, List.mapM_nil, List.map_eq_nil_iff]
      constructor
      · rintro ⟨⟩
        exact ⟨rfl, rfl⟩
      · rintro ⟨rfl, -⟩
        rfl
  | cons a items ih =>
      rw [mapM_cons_some, mapM_cons_some]
      constructor
      · rintro ⟨b, rest, hb, hrest, rfl⟩
        obtain ⟨k, hk, rfl⟩ := Option.map_eq_some_iff.mp hb
        obtain ⟨hitems, hkeys⟩ := ih.mp hrest
        exact ⟨congrArg (a :: ·) hitems, k, rest.map Prod.fst, hk, hkeys, rfl⟩
      · rintro ⟨hitems, k, keys, hk, hkeys, hkeyed⟩
        obtain ⟨entry, rest, rfl, rfl, hrest⟩ := List.map_eq_cons_iff.mp hitems
        obtain ⟨rfl, rfl⟩ := List.cons.inj hkeyed
        exact ⟨entry, rest, Option.map_eq_some_iff.mpr ⟨_, hk, rfl⟩, ih.mpr ⟨hrest, hkeys⟩, rfl⟩

theorem eq_of_forall₂ {R : α → α → Prop} (h : List.Forall₂ R items items')
    (heq : ∀ a ∈ items, ∀ b ∈ items', R a b → a = b) : items = items' := by
  induction h with
  | nil => rfl
  | cons hhead _ ih =>
      rw [heq _ List.mem_cons_self _ List.mem_cons_self hhead, ih]
      exact fun a ha b hb => heq a (List.mem_cons_of_mem _ ha) b (List.mem_cons_of_mem _ hb)

theorem foldlM_invariant {step : β → α → Option β} {motive : β → Prop} {start result : β}
    (h : items.foldlM step start = some result) (hstart : motive start)
    (hstep : ∀ s a s', motive s → step s a = some s' → motive s') : motive result := by
  induction items generalizing start with
  | nil => exact Option.some.inj h ▸ hstart
  | cons a items ih =>
      rw [List.foldlM_cons] at h
      obtain ⟨next, hnext, hrest⟩ := Option.bind_eq_some_iff.mp h
      exact ih hrest (hstep start a next hstart hnext)

/-- A loop that leaves some items out and has two lists for the others. -/
theorem foldlM_twoLists (skip left : α → Bool) (f : α → Option β) (g : α → Option γ)
    (items : List α) (found : List β × List γ) :
    items.foldlM (fun found a =>
      if skip a then some found
      else if left a then (f a).bind fun b => some (found.1 ++ [b], found.2)
      else (g a).bind fun c => some (found.1, found.2 ++ [c])) found =
    (((items.filter fun a => !skip a && left a).mapM f).bind fun bs =>
      ((items.filter fun a => !skip a && !left a).mapM g).bind fun cs =>
        some (found.1 ++ bs, found.2 ++ cs)) := by
  induction items generalizing found with
  | nil => simp
  | cons a items ih =>
      rw [List.foldlM_cons]
      cases hskip : skip a with
      | true => simp [hskip, ih]
      | false =>
          cases hleft : left a with
          | true =>
              simp only [hskip, hleft, Bool.not_false, Bool.not_true, Bool.and_true, Bool.and_false,
                List.filter_cons, if_true, if_false, Bool.false_eq_true, List.mapM_cons]
              cases f a <;> simp [ih, Option.bind_assoc]
          | false =>
              simp only [hskip, hleft, Bool.not_false, Bool.and_true, Bool.and_false,
                List.filter_cons, if_true, if_false, Bool.false_eq_true, List.mapM_cons]
              cases g a with
              | none => simp
              | some c => simp [ih, Option.bind_assoc]

end MapM

section Distinct

variable {key : α → Option β} {items items' : List α}

variable (key) in
/-- No two of the items have the same key. -/
def DistinctKeys (items : List α) : Prop :=
  ∀ a ∈ items, ∀ b ∈ items, ∀ k, key a = some k → key b = some k → a = b

theorem DistinctKeys.of_subset (h : DistinctKeys key items) (hsub : items' ⊆ items) :
    DistinctKeys key items' :=
  fun a ha b hb => h a (hsub ha) b (hsub hb)

theorem distinctKeys_results {read : α → Option γ} {name : γ → α} {results : List γ}
    (hname : ∀ a b, read a = some b → name b = a) (hread : items.mapM read = some results)
    (h : DistinctKeys key items) : DistinctKeys (fun b => key (name b)) results := by
  intro b hb c hc k hkb hkc
  obtain ⟨a, ha, hab⟩ := exists_of_mem_mapM hread hb
  obtain ⟨a', ha', hac⟩ := exists_of_mem_mapM hread hc
  dsimp only at hkb hkc
  rw [hname a b hab] at hkb
  rw [hname a' c hac] at hkc
  obtain rfl := h a ha a' ha' k hkb hkc
  exact Option.some.inj (hab.symm.trans hac)

end Distinct

section Sorting

variable [LinearOrder β] (key : α → Option β)

/-- `items.sort(key=...)`, where a key can raise an exception -/
def sortBy (items : List α) : Option (List α) := do
  let keyed ← items.mapM fun item => (key item).map (·, item)
  some ((Bubble.byKey Prod.fst keyed).map Prod.snd)

def InOrder (items : List α) : Prop :=
  ∃ keys, items.mapM key = some keys ∧ keys.Pairwise (· ≤ ·)

variable {key} {items items' : List α}

theorem sortBy_spec {sorted : List α} (h : sortBy key items = some sorted) :
    sorted.Perm items ∧ InOrder key sorted := by
  obtain ⟨keyed, hkeyed, hsorted⟩ := Option.bind_eq_some_iff.mp h
  obtain rfl := Option.some.inj hsorted
  obtain ⟨hitems, hkeys⟩ := mapM_keyed.mp hkeyed
  have hperm := Bubble.byKey_perm Prod.fst keyed
  refine ⟨hitems ▸ hperm.map Prod.snd, (Bubble.byKey Prod.fst keyed).map Prod.fst, ?_, ?_⟩
  · -- the keys are those of the items in any order
    have hpairs : ∀ entry ∈ keyed, key entry.2 = some entry.1 := by
      intro entry hentry
      obtain ⟨a, -, ha⟩ := exists_of_mem_mapM hkeyed hentry
      obtain ⟨k, hk, rfl⟩ := Option.map_eq_some_iff.mp ha
      exact hk
    rw [mapM_eq_some, List.forall₂_map_left_iff, List.forall₂_map_right_iff, List.forall₂_same]
    exact fun entry hentry => hpairs entry (hperm.subset hentry)
  · exact List.pairwise_map.mpr (Bubble.pairwise_byKey Prod.fst keyed)

theorem sortBy_isSome : (sortBy key items).isSome ↔ ∀ a ∈ items, (key a).isSome := by
  have hkeyed : (sortBy key items).isSome ↔
      (items.mapM fun item => (key item).map (·, item)).isSome := by
    rw [sortBy]
    cases items.mapM fun item => (key item).map (·, item) <;> exact Iff.rfl
  rw [hkeyed, mapM_isSome]
  simp only [Option.isSome_map]

theorem inOrder_map {f : γ → α} {items : List γ} (h : InOrder (fun a => key (f a)) items) :
    InOrder key (items.map f) := by
  obtain ⟨keys, hkeys, hsorted⟩ := h
  refine ⟨keys, ?_, hsorted⟩
  rw [mapM_eq_some, List.forall₂_map_left_iff]
  exact mapM_eq_some.mp hkeys

/-- Lists in order with the same items are equal, where no two items have the same key. -/
theorem InOrder.eq_of_perm (h : InOrder key items) (h' : InOrder key items')
    (hperm : items.Perm items') (hdistinct : DistinctKeys key items) : items = items' := by
  obtain ⟨keys, hkeys, hsorted⟩ := h
  obtain ⟨keys', hkeys', hsorted'⟩ := h'
  obtain ⟨keys'', hkeys'', hpermKeys⟩ := mapM_perm hperm hkeys
  obtain rfl : keys' = keys'' := Option.some.inj (hkeys'.symm.trans hkeys'')
  have heq : keys = keys' := hpermKeys.eq_of_pairwise' hsorted hsorted'
  subst heq
  -- item by item, both lists have the same keys
  have hsame : List.Forall₂ (fun a b => ∃ k, key a = some k ∧ key b = some k) items items' := by
    have hleft := mapM_eq_some.mp hkeys
    have hright := mapM_eq_some.mp hkeys'
    rw [List.forall₂_iff_get] at hleft hright ⊢
    refine ⟨hleft.1.trans hright.1.symm, fun i hi hi' => ?_⟩
    have hkey : i < keys.length := hleft.1 ▸ hi
    exact ⟨keys.get ⟨i, hkey⟩, hleft.2 i hi hkey, hright.2 i hi' hkey⟩
  apply eq_of_forall₂ hsame
  rintro a ha b hb ⟨k, hka, hkb⟩
  exact hdistinct a ha b (hperm.mem_iff.mpr hb) k hka hkb

theorem sortBy_perm {sorted : List α} (hperm : items.Perm items')
    (hdistinct : DistinctKeys key items) (h : sortBy key items = some sorted) :
    sortBy key items' = some sorted := by
  obtain ⟨hsorted, horder⟩ := sortBy_spec h
  have hsome : (sortBy key items').isSome := by
    rw [sortBy_isSome]
    have hall := sortBy_isSome.mp (Option.isSome_of_eq_some h)
    exact fun a ha => hall a (hperm.mem_iff.mpr ha)
  obtain ⟨sorted', h'⟩ := Option.isSome_iff_exists.mp hsome
  obtain ⟨hsorted', horder'⟩ := sortBy_spec h'
  rw [h']
  congr 1
  symm
  exact horder.eq_of_perm horder' (hsorted.trans (hperm.trans hsorted'.symm))
    (hdistinct.of_subset hsorted.subset)

/-- Reading item by item and sorting gives the same list for the items in another order. -/
theorem sortBy_mapM_perm {read : α → Option γ} (read' : α → Option γ) (name : γ → α)
    {results sorted : List γ} (hname : ∀ a b, read a = some b → name b = a)
    (hperm : items.Perm items') (hsame : ∀ a ∈ items, ∀ b, read a = some b → read' a = some b)
    (hdistinct : DistinctKeys key items)
    (hread : items.mapM read = some results)
    (hsort : sortBy (fun b => key (name b)) results = some sorted) :
    ∃ results', items'.mapM read' = some results' ∧
      sortBy (fun b => key (name b)) results' = some sorted := by
  have hread' : items.mapM read' = some results := by
    rw [mapM_eq_some] at hread ⊢
    have hmem := (List.forall₂_and_left items results).mpr
      ⟨fun a (ha : a ∈ items) => ha, hread⟩
    exact hmem.imp fun a b hab => hsame a hab.1 b hab.2
  obtain ⟨results', hresults', hpermResults⟩ := mapM_perm hperm hread'
  exact ⟨results', hresults',
    sortBy_perm hpermResults (distinctKeys_results hname hread hdistinct) hsort⟩

theorem sortBy_mapM_isSome (key : α → Option β) (read : α → Option γ) (name : γ → α)
    (hname : ∀ a b, read a = some b → name b = a) (items : List α) :
    (∃ results, items.mapM read = some results ∧ (sortBy (fun b => key (name b)) results).isSome) ↔
      ∀ a ∈ items, (read a).isSome ∧ (key a).isSome := by
  constructor
  · rintro ⟨results, hresults, hsort⟩ a ha
    have hread := mapM_isSome.mp (Option.isSome_of_eq_some hresults) a ha
    obtain ⟨b, hb⟩ := Option.isSome_iff_exists.mp hread
    refine ⟨hread, ?_⟩
    have hmem : b ∈ results := by
      have hnames := map_of_mapM name hname hresults
      rw [← hnames] at ha
      obtain ⟨c, hc, rfl⟩ := List.mem_map.mp ha
      obtain ⟨a', -, hc'⟩ := exists_of_mem_mapM hresults hc
      obtain rfl := hname _ _ hc'
      obtain rfl := Option.some.inj (hb.symm.trans hc')
      exact hc
    have hkey := sortBy_isSome.mp hsort b hmem
    rwa [hname a b hb] at hkey
  · intro hall
    obtain ⟨results, hresults⟩ := Option.isSome_iff_exists.mp
      (mapM_isSome.mpr fun a ha => (hall a ha).1)
    refine ⟨results, hresults, sortBy_isSome.mpr fun b hb => ?_⟩
    obtain ⟨a, ha, hab⟩ := exists_of_mem_mapM hresults hb
    rw [hname a b hab]
    exact (hall a ha).2

end Sorting

end PyText
