import Mathlib.Algebra.GroupWithZero.Nat
import Mathlib.Algebra.BigOperators.Group.List.Basic

/-! Putting items one after another into a space of limited length. Placing
ends at the first item that does not fit; an item that takes the rest leaves no
space behind it. -/
namespace Packing

structure Rule (ι : Type) where
  need : ι → Nat
  takesRest : ι → Bool
  limit : Nat

variable {ι : Type} (R : Rule ι)

namespace Rule

def next (item : ι) (offset : Nat) : Nat :=
  if R.takesRest item then R.limit else offset + R.need item

/-- The items that fit, each with its offset. -/
def placed : List ι → Nat → List (ι × Nat)
  | [], _ => []
  | item :: items, offset =>
      if offset + R.need item > R.limit then []
      else (item, offset) :: placed items (R.next item offset)

def stop : List ι → Nat → Nat
  | [], offset => offset
  | item :: items, offset =>
      if offset + R.need item > R.limit then offset else stop items (R.next item offset)

def fits : List ι → Nat → Bool
  | [], _ => true
  | item :: items, offset =>
      if offset + R.need item > R.limit then false else fits items (R.next item offset)

def span (item : ι) (offset : Nat) : Nat :=
  if R.takesRest item then R.limit - offset else R.need item

variable {R} {item : ι} {items left right : List ι} {offset : Nat}

theorem next_le (h : offset + R.need item ≤ R.limit) : R.next item offset ≤ R.limit := by
  unfold next
  split <;> omega

theorem next_eq (h : offset + R.need item ≤ R.limit) :
    R.next item offset = offset + R.span item offset := by
  unfold next span
  split <;> omega

theorem placed_append (left right : List ι) (offset : Nat) :
    R.placed (left ++ right) offset = R.placed left offset ++
      if R.fits left offset then R.placed right (R.stop left offset) else [] := by
  induction left generalizing offset with
  | nil => simp [placed, fits, stop]
  | cons item left ih =>
      rw [List.cons_append, placed, placed, fits, stop]
      split
      · simp
      · rw [ih, List.cons_append]

theorem fits_append (left right : List ι) (offset : Nat) :
    R.fits (left ++ right) offset = (R.fits left offset && R.fits right (R.stop left offset)) := by
  induction left generalizing offset with
  | nil => rfl
  | cons item left ih =>
      rw [List.cons_append, fits, fits, stop]
      split
      · rfl
      · exact ih (R.next item offset)

theorem stop_bounds (h : offset ≤ R.limit) :
    offset ≤ R.stop items offset ∧ R.stop items offset ≤ R.limit := by
  induction items generalizing offset with
  | nil => exact ⟨Nat.le_refl _, h⟩
  | cons item items ih =>
      rw [stop]
      split
      · exact ⟨Nat.le_refl _, h⟩
      · have hfit : offset + R.need item ≤ R.limit := by omega
        have hnext := ih (next_le hfit)
        rw [next_eq hfit] at hnext ⊢
        omega

/-- The items cover the space between the first offset and the last without a
gap or an overlap. -/
theorem tiles (base : Nat) (h : offset ≤ R.limit) :
    (R.placed items offset).flatMap (fun p => List.range' (base + p.2) (R.span p.1 p.2)) =
      List.range' (base + offset) (R.stop items offset - offset) := by
  induction items generalizing offset with
  | nil => simp [placed, stop]
  | cons item items ih =>
      rw [placed, stop]
      split
      · simp
      · have hfit : offset + R.need item ≤ R.limit := by omega
        have hbounds := @stop_bounds ι R items _ (next_le hfit)
        rw [List.flatMap_cons, ih (next_le hfit)]
        rw [next_eq hfit] at hbounds ⊢
        rw [show base + (offset + R.span item offset) = base + offset + R.span item offset by
          omega, List.range'_append_1]
        congr 1
        dsimp only
        omega

theorem placed_of_fits (h : R.fits items offset = true) :
    (R.placed items offset).map Prod.fst = items := by
  induction items generalizing offset with
  | nil => rfl
  | cons item items ih =>
      rw [fits] at h
      split at h
      · cases h
      · next hfit => rw [placed, if_neg hfit, List.map_cons, ih h]

theorem placed_isFirst (items : List ι) (offset : Nat) :
    (R.placed items offset).map Prod.fst <+: items := by
  induction items generalizing offset with
  | nil => exact ⟨[], rfl⟩
  | cons item items ih =>
      rw [placed]
      split
      · exact ⟨_, rfl⟩
      · obtain ⟨rest, hrest⟩ := ih (R.next item offset)
        exact ⟨rest, congrArg (item :: ·) hrest⟩

theorem fits_of_placed (h : items.length ≤ (R.placed items offset).length) :
    R.fits items offset = true := by
  induction items generalizing offset with
  | nil => rfl
  | cons item items ih =>
      rw [placed] at h
      rw [fits]
      split at h
      · cases h
      · next hfit =>
          rw [if_neg hfit]
          exact ih (by simpa using h)

theorem mem_placed {o : Nat} :
    (item, o) ∈ R.placed items offset ↔
      ∃ before after, items = before ++ item :: after ∧ R.fits before offset = true ∧
        o = R.stop before offset ∧ o + R.need item ≤ R.limit := by
  constructor
  · intro h
    induction items generalizing offset with
    | nil => cases h
    | cons first items ih =>
        rw [placed] at h
        split at h
        · cases h
        · next hfit =>
            rcases List.mem_cons.mp h with heq | htail
            · cases heq
              exact ⟨[], items, rfl, rfl, rfl, by omega⟩
            · obtain ⟨before, after, rfl, hfits, ho, hneed⟩ := ih htail
              refine ⟨first :: before, after, rfl, ?_, ?_, hneed⟩
              · rw [fits, if_neg hfit, hfits]
              · rw [stop, if_neg hfit, ho]
  · rintro ⟨before, after, rfl, hfits, rfl, hneed⟩
    rw [placed_append, if_pos hfits, placed, if_neg (by omega)]
    simp

theorem mem_of_mem_placed {o : Nat} (h : (item, o) ∈ R.placed items offset) : item ∈ items :=
  (placed_isFirst items offset).subset (List.mem_map_of_mem h)

theorem mem_placed_between {o : Nat} {middle : ι} (hleft : item ∉ left) (hright : item ∉ right) :
    (item, o) ∈ R.placed (left ++ middle :: right) offset ↔
      item = middle ∧ R.fits left offset = true ∧ o = R.stop left offset ∧
        o + R.need middle ≤ R.limit := by
  constructor
  · intro h
    rw [placed_append, List.mem_append] at h
    rcases h with h | h
    · exact absurd (mem_of_mem_placed h) hleft
    · split at h
      · next hfits =>
          rw [placed] at h
          split at h
          · cases h
          · next hfit =>
              rcases List.mem_cons.mp h with heq | htail
              · cases heq
                exact ⟨rfl, hfits, rfl, by omega⟩
              · exact absurd (mem_of_mem_placed htail) hright
      · cases h
  · rintro ⟨rfl, hfits, rfl, hneed⟩
    exact mem_placed.mpr ⟨left, right, rfl, hfits, rfl, hneed⟩

theorem stop_of_no_rest (hrest : ∀ x ∈ items, R.takesRest x = false)
    (hfits : R.fits items offset = true) :
    R.stop items offset = offset + (items.map R.need).sum := by
  induction items generalizing offset with
  | nil => rfl
  | cons item items ih =>
      obtain ⟨hitem, hitems⟩ := List.forall_mem_cons.mp hrest
      rw [fits] at hfits
      split at hfits
      · cases hfits
      · next hfit =>
          have hnext : R.next item offset = offset + R.need item := by simp [next, hitem]
          rw [stop, if_neg hfit, ih hitems hfits, hnext, List.map_cons, List.sum_cons]
          omega

theorem fits_of_no_rest (hrest : ∀ x ∈ items, R.takesRest x = false) (h : offset ≤ R.limit) :
    R.fits items offset = true ↔ offset + (items.map R.need).sum ≤ R.limit := by
  induction items generalizing offset with
  | nil => simpa [fits] using h
  | cons item items ih =>
      obtain ⟨hitem, hitems⟩ := List.forall_mem_cons.mp hrest
      have hnext : R.next item offset = offset + R.need item := by simp [next, hitem]
      rw [fits, List.map_cons, List.sum_cons]
      split
      · simp only [Bool.false_eq_true, false_iff]
        omega
      · next hfit =>
          rw [ih hitems (next_le (by omega)), hnext]
          omega

end Rule
end Packing
