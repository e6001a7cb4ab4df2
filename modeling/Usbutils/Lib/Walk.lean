import Mathlib.Data.List.Induction

/-! Walks down and up a tree. A walk leaves the steps down that it has not taken back; a step
up at the root leads nowhere. -/
namespace Walk

variable {α : Type}

inductive Move (α : Type) where
  | down (a : α)
  | up
  deriving Repr, DecidableEq

def Move.from (place : List α) : Move α → List α
  | .down a => place ++ [a]
  | .up => place.dropLast

def walk (place : List α) (moves : List (Move α)) : List α := moves.foldl Move.from place

section Laws

variable {place other : List α} {moves later : List (Move α)} {m : Move α} {a : α}

@[simp] theorem walk_nil (place : List α) : walk place [] = place := rfl

@[simp] theorem walk_cons (place : List α) (m : Move α) (moves : List (Move α)) :
    walk place (m :: moves) = walk (m.from place) moves := rfl

@[simp] theorem walk_append (place : List α) (moves later : List (Move α)) :
    walk place (moves ++ later) = walk (walk place moves) later :=
  List.foldl_append

theorem walk_down (place names : List α) :
    walk place (names.map Move.down) = place ++ names := by
  induction names generalizing place with
  | nil => exact (List.append_nil place).symm
  | cons a names ih =>
      rw [List.map_cons, walk_cons, ih, Move.from, List.append_assoc, List.singleton_append]

theorem mem_walk (h : a ∈ walk place moves) : a ∈ place ∨ .down a ∈ moves := by
  induction moves generalizing place with
  | nil => exact Or.inl h
  | cons m moves ih =>
      rcases ih h with h | h
      · cases m with
        | up => exact Or.inl (List.dropLast_subset place h)
        | down b =>
            rcases List.mem_append.mp h with h | h
            · exact Or.inl h
            · exact Or.inr (by simp [List.mem_singleton.mp h])
      · exact Or.inr (List.mem_cons_of_mem m h)

end Laws

section Compare

variable {place other : List α} {moves : List (Move α)} (keep : Move α → Bool)

/-- From here on the two walks go the same way: they are at one place and no move is left out
any more. -/
def Rejoins (place other : List α) (moves : List (Move α)) : Prop :=
  ∃ before after, moves = before ++ after ∧ (∀ m ∈ after, keep m = true) ∧
    (walk place before = [] ∨ before = [] ∧ place = other)

variable {keep}

theorem length_from_le {m : Move α} (h : other.length ≤ place.length) :
    (m.from other).length ≤ (m.from place).length := by
  cases m <;> simp [Move.from] <;> omega

theorem length_walk_filter_le (hkeep : keep .up = true) (h : other.length ≤ place.length) :
    (walk other (moves.filter keep)).length ≤ (walk place moves).length := by
  induction moves generalizing place other with
  | nil => exact h
  | cons m moves ih =>
      cases hm : keep m with
      | true =>
          rw [List.filter_cons_of_pos hm]
          exact ih (length_from_le h)
      | false =>
          rw [List.filter_cons_of_neg (by simp [hm])]
          cases m with
          | up => exact absurd hkeep (by simp [hm])
          | down a => exact ih (by simp [Move.from]; omega)

theorem walk_eq_of_rejoins (hkeep : keep .up = true) (hle : other.length ≤ place.length)
    (h : Rejoins keep place other moves) : walk other (moves.filter keep) = walk place moves := by
  obtain ⟨before, after, rfl, hafter, hbefore⟩ := h
  rw [List.filter_append, List.filter_eq_self.mpr hafter, walk_append, walk_append]
  apply congrArg (walk · after)
  rcases hbefore with hbefore | ⟨rfl, rfl⟩
  · have hlength := @length_walk_filter_le α place other before keep hkeep hle
    rw [hbefore, List.length_nil] at hlength
    rw [hbefore]
    exact List.length_eq_zero_iff.mp (Nat.le_zero.mp hlength)
  · rfl

theorem rejoins_or_lt (hkeep : keep .up = true)
    (hstart : place = other ∨ other.length < place.length) (moves : List (Move α)) :
    Rejoins keep place other moves ∨
      (walk other (moves.filter keep)).length < (walk place moves).length := by
  have hle : other.length ≤ place.length := by
    rcases hstart with rfl | h
    · exact Nat.le_refl _
    · exact Nat.le_of_lt h
  induction moves using List.reverseRecOn with
  | nil =>
      rcases hstart with hstart | hstart
      · exact Or.inl ⟨[], [], rfl, by simp, Or.inr ⟨rfl, hstart⟩⟩
      · exact Or.inr hstart
  | append_singleton moves m ih =>
      rcases ih with hrejoins | hlt
      · cases hm : keep m with
        | true =>
            obtain ⟨before, after, rfl, hafter, hbefore⟩ := hrejoins
            refine Or.inl ⟨before, after ++ [m], List.append_assoc .., ?_, hbefore⟩
            intro m' hm'
            rcases List.mem_append.mp hm' with hm' | hm'
            · exact hafter m' hm'
            · exact List.mem_singleton.mp hm' ▸ hm
        | false =>
            cases m with
            | up => exact absurd hkeep (by simp [hm])
            | down a =>
                -- a move of one walk only, from the place where both are
                refine Or.inr ?_
                rw [List.filter_append, List.filter_cons_of_neg (by simp [hm]), List.filter_nil,
                  List.append_nil, walk_eq_of_rejoins hkeep hle hrejoins]
                simp [Move.from]
      · by_cases hroot : walk place (moves ++ [m]) = []
        · exact Or.inl ⟨moves ++ [m], [], by simp, by simp, Or.inl hroot⟩
        · refine Or.inr ?_
          have hpos := List.length_pos_iff.mpr hroot
          cases m with
          | up =>
              rw [List.filter_append, List.filter_cons_of_pos hkeep]
              simp [Move.from] at hpos ⊢
              omega
          | down a =>
              cases hm : keep (.down a) <;> simp [List.filter_append, hm, Move.from] <;> omega

/-- The two walks end at one place exactly if they rejoin. -/
theorem walk_filter_eq_iff (hkeep : keep .up = true)
    (hstart : place = other ∨ other.length < place.length) :
    walk other (moves.filter keep) = walk place moves ↔ Rejoins keep place other moves := by
  constructor
  · intro heq
    refine (rejoins_or_lt hkeep hstart moves).resolve_right ?_
    rw [heq]
    exact Nat.lt_irrefl _
  · apply walk_eq_of_rejoins hkeep
    rcases hstart with rfl | h
    · exact Nat.le_refl _
    · exact Nat.le_of_lt h

end Compare
end Walk
