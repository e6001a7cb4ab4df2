import Mathlib.Data.List.Induction

/-! Runs of a machine that takes a step for each event, or refuses it. -/
namespace Runs

variable {σ ε : Type} (step : σ → ε → Option σ)

def steps (s : σ) (events : List ε) : Option σ := events.foldlM step s

/-- On the way some event comes in a state such that `p` holds. -/
def Visits (s : σ) (events : List ε) (p : σ → ε → Prop) : Prop :=
  ∃ before e after s', events = before ++ e :: after ∧ steps step s before = some s' ∧ p s' e

section Run

variable {step} {s s' s'' : σ} {e : ε} {events later : List ε}

@[simp] theorem steps_nil : steps step s [] = some s := rfl

theorem steps_cons : steps step s (e :: events) = some s'' ↔
    ∃ s', step s e = some s' ∧ steps step s' events = some s'' := by
  rw [steps, List.foldlM_cons, Option.bind_eq_bind, Option.bind_eq_some_iff]
  rfl

theorem steps_append : steps step s (events ++ later) = some s'' ↔
    ∃ s', steps step s events = some s' ∧ steps step s' later = some s'' := by
  rw [steps, List.foldlM_append, Option.bind_eq_bind, Option.bind_eq_some_iff]
  rfl

theorem steps_concat : steps step s (events ++ [e]) = some s'' ↔
    ∃ s', steps step s events = some s' ∧ step s' e = some s'' := by
  simp only [steps_append, steps_cons, steps_nil, Option.some.injEq, exists_eq_right]

/-- What holds at the start, and after an event if it held before, holds of every run. -/
theorem steps_induction {motive : List ε → σ → Prop} (hstart : motive [] s)
    (hstep : ∀ {events e s' s''}, steps step s events = some s' → step s' e = some s'' →
      motive events s' → motive (events ++ [e]) s'')
    (hrun : steps step s events = some s') : motive events s' := by
  induction events using List.reverseRecOn generalizing s' with
  | nil =>
      obtain rfl := Option.some.inj hrun
      exact hstart
  | append_singleton events e ih =>
      obtain ⟨s₁, hbefore, he⟩ := steps_concat.mp hrun
      exact hstep hbefore he (ih hbefore)

theorem steps_invariant {inv : σ → Prop} {allowed : ε → Prop}
    (hstep : ∀ {s e s'}, inv s → allowed e → step s e = some s' → inv s')
    (hstart : inv s) (hallowed : ∀ e ∈ events, allowed e) (hrun : steps step s events = some s') :
    inv s' := by
  have hinv : (∀ e ∈ events, allowed e) → inv s' := by
    refine steps_induction (motive := fun events s => (∀ e ∈ events, allowed e) → inv s)
      (fun _ => hstart) ?_ hrun
    intro events e s' s'' _ he ih hallowed
    obtain ⟨hevents, hlast⟩ := List.forall_mem_append.mp hallowed
    exact hstep (ih hevents) (hlast e (List.mem_singleton_self e)) he
  exact hinv hallowed

variable {p : σ → ε → Prop}

theorem not_visits_nil : ¬ Visits step s [] p := by
  rintro ⟨before, e, after, -, heq, -⟩
  cases before <;> cases heq

theorem visits_concat (hrun : steps step s events = some s') :
    Visits step s (events ++ [e]) p ↔ Visits step s events p ∨ p s' e := by
  constructor
  · rintro ⟨before, e', after, s₁, heq, hbefore, hp⟩
    cases after using List.reverseRecOn with
    | nil =>
        obtain ⟨rfl, rfl⟩ := List.append_singleton_inj.mp heq
        obtain rfl := Option.some.inj (hbefore.symm.trans hrun)
        exact Or.inr hp
    | append_singleton after last =>
        rw [← List.cons_append, ← List.append_assoc] at heq
        obtain ⟨rfl, rfl⟩ := List.append_singleton_inj.mp heq
        exact Or.inl ⟨before, e', after, s₁, rfl, hbefore, hp⟩
  · rintro (⟨before, e', after, s₁, rfl, hbefore, hp⟩ | hp)
    · exact ⟨before, e', after ++ [e], s₁, by simp, hbefore, hp⟩
    · exact ⟨events, e, [], s', rfl, hrun, hp⟩

end Run
end Runs
