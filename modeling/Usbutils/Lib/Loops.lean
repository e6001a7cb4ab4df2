import Mathlib.Logic.Relation

/-! `while` loops whose body may fail, with the rules of the invariant and the variant. -/
namespace Loops

variable {σ : Type} (guard : σ → Bool) (body : σ → Option σ)

/-- `none` where the body fails or the turns do not suffice. -/
def whileLoop : Nat → σ → Option σ
  | 0, _ => none
  | turns + 1, s => if guard s then (body s).bind (whileLoop turns) else some s

def Turn (s s' : σ) : Prop := guard s = true ∧ body s = some s'

def Reaches : σ → σ → Prop := Relation.ReflTransGen (Turn guard body)

/-- A turn does not fail, keeps the invariant and makes the variant smaller. -/
def Bounded (inv : σ → Prop) (variant : σ → Nat) : Prop :=
  ∀ s, inv s → guard s = true → ∃ s', body s = some s' ∧ inv s' ∧ variant s' < variant s

section Rules

variable {guard body} {s t u : σ} {inv : σ → Prop} {variant : σ → Nat} {turns : Nat}

theorem Reaches.refl : Reaches guard body s s := Relation.ReflTransGen.refl

theorem Reaches.turn (hguard : guard s = true) (hbody : body s = some t) :
    Reaches guard body s t :=
  Relation.ReflTransGen.single ⟨hguard, hbody⟩

theorem Reaches.trans (first : Reaches guard body s t) (second : Reaches guard body t u) :
    Reaches guard body s u :=
  Relation.ReflTransGen.trans first second

theorem Bounded.reaches (h : Bounded guard body inv variant) (hrun : Reaches guard body s t)
    (hs : inv s) : inv t := by
  induction hrun with
  | refl => exact hs
  | tail _ hturn ih =>
      obtain ⟨s', hbody, hs', -⟩ := h _ ih hturn.1
      exact Option.some.inj (hbody.symm.trans hturn.2) ▸ hs'

/-- The variant bounds the number of turns. -/
theorem Bounded.whileLoop_of_reaches (h : Bounded guard body inv variant)
    (hrun : Reaches guard body s t) (hs : inv s) (hexit : guard t = false)
    (hturns : variant s < turns) : whileLoop guard body turns s = some t := by
  induction hrun using Relation.ReflTransGen.head_induction_on generalizing turns with
  | refl =>
      cases turns with
      | zero => cases hturns
      | succ turns => simp [whileLoop, hexit]
  | head hturn _ ih =>
      obtain ⟨s', hbody, hs', hless⟩ := h _ hs hturn.1
      obtain rfl := Option.some.inj (hbody.symm.trans hturn.2)
      cases turns with
      | zero => cases hturns
      | succ turns =>
          rw [whileLoop, if_pos hturn.1, hturn.2]
          apply ih hs'
          omega

theorem Bounded.exits (h : Bounded guard body inv variant) (hs : inv s) :
    ∃ t, Reaches guard body s t ∧ guard t = false := by
  induction hn : variant s using Nat.strongRecOn generalizing s with
  | _ n ih =>
      cases hguard : guard s with
      | false => exact ⟨s, Reaches.refl, hguard⟩
      | true =>
          obtain ⟨s', hbody, hs', hless⟩ := h s hs hguard
          obtain ⟨t, hrun, ht⟩ := ih (variant s') (hn ▸ hless) hs' rfl
          exact ⟨t, (Reaches.turn hguard hbody).trans hrun, ht⟩

end Rules
end Loops
