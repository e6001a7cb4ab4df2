import Mathlib.Data.List.Basic

/-! Procedures that call into an environment. The environment answers each call as it likes,
knowing all calls before it; what a procedure does is the log of its calls. -/
namespace Calls

variable {κ : Type} {α β : Type}

abbrev Log (κ : Type) := List (κ × Int)

abbrev Oracle (κ : Type) := Log κ → κ → Int

def Proc (κ α : Type) : Type := Oracle κ → Log κ → α × Log κ

namespace Proc

instance : Monad (Proc κ) where
  pure a := fun _ log => (a, log)
  bind p f := fun env log => f (p env log).1 env (p env log).2

def ask (c : κ) : Proc κ Int := fun env log => (env log c, log ++ [(c, env log c)])

def tell (c : κ) : Proc κ Unit := fun _ log => ((), log ++ [(c, 0)])

/-- The procedure returns `a` after these calls. -/
def Makes (p : Proc κ α) (env : Oracle κ) (log : Log κ) (a : α) (calls : Log κ) : Prop :=
  p env log = (a, log ++ calls)

variable (env : Oracle κ) (log : Log κ)

theorem makes_pure (a : α) : Makes (pure a : Proc κ α) env log a [] := by
  rw [Makes, List.append_nil]
  rfl

theorem makes_ask (c : κ) : Makes (ask c) env log (env log c) [(c, env log c)] := rfl

theorem makes_tell (c : κ) : Makes (tell c) env log () [(c, 0)] := rfl

variable {env log}

theorem Makes.bind {p : Proc κ α} {f : α → Proc κ β} {a : α} {b : β} {first second : Log κ}
    (hp : Makes p env log a first) (hf : Makes (f a) env (log ++ first) b second) :
    Makes (p >>= f) env log b (first ++ second) := by
  have hrun : (p >>= f) env log = f (p env log).1 env (p env log).2 := rfl
  rw [Makes, hrun, hp]
  dsimp only
  rw [hf, List.append_assoc]

end Proc
end Calls
