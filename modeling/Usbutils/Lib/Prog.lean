import Mathlib.Data.List.Basic

/-! Programs that read memory through pointers and leave a log. A program is
run on a fixed memory; its log holds every byte it read and every effect of its
client, in order, and its result is a value or the reason it stopped early.
Safety statements are statements about the log. -/
namespace ByteProg

/-- The byte behind every address. A program is judged by the addresses it
reads, so memory needs no bounds of its own. -/
abbrev Memory := Nat → UInt8

inductive Entry (ε : Type) where
  | read (address : Nat)
  | act (effect : ε)
  deriving Repr, DecidableEq

def Entry.acts {ε : Type} : List (Entry ε) → List ε
  | [] => []
  | .read _ :: rest => acts rest
  | .act effect :: rest => effect :: acts rest

def Entry.map {ε ε' : Type} (f : ε → ε') : Entry ε → Entry ε'
  | .read address => .read address
  | .act effect => .act (f effect)

structure Outcome (ε σ α : Type) where
  log : List (Entry ε)
  result : Except σ α

def Prog (ε σ α : Type) : Type := Memory → Outcome ε σ α

variable {ε σ α β : Type}

@[simp] theorem Entry.acts_nil : Entry.acts ([] : List (Entry ε)) = [] := rfl

@[simp] theorem Entry.acts_read (a : Nat) (rest : List (Entry ε)) :
    Entry.acts (.read a :: rest) = Entry.acts rest := rfl

@[simp] theorem Entry.acts_act (e : ε) (rest : List (Entry ε)) :
    Entry.acts (.act e :: rest) = e :: Entry.acts rest := rfl

@[simp] theorem Entry.acts_append (left right : List (Entry ε)) :
    Entry.acts (left ++ right) = Entry.acts left ++ Entry.acts right := by
  induction left with
  | nil => rfl
  | cons entry rest ih =>
      cases entry with
      | read a => exact ih
      | act e => exact congrArg (e :: ·) ih

theorem Entry.acts_map {ε' : Type} (f : ε → ε') (log : List (Entry ε)) :
    Entry.acts (log.map (Entry.map f)) = (Entry.acts log).map f := by
  induction log with
  | nil => rfl
  | cons entry rest ih =>
      cases entry with
      | read a => exact ih
      | act e => exact congrArg (f e :: ·) ih

theorem Entry.mem_acts {e : ε} {log : List (Entry ε)} :
    e ∈ Entry.acts log ↔ .act e ∈ log := by
  induction log with
  | nil => simp
  | cons entry rest ih => cases entry <;> simp [ih]

namespace Prog

def log (p : Prog ε σ α) (m : Memory) : List (Entry ε) := (p m).log

def result (p : Prog ε σ α) (m : Memory) : Except σ α := (p m).result

def acts (p : Prog ε σ α) (m : Memory) : List ε := Entry.acts (p.log m)

protected def ret (a : α) : Prog ε σ α := fun _ => ⟨[], .ok a⟩

protected def andThen (p : Prog ε σ α) (f : α → Prog ε σ β) : Prog ε σ β := fun m =>
  match p m with
  | ⟨log, .ok a⟩ => ⟨log ++ (f a m).log, (f a m).result⟩
  | ⟨log, .error stop⟩ => ⟨log, .error stop⟩

instance : Monad (Prog ε σ) where
  pure := Prog.ret
  bind := Prog.andThen

instance : LawfulMonad (Prog ε σ) :=
  LawfulMonad.mk' (Prog ε σ)
    (by
      intro α p
      funext m
      change Prog.andThen p Prog.ret m = p m
      unfold Prog.andThen Prog.ret
      rcases p m with ⟨entries, stop | a⟩ <;> simp)
    (by
      intro α β a f
      funext m
      change Prog.andThen (Prog.ret a) f m = f a m
      simp [Prog.andThen, Prog.ret])
    (by
      intro α β γ p f g
      funext m
      change Prog.andThen (Prog.andThen p f) g m = Prog.andThen p (fun a => Prog.andThen (f a) g) m
      unfold Prog.andThen
      rcases p m with ⟨entries, stop | a⟩
      · rfl
      · dsimp only
        rcases f a m with ⟨entries', stop | b⟩ <;> simp)

def byte (address : Nat) : Prog ε σ Nat := fun m => ⟨[.read address], .ok (m address).toNat⟩

def emit (effect : ε) : Prog ε σ Unit := fun _ => ⟨[.act effect], .ok ()⟩

def stop (reason : σ) : Prog ε σ α := fun _ => ⟨[], .error reason⟩

def when (c : Prop) [Decidable c] (p : Prog ε σ Unit) : Prog ε σ Unit :=
  if c then p else pure ()

def loopFrom (first : Nat) : Nat → (Nat → Prog ε σ Unit) → Prog ε σ Unit
  | 0, _ => pure ()
  | count + 1, body => do
      body first
      loopFrom (first + 1) count body

def loop (count : Nat) (body : Nat → Prog ε σ Unit) : Prog ε σ Unit := loopFrom 0 count body

def forEach {ι : Type} (body : ι → Prog ε σ Unit) : List ι → Prog ε σ Unit
  | [] => pure ()
  | item :: rest => do
      body item
      forEach body rest

def firstSome {ι : Type} (attempt : ι → Prog ε σ (Option α)) : List ι → Prog ε σ (Option α)
  | [] => pure none
  | item :: rest => do
      match ← attempt item with
      | some a => return some a
      | none => firstSome attempt rest

def orTry (p q : Prog ε σ (Option α)) : Prog ε σ (Option α) := do
  match ← p with
  | some a => return some a
  | none => q

def relabel {ε' : Type} (f : ε → ε') (p : Prog ε σ α) : Prog ε' σ α := fun m =>
  ⟨(p.log m).map (Entry.map f), p.result m⟩

/-- Run a program on another memory object; its reads are none of ours. -/
def elsewhere (other : Memory) (p : Prog ε σ α) : Prog ε σ α := fun _ =>
  ⟨(p.acts other).map .act, p.result other⟩

def seen [DecidableEq ε] (effect : ε) (p : Prog ε σ Unit) : Prog ε σ Bool := fun m =>
  ⟨p.log m, (p.result m).map fun _ => decide (effect ∈ p.acts m)⟩

theorem log_bind (p : Prog ε σ α) (f : α → Prog ε σ β) (m : Memory) :
    (p >>= f).log m = p.log m ++
      match p.result m with
      | .ok a => (f a).log m
      | .error _ => [] := by
  change (Prog.andThen p f m).log = _
  unfold Prog.andThen log result
  rcases p m with ⟨entries, stop | a⟩ <;> simp

@[simp] theorem result_bind (p : Prog ε σ α) (f : α → Prog ε σ β) (m : Memory) :
    (p >>= f).result m =
      match p.result m with
      | .ok a => (f a).result m
      | .error stop => .error stop := by
  change (Prog.andThen p f m).result = _
  unfold Prog.andThen result
  rcases p m with ⟨entries, stop | a⟩ <;> simp

theorem map_eq (f : α → β) (p : Prog ε σ α) : f <$> p = p >>= fun a => pure (f a) :=
  map_eq_pure_bind f p

@[simp] theorem result_map (f : α → β) (p : Prog ε σ α) (m : Memory) :
    (f <$> p).result m = (p.result m).map f := by
  rw [map_eq, result_bind]
  cases p.result m <;> rfl

@[simp] theorem log_map (f : α → β) (p : Prog ε σ α) (m : Memory) :
    (f <$> p).log m = p.log m := by
  rw [map_eq, log_bind]
  cases p.result m <;> exact List.append_nil _

@[simp] theorem log_pure (a : α) (m : Memory) : (pure a : Prog ε σ α).log m = [] := rfl

@[simp] theorem result_pure (a : α) (m : Memory) : (pure a : Prog ε σ α).result m = .ok a := rfl

@[simp] theorem log_byte (a : Nat) (m : Memory) : (byte a : Prog ε σ Nat).log m = [.read a] := rfl

@[simp] theorem result_byte (a : Nat) (m : Memory) :
    (byte a : Prog ε σ Nat).result m = .ok (m a).toNat := rfl

@[simp] theorem log_emit (e : ε) (m : Memory) : (emit e : Prog ε σ Unit).log m = [.act e] := rfl

@[simp] theorem result_emit (e : ε) (m : Memory) : (emit e : Prog ε σ Unit).result m = .ok () := rfl

@[simp] theorem log_stop (s : σ) (m : Memory) : (stop s : Prog ε σ α).log m = [] := rfl

@[simp] theorem result_stop (s : σ) (m : Memory) : (stop s : Prog ε σ α).result m = .error s := rfl

@[simp] theorem log_relabel {ε' : Type} (f : ε → ε') (p : Prog ε σ α) (m : Memory) :
    (relabel f p).log m = (p.log m).map (Entry.map f) := rfl

@[simp] theorem result_relabel {ε' : Type} (f : ε → ε') (p : Prog ε σ α) (m : Memory) :
    (relabel f p).result m = p.result m := rfl

@[simp] theorem log_elsewhere (other : Memory) (p : Prog ε σ α) (m : Memory) :
    (elsewhere other p).log m = (p.acts other).map .act := rfl

@[simp] theorem result_elsewhere (other : Memory) (p : Prog ε σ α) (m : Memory) :
    (elsewhere other p).result m = p.result other := rfl

theorem result_seen [DecidableEq ε] {effect : ε} {p : Prog ε σ Unit} {m : Memory}
    (h : p.result m = .ok ()) : (seen effect p).result m = .ok (decide (effect ∈ p.acts m)) := by
  change (p.result m).map _ = _
  rw [h]
  rfl

@[simp] theorem result_ite (c : Prop) [Decidable c] (p q : Prog ε σ α) (m : Memory) :
    (if c then p else q).result m = if c then p.result m else q.result m := by
  split <;> rfl

@[simp] theorem result_when (c : Prop) [Decidable c] (p : Prog ε σ Unit) (m : Memory) :
    (when c p).result m = if c then p.result m else .ok () := by
  simp [when]

theorem result_loopFrom {body : Nat → Prog ε σ Unit} {m : Memory} (first count : Nat)
    (h : ∀ i, (body i).result m = .ok ()) : (loopFrom first count body).result m = .ok () := by
  induction count generalizing first with
  | zero => rfl
  | succ count ih => simp [loopFrom, h, ih]

theorem result_loop {body : Nat → Prog ε σ Unit} {m : Memory} (count : Nat)
    (h : ∀ i, (body i).result m = .ok ()) : (loop count body).result m = .ok () :=
  result_loopFrom 0 count h

theorem result_forEach {ι : Type} {body : ι → Prog ε σ Unit} {m : Memory} (items : List ι)
    (h : ∀ i, (body i).result m = .ok ()) : (forEach body items).result m = .ok () := by
  induction items with
  | nil => rfl
  | cons i rest ih => simp [forEach, h, ih]

theorem result_orTry {p q : Prog ε σ (Option α)} {m : Memory} {a b : Option α}
    (hp : p.result m = .ok a) (hq : q.result m = .ok b) :
    (orTry p q).result m = .ok (a.or b) := by
  rw [orTry, result_bind, hp]
  cases a <;> simp [hq]

theorem result_firstSome {ι : Type} {attempt : ι → Prog ε σ (Option α)} {value : ι → Option α}
    {m : Memory} (items : List ι) (h : ∀ i, (attempt i).result m = .ok (value i)) :
    (firstSome attempt items).result m = .ok (items.findSome? value) := by
  induction items with
  | nil => rfl
  | cons i rest ih =>
      rw [firstSome, result_bind, h, List.findSome?_cons]
      cases value i <;> simp [ih]

def Returns (p : Prog ε σ α) (m : Memory) : Prop := ∃ a, p.result m = .ok a

theorem returns_unit {p : Prog ε σ Unit} {m : Memory} : Returns p m ↔ p.result m = .ok () :=
  ⟨fun ⟨_, h⟩ => h, fun h => ⟨(), h⟩⟩

theorem Returns.of_result {p : Prog ε σ α} {a : α} {m : Memory} (h : p.result m = .ok a) :
    Returns p m :=
  ⟨a, h⟩

theorem Returns.bind {p : Prog ε σ α} {f : α → Prog ε σ β} {m : Memory} (hp : Returns p m)
    (hf : ∀ a, p.result m = .ok a → Returns (f a) m) : Returns (p >>= f) m := by
  obtain ⟨a, ha⟩ := hp
  obtain ⟨b, hb⟩ := hf a ha
  exact ⟨b, by rw [result_bind, ha]; exact hb⟩

theorem Returns.ite {c : Prop} [Decidable c] {p q : Prog ε σ α} {m : Memory}
    (hp : c → Returns p m) (hq : ¬c → Returns q m) : Returns (if c then p else q) m := by
  split
  case isTrue h => exact hp h
  case isFalse h => exact hq h

@[simp] theorem acts_pure (a : α) (m : Memory) : (pure a : Prog ε σ α).acts m = [] := rfl

@[simp] theorem acts_byte (a : Nat) (m : Memory) : (byte a : Prog ε σ Nat).acts m = [] := rfl

@[simp] theorem acts_emit (e : ε) (m : Memory) : (emit e : Prog ε σ Unit).acts m = [e] := rfl

@[simp] theorem acts_stop (s : σ) (m : Memory) : (stop s : Prog ε σ α).acts m = [] := rfl

theorem acts_bind (p : Prog ε σ α) (f : α → Prog ε σ β) (m : Memory) :
    (p >>= f).acts m = p.acts m ++
      match p.result m with
      | .ok a => (f a).acts m
      | .error _ => [] := by
  unfold acts
  rw [log_bind, Entry.acts_append]
  cases p.result m <;> rfl

theorem acts_bind_ok {p : Prog ε σ α} {a : α} {m : Memory} (h : p.result m = .ok a)
    (f : α → Prog ε σ β) : (p >>= f).acts m = p.acts m ++ (f a).acts m := by
  rw [acts_bind, h]

theorem mem_acts {p : Prog ε σ α} {m : Memory} {e : ε} : e ∈ p.acts m ↔ .act e ∈ p.log m :=
  Entry.mem_acts

@[simp] theorem acts_map (f : α → β) (p : Prog ε σ α) (m : Memory) :
    (f <$> p).acts m = p.acts m := by
  rw [acts, log_map, acts]

@[simp] theorem acts_relabel {ε' : Type} (f : ε → ε') (p : Prog ε σ α) (m : Memory) :
    (relabel f p).acts m = (p.acts m).map f :=
  Entry.acts_map f (p.log m)

@[simp] theorem acts_elsewhere (other : Memory) (p : Prog ε σ α) (m : Memory) :
    (elsewhere other p).acts m = p.acts other := by
  rw [acts, log_elsewhere]
  induction p.acts other with
  | nil => rfl
  | cons e rest ih => rw [List.map_cons, Entry.acts_act, ih]

@[simp] theorem acts_seen [DecidableEq ε] (effect : ε) (p : Prog ε σ Unit) (m : Memory) :
    (seen effect p).acts m = p.acts m := rfl

theorem acts_loopFrom {body : Nat → Prog ε σ Unit} {m : Memory} (first count : Nat)
    (h : ∀ i, (body i).result m = .ok ()) :
    (loopFrom first count body).acts m =
      (List.range' first count).flatMap fun i => (body i).acts m := by
  induction count generalizing first with
  | zero => rfl
  | succ count ih => rw [loopFrom, acts_bind_ok (h first), ih, List.range'_succ, List.flatMap_cons]

theorem acts_loop {body : Nat → Prog ε σ Unit} {m : Memory} (count : Nat)
    (h : ∀ i, (body i).result m = .ok ()) :
    (loop count body).acts m = (List.range count).flatMap fun i => (body i).acts m := by
  rw [loop, acts_loopFrom 0 count h, List.range_eq_range']

theorem acts_forEach {ι : Type} {body : ι → Prog ε σ Unit} {m : Memory} (items : List ι)
    (h : ∀ i, (body i).result m = .ok ()) :
    (forEach body items).acts m = items.flatMap fun i => (body i).acts m := by
  induction items with
  | nil => rfl
  | cons i rest ih => rw [forEach, acts_bind_ok (h i), ih, List.flatMap_cons]

def All (E : Entry ε → Prop) (p : Prog ε σ α) (m : Memory) : Prop := ∀ e ∈ p.log m, E e

variable {E : Entry ε → Prop} {m : Memory}

theorem mem_log_iff {p : Prog ε σ α} {e : Entry ε} :
    e ∈ p.log m ↔ ¬All (fun entry => entry ≠ e) p m := by
  simp [All]

@[simp] theorem all_pure (a : α) : All E (pure a : Prog ε σ α) m := by simp [All]

@[simp] theorem all_stop (s : σ) : All E (stop s : Prog ε σ α) m := by simp [All]

@[simp] theorem all_byte (a : Nat) : All E (byte a : Prog ε σ Nat) m ↔ E (.read a) := by
  simp [All]

@[simp] theorem all_emit (e : ε) : All E (emit e : Prog ε σ Unit) m ↔ E (.act e) := by
  simp [All]

@[simp] theorem all_bind (p : Prog ε σ α) (f : α → Prog ε σ β) :
    All E (p >>= f) m ↔ All E p m ∧ ∀ a, p.result m = .ok a → All E (f a) m := by
  unfold All
  rw [log_bind]
  cases p.result m <;> simp [or_imp, forall_and]

@[simp] theorem all_map (f : α → β) (p : Prog ε σ α) : All E (f <$> p) m ↔ All E p m := by
  simp [All]

@[simp] theorem all_ite (c : Prop) [Decidable c] (p q : Prog ε σ α) :
    All E (if c then p else q) m ↔ (c → All E p m) ∧ (¬c → All E q m) := by
  split <;> simp [*]

@[simp] theorem all_when (c : Prop) [Decidable c] (p : Prog ε σ Unit) :
    All E (when c p) m ↔ (c → All E p m) := by
  simp [when]

@[simp] theorem all_relabel {ε' : Type} {E' : Entry ε' → Prop} (f : ε → ε') (p : Prog ε σ α) :
    All E' (relabel f p) m ↔ All (fun e => E' (e.map f)) p m := by
  simp [All]

@[simp] theorem all_elsewhere (other : Memory) (p : Prog ε σ α) :
    All E (elsewhere other p) m ↔ ∀ e ∈ p.acts other, E (.act e) := by
  simp [All]

theorem all_loopFrom {body : Nat → Prog ε σ Unit} (first count : Nat)
    (h : ∀ i, first ≤ i → i < first + count → All E (body i) m) :
    All E (loopFrom first count body) m := by
  induction count generalizing first with
  | zero => simp [loopFrom]
  | succ count ih =>
      simp only [loopFrom, all_bind]
      refine ⟨h first (by omega) (by omega), fun _ _ => ih (first + 1) fun i hi hlt => ?_⟩
      exact h i (by omega) (by omega)

theorem all_loop {body : Nat → Prog ε σ Unit} (count : Nat)
    (h : ∀ i < count, All E (body i) m) : All E (loop count body) m :=
  all_loopFrom 0 count fun i _ hi => h i (by omega)

theorem all_loopFrom_iff {body : Nat → Prog ε σ Unit} (first count : Nat)
    (hbody : ∀ i, (body i).result m = .ok ()) :
    All E (loopFrom first count body) m ↔ ∀ i, first ≤ i → i < first + count → All E (body i) m := by
  refine ⟨fun h => ?_, all_loopFrom first count⟩
  induction count generalizing first with
  | zero => exact fun i _ _ => by omega
  | succ count ih =>
      obtain ⟨hfirst, hrest⟩ := (all_bind ..).mp h
      intro i hlo hhi
      rcases Nat.eq_or_lt_of_le hlo with rfl | hlt
      · exact hfirst
      · exact ih (first + 1) (hrest () (hbody first)) i hlt (by omega)

theorem all_loop_iff {body : Nat → Prog ε σ Unit} (count : Nat)
    (hbody : ∀ i, (body i).result m = .ok ()) :
    All E (loop count body) m ↔ ∀ i < count, All E (body i) m := by
  rw [loop, all_loopFrom_iff 0 count hbody]
  simp

theorem All.mono {F : Entry ε → Prop} {p : Prog ε σ α} (h : All E p m) (hF : ∀ e, E e → F e) :
    All F p m :=
  fun e he => hF e (h e he)

/-- The run reads inside `[lo, hi)`, does nothing else and returns `a`. -/
structure Computes (lo hi : Nat) (p : Prog ε σ α) (m : Memory) (a : α) : Prop where
  result : p.result m = .ok a
  reads : ∀ e ∈ p.log m, ∃ i, e = .read i ∧ lo ≤ i ∧ i < hi

namespace Computes

variable {lo hi : Nat} {p : Prog ε σ α} {f : α → Prog ε σ β} {a : α} {b : β}

theorem pure (a : α) : Computes lo hi (pure a : Prog ε σ α) m a :=
  ⟨rfl, by simp⟩

theorem byte {i : Nat} (hlo : lo ≤ i) (hhi : i < hi) :
    Computes lo hi (byte i : Prog ε σ Nat) m (m i).toNat :=
  ⟨rfl, by simp [hlo, hhi]⟩

theorem bind (hp : Computes lo hi p m a) (hf : Computes lo hi (f a) m b) :
    Computes lo hi (p >>= f) m b := by
  constructor
  · rw [result_bind, hp.result]
    exact hf.result
  · intro e he
    rw [log_bind, hp.result, List.mem_append] at he
    exact he.elim (hp.reads e) (hf.reads e)

theorem map (hp : Computes lo hi p m a) (g : α → β) :
    Computes lo hi (p >>= fun a => Pure.pure (g a)) m (g a) :=
  hp.bind (Computes.pure (g a))

theorem mono {lo' hi' : Nat} (hp : Computes lo hi p m a) (hlo : lo' ≤ lo) (hhi : hi ≤ hi') :
    Computes lo' hi' p m a := by
  refine ⟨hp.result, fun e he => ?_⟩
  obtain ⟨i, rfl, hi₁, hi₂⟩ := hp.reads e he
  exact ⟨i, rfl, by omega, by omega⟩

theorem acts_eq (hp : Computes lo hi p m a) : p.acts m = [] := by
  apply List.eq_nil_iff_forall_not_mem.mpr
  intro e he
  obtain ⟨i, hi, -⟩ := hp.reads _ (mem_acts.mp he)
  cases hi

theorem result_bind (hp : Computes lo hi p m a) (f : α → Prog ε σ β) :
    (p >>= f).result m = (f a).result m := by
  rw [Prog.result_bind, hp.result]

theorem acts_bind (hp : Computes lo hi p m a) (f : α → Prog ε σ β) :
    (p >>= f).acts m = (f a).acts m := by
  rw [acts_bind_ok hp.result, hp.acts_eq, List.nil_append]

theorem all (hp : Computes lo hi p m a) (hE : ∀ i, lo ≤ i → i < hi → E (.read i)) :
    All E p m := by
  intro e he
  obtain ⟨i, rfl, hi₁, hi₂⟩ := hp.reads e he
  exact hE i hi₁ hi₂

theorem all_bind (hp : Computes lo hi p m a) (hE : ∀ i, lo ≤ i → i < hi → E (.read i))
    (hf : All E (f a) m) : All E (p >>= f) m := by
  refine (Prog.all_bind p f).mpr ⟨hp.all hE, fun a' ha' => ?_⟩
  rw [hp.result] at ha'
  cases ha'
  exact hf

end Computes

/-- Up to reads inside `[lo, hi)`, the run of `p` is the run of `q`. -/
structure AsIf (lo hi : Nat) (p q : Prog ε σ α) (m : Memory) : Prop where
  result : p.result m = q.result m
  acts : p.acts m = q.acts m
  log : ∀ e ∈ p.log m, e ∈ q.log m ∨ ∃ i, e = .read i ∧ lo ≤ i ∧ i < hi

namespace AsIf

variable {lo hi : Nat} {p q : Prog ε σ α} {f g : α → Prog ε σ β} {a : α}

theorem refl (p : Prog ε σ α) : AsIf lo hi p p m := ⟨rfl, rfl, fun _ he => Or.inl he⟩

theorem bind (hp : AsIf lo hi p q m) (hf : ∀ a, AsIf lo hi (f a) (g a) m) :
    AsIf lo hi (p >>= f) (q >>= g) m := by
  constructor
  · rw [result_bind, result_bind, hp.result]
    cases q.result m with
    | error stop => rfl
    | ok a => exact (hf a).result
  · rw [acts_bind, acts_bind, hp.result, hp.acts]
    cases q.result m with
    | error stop => rfl
    | ok a => exact congrArg (q.acts m ++ ·) (hf a).acts
  · intro e he
    rw [log_bind, hp.result, List.mem_append] at he
    rw [log_bind, List.mem_append]
    rcases he with hleft | hright
    · exact (hp.log e hleft).imp_left Or.inl
    · cases hq : q.result m with
      | error stop =>
          rw [hq] at hright
          cases hright
      | ok a =>
          rw [hq] at hright
          exact ((hf a).log e hright).imp_left Or.inr

theorem loop {body body' : Nat → Prog ε σ Unit} (count : Nat)
    (h : ∀ i < count, AsIf lo hi (body i) (body' i) m) :
    AsIf lo hi (Prog.loop count body) (Prog.loop count body') m := by
  have hfrom : ∀ first, first + count ≤ count + first →
      (∀ i, first ≤ i → i < first + count → AsIf lo hi (body i) (body' i) m) →
        AsIf lo hi (loopFrom first count body) (loopFrom first count body') m := by
    clear h
    induction count with
    | zero => exact fun _ _ _ => AsIf.refl _
    | succ count ih =>
        intro first _ h
        refine (h first (by omega) (by omega)).bind fun _ => ih (first + 1) (by omega) ?_
        exact fun i hi hlt => h i (by omega) (by omega)
  exact hfrom 0 (by omega) fun i _ hi => h i (by omega)

theorem of_computes {p : Prog ε σ α} {q : Prog ε σ β} (hp : Computes lo hi p m a)
    (hf : AsIf lo hi (f a) q m) : AsIf lo hi (p >>= f) q m := by
  constructor
  · rw [hp.result_bind, hf.result]
  · rw [hp.acts_bind, hf.acts]
  · intro e he
    rw [log_bind, hp.result, List.mem_append] at he
    exact he.elim (fun h => Or.inr (hp.reads e h)) (hf.log e)

theorem mono {lo' hi' : Nat} (hp : AsIf lo hi p q m) (hlo : lo' ≤ lo) (hhi : hi ≤ hi') :
    AsIf lo' hi' p q m := by
  refine ⟨hp.result, hp.acts, fun e he => (hp.log e he).imp_right ?_⟩
  rintro ⟨i, rfl, hi₁, hi₂⟩
  exact ⟨i, rfl, by omega, by omega⟩

theorem all (hp : AsIf lo hi p q m) (hE : ∀ i, lo ≤ i → i < hi → E (.read i))
    (hq : All E q m) : All E p m := by
  intro e he
  rcases hp.log e he with hlog | ⟨i, rfl, hi₁, hi₂⟩
  · exact hq e hlog
  · exact hE i hi₁ hi₂

end AsIf

structure Blind (p : Prog ε σ α) : Prop where
  same : ∀ m m' : Memory, p m = p m'

namespace Blind

variable {p : Prog ε σ α} {f : α → Prog ε σ β}

theorem pure (a : α) : Blind (Pure.pure a : Prog ε σ α) := ⟨fun _ _ => rfl⟩

theorem emit (e : ε) : Blind (Prog.emit e : Prog ε σ Unit) := ⟨fun _ _ => rfl⟩

theorem stop (s : σ) : Blind (Prog.stop s : Prog ε σ α) := ⟨fun _ _ => rfl⟩

theorem bind (hp : Blind p) (hf : ∀ a, Blind (f a)) : Blind (p >>= f) := by
  constructor
  intro m m'
  change Prog.andThen p f m = Prog.andThen p f m'
  unfold Prog.andThen
  rw [hp.same m m']
  rcases p m' with ⟨entries, stop | a⟩
  · rfl
  · dsimp only
    rw [(hf a).same m m']

theorem ite {c : Prop} [Decidable c] {p q : Prog ε σ α} (hp : Blind p) (hq : Blind q) :
    Blind (if c then p else q) := by
  split
  · exact hp
  · exact hq

theorem when {c : Prop} [Decidable c] {p : Prog ε σ Unit} (hp : Blind p) : Blind (Prog.when c p) :=
  hp.ite (Blind.pure ())

theorem loop {body : Nat → Prog ε σ Unit} (count : Nat) (h : ∀ i, Blind (body i)) :
    Blind (Prog.loop count body) := by
  have hfrom : ∀ first, Blind (loopFrom first count body) := by
    induction count with
    | zero => exact fun _ => Blind.pure ()
    | succ count ih => exact fun first => (h first).bind fun _ => ih (first + 1)
  exact hfrom 0

theorem acts_eq (hp : Blind p) (m m' : Memory) : p.acts m = p.acts m' := by
  unfold Prog.acts Prog.log
  rw [hp.same m m']

end Blind

end Prog
end ByteProg
