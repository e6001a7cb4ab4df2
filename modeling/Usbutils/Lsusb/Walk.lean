import Usbutils.Lib.Frames
import Usbutils.Lsusb.Print
import Usbutils.Lsusb.Config

/-! The loops of `lsusb.c` that walk over a string of descriptors. What a decoder
does is `shown`; only the loops themselves mark where they are. -/
namespace Usbutils
open ByteProg

inductive WalkEffect where
  | shown (effect : Effect)
  | visit (address : Nat)
  | leave
  /-- An OTG descriptor is passed over as `handled separately`. -/
  | skipOtg (address : Nat)
  | hasSsp
  deriving DecidableEq, Repr

abbrev Walk := Prog WalkEffect Stop

def display (p : Dump Unit) : Walk Unit := Prog.relabel .shown p

/-- What a loop does with a descriptor of a type at an address: show it by a decoder
or, for `none`, leave it to the code that handles OTG descriptors. -/
abbrev Decoder := Nat → Nat → Option (Dump Unit)

def dispatch (decoder : Decoder) (buf : Nat) : Walk Unit := do
  match decoder buf (← Prog.byte (buf + 1)) with
  | some dump => display dump
  | none => Prog.emit (.skipOtg buf)

/-- The loop over the extra bytes of a configuration, an alternate setting or an
endpoint; `bad` is printed at a length out of bounds. -/
def extraLoop (bad : String) (decoder : Decoder) (extra : Extra) : Walk Unit :=
  Frames.walk .endless 2
    (fun bLength size => display (print bad [.num bLength, .num size]))
    (fun buf => do
      Prog.emit (.visit buf)
      dispatch decoder buf)
    extra.extra extra.extraLength

def walkExtra (bad : String) (decoder : Decoder) (extra : Extra) : Walk Unit := do
  Prog.when (extra.extraLength ≠ 0) (extraLoop bad decoder extra)
  Prog.emit .leave

def descriptors (m : Memory) (extra : Extra) : List Nat :=
  Frames.frames m 2 extra.extra extra.extraLength

def Extra.WellFormed (m : Memory) (extra : Extra) : Prop :=
  ∃ addresses, Frames.Tiles m 2 extra.extra extra.extraLength addresses

def visits : List WalkEffect → List Nat
  | [] => []
  | .visit address :: rest => address :: visits rest
  | _ :: rest => visits rest

def linesHere : List WalkEffect → Nat
  | [] => 0
  | .shown effect :: rest => (if effect.isLine then 1 else 0) + linesHere rest
  | .visit _ :: _ => 0
  | .leave :: _ => 0
  | _ :: rest => linesHere rest

def tally : List WalkEffect → List (Nat × Nat)
  | [] => []
  | .visit address :: rest => (address, linesHere rest) :: tally rest
  | _ :: rest => tally rest

def skips : List WalkEffect → List Nat
  | [] => []
  | .skipOtg address :: rest => address :: skips rest
  | _ :: rest => skips rest

/-- Reads and effects as `Within` has them; marks are free. -/
def WalkWithin (lo hi : Nat) : Entry WalkEffect → Prop
  | .read a => Within lo hi (.read a)
  | .act (.shown effect) => Within lo hi (.act effect)
  | .act _ => True

variable {m : Memory} {lo hi : Nat}

@[simp] theorem result_display (p : Dump Unit) : (display p).result m = p.result m := rfl

@[simp] theorem acts_display (p : Dump Unit) : (display p).acts m = (p.acts m).map .shown := by
  simp [display]

theorem acts_display_bind {p : Dump Unit} (h : p.result m = .ok ()) (rest : Unit → Walk Unit) :
    (display p >>= rest).acts m = (p.acts m).map .shown ++ (rest ()).acts m := by
  rw [Prog.acts_bind_ok ((result_display p).trans h), acts_display]

@[simp] theorem display_within (p : Dump Unit) :
    Prog.All (WalkWithin lo hi) (display p) m ↔ Prog.All (Within lo hi) p m := by
  rw [display, Prog.all_relabel]
  constructor <;> intro h e he <;> have := h e he <;> cases e <;> exact this

@[simp] theorem walkWithin_read (a : Nat) : WalkWithin lo hi (.read a) ↔ lo ≤ a ∧ a < hi := Iff.rfl

@[simp] theorem walkWithin_visit (a : Nat) : WalkWithin lo hi (.act (.visit a)) := trivial

@[simp] theorem walkWithin_leave : WalkWithin lo hi (.act .leave) := trivial

@[simp] theorem walkWithin_skipOtg (a : Nat) : WalkWithin lo hi (.act (.skipOtg a)) := trivial

@[simp] theorem walkWithin_hasSsp : WalkWithin lo hi (.act .hasSsp) := trivial

theorem WalkWithin.mono {lo' hi' : Nat} (hlo : lo' ≤ lo) (hhi : hi ≤ hi')
    {entry : Entry WalkEffect} (h : WalkWithin lo hi entry) : WalkWithin lo' hi' entry := by
  cases entry with
  | read a => exact @Within.mono lo lo' hi hi' hlo hhi (.read a) h
  | act effect =>
      cases effect with
      | shown e => exact @Within.mono lo lo' hi hi' hlo hhi (.act e) h
      | _ => trivial

theorem visits_append (left right : List WalkEffect) :
    visits (left ++ right) = visits left ++ visits right := by
  induction left with
  | nil => rfl
  | cons e rest ih => cases e <;> simp [visits, ih]

theorem skips_append (left right : List WalkEffect) :
    skips (left ++ right) = skips left ++ skips right := by
  induction left with
  | nil => rfl
  | cons e rest ih => cases e <;> simp [skips, ih]

@[simp] theorem visits_shown (effects : List Effect) : visits (effects.map .shown) = [] := by
  induction effects with
  | nil => rfl
  | cons e rest ih => simpa [visits] using ih

@[simp] theorem skips_shown (effects : List Effect) : skips (effects.map .shown) = [] := by
  induction effects with
  | nil => rfl
  | cons e rest ih => simpa [skips] using ih

@[simp] theorem tally_shown (effects : List Effect) (rest : List WalkEffect) :
    tally (effects.map .shown ++ rest) = tally rest := by
  induction effects with
  | nil => rfl
  | cons e effects ih => simpa [tally] using ih

theorem visits_flatMap {ι : Type} (items : List ι) (f : ι → List WalkEffect) :
    visits (items.flatMap f) = items.flatMap fun i => visits (f i) := by
  induction items with
  | nil => rfl
  | cons i rest ih => simp [visits_append, ih]

theorem skips_flatMap {ι : Type} (items : List ι) (f : ι → List WalkEffect) :
    skips (items.flatMap f) = items.flatMap fun i => skips (f i) := by
  induction items with
  | nil => rfl
  | cons i rest ih => simp [skips_append, ih]

theorem tally_fst (acts : List WalkEffect) : (tally acts).map Prod.fst = visits acts := by
  induction acts with
  | nil => rfl
  | cons e rest ih => cases e <;> simp [tally, visits, ih]

theorem linesHere_leave (left right : List WalkEffect) :
    linesHere (left ++ .leave :: right) = linesHere (left ++ [.leave]) := by
  induction left with
  | nil => rfl
  | cons e rest ih => cases e <;> simp [linesHere, ih]

theorem tally_leave (left right : List WalkEffect) :
    tally (left ++ .leave :: right) = tally (left ++ [.leave]) ++ tally right := by
  induction left with
  | nil => rfl
  | cons e rest ih => cases e <;> simp [tally, ih, linesHere_leave]

section Loop

variable {bad : String} {decoder : Decoder} {extra : Extra}

def Decoder.at (decoder : Decoder) (m : Memory) (address : Nat) : Option (Dump Unit) :=
  decoder address (m (address + 1)).toNat

def Decoder.Returns (decoder : Decoder) (m : Memory) : Prop :=
  ∀ buf type dump, decoder buf type = some dump → dump.result m = .ok ()

def Decoder.segment (decoder : Decoder) (m : Memory) (address : Nat) : List WalkEffect :=
  match decoder.at m address with
  | some dump => (dump.acts m).map .shown
  | none => [.skipOtg address]

theorem acts_dispatch (buf : Nat) : (dispatch decoder buf).acts m = decoder.segment m buf := by
  rw [dispatch, Prog.acts_bind_ok (Prog.result_byte ..), Prog.acts_byte, List.nil_append]
  unfold Decoder.segment Decoder.at
  split <;> simp_all

theorem result_dispatch (h : decoder.Returns m) (buf : Nat) :
    (dispatch decoder buf).result m = .ok () := by
  rw [dispatch, Prog.result_bind, Prog.result_byte]
  dsimp only
  split
  · next dump hdump => exact h _ _ dump hdump
  · rfl

theorem result_visit (h : decoder.Returns m) (buf : Nat) :
    (do
      Prog.emit (.visit buf)
      dispatch decoder buf : Walk Unit).result m = .ok () := by
  simp [result_dispatch h]

theorem acts_visit (buf : Nat) :
    (do
      Prog.emit (.visit buf)
      dispatch decoder buf : Walk Unit).acts m = .visit buf :: decoder.segment m buf := by
  rw [Prog.acts_bind_ok (Prog.result_emit ..), acts_dispatch]
  rfl

theorem result_walkExtra (h : decoder.Returns m) :
    (walkExtra bad decoder extra).result m = .ok () := by
  have hloop : (extraLoop bad decoder extra).result m = .ok () :=
    Frames.result_walk (by decide) (fun _ _ => rfl) (result_visit h)
  simp [walkExtra, hloop]

theorem acts_extraLoop (h : decoder.Returns m) :
    ∃ complaint : List Effect,
      (extraLoop bad decoder extra).acts m =
        (descriptors m extra).flatMap (fun a => .visit a :: decoder.segment m a) ++
          complaint.map .shown ∧
        (extra.WellFormed m → complaint = []) := by
  by_cases hwell : extra.WellFormed m
  · obtain ⟨addresses, htiles⟩ := hwell
    refine ⟨[], ?_, fun _ => rfl⟩
    have hacts : (extraLoop bad decoder extra).acts m = _ :=
      Frames.acts_walk_tiles (by decide) (fun _ _ => rfl) (result_visit h) htiles
    rw [hacts, htiles.eq_frames (by decide)]
    simp only [acts_visit, List.map_nil, List.append_nil]
    rfl
  · have hacts : (extraLoop bad decoder extra).acts m = _ :=
      Frames.acts_walk (by decide) (fun _ _ => rfl) (result_visit h)
    simp only [acts_visit] at hacts
    rw [hacts, Frames.atRest, Prog.when]
    split
    · exact ⟨[_], rfl, fun h => absurd h hwell⟩
    · exact ⟨[], rfl, fun _ => rfl⟩

/-- The steps of a loop: each descriptor in turn, perhaps a complaint, and the end. -/
theorem acts_walkExtra (h : decoder.Returns m) :
    ∃ complaint : List Effect,
      (walkExtra bad decoder extra).acts m =
        (descriptors m extra).flatMap (fun a => .visit a :: decoder.segment m a) ++
          complaint.map .shown ++ [.leave] ∧
        (extra.WellFormed m → complaint = []) := by
  by_cases hempty : extra.extraLength = 0
  · refine ⟨[], ?_, fun _ => rfl⟩
    have hnone : descriptors m extra = [] := by
      rw [descriptors, hempty]
      rfl
    simp [walkExtra, Prog.when, hempty, hnone]
  · have hloop : (extraLoop bad decoder extra).result m = .ok () :=
      Frames.result_walk (by decide) (fun _ _ => rfl) (result_visit h)
    obtain ⟨complaint, hacts, hwell⟩ := @acts_extraLoop m bad decoder extra h
    refine ⟨complaint, ?_, hwell⟩
    rw [walkExtra, Prog.when, if_pos hempty, Prog.acts_bind_ok hloop, hacts, Prog.acts_emit]

@[simp] theorem visits_segment (address : Nat) : visits (decoder.segment m address) = [] := by
  unfold Decoder.segment
  split <;> simp [visits]

theorem visits_walkExtra (h : decoder.Returns m) :
    visits ((walkExtra bad decoder extra).acts m) = descriptors m extra := by
  obtain ⟨complaint, hacts, -⟩ := @acts_walkExtra m bad decoder extra h
  simp [hacts, visits_append, visits_flatMap, visits]

theorem skips_walkExtra (h : decoder.Returns m) :
    skips ((walkExtra bad decoder extra).acts m) =
      (descriptors m extra).filter fun a => decoder.at m a |>.isNone := by
  obtain ⟨complaint, hacts, -⟩ := @acts_walkExtra m bad decoder extra h
  have hsegment : ∀ a, skips (decoder.segment m a) = if (decoder.at m a).isNone then [a] else [] := by
    intro a
    unfold Decoder.segment
    cases decoder.at m a <;> simp [skips]
  simp only [hacts, skips_append, skips_flatMap, skips, hsegment, skips_shown, List.append_nil]
  induction descriptors m extra with
  | nil => rfl
  | cons a rest ih =>
      rw [List.flatMap_cons, ih, List.filter_cons]
      split <;> rfl

def Decoder.lines (decoder : Decoder) (m : Memory) (address : Nat) : Nat :=
  match decoder.at m address with
  | some dump => (dump.acts m).countP Effect.isLine
  | none => 0

theorem linesHere_segment (address : Nat) {rest : List WalkEffect} (hrest : linesHere rest = 0) :
    linesHere (decoder.segment m address ++ rest) = decoder.lines m address := by
  unfold Decoder.segment Decoder.lines
  cases decoder.at m address with
  | none => exact hrest
  | some dump =>
      dsimp only
      generalize dump.acts m = effects
      induction effects with
      | nil => exact hrest
      | cons e effects ih => rw [List.map_cons, List.cons_append, linesHere, ih, List.countP_cons, Nat.add_comm]

theorem tally_segment (address : Nat) (rest : List WalkEffect) :
    tally (decoder.segment m address ++ rest) = tally rest := by
  unfold Decoder.segment
  cases decoder.at m address with
  | none => rfl
  | some dump => exact tally_shown _ rest

theorem tally_walkExtra (h : decoder.Returns m) (hwell : extra.WellFormed m) :
    tally ((walkExtra bad decoder extra).acts m) =
      (descriptors m extra).map fun a => (a, decoder.lines m a) := by
  obtain ⟨complaint, hacts, hnone⟩ := @acts_walkExtra m bad decoder extra h
  rw [hacts, hnone hwell, List.map_nil, List.append_nil]
  induction descriptors m extra with
  | nil => rfl
  | cons a rest ih =>
      have hrest : linesHere (rest.flatMap (fun a => .visit a :: decoder.segment m a) ++ [.leave]) = 0 := by
        cases rest <;> rfl
      simp only [List.flatMap_cons, List.cons_append, List.append_assoc, tally, tally_segment,
        linesHere_segment a hrest, List.map_cons]
      rw [ih]

/-- Accounts of a log that ends with a loop, or of several, can be put together. -/
def Closed (left : List WalkEffect) : Prop :=
  ∀ right, tally (left ++ right) = tally left ++ tally right

theorem closed_shown (effects : List Effect) : Closed (effects.map .shown) := by
  intro right
  have hnone := tally_shown effects []
  rw [List.append_nil] at hnone
  rw [tally_shown, hnone]
  rfl

theorem closed_walkExtra (h : decoder.Returns m) : Closed ((walkExtra bad decoder extra).acts m) := by
  obtain ⟨complaint, hacts, -⟩ := @acts_walkExtra m bad decoder extra h
  intro right
  rw [hacts, List.append_assoc, List.singleton_append, tally_leave]

theorem Closed.append {left right : List WalkEffect} (hleft : Closed left) (hright : Closed right) :
    Closed (left ++ right) := by
  intro rest
  rw [List.append_assoc, hleft, hright, hleft, List.append_assoc]

theorem closed_flatMap {ι : Type} {f : ι → List WalkEffect} (items : List ι)
    (h : ∀ i, Closed (f i)) : Closed (items.flatMap f) := by
  induction items with
  | nil => exact fun _ => rfl
  | cons i rest ih => exact (h i).append ih

theorem tally_flatMap {ι : Type} {f : ι → List WalkEffect} (items : List ι)
    (h : ∀ i, Closed (f i)) : tally (items.flatMap f) = items.flatMap fun i => tally (f i) := by
  induction items with
  | nil => rfl
  | cons i rest ih => rw [List.flatMap_cons, h i, ih, List.flatMap_cons]

theorem lines_pos_iff (address : Nat) :
    0 < decoder.lines m address ↔ ∃ dump, decoder.at m address = some dump ∧ PrintsLine dump m := by
  unfold Decoder.lines
  cases decoder.at m address with
  | none => simp
  | some dump => simp [PrintsLine, List.countP_pos_iff]

/-- A loop stays in its string, if its decoders stay in their descriptors. -/
theorem walkExtra_within (h : ∀ buf dump, 2 ≤ (m buf).toNat → decoder.at m buf = some dump →
      Prog.All (Within buf (buf + (m buf).toNat)) dump m) :
    Prog.All (WalkWithin extra.extra (extra.extra + extra.extraLength))
      (walkExtra bad decoder extra) m := by
  simp only [walkExtra, Prog.all_bind, Prog.all_when, Prog.all_emit, walkWithin_leave,
    implies_true, and_true]
  refine fun _ => Frames.all_walk (by decide) (fun i hlo hhi => ⟨hlo, hhi⟩) (by simp) fun a ha => ?_
  obtain ⟨hlo, htwo, hhi⟩ := (Frames.leading_frames ..).bounds ha
  simp only [Prog.all_bind, Prog.all_emit, walkWithin_visit, true_and, dispatch, Prog.all_byte,
    walkWithin_read, Prog.result_byte, Except.ok.injEq, forall_eq']
  refine fun _ _ => ⟨by omega, ?_⟩
  split
  · next dump hdump =>
      exact (display_within dump).mpr ((h a dump htwo hdump).mono fun _ hin => hin.mono hlo hhi)
  · simp

end Loop

end Usbutils
