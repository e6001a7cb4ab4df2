import Usbutils.Paths.Components

/-! Which absolute paths `get_absolute_path` brings into their lexical normal form. -/
namespace Usbutils
open CString Loops Walk

def componentMove (c : List UInt8) : Option (Move (List UInt8)) :=
  if c = [] ∨ c = [dot] then none
  else if c = [dot, dot] then some .up
  else some (.down c)

def normalForm (path : List UInt8) : List UInt8 :=
  let names := walk [] ((path.splitOn slash).filterMap componentMove)
  let ending := if path.getLast? = some slash ∧ names ≠ [] then [slash] else []
  slash :: ([slash].intercalate names ++ ending)

section Absolute

variable {path : PathText} {text last : List UInt8} {names components : List (List UInt8)}
  {result : Buffer}

def named (m : Move (List UInt8)) : Bool := m ≠ .down []

theorem filterMap_componentMove (inRun : Bool) (components : List (List UInt8)) :
    components.filterMap componentMove = (loopMoves inRun components).filter named := by
  induction components generalizing inRun with
  | nil => rfl
  | cons c components ih =>
      rw [List.filterMap_cons, componentMove, loopMoves]
      by_cases hempty : c = []
      · cases inRun <;> simp [hempty, named, ih true]
      by_cases hdot : c = [dot]
      · simp [hdot, ih false]
      by_cases hdots : c = [dot, dot]
      · simp [hdots, named, ih false]
      · simp [hempty, hdot, hdots, named, ih true]

/-- The normal form is a directory and the last component, which is no dots. -/
theorem normalForm_eq (h : SplitsInto text ([] :: components) last) (hdot : last ≠ [dot])
    (hdots : last ≠ [dot, dot]) :
    normalForm text = directory (walk [] ((pathMoves text).filter named)) ++ last := by
  have hmoves : (text.splitOn slash).filterMap componentMove =
      (pathMoves text).filter named ++ (componentMove last).toList := by
    rw [h.splitOn, List.filterMap_append, filterMap_componentMove true, h.pathMoves_eq]
    cases hlast : componentMove last <;> simp [hlast]
  have htext : text = directory components ++ last := by
    rw [directory_append]
    exact h.text
  unfold normalForm
  rw [hmoves, walk_append]
  generalize walk [] ((pathMoves text).filter named) = names
  by_cases hempty : last = []
  · have hslash : text.getLast? = some slash := by simp [htext, hempty, directory]
    by_cases hnames : names = []
    · simp [componentMove, hempty, hnames, directory, trunk]
    · simp only [componentMove, hempty, hslash]
      simp [hnames, ← intercalate_trunk names hnames, directory]
  · have hslash : text.getLast? ≠ some slash := by
      intro hend
      rw [htext, List.getLast?_append_of_ne_nil _ hempty] at hend
      exact h.lastClean (List.mem_of_getLast? hend)
    have hmove : componentMove last = some (.down last) := by
      simp [componentMove, hempty, hdot, hdots]
    simp only [hmove, Option.toList_some, walk_cons, walk_nil, Move.from, hslash, false_and,
      if_false, List.append_nil]
    rw [intercalate_trunk _ (by simp), trunk_concat]
    simp [directory]

/-- Behind the last directory without a name the path leads back to the root. -/
def NamelessTakenBack (path : List UInt8) : Prop :=
  ∃ before after, pathMoves path = before ++ after ∧ walk [] before = [] ∧ .down [] ∉ after

theorem rejoins_named_iff {moves : List (Move (List UInt8))} :
    Rejoins named [] [] moves ↔
      ∃ before after, moves = before ++ after ∧ walk [] before = [] ∧ .down [] ∉ after := by
  have hafter : ∀ after : List (Move (List UInt8)),
      (∀ m ∈ after, named m = true) ↔ .down [] ∉ after := by
    intro after
    constructor
    · intro h hmem
      exact absurd (h _ hmem) (by decide)
    · intro h m hm
      exact decide_eq_true fun heq => h (heq ▸ hm)
  constructor
  · rintro ⟨before, after, hsplit, hkeep, hroot | ⟨rfl, -⟩⟩
    · exact ⟨before, after, hsplit, hroot, (hafter after).mp hkeep⟩
    · exact ⟨[], after, hsplit, rfl, (hafter after).mp hkeep⟩
  · rintro ⟨before, after, hsplit, hroot, hkeep⟩
    exact ⟨before, after, hsplit, (hafter after).mpr hkeep, Or.inl hroot⟩

/-- The lexical normal form of an absolute path that fits and does not end in dots comes out
exactly if each empty component that directly follows a component of dots is taken back: the
path leads back to the root behind it, where such a component counts as a directory. -/
theorem getAbsolutePath_normalForm_iff (getcwd : Getcwd) (habs : path.val.head? = some slash)
    (hfits : path.val.length < result.length) (hdot : lastComponent path.val ≠ [dot])
    (hdots : lastComponent path.val ≠ [dot, dot]) :
    (∃ buf, getAbsolutePath getcwd (some path) result = some (some buf) ∧
      contents buf = normalForm path.val) ↔ NamelessTakenBack path.val := by
  obtain ⟨components, last, hsplit⟩ := exists_absolute habs
  rw [hsplit.lastComponent_eq] at hdot hdots
  obtain ⟨buf, hrun, hcontents⟩ :=
    @getAbsolutePath_absolute getcwd path result components last hfits hsplit
  have hclean := (List.forall_mem_cons.mp hsplit.clean).2
  have hmoves : pathMoves path.val = loopMoves true components := hsplit.pathMoves_eq
  have hdirectories : (∀ c ∈ walk [] (pathMoves path.val), slash ∉ c) ∧
      ∀ c ∈ walk [] ((pathMoves path.val).filter named), slash ∉ c := by
    rw [hmoves]
    refine ⟨notMem_walk (by simp) hclean true, ?_⟩
    intro c hc
    rcases mem_walk hc with hc | hc
    · cases hc
    · rcases mem_loopMoves (List.mem_of_mem_filter hc) with rfl | hc
      · exact nofun
      · exact hclean c hc
  have hwalk : contents buf = normalForm path.val ↔
      walk [] ((pathMoves path.val).filter named) = walk [] (pathMoves path.val) := by
    rw [hcontents, normalForm_eq hsplit hdot hdots]
    constructor
    · exact fun h => (directory_inj hdirectories.1 hdirectories.2 hsplit.lastClean h).symm
    · exact fun h => by rw [h]
  rw [NamelessTakenBack, ← rejoins_named_iff, ← walk_filter_eq_iff (by decide) (Or.inl rfl),
    ← hwalk]
  constructor
  · rintro ⟨buf', hrun', hnormal⟩
    obtain rfl := Option.some.inj (Option.some.inj (hrun.symm.trans hrun'))
    exact hnormal
  · exact fun h => ⟨buf, hrun, h⟩

def spelledOut : PathText :=
  ⟨[slash, 0x61, slash, slash, dot, slash, 0x62, slash, dot, dot, slash, 0x63], by decide⟩

def doubledSlash : PathText := ⟨[slash, dot, slash, slash, 0x61], by decide⟩

theorem getAbsolutePath_normalForm_spelledOut :
    (∃ buf, getAbsolutePath (fun _ => none) (some spelledOut) (List.replicate 16 0xff) =
        some (some buf) ∧ contents buf = normalForm spelledOut.val) ↔
      NamelessTakenBack spelledOut.val :=
  getAbsolutePath_normalForm_iff (fun _ => none) (by decide) (by decide) (by decide) (by decide)

/-- `/.//a` becomes `//a`. -/
theorem getAbsolutePath_doubledSlash :
    doubledSlash.val.head? = some slash ∧ lastComponent doubledSlash.val = [0x61] ∧
      normalForm doubledSlash.val = [slash, 0x61] ∧
      ¬∃ buf, getAbsolutePath (fun _ => none) (some doubledSlash) (List.replicate 16 0xff) =
        some (some buf) ∧ contents buf = normalForm doubledSlash.val := by
  refine ⟨rfl, by decide, by decide, ?_⟩
  rintro ⟨buf, hrun, hnormal⟩
  have hout : getAbsolutePath (fun _ => none) (some doubledSlash) (List.replicate 16 0xff) =
      some (some ([slash, slash, 0x61, 0] ++ List.replicate 12 0xff)) := by
    decide
  obtain rfl := Option.some.inj (Option.some.inj (hout.symm.trans hrun))
  exact absurd hnormal (by decide)

end Absolute
end Usbutils
