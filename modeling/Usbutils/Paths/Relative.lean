import Usbutils.Paths.Components

/-! Where `get_absolute_path` comes to for a relative path, and for the same path behind the
current directory and a slash. -/
namespace Usbutils
open CString Loops Walk

structure CanonicalDir where
  names : List (List UInt8)
  plain : ∀ c ∈ names, c ≠ [] ∧ c ≠ [dot] ∧ c ≠ [dot, dot]
  clean : ∀ c ∈ names, slash ∉ c ∧ 0 ∉ c

def CanonicalDir.pathname (dir : CanonicalDir) : List UInt8 :=
  if dir.names = [] then [slash] else trunk dir.names

/-- Some ".." of a path leads out of the directory in which it starts. -/
def LeavesStart (path : List UInt8) : Prop :=
  ∃ before after, pathMoves path = before ++ after ∧ walk [[]] before = []

/-- The directories in which the loop is behind the slash that is put behind the path of the
current directory: at the root there is one without a name. -/
def CanonicalDir.place (dir : CanonicalDir) : List (List UInt8) :=
  if dir.names = [] then [[]] else dir.names

section Relative

variable {getcwd : Getcwd} {path : PathText} {result : Buffer}

theorem CanonicalDir.directory_place (dir : CanonicalDir) :
    directory dir.place = dir.pathname ++ [slash] := by
  unfold CanonicalDir.place CanonicalDir.pathname
  split <;> rfl

theorem CanonicalDir.notMem_pathname (dir : CanonicalDir) : 0 ∉ dir.pathname := by
  unfold CanonicalDir.pathname
  split
  · decide
  · intro h
    obtain ⟨c, hc, hmem⟩ := List.mem_flatMap.mp h
    rcases List.mem_cons.mp hmem with h | h
    · exact absurd h (by decide)
    · exact (dir.clean c hc).2 h

def CanonicalDir.child (dir : CanonicalDir) (path : PathText) : PathText :=
  ⟨dir.pathname ++ slash :: path.val, by
    rw [List.mem_append, List.mem_cons, not_or, not_or]
    exact ⟨dir.notMem_pathname, by decide, path.property⟩⟩

theorem CanonicalDir.clean_place (dir : CanonicalDir) {b : UInt8}
    (h : ∀ c ∈ dir.names, b ∉ c) : ∀ c ∈ dir.place, b ∉ c := by
  unfold CanonicalDir.place
  split
  · simp
  · exact h

theorem joined_append (names components : List (List UInt8)) (last : List UInt8) :
    joined (names ++ components) last = joined names (joined components last) := by
  induction names with
  | nil => rfl
  | cons c names ih => rw [List.cons_append, joined, joined, ih]

theorem loopMoves_names {names : List (List UInt8)}
    (hplain : ∀ c ∈ names, c ≠ [] ∧ c ≠ [dot] ∧ c ≠ [dot, dot])
    (components : List (List UInt8)) :
    loopMoves true (names ++ components) = names.map .down ++ loopMoves true components := by
  induction names with
  | nil => rfl
  | cons c names ih =>
      obtain ⟨⟨hempty, hdot, hdots⟩, hplain⟩ := List.forall_mem_cons.mp hplain
      rw [List.cons_append, loopMoves, if_neg hempty, if_neg hdot, if_neg hdots, ih hplain]
      rfl

theorem walk_child (dir : CanonicalDir) {components : List (List UInt8)} {last : List UInt8}
    (h : SplitsInto path.val components last) :
    SplitsInto (dir.child path).val ([] :: (dir.place ++ components)) last ∧
      walk [] (pathMoves (dir.child path).val) = walk dir.names (pathMoves path.val) := by
  have hsplit : SplitsInto (dir.child path).val ([] :: (dir.place ++ components)) last := by
    refine ⟨?_, ?_, h.lastClean⟩
    · have hchild : (dir.child path).val = directory dir.place ++ path.val := by
        rw [dir.directory_place, List.append_assoc]
        rfl
      rw [hchild, h.text, directory_append, ← joined_append]
      rfl
    · refine List.forall_mem_cons.mpr ⟨nofun, List.forall_mem_append.mpr ⟨?_, h.clean⟩⟩
      exact dir.clean_place fun c hc => (dir.clean c hc).1
  refine ⟨hsplit, ?_⟩
  rw [hsplit.pathMoves_eq, h.pathMoves_eq, loopMoves, if_pos rfl, if_pos rfl, CanonicalDir.place]
  split
  case isTrue hroot => rw [hroot, List.singleton_append, loopMoves, if_pos rfl, if_pos rfl]
  case isFalse => rw [loopMoves_names dir.plain, walk_append, walk_down, List.nil_append]

theorem start_relative {cwd : {cwd : Buffer // cwd.length = result.length ∧ 0 ∈ cwd ∧
      cwd.head? = some slash}} {written right : List UInt8} (hrel : path.val.head? ≠ some slash)
    (hget : getcwd result = some cwd) (hcwd : cwd.val = written ++ 0 :: right)
    (hclean : 0 ∉ written) (hright : right ≠ []) :
    Cursor.start getcwd path result = some (some (cursorAt (written ++ [slash]) right path.val)) := by
  have hlength : result.length - (contents cwd.val).length = (0 :: right).length := by
    have hsame := cwd.property.1
    have hcount : cwd.val.length = written.length + (0 :: right).length := by
      rw [hcwd, List.length_append]
    have hwritten : (contents cwd.val).length = written.length := by
      rw [hcwd, contents_append hclean]
    omega
  have hput : Cursor.put ⟨path.val, (contents cwd.val).length,
        result.length - (contents cwd.val).length, cwd.val⟩ slash path.val =
      some (cursorAt (written ++ [slash]) right path.val) := by
    rw [hlength, hcwd, contents_append hclean]
    exact put_cursorAt written path.val path.val 0 slash right
  rw [Cursor.start, if_pos hrel, hget]
  dsimp only
  rw [if_pos, hput]
  · rfl
  · rw [hlength, List.length_cons]
    exact Nat.succ_lt_succ (List.length_pos_iff.mpr hright)

theorem getAbsolutePath_relative {dir : CanonicalDir} {components : List (List UInt8)}
    {last : List UInt8} (hne : path.val ≠ []) (hrel : path.val.head? ≠ some slash)
    (hfits : (dir.child path).val.length < result.length)
    (hcwd : ∃ cwd, getcwd (result.set 0 0) = some cwd ∧ contents cwd.val = dir.pathname)
    (h : SplitsInto path.val components last) :
    ∃ buf, getAbsolutePath getcwd (some path) result = some (some buf) ∧
      contents buf = directory (walk dir.place (pathMoves path.val)) ++ last := by
  obtain ⟨⟨cwd, hlength, hends, hhead⟩, hget, hpath⟩ := hcwd
  obtain ⟨right, hright⟩ := exists_contents hends
  have hpos := List.length_pos_iff.mpr hne
  have hchild : (dir.child path).val.length = dir.pathname.length + 1 + path.val.length := by
    simp [CanonicalDir.child]
    omega
  have hsize : result.length = dir.pathname.length + 1 + right.length := by
    have hcount := congrArg List.length hright
    rw [hlength, List.length_set, List.length_append, List.length_cons, hpath] at hcount
    omega
  obtain ⟨hcomponents, hlast⟩ := notMem_joined (h.text ▸ path.property)
  rw [h.pathMoves_eq]
  apply @getAbsolutePath_of_goes _ _ _ (dir.pathname ++ [slash]) right
  · omega
  · rw [hpath] at hright
    exact start_relative hrel hget hright dir.notMem_pathname (List.ne_nil_of_length_pos (by omega))
  · omega
  · have hgoes := @goes_components components dir.place last h.clean h.lastClean
      (dir.clean_place fun c hc => (dir.clean c hc).1) true
    rw [dir.directory_place, ← h.text, unread_eq true hrel] at hgoes
    exact hgoes
  · have hplace := dir.clean_place fun c hc => (dir.clean c hc).2
    exact notMem_directory (by decide) (notMem_walk hplace hcomponents true) hlast

theorem walk_place_eq_iff (dir : CanonicalDir) (moves : List (Move (List UInt8))) :
    walk dir.place moves = walk dir.names moves ↔
      dir.names ≠ [] ∨ ∃ before after, moves = before ++ after ∧ walk [[]] before = [] := by
  unfold CanonicalDir.place
  split
  case isFalse hnames => exact iff_of_true rfl (Or.inl hnames)
  case isTrue hroot =>
    have hwalk := @walk_filter_eq_iff (List UInt8) [[]] [] moves (fun _ => true) rfl
      (Or.inr (Nat.lt_succ_self 0))
    rw [List.filter_eq_self.mpr fun _ _ => rfl] at hwalk
    rw [hroot, eq_comm, hwalk]
    constructor
    · rintro ⟨before, after, hsplit, -, hup | ⟨-, habsurd⟩⟩
      · exact Or.inr ⟨before, after, hsplit, hup⟩
      · cases habsurd
    · rintro (habsurd | ⟨before, after, hsplit, hup⟩)
      · exact absurd rfl habsurd
      · exact ⟨before, after, hsplit, fun _ _ => rfl, Or.inl hup⟩

/-- A relative path gives the same string as the current directory, a slash and the path exactly
if the current directory is not the root or the path leads out of it. -/
theorem getAbsolutePath_relative_iff {dir : CanonicalDir} (hne : path.val ≠ [])
    (hrel : path.val.head? ≠ some slash) (hfits : (dir.child path).val.length < result.length)
    (hcwd : ∃ cwd, getcwd (result.set 0 0) = some cwd ∧ contents cwd.val = dir.pathname) :
    (∃ buf buf', getAbsolutePath getcwd (some path) result = some (some buf) ∧
      getAbsolutePath getcwd (some (dir.child path)) result = some (some buf') ∧
      contents buf = contents buf') ↔ dir.names ≠ [] ∨ LeavesStart path.val := by
  obtain ⟨components, last, hsplit⟩ := exists_splitsInto path.val
  obtain ⟨hchild, hwalk⟩ := walk_child dir hsplit
  obtain ⟨buf, hrun, hcontents⟩ := getAbsolutePath_relative hne hrel hfits hcwd hsplit
  obtain ⟨buf', hrun', hcontents'⟩ := @getAbsolutePath_absolute getcwd _ _ _ _ hfits hchild
  rw [hwalk] at hcontents'
  rw [LeavesStart, ← walk_place_eq_iff]
  constructor
  · rintro ⟨_, _, hbuf, hbuf', heq⟩
    obtain rfl := Option.some.inj (Option.some.inj (hrun.symm.trans hbuf))
    obtain rfl := Option.some.inj (Option.some.inj (hrun'.symm.trans hbuf'))
    rw [hcontents, hcontents', hsplit.pathMoves_eq] at heq
    rw [hsplit.pathMoves_eq]
    have hnames : ∀ c ∈ dir.names, slash ∉ c := fun c hc => (dir.clean c hc).1
    exact directory_inj (notMem_walk (dir.clean_place hnames) hsplit.clean true)
      (notMem_walk hnames hsplit.clean true) hsplit.lastClean heq
  · intro heq
    exact ⟨buf, buf', hrun, hrun', by rw [hcontents, hcontents', heq]⟩

def CanonicalDir.cwd (dir : CanonicalDir) : Getcwd := fun buf =>
  if h : dir.pathname.length < buf.length then
    some ⟨dir.pathname ++ 0 :: buf.drop (dir.pathname.length + 1), by
      refine ⟨?_, by simp, ?_⟩
      · simp
        omega
      · unfold CanonicalDir.pathname
        split
        case isTrue => rfl
        case isFalse hnames =>
          obtain ⟨c, names, hcons⟩ := List.exists_cons_of_ne_nil hnames
          simp [hcons, trunk]⟩
  else none

def rootDir : CanonicalDir := ⟨[], nofun, nofun⟩

def someDir : CanonicalDir := ⟨[[0x64]], by decide, by decide⟩

def siblingPath : PathText := ⟨[dot, dot, slash, 0x61], by decide⟩

def plainPath : PathText := ⟨[0x61], by decide⟩

theorem getAbsolutePath_relative_someDir :
    (∃ buf buf',
      getAbsolutePath someDir.cwd (some siblingPath) (List.replicate 16 0xff) = some (some buf) ∧
      getAbsolutePath someDir.cwd (some (someDir.child siblingPath)) (List.replicate 16 0xff) =
        some (some buf') ∧
      contents buf = contents buf') ↔ someDir.names ≠ [] ∨ LeavesStart siblingPath.val :=
  getAbsolutePath_relative_iff (by decide) (by decide) (by decide) ⟨_, rfl, by decide⟩

/-- In the root directory `a` becomes `//a`. -/
theorem getAbsolutePath_relative_rootDir :
    plainPath.val ≠ [] ∧ plainPath.val.head? ≠ some slash ∧
    (∃ cwd, rootDir.cwd ((List.replicate 16 0xff).set 0 0) = some cwd ∧
      contents cwd.val = rootDir.pathname) ∧
    ¬∃ buf buf',
      getAbsolutePath rootDir.cwd (some plainPath) (List.replicate 16 0xff) = some (some buf) ∧
      getAbsolutePath rootDir.cwd (some (rootDir.child plainPath)) (List.replicate 16 0xff) =
        some (some buf') ∧
      contents buf = contents buf' := by
  refine ⟨by decide, by decide, ⟨_, rfl, by decide⟩, ?_⟩
  rintro ⟨buf, buf', hrun, hrun', heq⟩
  have hout : getAbsolutePath rootDir.cwd (some plainPath) (List.replicate 16 0xff) =
      some (some ([slash, slash, 0x61, 0] ++ List.replicate 12 0xff)) := by
    decide
  have hout' : getAbsolutePath rootDir.cwd (some (rootDir.child plainPath))
      (List.replicate 16 0xff) = some (some ([slash, 0x61, 0] ++ List.replicate 13 0xff)) := by
    decide
  obtain rfl := Option.some.inj (Option.some.inj (hout.symm.trans hrun))
  obtain rfl := Option.some.inj (Option.some.inj (hout'.symm.trans hrun'))
  exact absurd heq (by decide)

end Relative
end Usbutils
