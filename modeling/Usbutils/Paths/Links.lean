import Usbutils.Paths.Absolute
import Usbutils.Strings.Sanitize

/-! `readlink_recursive` of `usbmisc.c`, over a file system that is any map from paths to link
targets. -/
namespace Usbutils
open CString

abbrev LinkTarget := {target : List UInt8 // target ≠ [] ∧ 0 ∉ target}

abbrev LinkMap := List UInt8 → Option LinkTarget

def maxReadlinkDepth : Nat := 40

/-- `readlink(path, buf, count)`, which puts no NUL behind the target. -/
def readlink (links : LinkMap) (path : List UInt8) (buf : Buffer) (count : Nat) :
    Option (Int × Buffer) :=
  match links path with
  | none => some (-1, buf)
  | some target =>
      if count ≤ buf.length then
        some ((target.val.take count).length,
          target.val.take count ++ buf.drop (target.val.take count).length)
      else none

/-- `strncpy(buf, path, bufsize); buf[bufsize - 1] = '\0'; return strlen(buf);` -/
def copyPath (path : List UInt8) (buf : Buffer) : Option (Nat × Buffer) := do
  let buf ← strncpyAt buf 0 path buf.length
  let buf ← store buf (buf.length - 1) 0
  return ((contents buf).length, buf)

/-- `while (*ptemp != '/' && ptemp != temp) ptemp--;` -/
def lastSlash (temp : Buffer) : Nat → Option Nat
  | 0 => do
      let _ ← load temp 0
      return 0
  | ptemp + 1 => do
      let byte ← load temp (ptemp + 1)
      (if byte ≠ slash then lastSlash temp ptemp else return ptemp + 1)

def targetPath (path : List UInt8) (buf temp : Buffer) : Option Buffer := do
  if (← load buf 0) ≠ slash then
    let temp ← strncpyAt temp 0 path (temp.length - 1)
    let temp ← store temp (temp.length - 1) 0
    let ptemp := (← lastSlash temp (contents temp).length) + 1
    let remaining := temp.length - ptemp - 1
    let temp ← strncpyAt temp ptemp (contents buf) remaining
    store temp (ptemp + remaining) 0
  else
    let temp ← strncpyAt temp 0 (contents buf) (temp.length - 1)
    store temp (temp.length - 1) 0

/-- The uninitialised `temp` of each call. -/
abbrev Frames := Nat → {temp : Buffer // temp.length = pathMax + 1}

/-- `depth` is counted down, to the call that is too deep. -/
def readlinkRecursiveDepth (links : LinkMap) (frames : Frames) :
    Nat → List UInt8 → Buffer → Option (Nat × Buffer)
  | 0, path, buf => copyPath path buf
  | depth + 1, path, buf => do
      let (ret, buf) ← readlink links path buf (buf.length - 1)
      (if ret > 0 then do
        let buf ← store buf ret.toNat 0
        let temp ← targetPath path buf (frames depth).val
        readlinkRecursiveDepth links frames depth (contents temp) buf
      else copyPath path buf)

def readlinkRecursive (links : LinkMap) (frames : Frames) (path : PathText) (buf : Buffer) :
    Option (Nat × Buffer) :=
  readlinkRecursiveDepth links frames (maxReadlinkDepth + 1) path.val buf

def linkDirectory (path : List UInt8) : List UInt8 :=
  (path.reverse.dropWhile (· != slash)).reverse

/-- An absolute target replaces the path, a relative one its last component. -/
def follow (path target : List UInt8) : List UInt8 :=
  if target.head? = some slash then target else linkDirectory path ++ target

/-- So many links lead from a path to the last one, and all strings on the way are shorter than
`PATH_MAX`. -/
inductive LinkChain (links : LinkMap) : Nat → List UInt8 → List UInt8 → Prop where
  | last {path : List UInt8} (hlast : links path = none) (hpath : path.length < pathMax) :
      LinkChain links 0 path path
  | link {n : Nat} {path last : List UInt8} {target : LinkTarget}
      (hlink : links path = some target) (hpath : path.length < pathMax)
      (htarget : target.val.length < pathMax) (rest : LinkChain links n (follow path target.val) last) :
      LinkChain links (n + 1) path last

section Links

variable {links : LinkMap} {frames : Frames} {path s name : List UInt8} {target : LinkTarget}
  {buf temp : Buffer} {n depth : Nat}

theorem linkDirectory_of_notMem (h : slash ∉ path) : linkDirectory path = [] := by
  have hall : ∀ byte ∈ path.reverse, (byte != slash) = true := by
    intro byte hbyte
    have hne : byte ≠ slash := fun heq => h (heq ▸ List.mem_reverse.mp hbyte)
    simpa using hne
  rw [linkDirectory, List.dropWhile_eq_nil_iff.mpr hall, List.reverse_nil]

theorem exists_linkDirectory (h : slash ∈ path) :
    ∃ directory name, path = directory ++ slash :: name ∧ slash ∉ name ∧
      linkDirectory path = directory ++ [slash] := by
  induction path using List.reverseRecOn with
  | nil => cases h
  | append_singleton path byte ih =>
      by_cases hbyte : byte = slash
      · refine ⟨path, [], by simp [hbyte], nofun, ?_⟩
        simp [linkDirectory, hbyte]
      · obtain ⟨directory, name, rfl, hname, hdirectory⟩ :=
          ih ((List.mem_append.mp h).resolve_right (by simpa using Ne.symm hbyte))
        refine ⟨directory, name ++ [byte], by simp, ?_, ?_⟩
        · simp [hname, Ne.symm hbyte]
        · rw [← hdirectory]
          simp [linkDirectory, hbyte]

theorem slash_mem_follow (h : slash ∈ path ∨ target.val.head? = some slash) :
    slash ∈ follow path target.val := by
  unfold follow
  split
  case isTrue habs => exact List.mem_of_head? habs
  case isFalse hrel =>
    obtain ⟨directory, -, -, -, hdirectory⟩ := exists_linkDirectory (h.resolve_right hrel)
    simp [hdirectory]

theorem notMem_follow (hnul : 0 ∉ path) : 0 ∉ follow path target.val := by
  unfold follow
  split
  · exact target.property.2
  · intro h
    rcases List.mem_append.mp h with h | h
    · apply hnul
      exact List.mem_reverse.mp ((List.dropWhile_suffix _).mem (List.mem_reverse.mp h))
    · exact target.property.2 h

theorem copyPath_run (hpath : 0 ∉ path) (hfits : path.length < buf.length) :
    ∃ out, copyPath path buf = some (path.length, out) ∧ contents out = path := by
  obtain ⟨m, hm⟩ : ∃ m, buf.length = path.length + (m + 1) :=
    ⟨buf.length - path.length - 1, by omega⟩
  have hcopy : strncpyAt buf 0 path buf.length = some (path ++ List.replicate (m + 1) 0) := by
    rw [strncpyAt, if_pos (by omega), List.take_of_length_le (Nat.le_of_lt hfits), hm,
      Nat.add_sub_cancel_left]
    simp [List.drop_eq_nil_of_le (Nat.le_of_eq hm)]
  have hend : store (path ++ List.replicate (m + 1) 0) (path.length + m) 0 =
      some (path ++ List.replicate (m + 1) 0) := by
    have h := store_append (path ++ List.replicate m 0) [] 0 0
    rw [List.length_append, List.length_replicate, List.append_assoc, ← List.replicate_succ'] at h
    exact h
  have hcontents : contents (path ++ List.replicate (m + 1) 0) = path := contents_append hpath
  have hlast : (path ++ List.replicate (m + 1) (0 : UInt8)).length - 1 = path.length + m := by
    simp
  refine ⟨_, ?_, hcontents⟩
  rw [copyPath, hcopy]
  simp only [Option.bind_eq_bind, Option.bind_some, hlast, hend, hcontents]
  rfl

theorem lastSlash_step {byte : UInt8} (hload : load temp (n + 1) = some byte)
    (hbyte : byte ≠ slash) : lastSlash temp (n + 1) = lastSlash temp n := by
  rw [lastSlash, hload]
  exact if_pos hbyte

theorem lastSlash_name (hname : slash ∉ name) {byte : UInt8} (hbyte : byte ≠ slash)
    (front right : List UInt8) :
    lastSlash (front ++ (name ++ byte :: right)) (front.length + name.length) =
      lastSlash (front ++ (name ++ byte :: right)) front.length := by
  induction name using List.reverseRecOn generalizing byte right with
  | nil => rfl
  | append_singleton name c ih =>
      obtain ⟨hname, hc⟩ : slash ∉ name ∧ c ≠ slash := by
        simpa [eq_comm] using hname
      have hload : load (front ++ (name ++ [c] ++ byte :: right)) (front.length + name.length + 1) =
          some byte := by
        have h := load_append (front ++ (name ++ [c])) right byte
        simpa [Nat.add_assoc] using h
      have hrest := ih hname hc (byte :: right)
      rw [List.length_append, List.length_singleton, ← Nat.add_assoc, lastSlash_step hload hbyte,
        List.append_assoc, List.singleton_append]
      exact hrest

theorem lastSlash_append (hname : slash ∉ name) (directory after : List UInt8) :
    lastSlash (directory ++ slash :: name ++ 0 :: after) (directory ++ slash :: name).length =
      some directory.length := by
  have hskip := @lastSlash_name name hname 0 (by decide) (directory ++ [slash]) after
  obtain ⟨byte, rest, hrest, hbyte⟩ : ∃ byte rest, name ++ 0 :: after = byte :: rest ∧
      byte ≠ slash := by
    cases name with
    | nil => exact ⟨0, after, rfl, by decide⟩
    | cons c name => exact ⟨c, _, rfl, Ne.symm (List.ne_of_not_mem_cons hname)⟩
  have hbehind : load (directory ++ [slash] ++ byte :: rest) (directory.length + 1) =
      some byte := by
    have h := load_append (directory ++ [slash]) rest byte
    rwa [List.length_append, List.length_singleton] at h
  have hat : lastSlash (directory ++ slash :: byte :: rest) directory.length =
      some directory.length := by
    have h := load_append directory (byte :: rest) slash
    cases hn : directory.length with
    | zero =>
        rw [hn] at h
        rw [lastSlash, h]
        rfl
    | succ n =>
        rw [hn] at h
        rw [lastSlash, h, Option.bind_eq_bind, Option.bind_some, if_neg (not_not_intro rfl)]
        rfl
  have hbuffer : directory ++ slash :: name ++ 0 :: after =
      directory ++ [slash] ++ (name ++ 0 :: after) := by
    simp
  have hlength : (directory ++ slash :: name).length =
      (directory ++ [slash]).length + name.length := by
    simp
    omega
  rw [hbuffer, hlength, hskip, hrest, List.length_append, List.length_singleton,
    lastSlash_step hbehind hbyte, List.append_assoc, List.singleton_append, hat]

theorem lastSlash_notMem (hname : slash ∉ name) (after : List UInt8) :
    lastSlash (name ++ 0 :: after) name.length = some 0 := by
  have hskip := @lastSlash_name name hname 0 (by decide) [] after
  rw [List.nil_append, List.length_nil, Nat.zero_add] at hskip
  rw [hskip]
  cases name <;> rfl

theorem targetPath_absolute {after : List UInt8} (htemp : temp.length = pathMax + 1)
    (htarget : target.val.length < pathMax) (habs : target.val.head? = some slash) :
    ∃ tail, targetPath path (target.val ++ 0 :: after) temp = some (target.val ++ 0 :: tail) := by
  obtain ⟨first, tail, hcopy, hstore⟩ := @strncpyAt_store [] temp target.val pathMax
    (Nat.le_of_lt htarget) (by rw [List.nil_append, List.length_nil, htemp]; omega)
  obtain ⟨rest, hrest⟩ := List.head?_eq_some_iff.mp habs
  have hload : load (target.val ++ 0 :: after) 0 = some slash := by
    rw [hrest]
    rfl
  refine ⟨tail, ?_⟩
  rw [targetPath, hload]
  simp only [Option.bind_eq_bind, Option.bind_some]
  rw [if_neg fun h => h rfl, contents_append target.property.2, htemp, Nat.add_sub_cancel]
  simp only [List.nil_append, List.length_nil, Nat.zero_add] at hcopy hstore
  rw [hcopy, Option.bind_some, length_strncpyAt hcopy, htemp, Nat.add_sub_cancel, hstore]

theorem targetPath_relative {front after : List UInt8} {stop : Nat}
    (htemp : temp.length = pathMax + 1) (hnul : 0 ∉ path) (hpath : path.length < pathMax)
    (hfits : front.length + target.val.length ≤ pathMax) (hrel : target.val.head? ≠ some slash)
    (hscan : ∀ after, lastSlash (path ++ 0 :: after) path.length = some stop)
    (hfront : ∀ after, ∃ right, path ++ 0 :: after = front ++ right)
    (hstop : front.length = stop + 1) :
    ∃ tail, targetPath path (target.val ++ 0 :: after) temp =
      some (front ++ (target.val ++ 0 :: tail)) := by
  obtain ⟨first, behind, hcopy, hstore⟩ := @strncpyAt_store [] temp path pathMax
    (Nat.le_of_lt hpath) (by rw [List.nil_append, List.length_nil, htemp]; omega)
  simp only [List.nil_append, List.length_nil, Nat.zero_add] at hcopy hstore
  have hfirst := (length_strncpyAt hcopy).trans htemp
  have hlength := (length_store hstore).trans hfirst
  obtain ⟨right, hright⟩ := hfront behind
  obtain ⟨second, tail, hcopy', hstore'⟩ := @strncpyAt_store front right target.val
    (pathMax - front.length) (by omega) (by rw [← hright, hlength]; omega)
  obtain ⟨c, rest, htarget⟩ := List.exists_cons_of_ne_nil target.property.1
  have hload : load (target.val ++ 0 :: after) 0 = some c := by
    rw [htarget]
    rfl
  have hc : c ≠ slash := by simpa [htarget] using hrel
  refine ⟨tail, ?_⟩
  rw [targetPath, hload]
  simp only [Option.bind_eq_bind, Option.bind_some]
  rw [if_pos hc, htemp, Nat.add_sub_cancel, hcopy, Option.bind_some, hfirst,
    Nat.add_sub_cancel, hstore, Option.bind_some, contents_append hnul, hscan]
  have hremaining : pathMax + 1 - (stop + 1) - 1 = pathMax - front.length := by omega
  rw [Option.bind_some, hlength, hremaining, contents_append target.property.2, ← hstop, hright,
    hcopy', Option.bind_some, hstore']

theorem readlinkRecursiveDepth_link {next : List UInt8} (hlink : links path = some target)
    (htarget : target.val.length < pathMax) (hbuf : pathMax < buf.length)
    (hnext : ∀ after temp : Buffer, temp.length = pathMax + 1 →
      ∃ out, targetPath path (target.val ++ 0 :: after) temp = some out ∧ contents out = next) :
    ∃ buf', buf'.length = buf.length ∧
      readlinkRecursiveDepth links frames (depth + 1) path buf =
        readlinkRecursiveDepth links frames depth next buf' := by
  have hread : readlink links path buf (buf.length - 1) =
      some ((target.val.length : Int), target.val ++ buf.drop target.val.length) := by
    rw [readlink, hlink]
    dsimp only
    rw [if_pos (Nat.sub_le ..), List.take_of_length_le (by omega)]
  have hbehind : buf.drop target.val.length ≠ [] := by
    apply List.ne_nil_of_length_pos
    rw [List.length_drop]
    omega
  have hpos : (target.val.length : Int) > 0 :=
    Int.natCast_pos.mpr (List.length_pos_iff.mpr target.property.1)
  obtain ⟨out, hout, hcontents⟩ := hnext (buf.drop target.val.length).tail (frames depth).val
    (frames depth).property
  refine ⟨target.val ++ 0 :: (buf.drop target.val.length).tail, ?_, ?_⟩
  · simp
    omega
  · rw [readlinkRecursiveDepth, hread]
    simp only [Option.bind_eq_bind, Option.bind_some]
    rw [if_pos hpos, Int.toNat_natCast, store_behind _ hbehind, Option.bind_some, hout,
      Option.bind_some, hcontents]

theorem readlinkRecursiveDepth_last (hlink : links path = none) (hnul : 0 ∉ path)
    (hbuf : path.length < buf.length) :
    ∃ out, readlinkRecursiveDepth links frames depth path buf = some (path.length, out) ∧
      contents out = path := by
  obtain ⟨out, hcopy, hcontents⟩ := copyPath_run hnul hbuf
  refine ⟨out, ?_, hcontents⟩
  cases depth with
  | zero => exact hcopy
  | succ depth =>
      rw [readlinkRecursiveDepth, readlink, hlink]
      exact hcopy

/-- With a slash in the path, or an absolute target, the target is followed as it should be. -/
theorem targetPath_follow (hnul : 0 ∉ path) (hpath : path.length < pathMax)
    (htarget : target.val.length < pathMax) (hnext : (follow path target.val).length < pathMax)
    (h : slash ∈ path ∨ target.val.head? = some slash) (after : List UInt8) {temp : Buffer}
    (htemp : temp.length = pathMax + 1) :
    ∃ out, targetPath path (target.val ++ 0 :: after) temp = some out ∧
      contents out = follow path target.val := by
  by_cases habs : target.val.head? = some slash
  · obtain ⟨tail, hrun⟩ := @targetPath_absolute path target temp after htemp htarget habs
    refine ⟨_, hrun, ?_⟩
    rw [contents_append target.property.2, follow, if_pos habs]
  · obtain ⟨directory, name, hsplit, hname, hdirectory⟩ :=
      exists_linkDirectory (h.resolve_right habs)
    have hfollow : follow path target.val = directory ++ [slash] ++ target.val := by
      rw [follow, if_neg habs, hdirectory]
    rw [hfollow, List.length_append] at hnext
    obtain ⟨tail, hrun⟩ := @targetPath_relative path target temp (directory ++ [slash]) after
      directory.length htemp hnul hpath (Nat.le_of_lt hnext) habs
      (fun after => hsplit ▸ lastSlash_append hname directory after)
      (fun after => ⟨name ++ 0 :: after, by simp [hsplit]⟩) List.length_append
    have hclean := @notMem_follow path target hnul
    rw [hfollow] at hclean
    refine ⟨_, hrun, ?_⟩
    rw [hfollow, ← List.append_assoc, contents_append hclean]

theorem LinkChain.length_lt {last : List UInt8} (h : LinkChain links n path last) :
    path.length < pathMax := by
  cases h with
  | last _ hpath => exact hpath
  | link _ hpath _ _ => exact hpath

/-- Every path of the chain after the first one has a slash, if the first one or its target
has: the recursion goes along the chain. -/
theorem LinkChain.result {last : List UInt8} (h : LinkChain links n path last) (hnul : 0 ∉ path)
    (hslash : slash ∈ path ∨ ∀ target ∈ links path, target.val.head? = some slash)
    (hbuf : pathMax < buf.length) (hdepth : n ≤ depth) :
    ∃ out, readlinkRecursiveDepth links frames depth path buf = some (last.length, out) ∧
      contents out = last := by
  induction h generalizing depth buf with
  | last hlast hpath => exact readlinkRecursiveDepth_last hlast hnul (hpath.trans hbuf)
  | @link n path last target hlink hpath htarget rest ih =>
      obtain ⟨depth, rfl⟩ := Nat.exists_eq_succ_of_ne_zero (Nat.ne_zero_of_lt hdepth)
      have hgood : slash ∈ path ∨ target.val.head? = some slash :=
        hslash.imp_right fun h => h target hlink
      obtain ⟨buf', hlength, hrun⟩ := @readlinkRecursiveDepth_link _ frames
        _ _ _ depth _ hlink htarget hbuf fun after temp htemp =>
          targetPath_follow hnul hpath htarget rest.length_lt hgood after htemp
      rw [Nat.succ_eq_add_one, hrun]
      exact ih (notMem_follow hnul) (Or.inl (slash_mem_follow hgood)) (hlength ▸ hbuf)
        (Nat.le_of_succ_le_succ hdepth)

/-- Where the scan finds no slash, the first byte of the path stays before a relative target. -/
def barePath (path target : List UInt8) : List UInt8 :=
  match path with
  | [] => []
  | c :: _ => c :: target

theorem notMem_barePath (hnul : 0 ∉ path) : 0 ∉ barePath path target.val := by
  cases path with
  | nil => exact nofun
  | cons c path =>
      have hc := (List.ne_and_not_mem_of_not_mem_cons hnul).1
      exact List.not_mem_cons_of_ne_of_not_mem hc target.property.2

theorem targetPath_bare (hnul : 0 ∉ path) (hpath : path.length < pathMax)
    (htarget : target.val.length < pathMax) (hslash : slash ∉ path)
    (hrel : target.val.head? ≠ some slash) (after : List UInt8) {temp : Buffer}
    (htemp : temp.length = pathMax + 1) :
    ∃ out, targetPath path (target.val ++ 0 :: after) temp = some out ∧
      contents out = barePath path target.val := by
  have hscan := fun after => lastSlash_notMem hslash after
  cases path with
  | nil =>
      obtain ⟨tail, hrun⟩ := @targetPath_relative [] target temp [0] after _ htemp hnul hpath
        (by simp; omega) hrel hscan (fun after => ⟨after, rfl⟩) rfl
      exact ⟨_, hrun, rfl⟩
  | cons c path =>
      obtain ⟨tail, hrun⟩ := @targetPath_relative (c :: path) target temp [c] after _ htemp hnul hpath
        (by simp; omega) hrel hscan (fun after => ⟨path ++ 0 :: after, rfl⟩) rfl
      exact ⟨_, hrun, contents_append (notMem_barePath hnul)⟩

def loneLink (path : List UInt8) (target : LinkTarget) : LinkMap := fun other =>
  if other = path then some target else none

section LoneLink

variable (hnul : 0 ∉ path) (hpath : path.length < pathMax)
  (htarget : target.val.length < pathMax) (hslash : slash ∉ path)
  (hrel : target.val.head? ≠ some slash)

include hnul hpath htarget hslash hrel

theorem loneLink_link (depth : Nat) (hbuf : pathMax < buf.length) :
    ∃ buf', buf'.length = buf.length ∧
      readlinkRecursiveDepth (loneLink path target) frames (depth + 1) path buf =
        readlinkRecursiveDepth (loneLink path target) frames depth (barePath path target.val)
          buf' :=
  readlinkRecursiveDepth_link (if_pos rfl) htarget hbuf fun after _ htemp =>
    targetPath_bare hnul hpath htarget hslash hrel after htemp

theorem loneLink_bare (depth : Nat) (hbuf : pathMax < buf.length) :
    ∃ out, readlinkRecursiveDepth (loneLink path target) frames depth
        (barePath path target.val) buf = some ((barePath path target.val).length, out) ∧
      contents out = barePath path target.val := by
  have hclean := @notMem_barePath path target hnul
  have hlength : (barePath path target.val).length < buf.length := by
    cases path with
    | nil => exact Nat.lt_of_le_of_lt (Nat.zero_le _) hbuf
    | cons c path => exact Nat.lt_of_le_of_lt htarget hbuf
  induction depth generalizing buf with
  | zero => exact copyPath_run hclean hlength
  | succ depth ih =>
      by_cases hsame : barePath path target.val = path
      · obtain ⟨buf', hbuf', hrun⟩ :=
          @loneLink_link frames _ _ _ hnul hpath htarget hslash hrel depth hbuf
        have hstep : readlinkRecursiveDepth (loneLink path target) frames (depth + 1)
            (barePath path target.val) buf =
              readlinkRecursiveDepth (loneLink path target) frames depth
                (barePath path target.val) buf' := by
          rw [← hrun]
          exact congrArg (readlinkRecursiveDepth _ _ _ · _) hsame
        rw [hstep]
        exact ih (hbuf' ▸ hbuf) (hbuf' ▸ hlength)
      · exact readlinkRecursiveDepth_last (if_neg hsame) hclean hlength

theorem loneLink_result (hbuf : pathMax < buf.length) (depth : Nat) :
    ∃ out, readlinkRecursiveDepth (loneLink path target) frames (depth + 1) path buf =
        some ((barePath path target.val).length, out) ∧
      contents out = barePath path target.val := by
  obtain ⟨buf', hbuf', hrun⟩ :=
    @loneLink_link frames _ _ _ hnul hpath htarget hslash hrel depth hbuf
  rw [hrun]
  exact loneLink_bare hnul hpath htarget hslash hrel depth (hbuf' ▸ hbuf)

end LoneLink

theorem barePath_ne (path : List UInt8) (target : LinkTarget) :
    barePath path target.val ≠ target.val := by
  cases path with
  | nil => exact target.property.1.symm
  | cons c path => exact fun h => absurd (congrArg List.length h) (Nat.succ_ne_self _)

/-- For a path and the target it has itself, the function returns the last path of every chain of
at most 40 links, in every file system, exactly if the path contains a slash or it is no link or
its target is absolute. -/
theorem readlinkRecursive_chain_iff (frames : Frames) (path : PathText) (own : Option LinkTarget)
    (hbuf : pathMax < buf.length) (hpath : path.val.length < pathMax)
    (hown : ∀ target ∈ own, target.val ≠ path.val ∧ target.val.length < pathMax) :
    (∀ (links : LinkMap) (n : Nat) (last : List UInt8), links path.val = own →
      n ≤ maxReadlinkDepth → LinkChain links n path.val last →
      ∃ out, readlinkRecursive links frames path buf = some (last.length, out) ∧
        contents out = last) ↔
      slash ∈ path.val ∨ ∀ target ∈ own, target.val.head? = some slash := by
  constructor
  · intro h
    by_contra hbare
    obtain ⟨hslash, hnone⟩ := not_or.mp hbare
    obtain ⟨target, rfl, hrel⟩ : ∃ target, own = some target ∧ target.val.head? ≠ some slash := by
      cases own with
      | none => exact absurd nofun hnone
      | some target =>
          exact ⟨target, rfl, fun habs => hnone fun _ h => Option.some.inj h ▸ habs⟩
    obtain ⟨hne, htarget⟩ := hown target rfl
    have hfollow : follow path.val target.val = target.val := by
      rw [follow, if_neg hrel, linkDirectory_of_notMem hslash, List.nil_append]
    have hchain : LinkChain (loneLink path.val target) 1 path.val target.val := by
      apply LinkChain.link (if_pos rfl) hpath htarget
      rw [hfollow]
      exact LinkChain.last (if_neg hne) htarget
    obtain ⟨out, hrun, hcontents⟩ := h _ 1 _ (if_pos rfl) (by decide) hchain
    obtain ⟨out', hrun', hcontents'⟩ := @loneLink_result frames _ _ _ path.property hpath
      htarget hslash hrel hbuf maxReadlinkDepth
    obtain ⟨-, rfl⟩ := Prod.mk.inj (Option.some.inj (hrun.symm.trans hrun'))
    exact barePath_ne path.val target (hcontents'.symm.trans hcontents)
  · intro hgood links n last hlinks hn hchain
    exact hchain.result path.property (hlinks ▸ hgood) hbuf (Nat.le_succ_of_le hn)

def bareLink : PathText := ⟨[0x6c], by decide⟩

def bareTarget : LinkTarget := ⟨[0x74], by decide⟩

def emptyFrames : Frames := fun _ => ⟨List.replicate (pathMax + 1) 0, List.length_replicate⟩

theorem readlinkRecursive_chain_bareLink :
    (∀ (links : LinkMap) (n : Nat) (last : List UInt8), links bareLink.val = some bareTarget →
      n ≤ maxReadlinkDepth → LinkChain links n bareLink.val last →
      ∃ out, readlinkRecursive links emptyFrames bareLink (List.replicate (pathMax + 1) 0) =
          some (last.length, out) ∧ contents out = last) ↔
      slash ∈ bareLink.val ∨ ∀ target ∈ some bareTarget, target.val.head? = some slash :=
  readlinkRecursive_chain_iff emptyFrames bareLink (some bareTarget)
    (by rw [List.length_replicate]; exact Nat.lt_succ_self _) (by decide)
    fun target h => Option.some.inj h ▸ by decide

/-- The link `l` to `t` in the current directory: the result is `lt`. -/
theorem readlinkRecursive_bareLink :
    LinkChain (loneLink bareLink.val bareTarget) 1 bareLink.val bareTarget.val ∧
    ¬∃ out, readlinkRecursive (loneLink bareLink.val bareTarget) emptyFrames bareLink
        (List.replicate (pathMax + 1) 0) = some (bareTarget.val.length, out) ∧
      contents out = bareTarget.val := by
  refine ⟨LinkChain.link rfl (by decide) (by decide) (LinkChain.last rfl (by decide)), ?_⟩
  rintro ⟨out, hrun, hcontents⟩
  obtain ⟨out', hrun', hcontents'⟩ := @loneLink_result emptyFrames _ _
    (List.replicate (pathMax + 1) 0) bareLink.property (by decide) (by decide) (by decide)
    (show bareTarget.val.head? ≠ some slash by decide)
    (by rw [List.length_replicate]; exact Nat.lt_succ_self _) maxReadlinkDepth
  obtain ⟨-, rfl⟩ := Prod.mk.inj (Option.some.inj (hrun.symm.trans hrun'))
  exact absurd (hcontents.symm.trans hcontents') (by decide)

end Links
end Usbutils
