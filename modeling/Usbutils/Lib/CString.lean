import Mathlib.Data.List.Basic
import Mathlib.Data.List.Induction
import Mathlib.Data.List.TakeWhile

/-! NUL-terminated strings in buffers, and the loops that rewrite one in place. A buffer is
the bytes that belong to it: an access outside is `none`. -/
namespace CString

abbrev Buffer := List UInt8

def load (buf : Buffer) (i : Nat) : Option UInt8 := buf[i]?

def store (buf : Buffer) (i : Nat) (byte : UInt8) : Option Buffer :=
  if i < buf.length then some (buf.set i byte) else none

def contents (buf : Buffer) : List UInt8 := buf.takeWhile (· ≠ 0)

/-- A string that ends inside the buffer and has no byte that is `bad`. -/
structure Free (bad : UInt8 → Bool) (buf : Buffer) : Prop where
  ends : 0 ∈ buf
  clean : ∀ byte ∈ contents buf, bad byte = false

def constant (s : String) : Buffer := s.toList.map (fun c => UInt8.ofNat c.toNat) ++ [0]

def strcpy (buf : Buffer) (s : String) : Option Buffer :=
  if (constant s).length ≤ buf.length then
    some (constant s ++ buf.drop (constant s).length)
  else none

/-- What `malloc` gives for a size, `none` for a null pointer. -/
abbrev Malloc := (size : Nat) → Option {block : Buffer // block.length = size}

def strdup (malloc : Malloc) (s : String) : Option Buffer :=
  (malloc (s.length + 1)).map fun _ => constant s

/-- A block after a string was written to its start: behind the NUL it has its own bytes. -/
structure Written (block : Buffer) (s : List UInt8) (buf : Buffer) : Prop where
  fits : s.length < block.length
  bytes : buf = s ++ 0 :: block.drop (s.length + 1)
  string : contents buf = s

/-- `strncpy(buf + start, s, count)`, which fills up with NULs and may leave none behind `s`. -/
def strncpyAt (buf : Buffer) (start : Nat) (s : List UInt8) (count : Nat) : Option Buffer :=
  if start + count ≤ buf.length then
    some (buf.take start ++ (s.take count ++ List.replicate (count - s.length) 0) ++
      buf.drop (start + count))
  else none

def chars (bytes : List UInt8) : List Char := bytes.map fun c => Char.ofNat c.toNat

def ofChars (text : List Char) : List UInt8 := text.map fun c => .ofNat c.toNat

theorem toNat_char (c : UInt8) : (Char.ofNat c.toNat).toNat = c.toNat := by
  have hbyte : c.toNat.isValidChar := Or.inl (Nat.lt_trans c.toNat_lt (by decide))
  rw [Char.ofNat, dif_pos hbyte]
  rfl

theorem ofChars_chars (bytes : List UInt8) : ofChars (chars bytes) = bytes := by
  rw [ofChars, chars, List.map_map]
  refine List.map_id'' (fun c => ?_) bytes
  rw [Function.comp_apply, toNat_char, UInt8.ofNat_toNat]

theorem notMem_chars {c : UInt8} {bytes : List UInt8} (h : c ∉ bytes) :
    Char.ofNat c.toNat ∉ chars bytes := by
  rw [chars, List.mem_map]
  rintro ⟨d, hd, heq⟩
  have hnat := congrArg Char.toNat heq
  rw [toNat_char, toNat_char] at hnat
  exact h (UInt8.toNat_inj.mp hnat ▸ hd)

section Loops

variable (bad : UInt8 → Bool) (mark : UInt8)

def patched (byte : UInt8) : UInt8 := if bad byte then mark else byte

def patch (buf : Buffer) (i : Nat) : Option Buffer := do
  let byte ← load buf i
  (if bad byte then store buf i mark else some buf)

/-- `for (; buf[i]; i++)`, which ends inside the buffer or leaves it. -/
def patchString : Nat → Nat → Buffer → Option Buffer
  | 0, _, _ => none
  | fuel + 1, i, buf => do
      let byte ← load buf i
      (if byte = 0 then some buf
      else do patchString fuel (i + 1) (← patch bad mark buf i))

def patchUp : Nat → Nat → Buffer → Option Buffer
  | 0, _, buf => some buf
  | count + 1, i, buf => do patchUp count (i + 1) (← patch bad mark buf i)

def patchDown : Nat → Buffer → Option Buffer
  | 0, buf => some buf
  | count + 1, buf => do patchDown count (← patch bad mark buf count)

/-- `while (count > low && bad(buf[count - 1])) buf[--count] = 0;`, with the count left. -/
def trim (low : Nat) : Nat → Buffer → Option (Nat × Buffer)
  | 0, buf => some (0, buf)
  | count + 1, buf =>
      if low < count + 1 then do
        let byte ← load buf count
        (if bad byte then do trim low count (← store buf count 0) else some (count + 1, buf))
      else some (count + 1, buf)

end Loops

section Access

variable {left right : List UInt8} {byte other : UInt8} {buf : Buffer}

@[simp] theorem load_append (left right : List UInt8) (byte : UInt8) :
    load (left ++ byte :: right) left.length = some byte := by
  simp [load]

@[simp] theorem store_append (left right : List UInt8) (byte other : UInt8) :
    store (left ++ byte :: right) left.length other = some (left ++ other :: right) := by
  simp [store]

theorem store_behind (left : List UInt8) {right : List UInt8} (h : right ≠ []) (byte : UInt8) :
    store (left ++ right) left.length byte = some (left ++ byte :: right.tail) := by
  obtain ⟨first, right, rfl⟩ := List.exists_cons_of_ne_nil h
  exact store_append left right first byte

theorem contents_append (h : 0 ∉ left) : contents (left ++ 0 :: right) = left := by
  have hleft : ∀ byte ∈ left, decide (byte ≠ 0) = true := by
    intro byte hbyte
    exact decide_eq_true fun hzero => h (hzero ▸ hbyte)
  rw [contents, List.takeWhile_append_of_pos hleft, List.takeWhile_cons_of_neg (by simp),
    List.append_nil]

theorem written_append {block : Buffer} {s : List UInt8} (hfits : s.length < block.length)
    (h : 0 ∉ s) : Written block s (s ++ 0 :: block.drop (s.length + 1)) :=
  ⟨hfits, rfl, contents_append h⟩

theorem length_bytes (s : String) :
    (s.toList.map fun c => UInt8.ofNat c.toNat).length = s.length := by
  rw [List.length_map, String.length_toList]

theorem written_strdup {malloc : Malloc} {s : String}
    {block : {block : Buffer // block.length = s.length + 1}}
    (hs : 0 ∉ s.toList.map fun c => UInt8.ofNat c.toNat) (hmalloc : malloc (s.length + 1) = some block) :
    ∃ buf, strdup malloc s = some buf ∧
      Written block.val (s.toList.map fun c => UInt8.ofNat c.toNat) buf := by
  have hsize := length_bytes s
  have hblock := block.property
  refine ⟨constant s, by rw [strdup, hmalloc]; rfl, ?_⟩
  have hfits : (s.toList.map fun c => UInt8.ofNat c.toNat).length < block.val.length := by
    omega
  have hwritten := written_append hfits hs
  rwa [hsize, List.drop_of_length_le (Nat.le_of_eq hblock)] at hwritten

theorem contents_cut (left right : List UInt8) : contents (left ++ 0 :: right) = contents left := by
  induction left with
  | nil => rfl
  | cons first left ih =>
      rw [contents, contents, List.cons_append, List.takeWhile_cons, List.takeWhile_cons]
      rw [contents, contents] at ih
      rw [ih]

theorem contents_subset (left right : List UInt8) : contents (left ++ 0 :: right) ⊆ left := by
  rw [contents_cut]
  exact (List.takeWhile_prefix _).subset

theorem exists_contents (h : 0 ∈ buf) : ∃ right, buf = contents buf ++ 0 :: right := by
  induction buf with
  | nil => cases h
  | cons first buf ih =>
      by_cases hfirst : first = 0
      · exact ⟨buf, by simp [contents, hfirst]⟩
      · obtain ⟨right, hright⟩ := ih (by simpa [Ne.symm hfirst] using h)
        refine ⟨right, ?_⟩
        rw [contents, List.takeWhile_cons_of_pos (by simpa using hfirst), List.cons_append]
        exact congrArg (first :: ·) hright

theorem zero_notMem_contents (buf : Buffer) : 0 ∉ contents buf := by
  intro h
  have hne := List.mem_takeWhile_imp h
  simp at hne

theorem length_store {i : Nat} {out : Buffer} (h : store buf i byte = some out) :
    out.length = buf.length := by
  unfold store at h
  split at h
  · rw [← Option.some.inj h, List.length_set]
  · cases h

theorem length_strncpyAt {start count : Nat} {s : List UInt8} {out : Buffer}
    (h : strncpyAt buf start s count = some out) : out.length = buf.length := by
  unfold strncpyAt at h
  split at h
  · rw [← Option.some.inj h]
    simp
    omega
  · cases h

theorem strncpyAt_store {s : List UInt8} {count : Nat} (hfits : s.length ≤ count)
    (hroom : left.length + count < (left ++ right).length) :
    ∃ buf after, strncpyAt (left ++ right) left.length s count = some buf ∧
      store buf (left.length + count) 0 = some (left ++ (s ++ 0 :: after)) := by
  have hright : count < right.length := by
    rw [List.length_append] at hroom
    omega
  have hcopy : strncpyAt (left ++ right) left.length s count =
      some (left ++ (s ++ List.replicate (count - s.length) 0) ++ right.drop count) := by
    rw [strncpyAt, if_pos (by rw [List.length_append]; omega), List.take_left,
      List.take_of_length_le hfits]
    simp [List.drop_append]
  have hlength : (left ++ (s ++ List.replicate (count - s.length) 0)).length =
      left.length + count := by
    simp only [List.length_append, List.length_replicate]
    omega
  obtain ⟨byte, tail, htail⟩ : ∃ byte tail, right.drop count = byte :: tail :=
    List.exists_cons_of_length_pos (by rw [List.length_drop]; omega)
  obtain ⟨after, hafter⟩ : ∃ after : List UInt8,
      List.replicate (count - s.length) 0 ++ 0 :: tail = 0 :: after := by
    cases count - s.length with
    | zero => exact ⟨tail, rfl⟩
    | succ n => exact ⟨List.replicate n 0 ++ 0 :: tail, rfl⟩
  have hend : left ++ (s ++ List.replicate (count - s.length) 0) ++ 0 :: tail =
      left ++ (s ++ 0 :: after) := by
    rw [List.append_assoc, List.append_assoc, hafter]
  have hstore := store_append (left ++ (s ++ List.replicate (count - s.length) 0)) tail byte 0
  rw [hlength, ← htail, hend] at hstore
  exact ⟨_, after, hcopy, hstore⟩

variable {bad : UInt8 → Bool}

theorem free_append (h : ∀ byte ∈ left, bad byte = false) : Free bad (left ++ 0 :: right) where
  ends := by simp
  clean byte hbyte := h byte (contents_subset left right hbyte)

theorem free_replicate (h : ∀ byte ∈ left, bad byte = false) (n : Nat) (right : List UInt8) :
    Free bad (left ++ (List.replicate n 0 ++ 0 :: right)) := by
  cases n with
  | zero => exact free_append h
  | succ n =>
      rw [List.replicate_succ, List.cons_append]
      exact free_append h

theorem free_constant {s : String} (h : s.toList.all (fun c => !bad (UInt8.ofNat c.toNat)) = true) :
    Free bad (constant s) := by
  apply free_append
  intro byte hbyte
  obtain ⟨c, hc, rfl⟩ := List.mem_map.mp hbyte
  exact Bool.not_eq_true' _ ▸ List.all_eq_true.mp h c hc

end Access

section Run

variable {bad : UInt8 → Bool} {mark : UInt8}

@[simp] theorem patch_append (left right : List UInt8) (byte : UInt8) :
    patch bad mark (left ++ byte :: right) left.length =
      some (left ++ patched bad mark byte :: right) := by
  unfold patch patched
  cases hbad : bad byte <;> simp [hbad]

theorem patched_clean (hmark : bad mark = false) (byte : UInt8) :
    bad (patched bad mark byte) = false := by
  unfold patched
  cases hbad : bad byte <;> simp [hbad, hmark]

theorem map_patched_clean (hmark : bad mark = false) (s : List UInt8) :
    ∀ byte ∈ s.map (patched bad mark), bad byte = false := by
  intro byte hbyte
  obtain ⟨source, -, rfl⟩ := List.mem_map.mp hbyte
  exact patched_clean hmark source

theorem notMem_map_patched (hmark : mark ≠ 0) {s : List UInt8} (hs : 0 ∉ s) :
    0 ∉ s.map (patched bad mark) := by
  intro h
  obtain ⟨byte, hbyte, hzero⟩ := List.mem_map.mp h
  unfold patched at hzero
  split at hzero
  · exact hmark hzero
  · exact hs (hzero ▸ hbyte)

theorem patchString_append {s : List UInt8} (hs : 0 ∉ s) (left right : List UInt8) {fuel : Nat}
    (hfuel : s.length < fuel) :
    patchString bad mark fuel left.length (left ++ (s ++ 0 :: right)) =
      some (left ++ (s.map (patched bad mark) ++ 0 :: right)) := by
  induction s generalizing left fuel with
  | nil =>
      obtain ⟨fuel, rfl⟩ := Nat.exists_eq_succ_of_ne_zero (Nat.ne_of_gt hfuel)
      simp [patchString]
  | cons byte s ih =>
      obtain ⟨fuel, rfl⟩ := Nat.exists_eq_succ_of_ne_zero (Nat.ne_zero_of_lt hfuel)
      obtain ⟨hbyte, hs⟩ := List.ne_and_not_mem_of_not_mem_cons hs
      have hnext := ih hs (left ++ [patched bad mark byte]) (Nat.lt_of_succ_lt_succ hfuel)
      rw [List.length_append, List.length_singleton, List.append_assoc, List.append_assoc] at hnext
      rw [patchString, List.cons_append, load_append]
      simpa [Ne.symm hbyte] using hnext

/-- A loop over a string rewrites exactly the bytes before its end. -/
theorem patchString_run {buf : Buffer} (h : 0 ∈ buf) :
    ∃ right, patchString bad mark (buf.length + 1) 0 buf =
        some ((contents buf).map (patched bad mark) ++ 0 :: right) ∧
      buf = contents buf ++ 0 :: right := by
  obtain ⟨right, hbuf⟩ := exists_contents h
  refine ⟨right, ?_, hbuf⟩
  have hfuel : (contents buf).length < buf.length + 1 := by
    rw [hbuf]
    simp only [contents_append (zero_notMem_contents buf), List.length_append]
    omega
  have hrun := @patchString_append bad mark _ (zero_notMem_contents buf) [] right _ hfuel
  rwa [List.nil_append, ← hbuf] at hrun

theorem patchUp_append (s left right : List UInt8) :
    patchUp bad mark s.length left.length (left ++ (s ++ right)) =
      some (left ++ (s.map (patched bad mark) ++ right)) := by
  induction s generalizing left with
  | nil => rfl
  | cons byte s ih =>
      have hnext := ih (left ++ [patched bad mark byte])
      rw [List.length_append, List.length_singleton, List.append_assoc, List.append_assoc] at hnext
      rw [List.length_cons, patchUp, List.cons_append, patch_append]
      exact hnext

theorem patchDown_append (s right : List UInt8) :
    patchDown bad mark s.length (s ++ right) = some (s.map (patched bad mark) ++ right) := by
  induction s using List.reverseRecOn generalizing right with
  | nil => rfl
  | append_singleton s byte ih =>
      rw [List.length_append, List.length_singleton, patchDown, List.append_assoc,
        List.singleton_append, patch_append, Option.bind_eq_bind, Option.bind_some, ih]
      simp

theorem trim_append (low : Nat) (s right : List UInt8) :
    ∃ kept cut, s = kept ++ cut ∧ trim bad low s.length (s ++ right) =
      some (kept.length, kept ++ (List.replicate cut.length 0 ++ right)) := by
  induction s using List.reverseRecOn generalizing right with
  | nil => exact ⟨[], [], rfl, rfl⟩
  | append_singleton s byte ih =>
      have hstop : ∃ kept cut, s ++ [byte] = kept ++ cut ∧
          some (s.length + 1, s ++ byte :: right) =
            some (kept.length, kept ++ (List.replicate cut.length 0 ++ right)) :=
        ⟨s ++ [byte], [], by simp, by simp⟩
      rw [List.length_append, List.length_singleton, trim, List.append_assoc,
        List.singleton_append, load_append]
      split
      · simp only [Option.bind_eq_bind, Option.bind_some]
        cases bad byte with
        | false => simpa using hstop
        | true =>
            obtain ⟨kept, cut, rfl, hrun⟩ := ih (0 :: right)
            refine ⟨kept, cut ++ [byte], by simp, ?_⟩
            rw [if_pos rfl, store_append, Option.bind_some, hrun]
            simp [List.replicate_succ']
      · exact hstop

end Run

end CString
