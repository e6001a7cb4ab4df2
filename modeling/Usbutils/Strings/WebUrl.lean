import Usbutils.Strings.Sanitize

/-! `get_webusb_url` with the memory it asks for and the counter of its loop, which is an
`unsigned char`. -/
namespace Usbutils.WebUrl
open ByteProg CString

/-- The reply to the request for the URL: what the transfer returned and `url_buf` after it. -/
structure Reply where
  ret : Int
  urlBuf : Buffer
  size : urlBuf.length = 255

structure Copy where
  i : UInt8
  chr : Nat
  url : Buffer

def Copy.loop (urlBuf : Buffer) (s : Copy) : Option Copy := do
  let length ← load urlBuf 0
  (if s.i < length then do
    let c ← load urlBuf s.i.toNat
    (if c < 0x80 then do
      let url ← store s.url s.chr (if isControl c then '?'.toUInt8 else c)
      (⟨s.i + 1, s.chr + 1, url⟩ : Copy) |>.loop urlBuf
    else (⟨s.i + 1, s.chr, s.url⟩ : Copy) |>.loop urlBuf)
  else some s)
partial_fixpoint

/-- What is printed and the pointer that is returned, which may be a null pointer. -/
def getWebusbUrl (malloc : Malloc) (reply : Reply) : Option (List Effect × Option Buffer) :=
  if reply.ret ≤ 0 then some ([], strdup malloc "")
  else do
    let length ← load reply.urlBuf 0
    let type ← load reply.urlBuf 1
    (if length.toNat ≤ 3 ∨ type.toNat ≠ usbDtWebusbUrl ∨ reply.ret ≠ length.toNat then
      some ([], strdup malloc "")
    else do
      match urlScheme (← load reply.urlBuf 2).toNat with
      | none => some ([.error "Bad URL scheme.\n" []], strdup malloc "")
      | some scheme =>
          match malloc (scheme.length + (length.toNat - 3) + 1) with
          | none => some ([], strdup malloc "")
          | some block => do
              let url ← strcpy block.val scheme
              let copied ← (⟨3, scheme.length, url⟩ : Copy) |>.loop reply.urlBuf
              return ([], some (← store copied.url copied.chr 0)))

def Reply.byte (reply : Reply) (i : Nat) : Nat := (reply.urlBuf.getD i 0).toNat

structure Complete (reply : Reply) : Prop where
  long : 3 < reply.byte 0
  type : reply.byte 1 = usbDtWebusbUrl
  received : reply.ret = reply.byte 0

inductive Answer (reply : Reply) : List Effect → List UInt8 → Nat → Prop
  | failed (h : reply.ret ≤ 0) : Answer reply [] [] 1
  | short (h : reply.byte 0 ≤ 3) : Answer reply [] [] 1
  | wrongType (h : reply.byte 1 ≠ usbDtWebusbUrl) : Answer reply [] [] 1
  | mismatch (h : reply.ret ≠ reply.byte 0) : Answer reply [] [] 1
  | unknownScheme (h : Complete reply) (hscheme : urlScheme (reply.byte 2) = none) :
      Answer reply [.error "Bad URL scheme.\n" []] [] 1
  | url (h : Complete reply) {scheme : String} (hscheme : urlScheme (reply.byte 2) = some scheme) :
      Answer reply []
        (scheme.toList.map (fun c => UInt8.ofNat c.toNat) ++
          urlBytes ((reply.urlBuf.take (reply.byte 0)).drop 3))
        (scheme.length + (reply.byte 0 - 3) + 1)

theorem exists_answer (reply : Reply) : ∃ effects text size, Answer reply effects text size := by
  by_cases hlong : reply.byte 0 ≤ 3
  · exact ⟨_, _, _, .short hlong⟩
  by_cases htype : reply.byte 1 = usbDtWebusbUrl
  · by_cases hreceived : reply.ret = reply.byte 0
    · have hcomplete : Complete reply := ⟨Nat.lt_of_not_le hlong, htype, hreceived⟩
      cases hscheme : urlScheme (reply.byte 2) with
      | none => exact ⟨_, _, _, .unknownScheme hcomplete hscheme⟩
      | some scheme => exact ⟨_, _, _, .url hcomplete hscheme⟩
    · exact ⟨_, _, _, .mismatch hreceived⟩
  · exact ⟨_, _, _, .wrongType htype⟩

/-- The counter ends at `length` and so does not wrap: the loop is one over the bytes up to
there. -/
theorem loop_copyUrl {urlBuf : Buffer} {length : UInt8} (hlength : load urlBuf 0 = some length)
    {s : Copy} (hi : s.i ≤ length) :
    s.loop urlBuf = (copyUrl urlBuf (length.toNat - s.i.toNat) s.i.toNat s.chr s.url).map
      fun copied => ⟨length, copied.1, copied.2⟩ := by
  induction hcount : length.toNat - s.i.toNat generalizing s with
  | zero =>
      have hlast : s.i = length := UInt8.le_antisymm hi (Nat.le_of_sub_eq_zero hcount)
      rw [Copy.loop, hlength, Option.bind_eq_bind, Option.bind_some, hlast,
        if_neg (UInt8.lt_irrefl _), copyUrl, ← hlast]
      rfl
  | succ count ih =>
      have hbound := length.toNat_lt
      have hnext : (s.i + 1).toNat = s.i.toNat + 1 := by
        rw [UInt8.toNat_add]
        exact Nat.mod_eq_of_lt (by simp; omega)
      have hlt : s.i < length := UInt8.lt_iff_toNat_lt.mpr (by omega)
      have hle : s.i + 1 ≤ length := UInt8.le_iff_toNat_le.mpr (by omega)
      have hrest : length.toNat - (s.i + 1).toNat = count := by omega
      rw [Copy.loop, hlength, Option.bind_eq_bind, Option.bind_some, if_pos hlt, copyUrl]
      cases hload : load urlBuf s.i.toNat with
      | none => rfl
      | some c =>
          simp only [Option.bind_eq_bind, Option.bind_some]
          by_cases hc : c < 0x80
          · rw [if_pos hc, if_pos hc]
            cases hstore : store s.url s.chr (if isControl c then '?'.toUInt8 else c) with
            | none => rfl
            | some url =>
                have hrun := @ih ⟨s.i + 1, s.chr + 1, url⟩ hle hrest
                rwa [hnext] at hrun
          · rw [if_neg hc, if_neg hc]
            have hrun := @ih ⟨s.i + 1, s.chr, s.url⟩ hle hrest
            rwa [hnext] at hrun

/-- A pointer to a text, or to an empty one where there is no memory for it. -/
def Returned (malloc : Malloc) (text : List UInt8) (size : Nat) (pointer : Option Buffer) : Prop :=
  (malloc size = none ∧ pointer = strdup malloc "") ∨
    ∃ block buf, malloc size = some block ∧ pointer = some buf ∧ Written block.val text buf

section Replies

variable {malloc : Malloc} {reply : Reply}

theorem returned_empty (malloc : Malloc) : Returned malloc [] 1 (strdup malloc "") := by
  cases hmalloc : malloc 1 with
  | none => exact Or.inl ⟨hmalloc, rfl⟩
  | some block =>
      obtain ⟨buf, hbuf, hwritten⟩ := @written_strdup malloc "" block List.not_mem_nil hmalloc
      exact Or.inr ⟨block, buf, hmalloc, hbuf, hwritten⟩

theorem load_reply (reply : Reply) {i : Nat} (hi : i < 255) :
    load reply.urlBuf i = some (reply.urlBuf.getD i 0) := by
  have hsize : i < reply.urlBuf.length := hi.trans_eq reply.size.symm
  rw [load, List.getD_eq_getElem?_getD, List.getElem?_eq_getElem hsize, Option.getD_some]

theorem loop_reply (hlong : 3 ≤ reply.byte 0) (chr : Nat) (url : Buffer) :
    ((⟨3, chr, url⟩ : Copy) |>.loop reply.urlBuf) =
      (copyUrl reply.urlBuf (reply.byte 0 - 3) 3 chr url).map
        fun copied => ⟨reply.urlBuf.getD 0 0, copied.1, copied.2⟩ :=
  loop_copyUrl (load_reply reply (by decide : 0 < 255)) (UInt8.le_iff_toNat_le.mpr hlong)

theorem Complete.ret_pos (h : Complete reply) : ¬ reply.ret ≤ 0 := by
  have hlong := h.long
  have hreceived := h.received
  omega

theorem Complete.accepted (h : Complete reply) : ¬ (reply.byte 0 ≤ 3 ∨
    reply.byte 1 ≠ usbDtWebusbUrl ∨ reply.ret ≠ reply.byte 0) := by
  rintro (hshort | htype | hret)
  · exact Nat.not_le_of_lt h.long hshort
  · exact htype h.type
  · exact hret h.received

theorem getWebusbUrl_refused (h : reply.byte 0 ≤ 3 ∨ reply.byte 1 ≠ usbDtWebusbUrl ∨
    reply.ret ≠ reply.byte 0) :
    getWebusbUrl malloc reply = some ([], strdup malloc "") := by
  by_cases hret : reply.ret ≤ 0
  · exact if_pos hret
  · rw [getWebusbUrl, if_neg hret, load_reply reply (by decide : 0 < 255),
      load_reply reply (by decide : 1 < 255)]
    exact if_pos h

theorem getWebusbUrl_complete (h : Complete reply) :
    getWebusbUrl malloc reply =
      (urlScheme (reply.byte 2)).elim (some ([.error "Bad URL scheme.\n" []], strdup malloc ""))
        fun scheme => (malloc (scheme.length + (reply.byte 0 - 3) + 1)).elim
          (some ([], strdup malloc "")) fun block => do
            let url ← strcpy block.val scheme
            let copied ← (⟨3, scheme.length, url⟩ : Copy) |>.loop reply.urlBuf
            return ([], some (← store copied.url copied.chr 0)) := by
  rw [getWebusbUrl, if_neg h.ret_pos, load_reply reply (by decide : 0 < 255),
    load_reply reply (by decide : 1 < 255), load_reply reply (by decide : 2 < 255)]
  refine (if_neg h.accepted).trans ?_
  simp only [Option.bind_eq_bind, Option.bind_some, Reply.byte]
  cases urlScheme (reply.urlBuf.getD 2 0).toNat with
  | none => rfl
  | some scheme =>
      simp only [Option.elim_some]
      cases malloc (scheme.length + ((reply.urlBuf.getD 0 0).toNat - 3) + 1) with
      | none => rfl
      | some block => rfl

theorem payload_split (h : Complete reply) :
    (reply.urlBuf.take 3 ++ ((reply.urlBuf.take (reply.byte 0)).drop 3 ++
      reply.urlBuf.drop (reply.byte 0)) = reply.urlBuf) ∧
    (reply.urlBuf.take 3).length = 3 ∧
    ((reply.urlBuf.take (reply.byte 0)).drop 3).length = reply.byte 0 - 3 := by
  have hlong := h.long
  have hsize := reply.size
  have hbound : reply.byte 0 < 256 := (reply.urlBuf.getD 0 0).toNat_lt
  refine ⟨?_, ?_, ?_⟩
  · have hheader : reply.urlBuf.take 3 = (reply.urlBuf.take (reply.byte 0)).take 3 := by
      rw [List.take_take, Nat.min_eq_left (by omega)]
    rw [hheader, ← List.append_assoc, List.take_append_drop, List.take_append_drop]
  · rw [List.length_take, hsize]
    rfl
  · rw [List.length_drop, List.length_take, hsize]
    omega

theorem getWebusbUrl_url (h : Complete reply) {scheme : String}
    (hscheme : urlScheme (reply.byte 2) = some scheme)
    {block : {block : Buffer // block.length = scheme.length + (reply.byte 0 - 3) + 1}}
    (hmalloc : malloc (scheme.length + (reply.byte 0 - 3) + 1) = some block) :
    ∃ buf, getWebusbUrl malloc reply = some ([], some buf) ∧
      Written block.val (scheme.toList.map (fun c => UInt8.ofNat c.toNat) ++
        urlBytes ((reply.urlBuf.take (reply.byte 0)).drop 3)) buf := by
  obtain ⟨hsplit, hheader, hpayload⟩ := payload_split h
  have hends := zero_notMem_url hscheme ((reply.urlBuf.take (reply.byte 0)).drop 3)
  have hsize : (scheme.toList.map (fun c => UInt8.ofNat c.toNat) ++
      urlBytes ((reply.urlBuf.take (reply.byte 0)).drop 3)).length =
        scheme.length + (urlBytes ((reply.urlBuf.take (reply.byte 0)).drop 3)).length := by
    rw [List.length_append, length_bytes]
  have hfits := length_urlBytes_le ((reply.urlBuf.take (reply.byte 0)).drop 3)
  have hblock := block.property
  obtain ⟨url, chr, url', hcpy, hcopy, hstore⟩ := copyUrl_fill scheme
    ((reply.urlBuf.take (reply.byte 0)).drop 3) (reply.urlBuf.take 3)
    (reply.urlBuf.drop (reply.byte 0)) (hblock.trans (by rw [hpayload]))
  rw [hsplit, hpayload, hheader] at hcopy
  have hrun := (loop_reply (Nat.le_of_lt h.long) scheme.length url).trans
    (congrArg (Option.map _) hcopy)
  rw [← List.append_assoc, ← hsize] at hstore
  refine ⟨_, ?_, written_append (by omega) hends⟩
  rw [getWebusbUrl_complete h, hscheme, Option.elim_some, hmalloc, Option.elim_some, hcpy]
  simp only [Option.bind_eq_bind, Option.bind_some, hrun, Option.map_some, hstore]
  rfl

theorem getWebusbUrl_answer (malloc : Malloc) {effects : List Effect} {text : List UInt8}
    {size : Nat} (h : Answer reply effects text size) :
    ∃ pointer, getWebusbUrl malloc reply = some (effects, pointer) ∧
      Returned malloc text size pointer := by
  cases h with
  | failed hret => exact ⟨_, if_pos hret, returned_empty malloc⟩
  | short hshort => exact ⟨_, getWebusbUrl_refused (Or.inl hshort), returned_empty malloc⟩
  | wrongType htype =>
      exact ⟨_, getWebusbUrl_refused (Or.inr (Or.inl htype)), returned_empty malloc⟩
  | mismatch hret =>
      exact ⟨_, getWebusbUrl_refused (Or.inr (Or.inr hret)), returned_empty malloc⟩
  | unknownScheme hcomplete hscheme =>
      refine ⟨_, ?_, returned_empty malloc⟩
      rw [getWebusbUrl_complete hcomplete, hscheme, Option.elim_none]
  | @url hcomplete scheme hscheme =>
      cases hmalloc : malloc (scheme.length + (reply.byte 0 - 3) + 1) with
      | none =>
          refine ⟨_, ?_, Or.inl ⟨hmalloc, rfl⟩⟩
          rw [getWebusbUrl_complete hcomplete, hscheme, Option.elim_some, hmalloc, Option.elim_none]
      | some block =>
          obtain ⟨buf, hrun, hwritten⟩ := getWebusbUrl_url hcomplete hscheme hmalloc
          exact ⟨_, hrun, Or.inr ⟨block, buf, hmalloc, rfl, hwritten⟩⟩

/-- With memory for every size it is the function that counts the bytes of the URL. -/
theorem getWebusbUrl_webusbUrlBuffer (locale : Locale) (reply : Reply) :
    (getWebusbUrl (fun size => some (locale.malloc size)) reply).map Prod.snd =
      (webusbUrlBuffer locale reply.ret reply.urlBuf).map some := by
  by_cases hret : reply.ret ≤ 0
  · rw [getWebusbUrl, webusbUrlBuffer, if_pos hret, if_pos hret]
    rfl
  rw [getWebusbUrl, webusbUrlBuffer, if_neg hret, if_neg hret,
    load_reply reply (by decide : 0 < 255), load_reply reply (by decide : 1 < 255),
    load_reply reply (by decide : 2 < 255)]
  simp only [Option.bind_eq_bind, Option.bind_some]
  split
  · rfl
  · next hguard =>
      have hlong : 3 ≤ reply.byte 0 := Nat.le_of_not_le fun h => hguard (Or.inl h)
      cases urlScheme (reply.urlBuf.getD 2 0).toNat with
      | none => rfl
      | some scheme =>
          dsimp only
          cases strcpy (locale.malloc
            (scheme.length + ((reply.urlBuf.getD 0 0).toNat - 3) + 1)).val scheme with
          | none => rfl
          | some url =>
              rw [Option.bind_some, Option.bind_some, loop_reply hlong, Reply.byte]
              cases copyUrl reply.urlBuf ((reply.urlBuf.getD 0 0).toNat - 3) 3 scheme.length url with
              | none => rfl
              | some copied =>
                  simp only [Option.map_some, Option.bind_some]
                  cases store copied.2 copied.1 0 with
                  | none => rfl
                  | some buf => rfl

variable {m : Memory}

theorem acts_urlChars (addresses : List Nat) : (urlChars addresses).acts m = [] := by
  induction addresses with
  | nil => rfl
  | cons a rest ih =>
      simp [urlChars, Prog.acts_bind, ih]

theorem byte_eq (hm : Holds m 0 reply.urlBuf) {i : Nat} (hi : i < 255) :
    (m i).toNat = reply.byte i := by
  have hsize : i < reply.urlBuf.length := hi.trans_eq reply.size.symm
  have hbyte := holds_getElem hm hsize
  have hload := (List.getElem?_eq_getElem hsize).symm.trans (load_reply reply hi)
  rw [Nat.zero_add, Option.some.inj hload] at hbyte
  rw [hbyte, Reply.byte]

theorem acts_webusbUrl_refused (hm : Holds m 0 reply.urlBuf)
    (h : reply.byte 0 ≤ 3 ∨ reply.byte 1 ≠ usbDtWebusbUrl ∨ reply.ret ≠ reply.byte 0) :
    (webusbUrl reply.ret).acts m = [] := by
  unfold webusbUrl
  split
  · rfl
  · rw [Prog.acts_bind_ok (Prog.result_byte ..), Prog.acts_byte,
      Prog.acts_bind_ok (Prog.result_byte ..), Prog.acts_byte, byte_eq hm (by decide : 0 < 255),
      byte_eq hm (by decide : 1 < 255), if_pos h]
    rfl

theorem acts_webusbUrl_complete (hm : Holds m 0 reply.urlBuf) (h : Complete reply) :
    (webusbUrl reply.ret).acts m =
      if urlScheme (reply.byte 2) = none then [.error "Bad URL scheme.\n" []] else [] := by
  rw [webusbUrl, if_neg h.ret_pos, Prog.acts_bind_ok (Prog.result_byte ..), Prog.acts_byte,
    Prog.acts_bind_ok (Prog.result_byte ..), Prog.acts_byte, byte_eq hm (by decide : 0 < 255),
    byte_eq hm (by decide : 1 < 255), if_neg h.accepted, Prog.acts_bind_ok (Prog.result_byte ..),
    Prog.acts_byte, byte_eq hm (by decide : 2 < 255)]
  cases urlScheme (reply.byte 2) with
  | none => rfl
  | some scheme => simp [acts_urlChars]

theorem webusbUrl_answer (hm : Holds m 0 reply.urlBuf) {effects : List Effect} {text : List UInt8}
    {size : Nat} (h : Answer reply effects text size) :
    (webusbUrl reply.ret).acts m = effects ∧ ∃ url, (webusbUrl reply.ret).result m = .ok url ∧
      url.toList.map (fun c => UInt8.ofNat c.toNat) = text := by
  constructor
  · cases h with
    | failed hret => rw [webusbUrl, if_pos hret, Prog.acts_pure]
    | short hshort => exact acts_webusbUrl_refused hm (Or.inl hshort)
    | wrongType htype => exact acts_webusbUrl_refused hm (Or.inr (Or.inl htype))
    | mismatch hret => exact acts_webusbUrl_refused hm (Or.inr (Or.inr hret))
    | unknownScheme hcomplete hscheme =>
        rw [acts_webusbUrl_complete hm hcomplete, if_pos hscheme]
    | url hcomplete hscheme =>
        rw [acts_webusbUrl_complete hm hcomplete, if_neg (by simp [hscheme])]
  · -- the buffer that the other model fills has the text that is shown
    obtain ⟨buf, url, hbuf, -, hurl, hcontents⟩ :=
      webusbUrlBuffer_clean plainLocale reply.ret reply.size hm
    obtain ⟨pointer, hrun, hreturned⟩ :=
      getWebusbUrl_answer (fun size => some (plainLocale.malloc size)) h
    have hsame := getWebusbUrl_webusbUrlBuffer plainLocale reply
    rw [hrun, hbuf] at hsame
    obtain rfl : pointer = some buf := Option.some.inj hsame
    rcases hreturned with ⟨hmalloc, -⟩ | ⟨block, buf', -, hpointer, hwritten⟩
    · cases hmalloc
    · obtain rfl := Option.some.inj hpointer
      exact ⟨url, hurl, hcontents.symm.trans hwritten.string⟩

end Replies

/-- Whatever the reply is, the function ends, and it returns the text of the answer in a block
of the size for it, to whose other bytes it does not write. -/
theorem getWebusbUrl_returns (malloc : Malloc) (reply : Reply) :
    ∃ effects text size pointer, Answer reply effects text size ∧
      getWebusbUrl malloc reply = some (effects, pointer) ∧ Returned malloc text size pointer := by
  obtain ⟨effects, text, size, hanswer⟩ := exists_answer reply
  obtain ⟨pointer, hrun, hreturned⟩ := getWebusbUrl_answer malloc hanswer
  exact ⟨effects, text, size, pointer, hanswer, hrun, hreturned⟩

end Usbutils.WebUrl
