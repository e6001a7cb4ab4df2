import Usbutils.Lib.CString
import Usbutils.Lsusb.Bos
import Usbutils.Tree.Devices

/-! The five functions that turn the bytes of a device or of its sysfs attributes into
strings for the terminal. Each works in its own way on a buffer of its own. -/
namespace Usbutils
open ByteProg CString

inductive SysfsFile where
  | missing
  | unreadable
  | content (bytes : List UInt8)

/-- `read(fd, buf, count)`; a file that cannot be opened is not read. -/
def SysfsFile.read (file : SysfsFile) (count : Nat) (buf : Buffer) : Option (Int × Buffer) :=
  match file with
  | .missing | .unreadable => some (-1, buf)
  | .content bytes =>
      if count ≤ buf.length then
        some ((bytes.take count).length,
          bytes.take count ++ buf.drop (bytes.take count).length)
      else none

/-- `c < 0x20 || c == 0x7f` -/
def isControl (c : UInt8) : Bool := c < 0x20 || c == 0x7f

def newline : UInt8 := 0x0a

structure DeviceHandle where
  /-- The bytes of `libusb_get_string_descriptor` for an index and a language, `none` for an
  error. -/
  getStringDescriptor : UInt8 → Nat → Option (List UInt8)
  /-- The buffer of `libusb_get_string_descriptor_ascii` for an index and a size. -/
  getStringDescriptorAscii : UInt8 → (size : Nat) → Option {buf : Buffer // buf.length = size ∧ 0 ∈ buf}

structure Locale where
  mbCurMax : Nat
  /-- What `iconv` writes for an input into the room it has; `none` if there is no conversion. -/
  iconv : List UInt8 → (room : Nat) → Option {out : List UInt8 // out.length ≤ room}
  /-- What a new block of memory contains. -/
  malloc : (size : Nat) → {block : Buffer // block.length = size}

def getDevStringAscii (dev : DeviceHandle) (size : Nat) (id : UInt8) : Buffer :=
  match dev.getStringDescriptorAscii id size with
  | none => constant "(error)"
  | some buf => buf

/-- The result of `libusb_get_string_descriptor` and the buffer behind it. -/
def readStringDescriptor (dev : DeviceHandle) (id : UInt8) (langid : Nat) (buf : Buffer) :
    Int × Buffer :=
  match dev.getStringDescriptor id langid with
  | none => (-1, buf)
  | some bytes => ((bytes.take buf.length).length,
      bytes.take buf.length ++ buf.drop (bytes.take buf.length).length)

def getAnyLangid (dev : DeviceHandle) : Option Nat := do
  let (ret, buf) := readStringDescriptor dev 0 0 (List.replicate 4 0)
  (if ret ≠ 4 then some 0
  else return (← load buf 2).toNat ||| (← load buf 3).toNat <<< 8)

def usbStringToNative (locale : Locale) (buf : Buffer) (str len : Nat) : Option (Option Buffer) :=
  if str + len * 2 ≤ buf.length then
    match locale.iconv ((buf.drop str).take (len * 2)) (len * locale.mbCurMax) with
    | none => some none
    | some out => do
        let result := (locale.malloc (len * locale.mbCurMax + 1)).val
        return some (← store (out.val ++ result.drop out.val.length) out.val.length 0)
  else none

def getDevString (locale : Locale) (dev : Option DeviceHandle) (id : UInt8) : Option Buffer :=
  match dev with
  | none => some (constant "")
  | some dev =>
      if id = 0 then some (constant "")
      else do
        let langid ← getAnyLangid dev
        (if langid = 0 then some (constant "(error)")
        else do
          let (ret, unicodeBuf) := readStringDescriptor dev id langid (List.replicate 254 0)
          (if ret < 2 then some (constant "(error)")
          else do
            let length ← load unicodeBuf 0
            let type ← load unicodeBuf 1
            (if length < 2 ∨ type ≠ 0x03 then some (constant "(error)")
            else do
              let native ← usbStringToNative locale unicodeBuf 2 ((length.toNat - 2) / 2)
              let buf := native.getD (getDevStringAscii dev 127 id)
              patchString isControl '?'.toUInt8 (buf.length + 1) 0 buf)))

def pathMax : Nat := 4096

def readSysfsProp (sysfs : String → SysfsFile) (buf : Buffer) (sysfsName propname : String) :
    Option (Int × Buffer) := do
  let size := buf.length
  let buf ← store buf 0 0
  match sysfs (snprintf pathMax ("/sys/bus/usb/devices/" ++ sysfsName ++ "/" ++ propname)) with
  | .missing => return (0, buf)
  | file => do
      let (n, buf) ← file.read (size - 1) buf
      (if n > 0 then do
        let buf ← store buf n.toNat 0
        let last ← load buf (n.toNat - 1)
        let buf ← (if last = newline then store buf (n.toNat - 1) 0 else some buf)
        return (n, ← patchString isControl '?'.toUInt8 (buf.length + 1) 0 buf)
      else return (n, buf))

def sysBusUsbDevices : String := "/sys/bus/usb/devices"

def readSysfsFileString (sysfs : String → SysfsFile) (dName file : String) (buf : Buffer) :
    Option Buffer :=
  let path := sysBusUsbDevices ++ "/" ++ dName ++ "/" ++ file
  if path.length ≥ myPathMax then store buf 0 0
  else
    match sysfs path with
    | .missing => store buf 0 0
    | file => do
        let (r, buf) ← file.read (buf.length - 1) buf
        (if r > 0 then do
          let buf ← store buf r.toNat 0
          let (rest, buf) ← trim (· == newline) 0 r.toNat buf
          patchDown isControl ' '.toUInt8 rest buf
        else store buf 0 0)

def isspace (c : UInt8) : Bool := c == 0x20 || (0x09 ≤ c && c ≤ 0x0d)

def sysfsAttr (sysfs : String → SysfsFile) (dev attr : String) : Option (Option Buffer) := do
  let buf : Buffer := List.replicate 129 0
  let (len, buf) ←
    (match sysfs (snprintf (pathMax - 1) ("/sys/bus/usb/devices/" ++ dev ++ "/" ++ attr)) with
    | .missing => some (0, buf)
    | file => file.read 128 buf)
  (if len ≤ 0 then some none
  else do
    let (rest, buf) ← trim isspace 1 len.toNat buf
    return some (← patchUp isControl '?'.toUInt8 rest 0 buf))

def copyUrl (urlBuf : Buffer) : Nat → Nat → Nat → Buffer → Option (Nat × Buffer)
  | 0, _, chr, url => some (chr, url)
  | count + 1, i, chr, url => do
      let c ← load urlBuf i
      (if c < 0x80 then do
        let url ← store url chr (if isControl c then '?'.toUInt8 else c)
        copyUrl urlBuf count (i + 1) (chr + 1) url
      else copyUrl urlBuf count (i + 1) chr url)

/-- `ret` and `url_buf` are the reply to the request for the URL. -/
def webusbUrlBuffer (locale : Locale) (ret : Int) (urlBuf : Buffer) : Option Buffer :=
  if ret ≤ 0 then some (constant "")
  else do
    let length ← load urlBuf 0
    let type ← load urlBuf 1
    (if length.toNat ≤ 3 ∨ type.toNat ≠ usbDtWebusbUrl ∨ ret ≠ length.toNat then some (constant "")
    else do
      match urlScheme (← load urlBuf 2).toNat with
      | none => some (constant "")
      | some scheme => do
          let url := (locale.malloc (scheme.length + (length.toNat - 3) + 1)).val
          let url ← strcpy url scheme
          let (chr, url) ← copyUrl urlBuf (length.toNat - 3) 3 scheme.length url
          store url chr 0)

section Clean

theorem isControl_mark : isControl '?'.toUInt8 = false ∧ isControl ' '.toUInt8 = false := by
  decide

theorem clean_constant {s : String}
    (h : s.toList.all (fun c => !isControl (UInt8.ofNat c.toNat)) = true) :
    ∃ buf, some (constant s) = some buf ∧ Free isControl buf :=
  ⟨_, rfl, free_constant h⟩

theorem patchString_clean {buf : Buffer} (h : 0 ∈ buf) :
    ∃ buf', patchString isControl '?'.toUInt8 (buf.length + 1) 0 buf = some buf' ∧
      buf'.length = buf.length ∧ Free isControl buf' := by
  obtain ⟨right, hrun, hbuf⟩ := @patchString_run isControl '?'.toUInt8 buf h
  refine ⟨_, hrun, ?_, free_append (map_patched_clean isControl_mark.1 _)⟩
  have hlength := congrArg List.length hbuf
  simpa using hlength.symm

section Read

variable {file : SysfsFile} {count : Nat} {buf : Buffer}

theorem read_cases (file : SysfsFile) (h : count < buf.length) :
    (∃ n ≤ 0, file.read count buf = some (n, buf)) ∨
      ∃ bytes right, bytes ≠ [] ∧ right = buf.drop bytes.length ∧ right ≠ [] ∧
        (bytes ++ right).length = buf.length ∧
        file.read count buf = some ((bytes.length : Int), bytes ++ right) := by
  cases file with
  | missing => exact Or.inl ⟨-1, by decide, rfl⟩
  | unreadable => exact Or.inl ⟨-1, by decide, rfl⟩
  | content bytes =>
      have hlength := List.length_take_le count bytes
      have hread : (SysfsFile.content bytes).read count buf = some (((bytes.take count).length : Int),
          bytes.take count ++ buf.drop (bytes.take count).length) := if_pos (by omega)
      by_cases hbytes : bytes.take count = []
      · refine Or.inl ⟨0, by decide, ?_⟩
        rw [hread, hbytes]
        rfl
      · refine Or.inr ⟨_, _, hbytes, rfl, ?_, ?_, hread⟩
        · exact List.ne_nil_of_length_pos (by rw [List.length_drop]; omega)
        · rw [List.length_append, List.length_drop]
          omega

end Read

def attributeText (bytes : List UInt8) : List UInt8 :=
  (contents (if bytes.getLast? = some newline then bytes.dropLast else bytes)).map
    (patched isControl '?'.toUInt8)

def SysfsFile.string (size : Nat) : SysfsFile → List UInt8
  | .missing | .unreadable => []
  | .content bytes => attributeText (bytes.take (size - 1))

theorem attributeText_run {init right : List UInt8} {last : UInt8} :
    ∃ buf buf', (if last = newline then store (init ++ last :: 0 :: right) init.length 0
        else some (init ++ last :: 0 :: right)) = some buf ∧
      patchString isControl '?'.toUInt8 (buf.length + 1) 0 buf = some buf' ∧
      buf'.length = (init ++ last :: 0 :: right).length ∧ 0 ∈ buf' ∧
      contents buf' = attributeText (init ++ [last]) := by
  have hstored : ∃ buf, (if last = newline then store (init ++ last :: 0 :: right) init.length 0
        else some (init ++ last :: 0 :: right)) = some buf ∧
      buf.length = (init ++ last :: 0 :: right).length ∧ 0 ∈ buf ∧
      (contents buf).map (patched isControl '?'.toUInt8) = attributeText (init ++ [last]) := by
    have hlast : (init ++ [last]).getLast? = some last := List.getLast?_concat
    rw [attributeText, hlast, store_append]
    by_cases hnewline : last = newline
    · rw [if_pos hnewline, if_pos (congrArg some hnewline), List.dropLast_concat]
      refine ⟨_, rfl, by simp, by simp, ?_⟩
      rw [contents_cut]
    · rw [if_neg hnewline, if_neg fun h => hnewline (Option.some.inj h)]
      refine ⟨_, rfl, rfl, by simp, ?_⟩
      have hsplit : init ++ last :: 0 :: right = init ++ [last] ++ 0 :: right := by simp
      rw [hsplit, contents_cut]
  obtain ⟨buf, hbuf, hlength, hends, hcontents⟩ := hstored
  obtain ⟨rest, hrun, hrest⟩ := @patchString_run isControl '?'.toUInt8 buf hends
  refine ⟨buf, _, hbuf, hrun, ?_, by simp, ?_⟩
  · have hcount := congrArg List.length hrest
    rw [hlength] at hcount
    rw [hcount, List.length_append, List.length_append, List.length_map]
  · rw [contents_append (notMem_map_patched (by decide) (zero_notMem_contents buf)), hcontents]

/-- Whatever the attribute is, the buffer holds its string. -/
theorem readSysfsProp_run (sysfs : String → SysfsFile) {buf : Buffer} (hbuf : buf ≠ [])
    (sysfsName propname : String) :
    ∃ n buf', readSysfsProp sysfs buf sysfsName propname = some (n, buf') ∧
      buf'.length = buf.length ∧ 0 ∈ buf' ∧ contents buf' = SysfsFile.string buf.length (sysfs
        (snprintf pathMax ("/sys/bus/usb/devices/" ++ sysfsName ++ "/" ++ propname))) := by
  obtain ⟨first, rest, rfl⟩ := List.exists_cons_of_ne_nil hbuf
  have hstart : store (first :: rest) 0 0 = some (0 :: rest) := store_append [] rest first 0
  have hempty : contents (0 :: rest) = [] := rfl
  rw [readSysfsProp, hstart]
  simp only [Option.bind_eq_bind, Option.bind_some]
  generalize sysfs (snprintf pathMax _) = file
  cases file with
  | missing => exact ⟨0, _, rfl, rfl, List.mem_cons_self, hempty⟩
  | unreadable => exact ⟨-1, _, rfl, rfl, List.mem_cons_self, hempty⟩
  | content bytes =>
      dsimp only
      rw [SysfsFile.string, List.length_cons, Nat.add_sub_cancel]
      have hcount := List.length_take_le rest.length bytes
      have hread : (SysfsFile.content bytes).read rest.length (0 :: rest) =
          some (((bytes.take rest.length).length : Int), bytes.take rest.length ++
            (0 :: rest).drop (bytes.take rest.length).length) := if_pos (by simp)
      generalize bytes.take rest.length = read at hcount hread ⊢
      rcases List.eq_nil_or_concat' read with rfl | ⟨init, last, rfl⟩
      · rw [hread]
        exact ⟨0, _, rfl, rfl, List.mem_cons_self, hempty⟩
      · have hlength := @List.length_drop _ (init ++ [last]).length (0 :: rest)
        generalize (0 :: rest).drop (init ++ [last]).length = right at hread hlength
        rw [List.length_append, List.length_singleton] at hcount hlength
        have hright : right ≠ [] := by
          apply List.ne_nil_of_length_pos
          rw [hlength, List.length_cons]
          omega
        obtain ⟨stored, buf', hstored, hpatch, hout, hends, hcontents⟩ :=
          @attributeText_run init right.tail last
        rw [hread, Option.bind_some, if_pos (by simp), Int.toNat_natCast, store_behind _ hright,
          List.length_append, List.length_singleton, Nat.add_sub_cancel, List.append_assoc,
          List.singleton_append]
        simp only [Option.bind_some, load_append]
        rw [hstored, Option.bind_some, hpatch]
        refine ⟨_, buf', rfl, ?_, hends, hcontents⟩
        rw [hout, List.length_append, List.length_cons, List.length_cons, List.length_tail, hlength,
          List.length_cons]
        omega

theorem readSysfsProp_clean (sysfs : String → SysfsFile) {buf : Buffer} (hbuf : buf ≠ [])
    (sysfsName propname : String) :
    ∃ n buf', readSysfsProp sysfs buf sysfsName propname = some (n, buf') ∧
      buf'.length = buf.length ∧ Free isControl buf' := by
  obtain ⟨n, buf', hrun, hlength, hends, hcontents⟩ := readSysfsProp_run sysfs hbuf sysfsName propname
  refine ⟨n, buf', hrun, hlength, hends, ?_⟩
  rw [hcontents]
  unfold SysfsFile.string
  split
  · exact nofun
  · exact nofun
  · exact map_patched_clean isControl_mark.1 _

theorem readSysfsFileString_clean (sysfs : String → SysfsFile) (dName file : String) {buf : Buffer}
    (hbuf : buf ≠ []) :
    ∃ buf', readSysfsFileString sysfs dName file buf = some buf' ∧
      buf'.length = buf.length ∧ Free isControl buf' := by
  obtain ⟨first, rest, rfl⟩ := List.exists_cons_of_ne_nil hbuf
  have hempty (first : UInt8) (rest : List UInt8) : ∃ buf', store (first :: rest) 0 0 = some buf' ∧
      buf'.length = (first :: rest).length ∧ Free isControl buf' :=
    ⟨_, store_append [] rest first 0, rfl, @free_append [] rest isControl (by simp)⟩
  rw [readSysfsFileString]
  split
  · exact hempty first rest
  · generalize sysfs _ = file
    split
    · exact hempty first rest
    · rcases read_cases file (show rest.length < (first :: rest).length by simp) with
        ⟨n, hn, hread⟩ | ⟨bytes, right, hbytes, -, hright, hlength, hread⟩
      · rw [List.length_cons, Nat.add_sub_cancel, hread]
        simp only [Option.bind_eq_bind, Option.bind_some]
        rw [if_neg (by omega)]
        exact hempty first rest
      · obtain ⟨kept, cut, rfl, htrim⟩ :=
          @trim_append (· == newline) 0 bytes (0 :: right.tail)
        have hpos : ((kept ++ cut).length : Int) > 0 :=
          Int.natCast_pos.mpr (List.length_pos_iff.mpr hbytes)
        rw [List.length_cons, Nat.add_sub_cancel, hread]
        simp only [Option.bind_eq_bind, Option.bind_some]
        rw [if_pos hpos, Int.toNat_natCast, store_behind _ hright, Option.bind_some, htrim]
        simp only [Option.bind_some, patchDown_append]
        have hright := List.length_pos_iff.mpr hright
        simp only [List.length_append, List.length_cons] at hlength
        exact ⟨_, rfl, by simp; omega,
          free_replicate (map_patched_clean isControl_mark.2 kept) cut.length _⟩

theorem sysfsAttr_clean (sysfs : String → SysfsFile) (dev attr : String) :
    ∃ result, sysfsAttr sysfs dev attr = some result ∧
      ∀ buf ∈ result, buf.length = 129 ∧ Free isControl buf := by
  rw [sysfsAttr]
  generalize sysfs _ = file
  split
  · exact ⟨none, rfl, nofun⟩
  · rcases read_cases file (show 128 < (List.replicate 129 (0 : UInt8)).length by simp) with
      ⟨n, hn, hread⟩ | ⟨bytes, right, hbytes, hrest, hright, hlength, hread⟩
    · rw [hread]
      simp only [Option.bind_eq_bind, Option.bind_some]
      rw [if_pos hn]
      exact ⟨none, rfl, nofun⟩
    · have hzeros : right = 0 :: right.tail := by
        obtain ⟨first, rest, rfl⟩ := List.exists_cons_of_ne_nil hright
        have hfirst : first ∈ List.replicate 129 (0 : UInt8) :=
          List.mem_of_mem_drop (hrest ▸ List.mem_cons_self)
        rw [List.eq_of_mem_replicate hfirst]
        rfl
      obtain ⟨kept, cut, rfl, htrim⟩ := @trim_append isspace 1 bytes right
      have hpos : ¬ ((kept ++ cut).length : Int) ≤ 0 :=
        Int.not_le.mpr (Int.natCast_pos.mpr (List.length_pos_iff.mpr hbytes))
      have hpatch := @patchUp_append isControl '?'.toUInt8 kept []
        (List.replicate cut.length 0 ++ right)
      rw [hread]
      simp only [Option.bind_eq_bind, Option.bind_some]
      rw [if_neg hpos, Int.toNat_natCast, htrim, Option.bind_some]
      simp only [List.nil_append, List.length_nil] at hpatch
      rw [hpatch, Option.bind_some]
      refine ⟨_, rfl, fun buf hbuf => ?_⟩
      obtain rfl := Option.some.inj hbuf
      constructor
      · simp only [List.length_append, List.length_replicate] at hlength
        simp
        omega
      · rw [hzeros]
        exact free_replicate (map_patched_clean isControl_mark.1 kept) cut.length _

section Device

variable (locale : Locale)

theorem usbStringToNative_ends {buf : Buffer} {str len : Nat} (h : str + len * 2 ≤ buf.length) :
    ∃ result, usbStringToNative locale buf str len = some result ∧ ∀ native ∈ result, 0 ∈ native := by
  rw [usbStringToNative, if_pos h]
  split
  · exact ⟨none, rfl, nofun⟩
  · next out _ =>
      have hblock := (locale.malloc (len * locale.mbCurMax + 1)).property
      have hroom := out.property
      have hrest : (locale.malloc (len * locale.mbCurMax + 1)).val.drop out.val.length ≠ [] := by
        apply List.ne_nil_of_length_pos
        rw [List.length_drop]
        omega
      simp only [Option.bind_eq_bind, store_behind out.val hrest, Option.bind_some]
      exact ⟨_, rfl, fun native hnative => by rw [← Option.some.inj hnative]; simp⟩

theorem getDevStringAscii_ends (dev : DeviceHandle) (size : Nat) (id : UInt8) :
    0 ∈ getDevStringAscii dev size id := by
  unfold getDevStringAscii
  split
  · decide
  · next buf _ => exact buf.property.2

theorem length_readStringDescriptor (dev : DeviceHandle) (id : UInt8) (langid : Nat) (buf : Buffer) :
    (readStringDescriptor dev id langid buf).2.length = buf.length := by
  unfold readStringDescriptor
  split
  · rfl
  · next bytes _ =>
      have hlength := List.length_take_le buf.length bytes
      rw [List.length_append, List.length_drop]
      omega

theorem load_lt {buf : Buffer} {i : Nat} (h : i < buf.length) : ∃ byte, load buf i = some byte :=
  ⟨buf[i], List.getElem?_eq_getElem h⟩

theorem exists_getAnyLangid (dev : DeviceHandle) : ∃ langid, getAnyLangid dev = some langid := by
  have hlength := length_readStringDescriptor dev 0 0 (List.replicate 4 0)
  rw [List.length_replicate] at hlength
  unfold getAnyLangid
  generalize readStringDescriptor dev 0 0 (List.replicate 4 0) = reply at hlength ⊢
  obtain ⟨ret, buf⟩ := reply
  dsimp only at hlength ⊢
  split
  · exact ⟨0, rfl⟩
  · obtain ⟨low, hlow⟩ := load_lt (show 2 < buf.length by omega)
    obtain ⟨high, hhigh⟩ := load_lt (show 3 < buf.length by omega)
    rw [hlow, hhigh]
    exact ⟨_, rfl⟩

theorem getDevString_clean (dev : Option DeviceHandle) (id : UInt8) :
    ∃ buf, getDevString locale dev id = some buf ∧ Free isControl buf := by
  have hempty := @clean_constant "" (by decide)
  have herror := @clean_constant "(error)" (by decide)
  unfold getDevString
  split
  · exact hempty
  · next dev =>
      split
      · exact hempty
      · obtain ⟨langid, hlangid⟩ := exists_getAnyLangid dev
        have hlength := length_readStringDescriptor dev id langid (List.replicate 254 0)
        rw [List.length_replicate] at hlength
        rw [hlangid, Option.bind_eq_bind, Option.bind_some]
        split
        · exact herror
        · generalize readStringDescriptor dev id langid (List.replicate 254 0) = reply at hlength ⊢
          obtain ⟨ret, buf⟩ := reply
          dsimp only at hlength ⊢
          split
          · exact herror
          · obtain ⟨length, hfirst⟩ := load_lt (show 0 < buf.length by omega)
            obtain ⟨type, hsecond⟩ := load_lt (show 1 < buf.length by omega)
            have hlt := length.toNat_lt
            obtain ⟨native, hnative, hends⟩ := usbStringToNative_ends locale
              (show 2 + (length.toNat - 2) / 2 * 2 ≤ buf.length by omega)
            rw [hfirst, hsecond]
            simp only [Option.bind_eq_bind, Option.bind_some]
            split
            · exact herror
            · rw [hnative, Option.bind_some]
              have hends' : 0 ∈ native.getD (getDevStringAscii dev 127 id) := by
                cases native with
                | none => exact getDevStringAscii_ends dev 127 id
                | some native => exact hends native rfl
              obtain ⟨buf', hrun, -, hclean⟩ := patchString_clean hends'
              exact ⟨buf', hrun, hclean⟩

end Device

section Url

def urlBytes (reply : List UInt8) : List UInt8 :=
  (reply.filter (· < 0x80)).map (patched isControl '?'.toUInt8)

theorem urlBytes_cons {c : UInt8} (reply : List UInt8) (h : c < 0x80) :
    urlBytes (c :: reply) = patched isControl '?'.toUInt8 c :: urlBytes reply := by
  simp [urlBytes, h]

theorem urlBytes_cons_skip {c : UInt8} (reply : List UInt8) (h : ¬ c < 0x80) :
    urlBytes (c :: reply) = urlBytes reply := by
  simp [urlBytes, h]

theorem length_urlBytes_le (reply : List UInt8) : (urlBytes reply).length ≤ reply.length := by
  rw [urlBytes, List.length_map]
  exact List.length_filter_le _ _

theorem copyUrl_append (reply before after left : List UInt8) {right : List UInt8}
    (hroom : reply.length < right.length) :
    copyUrl (before ++ (reply ++ after)) reply.length before.length left.length (left ++ right) =
      some ((left ++ urlBytes reply).length,
        left ++ (urlBytes reply ++ right.drop (urlBytes reply).length)) := by
  induction reply generalizing before left right with
  | nil => simp [urlBytes, copyUrl]
  | cons c reply ih =>
      rw [List.length_cons] at hroom
      obtain ⟨first, right, rfl⟩ := List.exists_cons_of_ne_nil
        (List.ne_nil_of_length_pos (Nat.zero_lt_of_lt hroom))
      rw [List.length_cons (a := c), copyUrl, List.cons_append, load_append]
      simp only [Option.bind_eq_bind, Option.bind_some]
      have hbefore : before ++ c :: (reply ++ after) = before ++ [c] ++ (reply ++ after) := by simp
      rw [hbefore]
      split
      · next hc =>
          have hrun := ih (before ++ [c]) (left ++ [patched isControl '?'.toUInt8 c])
            (Nat.lt_of_succ_lt_succ hroom)
          rw [store_append, Option.bind_some, urlBytes_cons reply hc]
          simpa [patched] using hrun
      · next hc =>
          have hrun := ih (before ++ [c]) left (Nat.lt_of_succ_lt hroom)
          rw [urlBytes_cons_skip reply hc]
          simpa using hrun

/-- The scheme, the characters and the NUL fill the first bytes of a block for them, and only
these. -/
theorem copyUrl_fill (scheme : String) (reply before after : List UInt8) {block : Buffer}
    (hblock : block.length = scheme.length + reply.length + 1) :
    ∃ url chr url', strcpy block scheme = some url ∧
      copyUrl (before ++ (reply ++ after)) reply.length before.length scheme.length url =
        some (chr, url') ∧
      store url' chr 0 = some (scheme.toList.map (fun c => UInt8.ofNat c.toNat) ++
        (urlBytes reply ++ 0 :: block.drop (scheme.length + (urlBytes reply).length + 1))) := by
  have hsize := length_bytes scheme
  have hfits := length_urlBytes_le reply
  have hcpy : strcpy block scheme = some (scheme.toList.map (fun c => UInt8.ofNat c.toNat) ++
      0 :: block.drop (scheme.length + 1)) := by
    unfold strcpy constant
    rw [List.length_append, hsize, List.length_singleton, if_pos (by omega), List.append_assoc,
      List.singleton_append]
  have hlength : (0 :: block.drop (scheme.length + 1)).length = reply.length + 1 := by
    rw [List.length_cons, List.length_drop]
    omega
  have hcopy := copyUrl_append reply before after (scheme.toList.map fun c => UInt8.ofNat c.toNat)
    (Nat.lt_of_lt_of_eq (Nat.lt_succ_self _) hlength.symm)
  rw [hsize] at hcopy
  refine ⟨_, _, _, hcpy, hcopy, ?_⟩
  rw [← List.append_assoc, store_behind, List.append_assoc, List.tail_drop, List.drop_succ_cons,
    List.drop_drop]
  · rw [Nat.add_right_comm]
  · apply List.ne_nil_of_length_pos
    rw [List.length_drop, hlength]
    omega

theorem clean_urlScheme {value : Nat} {scheme : String} (h : urlScheme value = some scheme) :
    scheme.toList.all (fun c => !isControl (UInt8.ofNat c.toNat)) = true := by
  unfold urlScheme at h
  split at h
  · obtain rfl := Option.some.inj h
    decide
  · obtain rfl := Option.some.inj h
    decide
  · obtain rfl := Option.some.inj h
    decide
  · cases h

theorem clean_url {value : Nat} {scheme : String} (h : urlScheme value = some scheme)
    (reply : List UInt8) :
    ∀ byte ∈ scheme.toList.map (fun c => UInt8.ofNat c.toNat) ++ urlBytes reply,
      isControl byte = false := by
  intro byte hbyte
  rcases List.mem_append.mp hbyte with hbyte | hbyte
  · obtain ⟨c, hc, rfl⟩ := List.mem_map.mp hbyte
    simpa using List.all_eq_true.mp (clean_urlScheme h) c hc
  · exact map_patched_clean isControl_mark.1 _ byte hbyte

theorem zero_notMem_url {value : Nat} {scheme : String} (h : urlScheme value = some scheme)
    (reply : List UInt8) :
    0 ∉ scheme.toList.map (fun c => UInt8.ofNat c.toNat) ++ urlBytes reply :=
  fun hzero => absurd (clean_url h reply 0 hzero) (by decide)

theorem webusbUrlBuffer_reply (locale : Locale) {length type third : UInt8} {reply after : List UInt8}
    (hlength : length.toNat = reply.length + 3) (hreply : reply ≠ [])
    (htype : type.toNat = usbDtWebusbUrl) {scheme : String}
    (hscheme : urlScheme third.toNat = some scheme) :
    ∃ right, webusbUrlBuffer locale length.toNat (length :: type :: third :: (reply ++ after)) =
      some (scheme.toList.map (fun c => UInt8.ofNat c.toNat) ++ (urlBytes reply ++ 0 :: right)) := by
  have hpos := List.length_pos_iff.mpr hreply
  obtain ⟨url, chr, url', hcpy, hcopy, hstore⟩ := copyUrl_fill scheme reply [length, type, third]
    after (locale.malloc (scheme.length + reply.length + 1)).property
  have hguard : ¬ (length.toNat ≤ 3 ∨ type.toNat ≠ usbDtWebusbUrl ∨
      (length.toNat : Int) ≠ length.toNat) := by
    simp [htype]
    omega
  refine ⟨_, Eq.trans ?_ hstore⟩
  rw [webusbUrlBuffer, if_neg (by omega)]
  simp only [load, List.getElem?_cons_zero, List.getElem?_cons_succ, Option.bind_eq_bind,
    Option.bind_some, hscheme]
  rw [if_neg hguard, show length.toNat - 3 = reply.length by omega, hcpy, Option.bind_some]
  exact congrArg (Option.bind · _) hcopy

theorem toNat_ofNat_ascii : ∀ n < 128, (Char.ofNat n).toNat = n := by
  decide +kernel

theorem urlChar_bytes (c : UInt8) :
    (urlChar c.toNat).toList.map (fun c => UInt8.ofNat c.toNat) = urlBytes [c] := by
  have hlt := c.toNat_lt
  have hlow : c < 0x80 ↔ c.toNat < 0x80 := Iff.rfl
  have hcontrol : isControl c = true ↔ c.toNat < 0x20 ∨ c.toNat = 0x7f := by
    simp [isControl, UInt8.lt_iff_toNat_lt, ← UInt8.toNat_inj]
  unfold urlChar urlBytes
  by_cases hc : c.toNat < 0x80
  · have hfilter : [c].filter (· < 0x80) = [c] := by simp [hlow, hc]
    rw [if_pos hc, hfilter, List.map_singleton, patched]
    by_cases hbad : c.toNat < 0x20 ∨ c.toNat = 0x7f
    · rw [if_pos hbad, if_pos (hcontrol.mpr hbad)]
      rfl
    · rw [if_neg hbad, if_neg (fun h => hbad (hcontrol.mp h)), String.toList_singleton,
        List.map_singleton, toNat_ofNat_ascii _ hc]
      simp
  · have hfilter : [c].filter (· < 0x80) = [] := by simp [hlow, hc]
    rw [if_neg hc, hfilter]
    rfl

variable {m : Memory}

theorem urlChars_bytes {a : Nat} {reply : List UInt8} (h : Holds m a reply) :
    ∃ url, (urlChars (List.range' a reply.length)).result m = .ok url ∧
      url.toList.map (fun c => UInt8.ofNat c.toNat) = urlBytes reply := by
  induction reply generalizing a with
  | nil => exact ⟨"", rfl, rfl⟩
  | cons c reply ih =>
      obtain ⟨hc, hreply⟩ := (holds_cons ..).mp h
      obtain ⟨url, hurl, hbytes⟩ := ih hreply
      refine ⟨urlChar c.toNat ++ url, ?_, ?_⟩
      · simp [List.range'_succ, urlChars, hc, hurl, Except.map]
      · rw [String.toList_append, List.map_append, urlChar_bytes, hbytes]
        simp [urlBytes, List.filter_cons]
        split <;> rfl

theorem webusbUrlBuffer_clean (locale : Locale) (ret : Int) {urlBuf : Buffer}
    (hsize : urlBuf.length = 255) (hm : Holds m 0 urlBuf) :
    ∃ buf url, webusbUrlBuffer locale ret urlBuf = some buf ∧ Free isControl buf ∧
      (webusbUrl ret).result m = .ok url ∧
      contents buf = url.toList.map fun c => UInt8.ofNat c.toNat := by
  have hempty : Free isControl (constant "") := free_constant (by decide)
  rcases urlBuf with _ | ⟨length, _ | ⟨type, _ | ⟨third, rest⟩⟩⟩
  · cases hsize
  · cases hsize
  · cases hsize
  · obtain ⟨hfirst, hm⟩ := (holds_cons ..).mp hm
    obtain ⟨hsecond, hm⟩ := (holds_cons ..).mp hm
    obtain ⟨hthird, hm⟩ := (holds_cons ..).mp hm
    simp only [List.length_cons] at hsize
    have hlt := length.toNat_lt
    have hbytes : (m 0).toNat = length.toNat ∧ (m 1).toNat = type.toNat ∧ (m 2).toNat = third.toNat :=
      ⟨congrArg _ hfirst, congrArg _ hsecond, congrArg _ hthird⟩
    by_cases hret : ret ≤ 0
    · exact ⟨_, "", if_pos hret, hempty, by rw [webusbUrl, if_pos hret]; rfl, rfl⟩
    by_cases hguard : length.toNat ≤ 3 ∨ type.toNat ≠ usbDtWebusbUrl ∨ ret ≠ length.toNat
    · refine ⟨_, "", ?_, hempty, ?_, rfl⟩
      · rw [webusbUrlBuffer, if_neg hret]
        exact if_pos hguard
      · rw [webusbUrl, if_neg hret]
        simp [hbytes, hguard]
    cases hscheme : urlScheme third.toNat with
    | none =>
        refine ⟨_, "", ?_, hempty, ?_, rfl⟩
        · rw [webusbUrlBuffer, if_neg hret]
          simp [load, hscheme]
        · rw [webusbUrl, if_neg hret]
          simp [hbytes, hguard, hscheme, Except.map]
    | some scheme =>
        have hlong : 3 < length.toNat ∧ type.toNat = usbDtWebusbUrl ∧ ret = length.toNat := by
          omega
        obtain ⟨reply, after, rfl, hreply⟩ : ∃ reply after, rest = reply ++ after ∧
            reply.length = length.toNat - 3 :=
          ⟨_, _, (List.take_append_drop (length.toNat - 3) rest).symm,
            List.length_take_of_le (by omega)⟩
        have hholds : Holds m 3 reply := ((holds_append ..).mp hm).1
        obtain ⟨url, hurl, hurlBytes⟩ := urlChars_bytes hholds
        have hne : reply ≠ [] := List.ne_nil_of_length_pos (by omega)
        have hlength : length.toNat = reply.length + 3 := by omega
        obtain ⟨right, hrun⟩ :=
          @webusbUrlBuffer_reply locale _ _ _ _ after hlength hne hlong.2.1 _ hscheme
        rw [hreply] at hurl
        have hclean := clean_url hscheme reply
        refine ⟨_, scheme ++ url, hlong.2.2 ▸ hrun, ?_, ?_, ?_⟩
        · rw [← List.append_assoc]
          exact free_append hclean
        · rw [webusbUrl, if_neg hret]
          simp [hbytes, hguard, hscheme, hurl, Except.map]
        · rw [← List.append_assoc, contents_append (zero_notMem_url hscheme reply), String.toList_append, List.map_append, hurlBytes]

end Url

/-- Whatever bytes a device or its attributes give, each of the five functions stays inside
its buffers, ends its string there and leaves no control byte in it. -/
theorem strings_clean (sysfs : String → SysfsFile) (locale : Locale) :
    (∀ (dev : Option DeviceHandle) (id : UInt8),
      ∃ buf, getDevString locale dev id = some buf ∧ Free isControl buf) ∧
    (∀ (buf : Buffer) (sysfsName propname : String), buf ≠ [] →
      ∃ n buf', readSysfsProp sysfs buf sysfsName propname = some (n, buf') ∧
        buf'.length = buf.length ∧ Free isControl buf') ∧
    (∀ (dName file : String) (buf : Buffer), buf ≠ [] →
      ∃ buf', readSysfsFileString sysfs dName file buf = some buf' ∧
        buf'.length = buf.length ∧ Free isControl buf') ∧
    (∀ dev attr : String, ∃ result, sysfsAttr sysfs dev attr = some result ∧
      ∀ buf ∈ result, buf.length = 129 ∧ Free isControl buf) ∧
    ∀ (ret : Int) (urlBuf : Buffer), urlBuf.length = 255 →
      ∃ buf, webusbUrlBuffer locale ret urlBuf = some buf ∧ Free isControl buf := by
  refine ⟨getDevString_clean locale, ?_, ?_, sysfsAttr_clean sysfs, ?_⟩
  · exact fun buf sysfsName propname hbuf => readSysfsProp_clean sysfs hbuf sysfsName propname
  · exact fun dName file buf hbuf => readSysfsFileString_clean sysfs dName file hbuf
  · intro ret urlBuf hsize
    have hm : Holds (fun a => urlBuf.getD a 0) 0 urlBuf := by
      apply List.ext_getElem
      · simp
      · intro i _ hi
        simp [hi]
    obtain ⟨buf, -, hrun, hclean, -⟩ := webusbUrlBuffer_clean locale ret hsize hm
    exact ⟨buf, hrun, hclean⟩

def hostileProduct : String → SysfsFile := fun _ => .content [0x41, 0x1b, 0x00, 0x42, 0x0a]

def plainLocale : Locale where
  mbCurMax := 1
  iconv _ _ := none
  malloc size := ⟨List.replicate size 0, List.length_replicate⟩

def urlReply : Buffer := [5, 3, 1, 0x61, 0x07] ++ List.replicate 250 0

theorem length_urlReply : urlReply.length = 255 := by
  rw [urlReply, List.length_append, List.length_replicate]
  rfl

theorem strings_clean_hostileProduct :
    (∃ n buf', readSysfsProp hostileProduct (List.replicate 8 0xff) "1-1" "product" = some (n, buf') ∧
      buf'.length = 8 ∧ Free isControl buf') ∧
    (∃ buf', readSysfsFileString hostileProduct "1-1" "product" (List.replicate 64 0xff) = some buf' ∧
      buf'.length = 64 ∧ Free isControl buf') ∧
    ∃ buf, webusbUrlBuffer plainLocale 5 urlReply = some buf ∧ Free isControl buf := by
  obtain ⟨-, hprop, hfile, -, hurl⟩ := strings_clean hostileProduct plainLocale
  exact ⟨hprop (List.replicate 8 0xff) "1-1" "product" (by decide),
    hfile "1-1" "product" (List.replicate 64 0xff) (by decide), hurl 5 urlReply length_urlReply⟩

example : readSysfsProp hostileProduct (List.replicate 8 0xff) "1-1" "product" =
    some (5, [0x41, 0x3f, 0x00, 0x42, 0x00, 0x00, 0xff, 0xff]) := by
  decide

end Clean

end Usbutils
