import Usbutils.Lsusb.Listing
import Usbutils.Paths.Links
import Usbutils.Paths.Relative

/-! `get_usb_device` of `usbmisc.c` and `dump_one_device` of `lsusb.c`: the device that is shown for
a path. -/
namespace Usbutils
open Text CString Walk

def devbususb : String := "/dev/bus/usb"

def deviceFile (bnum dnum : UInt8) : List UInt8 :=
  ofChars (Printf.printf "%s/%03u/%03u".toList
    [.str devbususb.toList, .nat bnum.toNat, .nat dnum.toNat])

/-- The links and the current directory, and the buffers of the functions as they find them. -/
structure FileSystem where
  links : LinkMap
  getcwd : Getcwd
  frames : Frames
  devicePath : {buf : Buffer // buf.length = pathMax + 1}
  absolutePath : {buf : Buffer // buf.length = pathMax + 1}
  /-- What `getcwd` leaves in `absolute_path` where it fails. -/
  unread : Buffer

section Program

variable {δ : Type} (session : Session δ) (fs : FileSystem)

def getUsbDevice (path : PathText) : Option (Option δ) := do
  let (_, devicePath) ← readlinkRecursive fs.links fs.frames path fs.devicePath.val
  let absolutePath ← getAbsolutePath fs.getcwd
    (some ⟨contents devicePath, zero_notMem_contents devicePath⟩) fs.absolutePath.val
  match session.getDeviceList with
  | .error _ => return none
  | .ok list => return list.find? fun dev =>
      deviceFile (session.getBusNumber dev) (session.getDeviceAddress dev) ==
        contents (absolutePath.getD fs.unread)

def Session.deviceHeader (dev : δ) : Effect :=
  let desc := session.getDeviceDescriptor dev
  .print "Device: ID %04x:%04x %s %s\n" [.num desc.idVendor.toNat, .num desc.idProduct.toNat,
    .str (some (session.names dev).1), .str (some (session.names dev).2)]

def cannotOpen (path : PathText) : Effect :=
  .error "Cannot open %s\n" [.str (some (String.ofList (chars path.val)))]

def dumpOneDevice (path : PathText) : Option (Int × List Effect) := do
  match ← getUsbDevice session fs path with
  | none => return (1, [cannotOpen path])
  | some dev => return (0, session.deviceHeader dev :: session.dumpdev dev)

end Program

def threeDigits (n : UInt8) : List UInt8 := ofChars (decimal3 n.toNat)

def busDirectory (bnum : UInt8) : List (List UInt8) :=
  [ofChars "dev".toList, ofChars "bus".toList, ofChars "usb".toList, threeDigits bnum]

theorem decimal3_digits (n : Nat) : ∀ c ∈ decimal3 n, 48 ≤ c.toNat ∧ c.toNat < 58 := by
  intro c hc
  have hdigit : isDigit 10 c = true :=
    Printf.isDigit_leftpad (by decide) (by decide) n 3 c hc
  have hlt := of_decide_eq_true hdigit
  unfold digitValue at hlt
  split at hlt
  · omega
  · split at hlt
    · omega
    · split at hlt <;> omega

theorem chars_threeDigits (n : UInt8) : chars (threeDigits n) = decimal3 n.toNat := by
  have hsame : ∀ c ∈ decimal3 n.toNat,
      ((fun c : UInt8 => Char.ofNat c.toNat) ∘ fun c : Char => UInt8.ofNat c.toNat) c = id c := by
    intro c hc
    have hlt := (decimal3_digits n.toNat c hc).2
    rw [Function.comp_apply, UInt8.toNat_ofNat_of_lt' (show c.toNat < 256 by omega),
      Char.ofNat_toNat, id]
  rw [threeDigits, chars, ofChars, List.map_map, List.map_congr_left hsame, List.map_id]

theorem threeDigits_inj {n m : UInt8} (h : threeDigits n = threeDigits m) : n = m := by
  have hvalue (n : Nat) : value 10 (decimal3 n) = n :=
    Printf.value_leftpad (by decide) (by decide) n 3
  have htext : decimal3 n.toNat = decimal3 m.toNat := by
    rw [← chars_threeDigits, ← chars_threeDigits, h]
  have hnat := congrArg (value 10) htext
  rw [hvalue, hvalue] at hnat
  exact UInt8.toNat_inj.mp hnat

theorem slash_notMem_threeDigits (n : UInt8) : slash ∉ threeDigits n := by
  intro hmem
  obtain ⟨c, hc, hslash⟩ := List.mem_map.mp hmem
  obtain ⟨hmin, hmax⟩ := decimal3_digits n.toNat c hc
  have hnat := congrArg UInt8.toNat hslash
  rw [UInt8.toNat_ofNat_of_lt' (show c.toNat < 256 by omega)] at hnat
  have hbyte : slash.toNat = 47 := rfl
  omega

theorem deviceFile_eq (bnum dnum : UInt8) :
    deviceFile bnum dnum = directory (busDirectory bnum) ++ threeDigits dnum := by
  have hformat : Printf.parse none "%s/%03u/%03u".toList =
      .directive ⟨false, false, 0, 's'⟩ :: ("/".toList.map .plain ++
        .directive ⟨false, true, 3, 'u'⟩ :: ("/".toList.map .plain ++
          [.directive ⟨false, true, 3, 'u'⟩])) := by decide +kernel
  have htext : Printf.printf "%s/%03u/%03u".toList
      [.str devbususb.toList, .nat bnum.toNat, .nat dnum.toNat] =
      "/dev/bus/usb".toList ++ ("/".toList ++ (decimal3 bnum.toNat ++
        ("/".toList ++ decimal3 dnum.toNat))) := by
    rw [Printf.printf, hformat]
    simp [Printf.render, Printf.text_plain, Printf.text_zeros, decimal3, devbususb]
  have hroot : ofChars "/dev/bus/usb".toList =
      trunk [ofChars "dev".toList, ofChars "bus".toList, ofChars "usb".toList] := by decide
  have hslash : ofChars "/".toList = [slash] := by decide
  have happend (left right : List Char) : ofChars (left ++ right) = ofChars left ++ ofChars right :=
    List.map_append
  rw [deviceFile, htext, happend, happend, happend, happend, hroot, hslash]
  simp [directory, trunk, busDirectory, threeDigits]

theorem directory_name_inj {names other : List (List UInt8)} {last last' : List UInt8}
    (hnames : ∀ c ∈ names, slash ∉ c) (hother : ∀ c ∈ other, slash ∉ c) (hlast : slash ∉ last)
    (hlast' : slash ∉ last') (h : directory names ++ last = directory other ++ last') :
    names = other ∧ last = last' := by
  have hsplit {names : List (List UInt8)} {last : List UInt8} (hnames : ∀ c ∈ names, slash ∉ c)
      (hlast : slash ∉ last) : SplitsInto (directory names ++ last) ([] :: names) last :=
    ⟨directory_append names last, List.forall_mem_cons.mpr ⟨List.not_mem_nil, hnames⟩, hlast⟩
  have hcomponents := congrArg (List.splitOn slash) h
  rw [(hsplit hnames hlast).splitOn, (hsplit hother hlast').splitOn] at hcomponents
  obtain ⟨hdirectory, hname⟩ := List.append_inj' hcomponents rfl
  exact ⟨(List.cons.inj hdirectory).2, List.singleton_inj.mp hname⟩

theorem slash_notMem_busDirectory (bnum : UInt8) : ∀ c ∈ busDirectory bnum, slash ∉ c := by
  simp only [busDirectory, List.forall_mem_cons]
  exact ⟨by decide, by decide, by decide, slash_notMem_threeDigits bnum, List.forall_mem_nil _⟩

theorem plain_busDirectory (bnum : UInt8) :
    ∀ c ∈ busDirectory bnum, c ≠ [] ∧ c ≠ [dot] ∧ c ≠ [dot, dot] := by
  have hlength : 3 ≤ (threeDigits bnum).length := by
    rw [threeDigits, ofChars, List.length_map, decimal3, List.length_leftpad]
    exact Nat.le_max_left _ _
  have hnumber : threeDigits bnum ≠ [] ∧ threeDigits bnum ≠ [dot] ∧
      threeDigits bnum ≠ [dot, dot] := by
    refine ⟨fun h => ?_, fun h => ?_, fun h => ?_⟩ <;> simp [h] at hlength
  simp only [busDirectory, List.forall_mem_cons]
  exact ⟨by decide, by decide, by decide, hnumber, List.forall_mem_nil _⟩

/-- Where the reading of a path without links begins: at the root, or in the current directory. -/
inductive FileSystem.Begins (fs : FileSystem) (path : List UInt8) : List (List UInt8) → Prop where
  | root (habs : path.head? = some slash) (hfits : path.length ≤ pathMax) : Begins fs path []
  | cwd (dir : CanonicalDir) (hne : path ≠ []) (hrel : path.head? ≠ some slash)
      (hfits : dir.pathname.length + path.length < pathMax)
      (hcwd : ∃ cwd, fs.getcwd (fs.absolutePath.val.set 0 0) = some cwd ∧
        contents cwd.val = dir.pathname) : Begins fs path dir.place

section Found

variable {fs : FileSystem} {path : PathText} {last : List UInt8} {place : List (List UInt8)}

theorem getAbsolutePath_begins (hbegins : fs.Begins path.val place) :
    ∃ buf, getAbsolutePath fs.getcwd (some path) fs.absolutePath.val = some (some buf) ∧
      contents buf = directory (walk place (pathMoves path.val)) ++ lastComponent path.val ∧
      (∀ c ∈ walk place (pathMoves path.val), slash ∉ c) ∧ slash ∉ lastComponent path.val := by
  have hsize := fs.absolutePath.property
  cases hbegins with
  | root habs hfits =>
      obtain ⟨components, last, hsplit⟩ := exists_absolute habs
      obtain ⟨buf, hrun, hcontents⟩ :=
        @getAbsolutePath_absolute fs.getcwd path fs.absolutePath.val _ _ (by omega) hsplit
      refine ⟨buf, hrun, hsplit.lastComponent_eq ▸ hcontents, ?_, ?_⟩
      · rw [hsplit.pathMoves_eq]
        exact notMem_walk (by simp) hsplit.clean true
      · rw [hsplit.lastComponent_eq]
        exact hsplit.lastClean
  | cwd dir hne hrel hfits hcwd =>
      obtain ⟨components, last, hsplit⟩ := exists_splitsInto path.val
      have hchild : (dir.child path).val.length < fs.absolutePath.val.length := by
        rw [CanonicalDir.child, List.length_append, List.length_cons]
        omega
      obtain ⟨buf, hrun, hcontents⟩ := getAbsolutePath_relative hne hrel hchild hcwd hsplit
      refine ⟨buf, hrun, hsplit.lastComponent_eq ▸ hcontents, ?_, ?_⟩
      · rw [hsplit.pathMoves_eq]
        exact notMem_walk (dir.clean_place fun c hc => (dir.clean c hc).1) hsplit.clean true
      · rw [hsplit.lastComponent_eq]
        exact hsplit.lastClean

variable {δ : Type} {session : Session δ} {devices : List δ}

structure Session.LeadsTo (session : Session δ) (place : List (List UInt8)) (path : List UInt8)
    (dev : δ) : Prop where
  bus : walk place (pathMoves path) = busDirectory (session.getBusNumber dev)
  address : lastComponent path = threeDigits (session.getDeviceAddress dev)

theorem getUsbDevice_chain {n : Nat} (hlist : session.getDeviceList = .ok devices)
    (hchain : LinkChain fs.links n path.val last) (hn : n ≤ maxReadlinkDepth)
    (hgood : slash ∈ path.val ∨ ∀ target ∈ fs.links path.val, target.val.head? = some slash)
    (hbegins : fs.Begins last place) :
    ∃ leads : δ → Bool, (∀ dev, leads dev = true ↔ session.LeadsTo place last dev) ∧
      getUsbDevice session fs path = some (devices.find? leads) := by
  have hsize : pathMax < fs.devicePath.val.length := by
    have hlength := fs.devicePath.property
    omega
  obtain ⟨out, hlinks, hlast⟩ := @LinkChain.result fs.links fs.frames path.val
    fs.devicePath.val n (maxReadlinkDepth + 1) last hchain path.property hgood hsize
    (Nat.le_succ_of_le hn)
  obtain ⟨buf, hrun, hcontents, hclean, hname⟩ :=
    @getAbsolutePath_begins fs ⟨contents out, zero_notMem_contents out⟩ place (hlast ▸ hbegins)
  refine ⟨fun dev => deviceFile (session.getBusNumber dev) (session.getDeviceAddress dev) ==
    contents buf, fun dev => ?_, ?_⟩
  · rw [beq_iff_eq, hcontents, deviceFile_eq]
    simp only [hlast] at hclean hname ⊢
    constructor
    · intro heq
      obtain ⟨hbus, haddress⟩ := directory_name_inj (slash_notMem_busDirectory _) hclean
        (slash_notMem_threeDigits _) hname heq
      exact ⟨hbus.symm, haddress.symm⟩
    · exact fun h => by rw [h.bus, h.address]
  · rw [getUsbDevice, readlinkRecursive, hlinks]
    simp only [Option.bind_eq_bind, Option.bind_some, hrun, hlist, Option.getD_some]
    rfl

theorem Session.LeadsTo.numbers {dev other : δ} (h : session.LeadsTo place last dev)
    (hother : session.LeadsTo place last other) :
    session.getBusNumber dev = session.getBusNumber other ∧
      session.getDeviceAddress dev = session.getDeviceAddress other := by
  have hbus := h.bus.symm.trans hother.bus
  simp only [busDirectory, List.cons.injEq, true_and, and_true] at hbus
  exact ⟨threeDigits_inj hbus, threeDigits_inj (h.address.symm.trans hother.address)⟩

/-- Along the links, the device is shown whose file the path leads to; without one, no device is
opened. -/
theorem dumpOneDevice_shows {n : Nat} (hlist : session.getDeviceList = .ok devices)
    (hnumbers : (devices.map fun dev =>
      (session.getBusNumber dev, session.getDeviceAddress dev)).Nodup)
    (hchain : LinkChain fs.links n path.val last) (hn : n ≤ maxReadlinkDepth)
    (hgood : slash ∈ path.val ∨ ∀ target ∈ fs.links path.val, target.val.head? = some slash)
    (hbegins : fs.Begins last place) :
    (∀ dev ∈ devices, session.LeadsTo place last dev → dumpOneDevice session fs path =
      some (0, session.deviceHeader dev :: session.dumpdev dev)) ∧
    ((∀ dev ∈ devices, ¬session.LeadsTo place last dev) →
      dumpOneDevice session fs path = some (1, [cannotOpen path])) := by
  obtain ⟨leads, hleads, hfound⟩ := getUsbDevice_chain hlist hchain hn hgood hbegins
  constructor
  · intro dev hdev hlead
    obtain ⟨found, hsome⟩ := Option.isSome_iff_exists.mp
      (List.find?_isSome.mpr ⟨dev, hdev, (hleads dev).mpr hlead⟩)
    have hsame : found = dev := by
      obtain ⟨hbus, haddress⟩ :=
        ((hleads found).mp (List.find?_some hsome)).numbers hlead
      exact List.inj_on_of_nodup_map hnumbers (List.mem_of_find?_eq_some hsome) hdev
        (Prod.ext hbus haddress)
    rw [dumpOneDevice, hfound, hsome, hsame]
    rfl
  · intro hnone
    have hmissing : devices.find? leads = none :=
      List.find?_eq_none.mpr fun dev hdev hlead => hnone dev hdev ((hleads dev).mp hlead)
    rw [dumpOneDevice, hfound, hmissing]
    rfl

/-- Its own file leads to a device, as `/dev/bus/usb/001/005` to the fifth device of the first
bus. -/
theorem leadsTo_deviceFile (session : Session δ) (dev : δ) : session.LeadsTo []
    (deviceFile (session.getBusNumber dev) (session.getDeviceAddress dev)) dev := by
  have hsplit : SplitsInto (deviceFile (session.getBusNumber dev) (session.getDeviceAddress dev))
      ([] :: busDirectory (session.getBusNumber dev))
      (threeDigits (session.getDeviceAddress dev)) := by
    refine ⟨?_, ?_, slash_notMem_threeDigits _⟩
    · rw [deviceFile_eq, directory_append]
      rfl
    · exact List.forall_mem_cons.mpr ⟨List.not_mem_nil, slash_notMem_busDirectory _⟩
  refine ⟨?_, hsplit.lastComponent_eq⟩
  have hmoves := loopMoves_names (plain_busDirectory (session.getBusNumber dev)) []
  rw [List.append_nil] at hmoves
  rw [hsplit.pathMoves_eq, loopMoves, if_pos rfl, if_pos rfl, hmoves, walk_append, walk_down]
  rfl

def keyboardPath : PathText := ⟨ofChars "/dev/keyboard".toList, by decide⟩

def keyboardTarget : LinkTarget := ⟨ofChars "bus/usb/001/005".toList, by decide⟩

def linkedKeyboard : FileSystem where
  links := loneLink keyboardPath.val keyboardTarget
  getcwd _ := none
  frames := emptyFrames
  devicePath := emptyFrames 0
  absolutePath := emptyFrames 0
  unread := []

theorem dumpOneDevice_shows_keyboard : dumpOneDevice hubAndKeyboard linkedKeyboard keyboardPath =
    some (0, hubAndKeyboard.deviceHeader true :: hubAndKeyboard.dumpdev true) := by
  have hfollow : follow keyboardPath.val keyboardTarget.val =
      deviceFile (hubAndKeyboard.getBusNumber true) (hubAndKeyboard.getDeviceAddress true) := by
    decide +kernel
  have hchain : LinkChain (loneLink keyboardPath.val keyboardTarget) 1 keyboardPath.val
      (deviceFile (hubAndKeyboard.getBusNumber true) (hubAndKeyboard.getDeviceAddress true)) := by
    refine @LinkChain.link _ _ _ _ keyboardTarget (if_pos rfl) (by decide) (by decide) ?_
    rw [hfollow]
    exact LinkChain.last (if_neg (by decide +kernel)) (by decide +kernel)
  have hbegins : linkedKeyboard.Begins
      (deviceFile (hubAndKeyboard.getBusNumber true) (hubAndKeyboard.getDeviceAddress true)) [] :=
    .root (by decide +kernel) (by decide +kernel)
  exact (@dumpOneDevice_shows linkedKeyboard keyboardPath _ _ Bool hubAndKeyboard [true, false] 1
    rfl (by decide) hchain (by decide) (Or.inl (by decide)) hbegins).1 true (by decide)
      (leadsTo_deviceFile hubAndKeyboard true)

end Found

end Usbutils
