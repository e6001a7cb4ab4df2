import Usbutils.LsusbPy.OneLine

/-! What `lsusb.py` prints shows the tree of the devices: it is read back from the indentation. -/
namespace Usbutils.LsusbPy
open PyText Linked

/-- How deep a line is indented, and its first word. -/
def entryOf (line : Str) : Nat × Str :=
  ((line.takeWhile (· = ' ')).length / 2, (line.dropWhile (· = ' ')).takeWhile (· ≠ ' '))

def entries (text : Str) : List (Nat × Str) := (readlines text).map entryOf

def readTree (text : Str) : Forest Str := .ofOutline 0 (entries text)

section Shown

variable (g : Globals)

def withInterfaces (interfaces : List UsbInterface) (behind : Forest Str) : Forest Str :=
  interfaces.foldr (fun iface rest => .cons iface.fname .nil rest) behind

def UsbDevice.shownInterfaces (dev : UsbDevice) : List UsbInterface :=
  if dev.showsInterfaces g && g.showint then dev.interfaces else []

/-- The names that are shown, each with the interfaces and then the devices below it. -/
def shown : Forest UsbDevice → Forest Str
  | .nil => .nil
  | .cons dev kids rest =>
      if dev.isHub && g.noemptyhub && kids.roots.isEmpty then shown rest
      else .cons dev.fname (withInterfaces (dev.shownInterfaces g) (shown kids)) (shown rest)

end Shown

structure IsName (name : Str) : Prop where
  ne_nil : name ≠ []
  oneLine : OneLine name
  no_space : ' ' ∉ name

section Lines

variable {name body : Str}

theorem takeWhile_space (level : Nat) (hname : IsName name) (rest : Str) :
    (indent level ++ (name ++ rest)).takeWhile (· = ' ') = indent level ∧
      (indent level ++ (name ++ rest)).dropWhile (· = ' ') = name ++ rest := by
  have hindent : ∀ c ∈ indent level, decide (c = ' ') = true := by
    intro c hc
    exact decide_eq_true (List.eq_of_mem_replicate hc)
  obtain ⟨c, name, rfl⟩ := List.exists_cons_of_ne_nil hname.ne_nil
  have hc : c ≠ ' ' := by
    rintro rfl
    exact hname.no_space List.mem_cons_self
  rw [List.takeWhile_append_of_pos hindent, List.dropWhile_append_of_pos hindent]
  simp [hc]

theorem takeWhile_name (hname : IsName name) (n : Nat) (rest : Str) :
    (name ++ (List.replicate n ' ' ++ ' ' :: rest)).takeWhile (· ≠ ' ') = name := by
  have hall : ∀ c ∈ name, decide (c ≠ ' ') = true := by
    intro c hc
    exact decide_eq_true fun heq => hname.no_space (heq ▸ hc)
  rw [List.takeWhile_append_of_pos hall]
  cases n with
  | zero => simp
  | succ n => simp [List.replicate_succ]

def rowText (level : Nat) (name body : Str) : Str :=
  ljust 17 (indent level ++ name) ++ ' ' :: (indent level ++ body)

theorem entryOf_row (level : Nat) (hname : IsName name) (body : Str) :
    entryOf (rowText level name body ++ ['\n']) = (level, name) := by
  have hrow : rowText level name body ++ ['\n'] =
      indent level ++ (name ++ (List.replicate (17 - (indent level ++ name).length) ' ' ++
        ' ' :: (indent level ++ body ++ ['\n']))) := by
    simp [rowText, ljust, List.rightpad]
  obtain ⟨htake, hdrop⟩ := takeWhile_space level hname
    (List.replicate (17 - (indent level ++ name).length) ' ' ++
      ' ' :: (indent level ++ body ++ ['\n']))
  rw [entryOf, hrow, htake, hdrop, takeWhile_name hname]
  simp [indent]

theorem oneLine_indent (level : Nat) : OneLine (indent level) := oneLine_replicate (by decide) _

theorem entries_row (level : Nat) (hname : IsName name) (hbody : OneLine body) (tail : Str) :
    entries (row level name body ++ tail) = (level, name) :: entries tail := by
  have hrow : row level name body ++ tail = rowText level name body ++ '\n' :: tail := by
    simp [row, rowText]
  have hline : OneLine (rowText level name body) := by
    have hname : OneLine (indent level ++ name) :=
      oneLine_append.mpr ⟨oneLine_indent level, hname.oneLine⟩
    simp [rowText, hname.ljust, oneLine_indent, hbody]
  rw [entries, hrow, readlines_append hline, List.map_cons, entryOf_row level hname, ← entries]

theorem outline_withInterfaces (level : Nat) (interfaces : List UsbInterface)
    (behind : Forest Str) : (withInterfaces interfaces behind).outline level =
      interfaces.map (fun iface => (level, iface.fname)) ++ behind.outline level := by
  induction interfaces with
  | nil => rfl
  | cons iface rest ih =>
      rw [withInterfaces, List.foldr_cons, Forest.outline, ← withInterfaces, ih]
      rfl

end Lines

section Printed

variable {py : Python} {sys : Sysfs} {g : Globals} {level : Nat}

theorem isName_of_child {ents : List Str} {dir dirent : Str} (hplain : PlainNames sys)
    (hents : sys.listdir dir = some ents) (hmem : dirent ∈ ents)
    (hchild : isChild py dirent = true) : IsName dirent := by
  obtain ⟨hline, hspace⟩ := hplain.names dir ents hents dirent hmem
  refine ⟨?_, hline, hspace⟩
  rintro rfl
  exact absurd hchild (by simp [isChild])

theorem entries_interfaces (heps : g.showeps = false) {parent : Str} (hplain : PlainNames sys)
    (hids : OneLineTables g.ids) {interfaces : List UsbInterface}
    (hnames : ∀ iface ∈ interfaces, IsName iface.fname)
    (hread : ∀ iface ∈ interfaces,
      UsbInterface.read py sys g parent iface.fname level = some iface) (tail : Str) :
    entries (interfaces.flatMap (UsbInterface.str g) ++ tail) =
      interfaces.map (fun iface => (level, iface.fname)) ++ entries tail := by
  induction interfaces with
  | nil => rfl
  | cons iface rest ih =>
      obtain ⟨hname, hnames⟩ := List.forall_mem_cons.mp hnames
      obtain ⟨hiface, hread⟩ := List.forall_mem_cons.mp hread
      have hbody := UsbInterface.oneLine_read hplain hids hiface
      have hstr : iface.str g = row level iface.fname (iface.body g) := by
        rw [UsbInterface.str, heps, (UsbInterface.read_some hiface).1]
        exact List.append_nil _
      rw [List.flatMap_cons, List.append_assoc, hstr, entries_row level hname hbody,
        ih hnames hread]
      rfl

theorem mem_shownInterfaces {dev : UsbDevice} {iface : UsbInterface}
    (h : iface ∈ dev.shownInterfaces g) : iface ∈ dev.interfaces := by
  unfold UsbDevice.shownInterfaces at h
  split at h
  · exact h
  · exact absurd h List.not_mem_nil

theorem strAll_cons (dev : UsbDevice) (kids rest : Forest UsbDevice) {text : Str} :
    strAll py sys g (.cons dev kids rest) = some text ↔
      ∃ strg others, dev.str py sys g kids.roots.isEmpty (strAll py sys g kids) = some strg ∧
        strAll py sys g rest = some others ∧ text = strg ++ others := by
  simp only [strAll, bind, Option.bind_eq_some_iff, Option.some.injEq]
  constructor
  · rintro ⟨strg, hstrg, others, hothers, rfl⟩
    exact ⟨strg, others, hstrg, hothers, rfl⟩
  · rintro ⟨strg, others, hstrg, hothers, rfl⟩
    exact ⟨strg, hstrg, others, hothers, rfl⟩

theorem details_eq (heps : g.showeps = false) (dev : UsbDevice) :
    dev.details py sys g = some ((dev.shownInterfaces g).flatMap (UsbInterface.str g)) := by
  rw [UsbDevice.details, UsbDevice.endpoint, UsbDevice.shownInterfaces, heps]
  cases dev.showsInterfaces g <;> cases g.showint <;> rfl

/-- The lines of a text are the outline of what it shows. -/
theorem entries_strAll (hplain : PlainNames sys) (hids : OneLineTables g.ids)
    (hnohub : g.nohub = false) (heps : g.showeps = false) {f : Forest UsbDevice}
    (hnames : ∀ dev ∈ f.roots, IsName dev.fname) (hcomplete : Complete py sys g level f) :
    ∃ text, strAll py sys g f = some text ∧
      ∀ tail, entries (text ++ tail) = (shown g f).outline level ++ entries tail := by
  induction f generalizing level with
  | nil => exact ⟨[], rfl, fun _ => rfl⟩
  | cons dev kids rest ihkids ihrest =>
      obtain ⟨hdev, hkids, hrest⟩ := hcomplete
      obtain ⟨hname, hrestNames⟩ := List.forall_mem_cons.mp hnames
      obtain ⟨ents, hents, hinterfaces, hdevices⟩ := hdev.listed
      obtain ⟨own, hown, heq⟩ := hdev.own
      have hkidsNames : ∀ kid ∈ kids.roots, IsName kid.fname := by
        intro kid hkid
        have hmem := hdevices.subset (List.mem_map_of_mem (f := (·.fname)) hkid)
        obtain ⟨hmem, hchild⟩ := List.mem_filter.mp hmem
        exact isName_of_child hplain hents hmem (Bool.and_eq_true_iff.mp hchild).1
      have hifaceNames : ∀ iface ∈ dev.interfaces, IsName iface.fname := by
        intro iface hiface
        have hmem := hinterfaces.subset (List.mem_map_of_mem (f := (·.fname)) hiface)
        obtain ⟨hmem, hchild⟩ := List.mem_filter.mp hmem
        exact isName_of_child hplain hents hmem (Bool.and_eq_true_iff.mp hchild).1
      obtain ⟨others, hothers, hotherEntries⟩ := ihrest hrestNames hrest
      obtain ⟨below, hbelow, hbelowEntries⟩ := ihkids hkidsNames hkids
      simp only [strAll_cons, hothers, hbelow, UsbDevice.str, shown]
      split
      · exact ⟨others, ⟨[], others, rfl, rfl, rfl⟩, hotherEntries⟩
      · rw [hnohub, Bool.false_and, if_neg Bool.false_ne_true, details_eq heps]
        refine ⟨_, ⟨_, others, rfl, rfl, rfl⟩, fun tail => ?_⟩
        have hbody : OneLine (dev.body py g) := by
          have hbody := UsbDevice.oneLine_read (g := g) hids hown
          rw [heq]
          exact hbody
        have hlevel : dev.level = level := by
          rw [heq]
          exact (UsbDevice.read_some hown).1
        have hinterfaces := @entries_interfaces py sys g (level + 1) heps dev.fname hplain hids
          (dev.shownInterfaces g) (fun iface h => hifaceNames iface (mem_shownInterfaces h))
          (fun iface h => hdev.interfaces iface (mem_shownInterfaces h))
        rw [List.append_assoc, List.append_assoc, List.append_assoc, hlevel,
          entries_row level hname hbody, hinterfaces, hbelowEntries, hotherEntries,
          Forest.outline, outline_withInterfaces]
        simp

theorem printAll_eq {f : Forest UsbDevice} {text : Str} (h : strAll py sys g f = some text) :
    printAll py sys g f = (text, true) := by
  induction f generalizing text with
  | nil => exact congrArg (·, true) (Option.some.inj h)
  | cons dev kids rest _ ih =>
      obtain ⟨strg, others, hstrg, hothers, rfl⟩ := strAll_cons dev kids rest |>.mp h
      rw [printAll, hstrg, ih hothers]

/-- Without `-U` and `-e`, nothing is printed where an exception is raised, and else a text from
which the tree of all devices is read back. -/
theorem readUsb_tree (hplain : PlainNames sys) {usbids : Option Str}
    (hids : g.ids = loadIds py.toUnicode usbids) (hnohub : g.nohub = false)
    (heps : g.showeps = false) :
    (readRootHubs py sys g = none ∧ readUsb py sys g = ([], false)) ∨
      ∃ rootHubs text, readRootHubs py sys g = some rootHubs ∧ RootHubs py sys g rootHubs ∧
        readUsb py sys g = (text, true) ∧ readTree text = shown g rootHubs := by
  cases hroots : readRootHubs py sys g with
  | none => exact .inl ⟨rfl, by rw [readUsb, hroots]⟩
  | some rootHubs =>
      have hspec := readRootHubs_spec hroots
      have hnames : ∀ dev ∈ rootHubs.roots, IsName dev.fname := by
        obtain ⟨ents, hents, hperm⟩ := hspec.listed
        intro dev hdev
        have hmem := hperm.subset (List.mem_map_of_mem (f := (·.fname)) hdev)
        obtain ⟨hmem, hhub⟩ := List.mem_filter.mp hmem
        obtain ⟨hline, hspace⟩ := hplain.names _ _ hents _ hmem
        refine ⟨?_, hline, hspace⟩
        intro hnil
        rw [hnil] at hhub
        exact absurd hhub (by decide)
      obtain ⟨text, htext, hentries⟩ := entries_strAll hplain (hids ▸ oneLine_loadIds _ usbids)
        hnohub heps hnames hspec.complete
      refine .inr ⟨rootHubs, text, rfl, hspec, ?_, ?_⟩
      · rw [readUsb, hroots]
        exact printAll_eq htext
      · have hlines := hentries []
        rw [List.append_nil] at hlines
        rw [readTree, hlines]
        exact Forest.ofOutline_append _ Forest.endsBefore_nil

end Printed

section Example

def ascii : Python where
  isdigit _ := false
  isspace _ := false
  decimal _ := none
  printable _ := false

def attributes : List (String × String) := [
  ("usb1/bDeviceClass", "09"), ("usb1/bDeviceSubClass", "00"), ("usb1/bDeviceProtocol", "00"),
  ("usb1/idVendor", "1d6b"), ("usb1/idProduct", "0002"), ("usb1/version", " 2.00"),
  ("usb1/speed", "480"), ("usb1/bMaxPower", "0mA"), ("usb1/maxchild", "1"),
  ("1-1/bDeviceClass", "00"), ("1-1/bDeviceSubClass", "00"), ("1-1/bDeviceProtocol", "00"),
  ("1-1/idVendor", "046d"), ("1-1/idProduct", "c52b"), ("1-1/version", " 2.00"),
  ("1-1/speed", "12"), ("1-1/bMaxPower", "98mA"), ("1-1/maxchild", "0"),
  ("1-1/manufacturer", "A\x1b"), ("1-1/product", "B\n")]

def oneDevice : Sysfs where
  listdir dir :=
    if dir = usbPath then some ["usb1".toList, "1-1".toList]
    else if dir = usbPath ++ "usb1".toList then some ["1-1".toList, "power".toList]
    else if dir = usbPath ++ "1-1".toList then some []
    else none
  readline path :=
    (attributes.find? fun file => usbPath ++ file.1.toList == path).map (·.2.toList)
  readlink _ := none
  access _ := false

def noIds : Globals where
  ids := loadIds ascii.toUnicode none

theorem plainNames_oneDevice : PlainNames oneDevice where
  names dir ents h := by
    simp only [oneDevice] at h
    split at h
    · obtain rfl := Option.some.inj h
      decide
    · split at h
      · obtain rfl := Option.some.inj h
        decide
      · split at h
        · obtain rfl := Option.some.inj h
          decide
        · exact absurd h (by simp)
  links _ _ h := absurd h (by simp [oneDevice])

theorem readRootHubs_oneDevice : ∃ rootHubs, readRootHubs ascii oneDevice noIds = some rootHubs ∧
    shown noIds rootHubs = .cons "usb1".toList (.cons "1-1".toList .nil .nil) .nil := by
  obtain ⟨dev, hdev⟩ : ∃ dev, oneDevice.deviceTree ascii noIds "1-1".toList 1 = some (dev, .nil) ∧
      dev.fname = "1-1".toList ∧ dev.isHub = false := by
    rw [Sysfs.deviceTree_eq]
    exact ⟨_, rfl, rfl, rfl⟩
  obtain ⟨dev', hdev'⟩ : ∃ dev', oneDevice.deviceTree ascii noIds "usb1".toList 0 =
      some (dev', .cons dev .nil .nil) ∧ dev'.fname = "usb1".toList := by
    have hbelow : (deviceNames ascii oneDevice ["1-1".toList, "power".toList]).mapM (fun dirent =>
        oneDevice.deviceTree ascii noIds dirent (0 + 1)) = some [(dev, .nil)] := by
      have hnames : deviceNames ascii oneDevice ["1-1".toList, "power".toList] =
          ["1-1".toList] := by decide
      rw [hnames, mapM_cons_some]
      exact ⟨_, [], hdev.1, rfl, rfl⟩
    have hsort : sortBy (fun usbdev : UsbDevice × Forest UsbDevice => deviceKey ascii usbdev.1)
        [(dev, .nil)] = some [(dev, .nil)] := by
      rw [sortBy, List.mapM_cons, deviceKey, hdev.2.1]
      rfl
    rw [Sysfs.deviceTree_eq]
    exact ⟨_, assemble_some.mpr ⟨_, _, _, _, _, _, rfl, rfl, rfl, hbelow, rfl, hsort, rfl⟩, rfl⟩
  have hread : (["usb1".toList, "1-1".toList].filter isRootHub).mapM (fun dirent =>
      oneDevice.deviceTree ascii noIds dirent 0) = some [(dev', .cons dev .nil .nil)] := by
    have hnames : ["usb1".toList, "1-1".toList].filter isRootHub = ["usb1".toList] := by decide
    rw [hnames, mapM_cons_some]
    exact ⟨_, [], hdev'.1, rfl, rfl⟩
  have hsort : sortBy (fun usbdev : UsbDevice × Forest UsbDevice => rootHubKey ascii usbdev.1)
      [(dev', .cons dev .nil .nil)] = some [(dev', .cons dev .nil .nil)] := by
    rw [sortBy, List.mapM_cons, rootHubKey, hdev'.2]
    rfl
  refine ⟨_, readRootHubs_some.mpr ⟨_, _, _, rfl, hread, hsort, rfl⟩, ?_⟩
  simp [ofSiblings, shown, withInterfaces, UsbDevice.shownInterfaces, noIds, hdev.2, hdev'.2,
    Forest.roots]

theorem readUsb_tree_oneDevice : ∃ text, readUsb ascii oneDevice noIds = (text, true) ∧
    readTree text = .cons "usb1".toList (.cons "1-1".toList .nil .nil) .nil := by
  obtain ⟨rootHubs, hroots, hshown⟩ := readRootHubs_oneDevice
  rcases @readUsb_tree ascii oneDevice noIds plainNames_oneDevice none rfl rfl rfl with
    ⟨hnone, -⟩ | ⟨rootHubs', text, hroots', -, hprinted, htree⟩
  · exact absurd (hroots.symm.trans hnone) (by simp)
  · obtain rfl := Option.some.inj (hroots.symm.trans hroots')
    exact ⟨text, hprinted, htree.trans hshown⟩

end Example

end Usbutils.LsusbPy
