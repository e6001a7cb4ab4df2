import Mathlib.Logic.Relation
import Usbutils.LsusbPy.Readable

/-! The order in which `os.listdir` has the names of a directory does not show in what `lsusb.py`
prints. -/
namespace Usbutils.LsusbPy
open PyText Linked

/-- The same files, but the names of a directory may come in another order. What `find_dev` has for
the driver of a device comes in the order of the directories, and is to be the same. -/
structure Reordered (sys sys' : Sysfs) : Prop where
  listdir : ∀ dir, Option.Rel List.Perm (sys.listdir dir) (sys'.listdir dir)
  readline : sys'.readline = sys.readline
  readlink : sys'.readlink = sys.readlink
  access : sys'.access = sys.access
  readDriver : readDriver sys' = readDriver sys

def Parent (py : Python) (sys : Sysfs) (parent child : Str) : Prop :=
  ∃ ents, sys.listdir (usbPath ++ parent) = some ents ∧ child ∈ deviceNames py sys ents

def IsDevice (py : Python) (sys : Sysfs) (name : Str) : Prop :=
  ∃ ents, sys.listdir usbPath = some ents ∧ ∃ hub ∈ ents.filter isRootHub,
    Relation.ReflTransGen (Parent py sys) hub name

/-- No two names that are sorted together have the same key: of the interfaces of a device, of the
devices right below it, and of the root hubs. -/
structure DistinctNames (py : Python) (sys : Sysfs) : Prop where
  interfaces : ∀ name ents, IsDevice py sys name → sys.listdir (usbPath ++ name) = some ents →
    DistinctKeys (usbsortkey py) (interfaceNames py sys ents)
  devices : ∀ name ents, IsDevice py sys name → sys.listdir (usbPath ++ name) = some ents →
    DistinctKeys (usbsortkey py) (deviceNames py sys ents)
  rootHubs : ∀ ents, sys.listdir usbPath = some ents →
    DistinctKeys (fun dirent => intBase10 py.toUnicode (dirent.drop 3)) (ents.filter isRootHub)

section Reordered

variable {py : Python} {sys sys' : Sysfs} {g : Globals}

theorem Reordered.exists_perm (h : Reordered sys sys') {dir : Str} {ents : List Str}
    (hents : sys.listdir dir = some ents) :
    ∃ ents', sys'.listdir dir = some ents' ∧ ents.Perm ents' := by
  have hrel := h.listdir dir
  rw [hents] at hrel
  cases hents' : sys'.listdir dir with
  | none =>
      rw [hents'] at hrel
      cases hrel
  | some ents' =>
      rw [hents'] at hrel
      cases hrel with
      | some hperm => exact ⟨ents', rfl, hperm⟩

theorem Reordered.symm (h : Reordered sys sys') : Reordered sys' sys where
  listdir dir := by
    have hrel := h.listdir dir
    cases hents : sys.listdir dir <;> cases hents' : sys'.listdir dir <;> rw [hents, hents'] at hrel
    · exact Option.Rel.none
    · cases hrel
    · cases hrel
    · cases hrel with
      | some hperm => exact Option.Rel.some hperm.symm
  readline := h.readline.symm
  readlink := h.readlink.symm
  access := h.access.symm
  readDriver := h.readDriver.symm

theorem Reordered.isInterface (h : Reordered sys sys') : isInterface sys' = isInterface sys := by
  funext dirent
  rw [LsusbPy.isInterface, h.access, ← LsusbPy.isInterface]

theorem Reordered.interfaceNames (h : Reordered sys sys') (ents : List Str) :
    interfaceNames py sys' ents = interfaceNames py sys ents := by
  rw [LsusbPy.interfaceNames, h.isInterface, ← LsusbPy.interfaceNames]

theorem Reordered.deviceNames (h : Reordered sys sys') (ents : List Str) :
    deviceNames py sys' ents = deviceNames py sys ents := by
  rw [LsusbPy.deviceNames, h.isInterface, ← LsusbPy.deviceNames]

theorem Reordered.parent (h : Reordered sys sys') {parent child : Str}
    (hparent : Parent py sys parent child) : Parent py sys' parent child := by
  obtain ⟨ents, hents, hchild⟩ := hparent
  obtain ⟨ents', hents', hperm⟩ := h.exists_perm hents
  exact ⟨ents', hents', h.deviceNames ents' ▸ (hperm.filter _).subset hchild⟩

theorem Reordered.isDevice (h : Reordered sys sys') {name : Str} (hname : IsDevice py sys name) :
    IsDevice py sys' name := by
  obtain ⟨ents, hents, hub, hhub, hbelow⟩ := hname
  obtain ⟨ents', hents', hperm⟩ := h.exists_perm hents
  have hbelow' := Relation.ReflTransGen.mono (fun _ _ => h.parent) _ _ hbelow
  exact ⟨ents', hents', hub, (hperm.filter _).subset hhub, hbelow'⟩

theorem DistinctNames.reordered (hnames : DistinctNames py sys) (h : Reordered sys sys') :
    DistinctNames py sys' where
  interfaces name ents hname hents := by
    obtain ⟨ents', hents', hperm⟩ := h.symm.exists_perm hents
    rw [h.interfaceNames]
    exact (hnames.interfaces name ents' (h.symm.isDevice hname) hents').of_subset
      (hperm.filter _).subset
  devices name ents hname hents := by
    obtain ⟨ents', hents', hperm⟩ := h.symm.exists_perm hents
    rw [h.deviceNames]
    exact (hnames.devices name ents' (h.symm.isDevice hname) hents').of_subset
      (hperm.filter _).subset
  rootHubs ents hents := by
    obtain ⟨ents', hents', hperm⟩ := h.symm.exists_perm hents
    exact (hnames.rootHubs ents' hents').of_subset (hperm.filter _).subset

theorem Reordered.readAttr (h : Reordered sys sys') (path name : Str) :
    readAttr py sys' path name = readAttr py sys path name := by
  rw [LsusbPy.readAttr, h.readline, ← LsusbPy.readAttr]

theorem Reordered.readHex (h : Reordered sys sys') (path : Str) (name : String) :
    readHex py sys' path name = readHex py sys path name := by
  rw [LsusbPy.readHex, h.readAttr, ← LsusbPy.readHex]

theorem Reordered.readInt (h : Reordered sys sys') (path : Str) (name : String) :
    readInt py sys' path name = readInt py sys path name := by
  rw [LsusbPy.readInt, h.readAttr, ← LsusbPy.readInt]

theorem Reordered.readInterface (h : Reordered sys sys') (heps : g.showeps = false)
    (parent fname : Str) (level : Nat) :
    UsbInterface.read py sys' g parent fname level =
      UsbInterface.read py sys g parent fname level := by
  simp only [UsbInterface.read, h.readHex, h.readInt, h.readDriver, readEps, heps]
  rfl

theorem Reordered.readOwn (h : Reordered sys sys') (fname : Str) (level : Nat) :
    UsbDevice.read py sys' g fname level = UsbDevice.read py sys g fname level := by
  simp only [UsbDevice.read, h.readHex, h.readInt, h.readAttr, h.readDriver, readName, readSerial]

theorem Reordered.deviceTree (h : Reordered sys sys') (heps : g.showeps = false)
    (hnames : DistinctNames py sys) :
    ∀ (fname : Str) (level : Nat) (r : UsbDevice × Forest UsbDevice),
      sys.deviceTree py g fname level = some r →
      r.1.fname = fname ∧
        (IsDevice py sys fname → sys'.deviceTree py g fname level = some r) := by
  apply Sysfs.deviceTree_induct
  intro below hbelow fname level r hr
  obtain ⟨dev, ents, interfaces, children, interfaces', children', hdev, hents, hinterfaces,
    hchildren, hsort, hsort', rfl⟩ := assemble_some.mp hr
  refine ⟨(UsbDevice.read_some hdev).2, fun hdevice => ?_⟩
  obtain ⟨ents', hents', hperm⟩ := h.exists_perm hents
  have hbelowDevice : ∀ dirent ∈ LsusbPy.deviceNames py sys ents, IsDevice py sys dirent := by
    obtain ⟨ents₀, hents₀, hub, hhub, hpath⟩ := hdevice
    exact fun dirent hdirent => ⟨ents₀, hents₀, hub, hhub, hpath.tail ⟨ents, hents, hdirent⟩⟩
  obtain ⟨found, hfound, hfoundSort⟩ := sortBy_mapM_perm
    (fun dirent => UsbInterface.read py sys' g fname dirent (level + 1))
    (fun iface => iface.fname) (fun _ _ hread => (UsbInterface.read_some hread).2)
    (hperm.filter fun dirent => isChild py dirent && LsusbPy.isInterface sys dirent)
    (fun _ _ _ hread => (h.readInterface heps fname _ (level + 1)).trans hread)
    (hnames.interfaces _ _ hdevice hents) hinterfaces hsort
  obtain ⟨devices, hdevices, hdevicesSort⟩ := sortBy_mapM_perm
    (fun dirent => sys'.deviceTree py g dirent (level + 1))
    (fun device => device.1.fname) (fun _ _ hread => (hbelow _ _ _ hread).1)
    (hperm.filter fun dirent => isChild py dirent && !LsusbPy.isInterface sys dirent)
    (fun dirent hdirent _ hread => (hbelow _ _ _ hread).2 (hbelowDevice dirent hdirent))
    (hnames.devices _ _ hdevice hents) hchildren hsort'
  rw [Sysfs.deviceTree_eq, assemble_some]
  refine ⟨dev, ents', found, devices, interfaces', children', (h.readOwn fname level).trans hdev,
    hents', ?_, ?_, hfoundSort, hdevicesSort, rfl⟩
  · rw [h.interfaceNames]
    exact hfound
  · rw [h.deviceNames]
    exact hdevices

theorem Reordered.readRootHubs (h : Reordered sys sys') (heps : g.showeps = false)
    (hnames : DistinctNames py sys) {rootHubs : Forest UsbDevice}
    (hroots : readRootHubs py sys g = some rootHubs) :
    LsusbPy.readRootHubs py sys' g = some rootHubs := by
  obtain ⟨ents, devices, devices', hents, hdevices, hsort, rfl⟩ := readRootHubs_some.mp hroots
  obtain ⟨ents', hents', hperm⟩ := h.exists_perm hents
  obtain ⟨found, hfound, hfoundSort⟩ := sortBy_mapM_perm
    (fun dirent => sys'.deviceTree py g dirent 0) (fun device => device.1.fname)
    (fun _ _ hread => (h.deviceTree heps hnames _ _ _ hread).1) (hperm.filter isRootHub)
    (fun hub hhub _ hread => (h.deviceTree heps hnames _ _ _ hread).2
      ⟨ents, hents, hub, hhub, Relation.ReflTransGen.refl⟩)
    (hnames.rootHubs ents hents) hdevices hsort
  exact readRootHubs_some.mpr ⟨ents', found, devices', hents', hfound, hfoundSort, rfl⟩

theorem strAll_eq (heps : g.showeps = false) (f : Forest UsbDevice) :
    strAll py sys' g f = strAll py sys g f := by
  induction f with
  | nil => rfl
  | cons dev kids rest ihkids ihrest =>
      rw [strAll, strAll, ihkids, ihrest]
      simp only [UsbDevice.str, details_eq heps]

theorem printAll_congr (heps : g.showeps = false) (f : Forest UsbDevice) :
    printAll py sys' g f = printAll py sys g f := by
  induction f with
  | nil => rfl
  | cons dev kids rest _ ih =>
      rw [printAll, printAll, ih, @strAll_eq py sys sys' g heps kids]
      simp only [UsbDevice.str, details_eq heps]

/-- Without `-e`, what is printed does not depend on the order of the names in the directories. -/
theorem readUsb_reordered (h : Reordered sys sys') (heps : g.showeps = false)
    (hnames : DistinctNames py sys) : readUsb py sys' g = readUsb py sys g := by
  have hroots : readRootHubs py sys' g = readRootHubs py sys g := by
    cases hleft : readRootHubs py sys g with
    | some rootHubs => exact h.readRootHubs heps hnames hleft
    | none =>
        cases hright : readRootHubs py sys' g with
        | none => rfl
        | some rootHubs =>
            have hback := h.symm.readRootHubs heps (hnames.reordered h) hright
            exact absurd (hleft.symm.trans hback) (by simp)
  rw [readUsb, readUsb, hroots]
  cases readRootHubs py sys g with
  | none => rfl
  | some rootHubs => exact printAll_congr heps rootHubs

end Reordered

section Example

def swapped : Sysfs where
  listdir dir :=
    if dir = usbPath then some ["1-1".toList, "usb1".toList] else oneDevice.listdir dir
  readline := oneDevice.readline
  readlink := oneDevice.readlink
  access := oneDevice.access

theorem listdir_swapped {dir : Str} (h : dir ≠ usbPath) :
    swapped.listdir dir = oneDevice.listdir dir := if_neg h

theorem distinctNames_oneDevice : DistinctNames ascii oneDevice := by
  have hsingle {β : Type} (key : Str → Option β) (name : Str) : DistinctKeys key [name] := by
    intro a ha b hb _ _ _
    rw [List.mem_singleton.mp ha, List.mem_singleton.mp hb]
  have hlisted : ∀ dir ents, oneDevice.listdir dir = some ents →
      DistinctKeys (usbsortkey ascii) (ents.filter (isChild ascii)) := by
    intro dir ents h
    simp only [oneDevice] at h
    split at h
    · obtain rfl := Option.some.inj h
      exact hsingle _ "1-1".toList
    · split at h
      · obtain rfl := Option.some.inj h
        exact hsingle _ "1-1".toList
      · split at h
        · obtain rfl := Option.some.inj h
          exact fun a ha => absurd ha List.not_mem_nil
        · exact absurd h (by simp)
  have hsub {ents : List Str} (p : Str → Bool) :
      ents.filter (fun dirent => isChild ascii dirent && p dirent) ⊆ ents.filter (isChild ascii) := by
    intro dirent hdirent
    obtain ⟨hmem, hp⟩ := List.mem_filter.mp hdirent
    exact List.mem_filter.mpr ⟨hmem, (Bool.and_eq_true_iff.mp hp).1⟩
  refine ⟨fun _ ents _ h => (hlisted _ ents h).of_subset (hsub _),
    fun _ ents _ h => (hlisted _ ents h).of_subset (hsub _), fun ents h => ?_⟩
  obtain rfl : ["usb1".toList, "1-1".toList] = ents := Option.some.inj h
  exact hsingle _ "usb1".toList

theorem readUsb_swapped : readUsb ascii swapped noIds = readUsb ascii oneDevice noIds := by
  refine readUsb_reordered ⟨fun dir => ?_, rfl, rfl, rfl, rfl⟩ rfl distinctNames_oneDevice
  by_cases hdir : dir = usbPath
  · subst hdir
    exact Option.Rel.some (List.Perm.swap _ _ _)
  · rw [listdir_swapped hdir]
    cases oneDevice.listdir dir with
    | none => exact Option.Rel.none
    | some ents => exact Option.Rel.some (List.Perm.refl _)

end Example

end Usbutils.LsusbPy
