import Usbutils.LsusbPy.Order

/-! When `lsusb.py` prints its tree: an exception for one attribute of one device ends the program
before its first line. -/
namespace Usbutils.LsusbPy
open PyText Linked

section Readable

variable (py : Python) (sys : Sysfs)

/-- The attributes a device cannot be without. -/
structure DeviceReadable (fname : Str) : Prop where
  numbers : ∀ name ∈
    ["bDeviceClass", "bDeviceSubClass", "bDeviceProtocol", "idVendor", "idProduct"],
    (readHex py sys fname name).isSome
  texts : ∀ name ∈ ["version", "speed", "bMaxPower"], (readAttr py sys fname name.toList).isSome
  ports : (readInt py sys fname "maxchild").isSome

/-- The attributes an interface cannot be without. The number of its endpoints is read as a decimal
number. -/
structure InterfaceReadable (path : Str) : Prop where
  numbers : ∀ name ∈ ["bInterfaceClass", "bInterfaceSubClass", "bInterfaceProtocol"],
    (readHex py sys path name).isSome
  endpoints : (readInt py sys path "bNumEndpoints").isSome

structure Readable (fname : Str) : Prop where
  device : DeviceReadable py sys fname
  directory : ∃ ents, sys.listdir (usbPath ++ fname) = some ents ∧
    (∀ dirent ∈ ents, isChild py dirent = true → (usbsortkey py dirent).isSome) ∧
    ∀ dirent ∈ interfaceNames py sys ents, InterfaceReadable py sys (fname ++ '/' :: dirent)

def AllReadable : Prop :=
  ∃ ents, sys.listdir usbPath = some ents ∧ ∀ hub ∈ ents.filter isRootHub,
    (intBase10 py.toUnicode (hub.drop 3)).isSome ∧
      ∀ name, Relation.ReflTransGen (Parent py sys) hub name → Readable py sys name

variable {py sys} {g : Globals} {fname : Str} {level : Nat}

theorem isSome_bind_iff {α β : Type} {x : Option α} {f : α → Option β} :
    (x.bind f).isSome ↔ ∃ a, x = some a ∧ (f a).isSome := by
  cases x <;> simp

theorem UsbDevice.read_isSome :
    (UsbDevice.read py sys g fname level).isSome ↔ DeviceReadable py sys fname := by
  simp only [UsbDevice.read, bind, isSome_bind_iff, Option.isSome_some, and_true]
  constructor
  · rintro ⟨_, hclass, _, hsub, _, hproto, _, hvid, _, hpid, _, hver, _, hspeed, _, hpower, _,
      hports⟩
    constructor
    · simp [hclass, hsub, hproto, hvid, hpid]
    · simp only [List.forall_mem_cons, hver, hspeed, hpower]
      simp
    · exact Option.isSome_of_eq_some hports
  · rintro ⟨hnumbers, htexts, hports⟩
    simp only [List.forall_mem_cons, Option.isSome_iff_exists] at hnumbers htexts hports
    obtain ⟨⟨_, hclass⟩, ⟨_, hsub⟩, ⟨_, hproto⟩, ⟨_, hvid⟩, ⟨_, hpid⟩, -⟩ := hnumbers
    obtain ⟨⟨_, hver⟩, ⟨_, hspeed⟩, ⟨_, hpower⟩, -⟩ := htexts
    exact ⟨_, hclass, _, hsub, _, hproto, _, hvid, _, hpid, _, hver, _, hspeed, _, hpower, hports⟩

theorem UsbInterface.read_isSome (heps : g.showeps = false) {parent : Str} :
    (UsbInterface.read py sys g parent fname level).isSome ↔
      InterfaceReadable py sys (parent ++ '/' :: fname) := by
  simp only [UsbInterface.read, bind, isSome_bind_iff, readEps, heps, Option.isSome_some, and_true]
  constructor
  · rintro ⟨_, hclass, _, hsub, _, hproto, _, hnum, -⟩
    exact ⟨by simp [hclass, hsub, hproto], Option.isSome_of_eq_some hnum⟩
  · rintro ⟨hnumbers, hnum⟩
    simp only [List.forall_mem_cons, Option.isSome_iff_exists] at hnumbers hnum
    obtain ⟨⟨_, hclass⟩, ⟨_, hsub⟩, ⟨_, hproto⟩, -⟩ := hnumbers
    obtain ⟨_, hnum⟩ := hnum
    exact ⟨_, hclass, _, hsub, _, hproto, _, hnum, [], rfl⟩

theorem Sysfs.deviceTree_name {r : UsbDevice × Forest UsbDevice}
    (h : sys.deviceTree py g fname level = some r) : r.1.fname = fname :=
  (Sysfs.deviceTree_complete _ _ _ h).1

theorem Sysfs.deviceTree_isSome_step (heps : g.showeps = false) :
    (sys.deviceTree py g fname level).isSome ↔ Readable py sys fname ∧
      ∀ child, Parent py sys fname child → (sys.deviceTree py g child (level + 1)).isSome := by
  have hinterfaces (ents : List Str) := sortBy_mapM_isSome (usbsortkey py)
    (fun dirent => UsbInterface.read py sys g fname dirent (level + 1)) (fun iface => iface.fname)
    (fun _ _ h => (UsbInterface.read_some h).2) (interfaceNames py sys ents)
  have hdevices (ents : List Str) := sortBy_mapM_isSome (usbsortkey py)
    (fun dirent => sys.deviceTree py g dirent (level + 1)) (fun r => r.1.fname)
    (fun _ _ h => Sysfs.deviceTree_name h) (deviceNames py sys ents)
  simp only [UsbInterface.read_isSome heps] at hinterfaces
  constructor
  · intro h
    obtain ⟨r, hr⟩ := Option.isSome_iff_exists.mp h
    obtain ⟨dev, ents, is, cs, is', cs', hdev, hents, his, hcs, hsort, hsort', -⟩ :=
      assemble_some.mp (Sysfs.deviceTree_eq.symm.trans hr)
    have hi := (hinterfaces ents).mp ⟨is, his, Option.isSome_of_eq_some hsort⟩
    have hd := (hdevices ents).mp ⟨cs, hcs, Option.isSome_of_eq_some hsort'⟩
    refine ⟨⟨UsbDevice.read_isSome.mp (Option.isSome_of_eq_some hdev), ents, hents, ?_, ?_⟩, ?_⟩
    · intro dirent hmem hchild
      cases hiface : isInterface sys dirent with
      | true => exact (hi dirent (List.mem_filter.mpr ⟨hmem, by simp [hchild, hiface]⟩)).2
      | false => exact (hd dirent (List.mem_filter.mpr ⟨hmem, by simp [hchild, hiface]⟩)).2
    · exact fun dirent hmem => (hi dirent hmem).1
    · rintro child ⟨ents', hents', hmem⟩
      obtain rfl := Option.some.inj (hents.symm.trans hents')
      exact (hd child hmem).1
  · rintro ⟨⟨hdevice, ents, hents, hkeys, hifaces⟩, hchildren⟩
    obtain ⟨dev, hdev⟩ := Option.isSome_iff_exists.mp (UsbDevice.read_isSome.mpr hdevice)
    have hkey {p : Str → Bool} {dirent : Str}
        (hmem : dirent ∈ ents.filter fun dirent => isChild py dirent && p dirent) :
        (usbsortkey py dirent).isSome := by
      obtain ⟨hmem, hp⟩ := List.mem_filter.mp hmem
      exact hkeys dirent hmem (Bool.and_eq_true_iff.mp hp).1
    obtain ⟨is, his, hsort⟩ :=
      (hinterfaces ents).mpr fun dirent hmem => ⟨hifaces dirent hmem, hkey hmem⟩
    obtain ⟨cs, hcs, hsort'⟩ :=
      (hdevices ents).mpr fun dirent hmem => ⟨hchildren dirent ⟨ents, hents, hmem⟩, hkey hmem⟩
    obtain ⟨is', hsort⟩ := Option.isSome_iff_exists.mp hsort
    obtain ⟨cs', hsort'⟩ := Option.isSome_iff_exists.mp hsort'
    rw [Sysfs.deviceTree_eq]
    exact Option.isSome_of_eq_some
      (assemble_some.mpr ⟨dev, ents, is, cs, is', cs', hdev, hents, his, hcs, hsort, hsort', rfl⟩)

/-- No device stands below itself, and all that stands below it is found. -/
theorem Sysfs.deviceTree_isSome (heps : g.showeps = false)
    (hwf : WellFounded fun child parent => Parent py sys parent child) :
    (sys.deviceTree py g fname level).isSome ↔
      ∀ name, Relation.ReflTransGen (Parent py sys) fname name → Readable py sys name := by
  induction fname using hwf.induction generalizing level with
  | _ fname ih =>
      rw [Sysfs.deviceTree_isSome_step heps]
      constructor
      · rintro ⟨hown, hbelow⟩ name hname
        rcases Relation.ReflTransGen.cases_head hname with rfl | ⟨child, hchild, hrest⟩
        · exact hown
        · exact (ih child hchild).mp (hbelow child hchild) name hrest
      · intro hall
        refine ⟨hall fname Relation.ReflTransGen.refl, fun child hchild => ?_⟩
        exact (ih child hchild).mpr fun name hname =>
          hall name (Relation.ReflTransGen.head hchild hname)

theorem readRootHubs_isSome (heps : g.showeps = false)
    (hwf : WellFounded fun child parent => Parent py sys parent child) :
    (readRootHubs py sys g).isSome ↔ AllReadable py sys := by
  have hhubs (ents : List Str) := sortBy_mapM_isSome
    (fun hub => intBase10 py.toUnicode (hub.drop 3)) (fun dirent => sys.deviceTree py g dirent 0)
    (fun r => r.1.fname) (fun _ _ h => Sysfs.deviceTree_name h) (ents.filter isRootHub)
  simp only [Sysfs.deviceTree_isSome heps hwf] at hhubs
  constructor
  · intro h
    obtain ⟨rootHubs, hroots⟩ := Option.isSome_iff_exists.mp h
    obtain ⟨ents, ds, ds', hents, hds, hsort, -⟩ := readRootHubs_some.mp hroots
    have hall := (hhubs ents).mp ⟨ds, hds, Option.isSome_of_eq_some hsort⟩
    exact ⟨ents, hents, fun hub hhub => (hall hub hhub).symm⟩
  · rintro ⟨ents, hents, hall⟩
    obtain ⟨ds, hds, hsort⟩ := (hhubs ents).mpr fun hub hhub => (hall hub hhub).symm
    obtain ⟨ds', hsort⟩ := Option.isSome_iff_exists.mp hsort
    exact Option.isSome_of_eq_some (readRootHubs_some.mpr ⟨ents, ds, ds', hents, hds, hsort, rfl⟩)

theorem strAll_isSome (heps : g.showeps = false) (f : Forest UsbDevice) :
    ∃ text, strAll py sys g f = some text := by
  induction f with
  | nil => exact ⟨[], rfl⟩
  | cons dev kids rest ihkids ihrest =>
      obtain ⟨below, hbelow⟩ := ihkids
      obtain ⟨others, hothers⟩ := ihrest
      simp only [strAll_cons, hbelow, hothers, UsbDevice.str, details_eq heps]
      split
      · exact ⟨_, _, _, rfl, rfl, rfl⟩
      · split
        · exact ⟨_, _, _, rfl, rfl, rfl⟩
        · exact ⟨_, _, _, rfl, rfl, rfl⟩

/-- Without `-e`, the tree is printed if and only if all devices can be read, and else nothing
is. -/
theorem readUsb_iff (heps : g.showeps = false)
    (hwf : WellFounded fun child parent => Parent py sys parent child) :
    ((readUsb py sys g).2 = true ↔ AllReadable py sys) ∧
      ((readUsb py sys g).2 = false → (readUsb py sys g).1 = []) := by
  rw [← readRootHubs_isSome heps hwf, readUsb]
  cases readRootHubs py sys g with
  | none => exact ⟨by simp, fun _ => rfl⟩
  | some rootHubs =>
      obtain ⟨text, htext⟩ := @strAll_isSome py sys g heps rootHubs
      simp [printAll_eq htext]

end Readable

section Example

theorem parent_oneDevice {parent child : Str} (h : Parent ascii oneDevice parent child) :
    child = "1-1".toList ∧ parent ≠ "1-1".toList := by
  obtain ⟨ents, hents, hmem⟩ := h
  simp only [oneDevice] at hents
  split at hents
  · obtain rfl := Option.some.inj hents
    refine ⟨List.mem_singleton.mp hmem, ?_⟩
    rintro rfl
    exact absurd ‹_ = usbPath› (by decide)
  · split at hents
    · obtain rfl := Option.some.inj hents
      refine ⟨List.mem_singleton.mp hmem, ?_⟩
      rintro rfl
      exact absurd ‹_ = usbPath ++ "usb1".toList› (by decide)
    · split at hents
      · obtain rfl := Option.some.inj hents
        exact absurd hmem List.not_mem_nil
      · exact absurd hents (by simp)

theorem wellFounded_oneDevice :
    WellFounded fun child parent => Parent ascii oneDevice parent child := by
  have hleaf : Acc (fun child parent => Parent ascii oneDevice parent child) "1-1".toList :=
    ⟨_, fun child h => absurd rfl (parent_oneDevice h).2⟩
  exact ⟨fun parent => ⟨_, fun child h => (parent_oneDevice h).1 ▸ hleaf⟩⟩

theorem readUsb_iff_oneDevice : AllReadable ascii oneDevice := by
  obtain ⟨rootHubs, hroots, -⟩ := readRootHubs_oneDevice
  obtain ⟨text, htext⟩ := @strAll_isSome ascii oneDevice noIds rfl rootHubs
  have hok : (readUsb ascii oneDevice noIds).2 = true := by
    rw [readUsb, hroots]
    exact congrArg Prod.snd (printAll_eq htext)
  exact (readUsb_iff rfl wellFounded_oneDevice).1.mp hok

end Example

end Usbutils.LsusbPy
