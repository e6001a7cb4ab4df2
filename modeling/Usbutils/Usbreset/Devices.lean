import Usbutils.Strings.Sanitize
import Usbutils.Tree.SysfsName

/-! `usbreset.c`: the scan of `/sys/bus/usb/devices`, and the search for the one device that
is to be reset. -/
namespace Usbutils
open CString

namespace Usbreset

def isHexDigit (c : Char) : Bool :=
  c.isDigit || (c.toNat ≥ 97 && c.toNat ≤ 102) || (c.toNat ≥ 65 && c.toNat ≤ 70)

def hexDigit (c : Char) : Nat :=
  if c.isDigit then c.toNat - 48 else if c.toNat ≥ 97 then c.toNat - 87 else c.toNat - 55

def skip0x : Name → Name
  | '0' :: x :: digit :: rest =>
      if (x = 'x' ∨ x = 'X') ∧ isHexDigit digit then digit :: rest else '0' :: x :: digit :: rest
  | s => s

/-- `strtoul(s, NULL, 16)` -/
def strtoulHex (s : Name) : Nat :=
  let body := s.dropWhile isSpace
  let negative := body.head? == some '-'
  let digits := skip0x (if negative ∨ body.head? = some '+' then body.tail else body)
  let value := (digits.takeWhile isHexDigit).foldl (fun v c => 16 * v + hexDigit c) 0
  if value > ulongMax then ulongMax
  else if negative then (2 ^ 64 - value) % 2 ^ 64 else value

def tolower (c : UInt8) : UInt8 := if 0x41 ≤ c ∧ c ≤ 0x5a then c + 0x20 else c

def strcasecmp : List UInt8 → List UInt8 → Int
  | [], [] => 0
  | a :: _, [] => (tolower a).toNat
  | [], b :: _ => -((tolower b).toNat : Int)
  | a :: as, b :: bs =>
      if tolower a = tolower b then strcasecmp as bs
      else (tolower a).toNat - ((tolower b).toNat : Int)

/-- `struct usbentry`; the strings are without their null characters. -/
structure UsbEntry where
  busNum : Int := 0
  devNum : Int := 0
  vendorId : Int := -1
  productId : Int := -1
  vendorName : List UInt8 := []
  productName : List UInt8 := []
  serial : List UInt8 := []
  deriving DecidableEq, Repr

/-- The string that `sysfs_attr` returns; its accesses stay inside its buffer. -/
def attrString (sysfs : String → SysfsFile) (dev attr : String) : Option (List UInt8) :=
  (sysfsAttr sysfs dev attr).join.map contents

/-- A number attribute as an `int`, or what stands there if it cannot be read. -/
def number (strtoul : Name → Nat) (value : Int) : Option (List UInt8) → Int
  | none => value
  | some attr => toInt (strtoul (attr.map fun c => Char.ofNat c.toNat))

/-- `strncpy` into an array of 128 zeros. -/
def copyName (attr : Option (List UInt8)) : List UInt8 := (attr.getD []).take 127

def readEntry (sysfs : String → SysfsFile) (dName : String) : UsbEntry where
  busNum := number (fun s => (strtoul s).1) 0 (attrString sysfs dName "busnum")
  devNum := number (fun s => (strtoul s).1) 0 (attrString sysfs dName "devnum")
  vendorId := number strtoulHex (-1) (attrString sysfs dName "idVendor")
  productId := number strtoulHex (-1) (attrString sysfs dName "idProduct")
  vendorName := copyName (attrString sysfs dName "manufacturer")
  productName := copyName (attrString sysfs dName "product")
  serial := copyName (attrString sysfs dName "serial")

def isDevice (dName : String) : Bool :=
  (dName.toList.head?.any Char.isDigit) && !dName.toList.contains ':'

def UsbEntry.usable (dev : UsbEntry) : Bool :=
  dev.busNum ≠ 0 && dev.devNum ≠ 0 && dev.vendorId ≥ 0 && dev.productId ≥ 0

/-- A stream is the names that `readdir` has not given yet. There is no entry at the end of
the directory, and none for a device that is not usable. -/
def parseDevlist (sysfs : String → SysfsFile) : List String → Option UsbEntry × List String
  | [] => (none, [])
  | dName :: rest =>
      if isDevice dName then
        (if (readEntry sysfs dName).usable then some (readEntry sysfs dName) else none, rest)
      else parseDevlist sysfs rest

/-- The arguments of `find_device`; numbers are given in pairs. -/
structure Criterion where
  number : Option (Int × Int) := none
  id : Option (Int × Int) := none
  serial : Option (List UInt8) := none
  product : Option (List UInt8) := none

def Criterion.fits (crit : Criterion) (e : UsbEntry) : Bool :=
  crit.number.any (fun (bus, dev) => e.busNum == bus && e.devNum == dev) ||
  crit.id.any (fun (vid, pid) => e.vendorId == vid && e.productId == pid) ||
  crit.serial.any (fun serial => strcasecmp e.serial serial == 0) ||
  crit.product.any (fun product => strcasecmp e.productName product == 0)

def multipleDevices : String :=
  "Multiple devices match; specify the bus/device number (BBB/DDD).\n"

theorem parseDevlist_length {sysfs : String → SysfsFile} {names rest : List String} {e : UsbEntry}
    (h : parseDevlist sysfs names = (some e, rest)) : rest.length < names.length := by
  induction names with
  | nil => simp [parseDevlist] at h
  | cons dName names ih =>
      rw [parseDevlist] at h
      split at h
      · obtain rfl := congrArg Prod.snd h
        exact Nat.lt_succ_self _
      · exact Nat.lt_succ_of_lt (ih h)

/-- The loop of `find_device`, with the device that was found: the device and what is written
to `stderr`. -/
def search (sysfs : String → SysfsFile) (crit : Criterion) (devs : List String)
    (found : Option UsbEntry) : Option UsbEntry × List String :=
  match _hnext : parseDevlist sysfs devs with
  | (none, _) => (found, [])
  | (some e, rest) =>
      if crit.fits e then
        match found with
        | some _ => (none, [multipleDevices])
        | none => search sysfs crit rest (some e)
      else search sysfs crit rest found
termination_by devs.length
decreasing_by all_goals exact parseDevlist_length _hnext

/-- `devs` are the names in the directory, if it can be opened. -/
def findDevice (sysfs : String → SysfsFile) (devs : Option (List String)) (crit : Criterion) :
    Option UsbEntry × List String :=
  match devs with
  | none => (none, [])
  | some devs => search sysfs crit devs none

def sole {α : Type} : List α → Option α
  | [a] => some a
  | _ => none

theorem sole_eq_none {α : Type} {list : List α} : sole list = none ↔ list.length ≠ 1 := by
  cases list with
  | nil => simp [sole]
  | cons a rest => cases rest <;> simp [sole]

section Search

variable {sysfs : String → SysfsFile} {crit : Criterion}

/-- The devices that the scan gets to: those before the first one that is not usable. -/
def scanned (sysfs : String → SysfsFile) (names : List String) : List UsbEntry :=
  ((names.filter isDevice).map (readEntry sysfs)).takeWhile UsbEntry.usable

theorem scanned_parseDevlist (names : List String) :
    scanned sysfs names =
      match parseDevlist sysfs names with
      | (none, _) => []
      | (some e, rest) => e :: scanned sysfs rest := by
  induction names with
  | nil => rfl
  | cons dName names ih =>
      rw [parseDevlist]
      by_cases hdevice : isDevice dName = true
      · by_cases husable : (readEntry sysfs dName).usable = true
        · simp [scanned, hdevice, husable]
        · simp [scanned, hdevice, husable]
      · rw [if_neg hdevice, ← ih]
        simp [scanned, hdevice]

def report : List UsbEntry → Option UsbEntry × List String
  | [] => (none, [])
  | [e] => (some e, [])
  | _ => (none, [multipleDevices])

theorem report_fst (devices : List UsbEntry) : (report devices).1 = sole devices := by
  match devices with
  | [] | [_] | _ :: _ :: _ => rfl

theorem search_eq (devs : List String) (found : Option UsbEntry) :
    search sysfs crit devs found = report (found.toList ++ (scanned sysfs devs).filter crit.fits) := by
  induction devs, found using search.induct sysfs crit with
  | case1 devs found rest hnext =>
      rw [search, scanned_parseDevlist, hnext]
      cases found <;> rfl
  | case2 devs e rest hnext hfits other =>
      rw [search, scanned_parseDevlist, hnext]
      simp only [hfits, if_true, List.filter_cons_of_pos]
      rfl
  | case3 devs e rest hnext hfits ih =>
      rw [search, scanned_parseDevlist, hnext]
      simp only [hfits, if_true, List.filter_cons_of_pos, ih]
      rfl
  | case4 devs found e rest hnext hfits ih =>
      rw [search, scanned_parseDevlist, hnext]
      simp only [hfits, Bool.false_eq_true, if_false, ih, not_false_eq_true, List.filter_cons_of_neg]

/-- An entry is well formed when its bus and device numbers are not zero and both ids can be
read. -/
def wellFormed (sysfs : String → SysfsFile) (dName : String) : Bool :=
  (readEntry sysfs dName).busNum ≠ 0 && (readEntry sysfs dName).devNum ≠ 0 &&
    (attrString sysfs dName "idVendor").isSome && (attrString sysfs dName "idProduct").isSome

def matching (sysfs : String → SysfsFile) (crit : Criterion) (names : List String) :
    List UsbEntry :=
  (((names.filter isDevice).filter (wellFormed sysfs)).map (readEntry sysfs)).filter crit.fits

def matchingBefore (sysfs : String → SysfsFile) (crit : Criterion) (names : List String) :
    List UsbEntry :=
  (scanned sysfs names).filter crit.fits

theorem number_unread {strtoul : Name → Nat} {attr : Option (List UInt8)}
    (h : number strtoul (-1) attr ≥ 0) : attr.isSome = true := by
  cases attr with
  | none => simp [number] at h
  | some attr => rfl

theorem wellFormed_of_usable {dName : String} (h : (readEntry sysfs dName).usable = true) :
    wellFormed sysfs dName = true := by
  simp only [UsbEntry.usable, Bool.and_eq_true, decide_eq_true_eq] at h
  obtain ⟨⟨⟨hbus, hdev⟩, hvendor⟩, hproduct⟩ := h
  simp only [wellFormed, Bool.and_eq_true, decide_eq_true_eq]
  exact ⟨⟨⟨hbus, hdev⟩, number_unread hvendor⟩, number_unread hproduct⟩

/-- The devices that the scan gets to come first among the well-formed ones. -/
theorem matchingBefore_first (names : List String) :
    ∃ rest, matching sysfs crit names = matchingBefore sysfs crit names ++ rest := by
  unfold matching matchingBefore scanned
  induction names.filter isDevice with
  | nil => exact ⟨[], rfl⟩
  | cons dName devices ih =>
      by_cases husable : (readEntry sysfs dName).usable = true
      · obtain ⟨rest, hrest⟩ := ih
        refine ⟨rest, ?_⟩
        rw [List.filter_cons_of_pos (wellFormed_of_usable husable), List.map_cons, List.map_cons,
          List.takeWhile_cons_of_pos husable, List.filter_cons, List.filter_cons, hrest]
        split <;> rfl
      · rw [List.map_cons, List.takeWhile_cons_of_neg husable]
        exact ⟨_, rfl⟩

/-- The search ends at the first device that is not usable, so it is right exactly where no
match stands behind that device, or the matches before it and the matches in all are not one. -/
theorem findDevice_unique (names : List String) :
    (findDevice sysfs (some names) crit).1 = sole (matching sysfs crit names) ↔
      (matchingBefore sysfs crit names).length = (matching sysfs crit names).length ∨
        (matchingBefore sysfs crit names).length ≠ 1 ∧ (matching sysfs crit names).length ≠ 1 := by
  obtain ⟨rest, hrest⟩ := @matchingBefore_first sysfs crit names
  have hfound : (findDevice sysfs (some names) crit).1 = sole (matchingBefore sysfs crit names) := by
    rw [findDevice, search_eq, Option.toList_none, List.nil_append, report_fst]
    rfl
  rw [hfound]
  constructor
  · intro hsame
    by_cases hone : (matchingBefore sysfs crit names).length = 1
    · have hall : (matching sysfs crit names).length = 1 := by
        by_contra hne
        exact absurd (hsame.trans (sole_eq_none.mpr hne)) (mt sole_eq_none.mp (not_not.mpr hone))
      exact .inl (hone.trans hall.symm)
    · exact .inr ⟨hone, sole_eq_none.mp (hsame.symm.trans (sole_eq_none.mpr hone))⟩
  · rintro (hlength | ⟨hone, hall⟩)
    · obtain rfl : rest = [] := by
        rw [hrest, List.length_append] at hlength
        exact List.eq_nil_of_length_eq_zero (by omega)
      rw [hrest, List.append_nil]
    · rw [sole_eq_none.mpr hone, sole_eq_none.mpr hall]

def unpluggedFirst : String → SysfsFile := fun path =>
  if path = "/sys/bus/usb/devices/1-2/busnum" then .content [0x31, 0x0a]
  else if path = "/sys/bus/usb/devices/1-2/devnum" then .content [0x35, 0x0a]
  else if path = "/sys/bus/usb/devices/1-2/idVendor" then .content [0x30, 0x34, 0x66, 0x32, 0x0a]
  else if path = "/sys/bus/usb/devices/1-2/idProduct" then .content [0x30, 0x31, 0x31, 0x32, 0x0a]
  else .missing

def keyboard : Criterion := { id := some (0x04f2, 0x0112) }

theorem findDevice_unpluggedFirst :
    matching unpluggedFirst keyboard ["1-1", "1-2"] =
        [{ busNum := 1, devNum := 5, vendorId := 0x04f2, productId := 0x0112 }] ∧
      (findDevice unpluggedFirst (some ["1-1", "1-2"]) keyboard).1 = none := by
  refine ⟨by decide +kernel, ?_⟩
  rw [findDevice, search_eq, report_fst]
  decide +kernel

end Search

end Usbreset

end Usbutils
