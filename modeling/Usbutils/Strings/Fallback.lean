import Usbutils.Strings.Sanitize
import Usbutils.Tree.SysfsName

/-! The names of vendor and product in `names.c`: the hardware database first, then the sysfs
attributes, with `[unknown]` as the default. -/
namespace Usbutils
open CString

abbrev HwdbValue := {value : List UInt8 // 0 ∉ value}

abbrev Hwdb := String → List (String × HwdbValue)

def hwdbGet (hwdb : Hwdb) (modalias key : String) : Option HwdbValue :=
  ((hwdb modalias).find? fun entry => entry.1 == key).map Prod.snd

def hexId (id : UInt16) : String :=
  String.ofList (((Nat.toDigits 16 id.toNat).map Char.toUpper).leftpad 4 '0')

def namesVendor (hwdb : Hwdb) (vendorid : UInt16) : Option HwdbValue :=
  hwdbGet hwdb (snprintf 64 ("usb:v" ++ hexId vendorid ++ "*")) "ID_VENDOR_FROM_DATABASE"

def namesProduct (hwdb : Hwdb) (vendorid productid : UInt16) : Option HwdbValue :=
  hwdbGet hwdb (snprintf 64 ("usb:v" ++ hexId vendorid ++ "p" ++ hexId productid ++ "*"))
    "ID_MODEL_FROM_DATABASE"

/-- `snprintf(buf, size, "%s", s)` for the size of the buffer: its result and the buffer. -/
def snprintfInto (buf : Buffer) (s : List UInt8) : Nat × Buffer :=
  (s.length, if buf = [] then []
    else s.take (buf.length - 1) ++ 0 :: buf.drop ((s.take (buf.length - 1)).length + 1))

/-- What `get_vendor_string` and `get_product_string` do with the entry `cp` of the database. -/
def getEntryString (cp : Option HwdbValue) (buf : Buffer) :
    Option (Nat × Buffer) :=
  if buf.length < 1 then some (0, buf)
  else do
    let buf ← store buf 0 0
    match cp with
    | none => some (0, buf)
    | some cp => some (snprintfInto buf cp.val)

def getVendorString (hwdb : Hwdb) (buf : Buffer) (vid : UInt16) : Option (Nat × Buffer) :=
  getEntryString (namesVendor hwdb vid) buf

def getProductString (hwdb : Hwdb) (buf : Buffer) (vid pid : UInt16) : Option (Nat × Buffer) :=
  getEntryString (namesProduct hwdb vid pid) buf

/-- The two fields that are used of `struct libusb_device_descriptor`. -/
structure DeviceIds where
  idVendor : UInt16
  idProduct : UInt16

def unknownName : List UInt8 := [0x5b, 0x75, 0x6e, 0x6b, 0x6e, 0x6f, 0x77, 0x6e, 0x5d]

/-- `if (!have) read_sysfs_prop(buf, size, sysfs_name, propname);` -/
def orSysfsProp (sysfs : String → SysfsFile) (haveName : Nat) (buf : Buffer)
    (sysfsName propname : String) : Option Buffer :=
  if haveName ≠ 0 then some buf else (readSysfsProp sysfs buf sysfsName propname).map Prod.snd

def getVendorProductWithFallback (hwdb : Hwdb) (sysfs : String → SysfsFile) (dev : LibusbDevice)
    (desc : DeviceIds) (vendor product : Buffer) : Option (Buffer × Buffer) := do
  let vendor := (snprintfInto vendor unknownName).2
  let product := (snprintfInto product unknownName).2
  let (haveVendor, vendor) ← getVendorString hwdb vendor desc.idVendor
  let (haveProduct, product) ← getProductString hwdb product desc.idVendor desc.idProduct
  (if haveVendor ≠ 0 ∧ haveProduct ≠ 0 then some (vendor, product)
  else
    let (len, sysfsName) := getSysfsName pathMax dev
    if len ≥ 0 then do
      let vendor ← orSysfsProp sysfs haveVendor vendor (String.ofList sysfsName) "manufacturer"
      let product ← orSysfsProp sysfs haveProduct product (String.ofList sysfsName) "product"
      return (vendor, product)
    else some (vendor, product))

/-- Where one of the two names can come from: the entry of the database and the attribute, which
is missing if the name of the device in sysfs cannot be formed. -/
structure NameSources where
  database : Option HwdbValue
  sysfsProp : SysfsFile

def NameSources.entry (s : NameSources) : List UInt8 := (s.database.map Subtype.val).getD []

def NameSources.Available (s : NameSources) (size : Nat) : Prop :=
  s.entry ≠ [] ∨ s.sysfsProp.string size ≠ []

/-- The name that a buffer of some size should get. -/
def NameSources.name (s : NameSources) (size : Nat) : List UInt8 :=
  if s.entry ≠ [] then s.entry.take (size - 1)
  else if s.sysfsProp.string size ≠ [] then s.sysfsProp.string size
  else unknownName.take (size - 1)

def NameSources.found (s : NameSources) (size : Nat) : List UInt8 :=
  if s.entry ≠ [] then s.entry.take (size - 1) else s.sysfsProp.string size

def deviceProp (sysfs : String → SysfsFile) (dev : LibusbDevice) (propname : String) :
    SysfsFile :=
  if (getSysfsName pathMax dev).1 ≥ 0 then
    sysfs (snprintf pathMax ("/sys/bus/usb/devices/" ++
      String.ofList (getSysfsName pathMax dev).2 ++ "/" ++ propname))
  else .missing

def vendorSources (hwdb : Hwdb) (sysfs : String → SysfsFile) (dev : LibusbDevice)
    (desc : DeviceIds) : NameSources where
  database := namesVendor hwdb desc.idVendor
  sysfsProp := deviceProp sysfs dev "manufacturer"

def productSources (hwdb : Hwdb) (sysfs : String → SysfsFile) (dev : LibusbDevice)
    (desc : DeviceIds) : NameSources where
  database := namesProduct hwdb desc.idVendor desc.idProduct
  sysfsProp := deviceProp sysfs dev "product"

section Names

variable {s : NameSources} {size : Nat} {buf : Buffer}

theorem snprintfInto_run {text : List UInt8} (htext : 0 ∉ text) (hbuf : buf ≠ []) :
    (snprintfInto buf text).2.length = buf.length ∧
      contents (snprintfInto buf text).2 = text.take (buf.length - 1) := by
  have hpos := List.length_pos_iff.mpr hbuf
  rw [snprintfInto, if_neg hbuf]
  constructor
  · simp
    omega
  · exact contents_append fun h => htext (List.mem_of_mem_take h)

theorem getEntryString_run (s : NameSources) (hbuf : buf ≠ []) :
    ∃ buf', getEntryString s.database buf = some (s.entry.length, buf') ∧
      buf'.length = buf.length ∧ contents buf' = s.entry.take (buf.length - 1) := by
  have hpos := List.length_pos_iff.mpr hbuf
  have hstore : store buf 0 0 = some (buf.set 0 0) := if_pos hpos
  rw [getEntryString, if_neg (Nat.not_lt.mpr hpos), hstore, NameSources.entry]
  cases s.database with
  | none =>
      obtain ⟨first, rest, rfl⟩ := List.exists_cons_of_ne_nil hbuf
      exact ⟨0 :: rest, rfl, rfl, (List.take_nil ..).symm⟩
  | some cp =>
      have hset : buf.set 0 0 ≠ [] := by
        rw [← List.length_pos_iff, List.length_set]
        exact hpos
      have hprint := snprintfInto_run cp.property hset
      rw [List.length_set] at hprint
      exact ⟨_, rfl, hprint⟩

theorem defaultEntry_run (s : NameSources) (hbuf : buf ≠ []) :
    ∃ buf', getEntryString s.database (snprintfInto buf unknownName).2 =
        some (s.entry.length, buf') ∧
      buf'.length = buf.length ∧ contents buf' = s.entry.take (buf.length - 1) := by
  have hlength := (@snprintfInto_run buf unknownName (by decide) hbuf).1
  have hne := List.ne_nil_of_length_pos (hlength ▸ List.length_pos_iff.mpr hbuf)
  rw [← hlength]
  exact getEntryString_run s hne

theorem orSysfsProp_run (sysfs : String → SysfsFile) (hbuf : buf ≠ []) (sysfsName propname : String)
    (hentry : contents buf = s.entry.take (buf.length - 1))
    (hprop : s.sysfsProp =
      sysfs (snprintf pathMax ("/sys/bus/usb/devices/" ++ sysfsName ++ "/" ++ propname))) :
    ∃ buf', orSysfsProp sysfs s.entry.length buf sysfsName propname = some buf' ∧
      contents buf' = s.found buf.length := by
  unfold orSysfsProp NameSources.found
  by_cases hempty : s.entry = []
  · obtain ⟨n, buf', hrun, -, -, hcontents⟩ := readSysfsProp_run sysfs hbuf sysfsName propname
    rw [hempty, if_neg (by simp), if_neg (by simp), hrun, hprop]
    exact ⟨buf', rfl, hcontents⟩
  · rw [if_pos (mt List.length_eq_zero_iff.mp hempty), if_pos hempty]
    exact ⟨buf, rfl, hentry⟩

theorem found_of_entry (h : s.entry ≠ []) : s.found size = s.entry.take (size - 1) := if_pos h

theorem found_of_missing (h : s.sysfsProp = .missing) : s.found size = s.entry.take (size - 1) := by
  unfold NameSources.found
  split
  · rfl
  · next hempty =>
      rw [h, Decidable.not_not.mp hempty, List.take_nil]
      rfl

theorem string_ne_nil {file : SysfsFile} (h : file.string size ≠ []) : 2 ≤ size := by
  cases file with
  | missing => exact absurd rfl h
  | unreadable => exact absurd rfl h
  | content bytes =>
      by_contra hsmall
      have hzero : size - 1 = 0 := by omega
      apply h
      rw [SysfsFile.string, hzero, List.take_zero]
      rfl

theorem take_ne_nil {text : List UInt8} (htext : text ≠ []) :
    text.take (size - 1) ≠ [] ↔ 2 ≤ size := by
  rw [ne_eq, List.take_eq_nil_iff, not_or]
  constructor
  · intro h
    have := h.1
    omega
  · exact fun h => ⟨by omega, htext⟩

/-- The name that is found is the one it should be, and is one, exactly if there is a source. -/
theorem found_iff (s : NameSources) (size : Nat) :
    s.found size = s.name size ∧ s.found size ≠ [] ↔ 2 ≤ size ∧ s.Available size := by
  unfold NameSources.found NameSources.name NameSources.Available
  by_cases hentry : s.entry = []
  · rw [if_neg (not_not_intro hentry), if_neg (not_not_intro hentry)]
    by_cases hstring : s.sysfsProp.string size = []
    · simp [hentry, hstring]
    · rw [if_pos hstring]
      exact ⟨fun h => ⟨string_ne_nil hstring, Or.inr hstring⟩, fun h => ⟨rfl, hstring⟩⟩
  · rw [if_pos hentry, if_pos hentry, take_ne_nil hentry]
    exact ⟨fun h => ⟨h.2, Or.inl hentry⟩, fun h => ⟨rfl, h.1⟩⟩

end Names

theorem getVendorProductWithFallback_run (hwdb : Hwdb) (sysfs : String → SysfsFile)
    (dev : LibusbDevice) (desc : DeviceIds) {vendor product : Buffer} (hvendor : vendor ≠ [])
    (hproduct : product ≠ []) :
    ∃ vendor' product',
      getVendorProductWithFallback hwdb sysfs dev desc vendor product = some (vendor', product') ∧
      contents vendor' = (vendorSources hwdb sysfs dev desc).found vendor.length ∧
      contents product' = (productSources hwdb sysfs dev desc).found product.length := by
  obtain ⟨v, hv, hlength, hname⟩ := defaultEntry_run (vendorSources hwdb sysfs dev desc) hvendor
  obtain ⟨p, hp, hlength', hname'⟩ := defaultEntry_run (productSources hwdb sysfs dev desc) hproduct
  rw [getVendorProductWithFallback]
  have hv : getVendorString hwdb (snprintfInto vendor unknownName).2 desc.idVendor = some _ := hv
  have hp : getProductString hwdb (snprintfInto product unknownName).2 desc.idVendor
    desc.idProduct = some _ := hp
  simp only [hv, hp, Option.bind_eq_bind, Option.bind_some]
  by_cases hboth : (vendorSources hwdb sysfs dev desc).entry.length ≠ 0 ∧
      (productSources hwdb sysfs dev desc).entry.length ≠ 0
  · refine ⟨v, p, if_pos hboth, ?_, ?_⟩
    · rw [found_of_entry (mt List.length_eq_zero_iff.mpr hboth.1), hname]
    · rw [found_of_entry (mt List.length_eq_zero_iff.mpr hboth.2), hname']
  · rw [if_neg hboth]
    by_cases hformed : (getSysfsName pathMax dev).1 ≥ 0
    · have hprop (propname : String) : deviceProp sysfs dev propname =
          sysfs (snprintf pathMax ("/sys/bus/usb/devices/" ++
            String.ofList (getSysfsName pathMax dev).2 ++ "/" ++ propname)) := if_pos hformed
      obtain ⟨vendor', hrun, hfound⟩ := orSysfsProp_run sysfs
        (List.ne_nil_of_length_pos (hlength ▸ List.length_pos_iff.mpr hvendor)) _ _
        (hlength ▸ hname) (hprop "manufacturer")
      obtain ⟨product', hrun', hfound'⟩ := orSysfsProp_run sysfs
        (List.ne_nil_of_length_pos (hlength' ▸ List.length_pos_iff.mpr hproduct)) _ _
        (hlength' ▸ hname') (hprop "product")
      rw [if_pos hformed, hrun, Option.bind_some, hrun']
      exact ⟨vendor', product', rfl, hlength ▸ hfound, hlength' ▸ hfound'⟩
    · have hprop (propname : String) : deviceProp sysfs dev propname = .missing := if_neg hformed
      refine ⟨v, p, if_neg hformed, ?_, ?_⟩
      · rw [found_of_missing (hprop "manufacturer"), hname]
      · rw [found_of_missing (hprop "product"), hname']

/-- Each of the two strings is found in its own sources alone, and it is the database name or else
the sysfs attribute or else `[unknown]`, and not empty, exactly if one of the first two is there. -/
theorem getVendorProductWithFallback_iff (hwdb : Hwdb) (sysfs : String → SysfsFile)
    (dev : LibusbDevice) (desc : DeviceIds) {vendor product : Buffer} (hvendor : vendor ≠ [])
    (hproduct : product ≠ []) :
    ∃ vendor' product',
      getVendorProductWithFallback hwdb sysfs dev desc vendor product = some (vendor', product') ∧
      contents vendor' = (vendorSources hwdb sysfs dev desc).found vendor.length ∧
      contents product' = (productSources hwdb sysfs dev desc).found product.length ∧
      (contents vendor' = (vendorSources hwdb sysfs dev desc).name vendor.length ∧
        contents vendor' ≠ [] ↔
          2 ≤ vendor.length ∧ (vendorSources hwdb sysfs dev desc).Available vendor.length) ∧
      (contents product' = (productSources hwdb sysfs dev desc).name product.length ∧
        contents product' ≠ [] ↔
          2 ≤ product.length ∧ (productSources hwdb sysfs dev desc).Available product.length) := by
  obtain ⟨vendor', product', hrun, hfound, hfound'⟩ :=
    getVendorProductWithFallback_run hwdb sysfs dev desc hvendor hproduct
  refine ⟨vendor', product', hrun, hfound, hfound', ?_, ?_⟩
  · rw [hfound]
    exact found_iff _ _
  · rw [hfound']
    exact found_iff _ _

def oneVendor : Hwdb := fun _ => [("ID_VENDOR_FROM_DATABASE", ⟨[0x41, 0x43, 0x4d, 0x45], by decide⟩)]

theorem getVendorProductWithFallback_oneVendor : ∃ vendor' product',
    getVendorProductWithFallback oneVendor (fun _ => .missing) ⟨1, some [2]⟩ ⟨0x1234, 0x5678⟩
      (List.replicate 128 0) (List.replicate 128 0) = some (vendor', product') ∧
    contents vendor' = [0x41, 0x43, 0x4d, 0x45] := by
  obtain ⟨vendor', product', hrun, hfound, -⟩ := getVendorProductWithFallback_iff oneVendor
    (fun _ => .missing) ⟨1, some [2]⟩ ⟨0x1234, 0x5678⟩
    (show List.replicate 128 0 ≠ [] by decide) (show List.replicate 128 0 ≠ [] by decide)
  exact ⟨vendor', product', hrun, hfound.trans (by decide +kernel)⟩

/-- Without any source the names should be `[unknown]`, and they are empty. -/
theorem getVendorProductWithFallback_noSources :
    (vendorSources (fun _ => []) (fun _ => .missing) ⟨1, some [2]⟩ ⟨0x1234, 0x5678⟩).name 128 =
      unknownName ∧
    ¬∃ vendor' product',
      getVendorProductWithFallback (fun _ => []) (fun _ => .missing) ⟨1, some [2]⟩
        ⟨0x1234, 0x5678⟩ (List.replicate 128 0) (List.replicate 128 0) = some (vendor', product') ∧
      contents vendor' = unknownName := by
  refine ⟨by decide, ?_⟩
  rintro ⟨vendor', product', hrun, hname⟩
  have hempty : (getVendorProductWithFallback (fun _ => []) (fun _ => .missing) ⟨1, some [2]⟩
      ⟨0x1234, 0x5678⟩ (List.replicate 128 0) (List.replicate 128 0)).map
        (fun buffers => contents buffers.1) = some [] := by
    decide +kernel
  rw [hrun, Option.map_some, hname] at hempty
  cases hempty

end Usbutils
