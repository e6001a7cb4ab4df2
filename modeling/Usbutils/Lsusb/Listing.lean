import Usbutils.Lib.Printf
import Usbutils.Lsusb.DumpDevice
import Usbutils.Lsusb.ListDevices

/-! What `lsusb` writes to its standard output for the devices, and the numbers in it, which can be
given back with `-s` and `-d`. -/
namespace Usbutils
open Text CString Bubble

def Arg.value : Arg → Printf.Value
  | .num n => .nat n
  | .int n => .int n
  | .str text => .str (text.getD "(null)").toList

def Effect.text : Effect → Name
  | .print format args => Printf.printf format.toList (args.map Arg.value)
  | _ => []

def stdoutOf {δ : Type} (listed : List (δ × List Effect)) : Name :=
  listed.flatMap fun entry => entry.2.flatMap Effect.text

def selectArgument (line : Name) : Option Name :=
  match line.splitOn ' ' with
  | _ :: bus :: _ :: devnum :: _ => some (bus ++ ':' :: devnum.takeWhile (· ≠ ':'))
  | _ => none

def idsArgument (line : Name) : Option Name :=
  match line.splitOn ' ' with
  | _ :: _ :: _ :: _ :: _ :: ids :: _ => some ids
  | _ => none

def decimal3 (n : Nat) : Name := (Printf.numeral 'u' n).leftpad 3 '0'

def hex4 (n : Nat) : Name := (Printf.numeral 'x' n).leftpad 4 '0'

def listLine (bnum dnum vendor product : Nat) (names : Name) : Name :=
  "Bus ".toList ++ decimal3 bnum ++ (" Device ".toList ++ decimal3 dnum ++ (": ID ".toList ++
    hex4 vendor ++ (":".toList ++ hex4 product ++ (" ".toList ++ names))))

section Lines

variable (bnum dnum vendor product : Nat) (names : Name)

theorem printf_device (vendorName productName : String) :
    Effect.text (.print "Bus %03u Device %03u: ID %04x:%04x %s %s\n" [.num bnum, .num dnum,
      .num vendor, .num product, .str (some vendorName), .str (some productName)]) =
    listLine bnum dnum vendor product
      (vendorName.toList ++ ' ' :: productName.toList) ++ ['\n'] := by
  have hformat : Printf.parse none "Bus %03u Device %03u: ID %04x:%04x %s %s\n".toList =
      "Bus ".toList.map .plain ++ .directive ⟨false, true, 3, 'u'⟩ ::
      (" Device ".toList.map .plain ++ .directive ⟨false, true, 3, 'u'⟩ ::
      (": ID ".toList.map .plain ++ .directive ⟨false, true, 4, 'x'⟩ ::
      (":".toList.map .plain ++ .directive ⟨false, true, 4, 'x'⟩ ::
      (" ".toList.map .plain ++ .directive ⟨false, false, 0, 's'⟩ ::
      (" ".toList.map .plain ++ .directive ⟨false, false, 0, 's'⟩ ::
        ("\n".toList.map .plain ++ [])))))) := by decide +kernel
  rw [Effect.text, Printf.printf, hformat]
  simp only [List.map_cons, List.map_nil, Arg.value, Printf.render_plain,
    Printf.text_zeros, Printf.text_plain, Option.getD_some, Printf.render]
  simp [listLine, decimal3, hex4]

theorem decimal3_numeral : IsNumeral 10 (decimal3 bnum) bnum :=
  Printf.isNumeral_leftpad (by decide) (by decide) bnum 3

theorem hex4_numeral : IsNumeral 16 (hex4 vendor) vendor :=
  Printf.isNumeral_leftpad (by decide) (by decide) vendor 4

theorem decimal3_part : IsPart 10 (decimal3 bnum) (some bnum) := decimal3_numeral bnum

theorem hex4_part : IsPart 16 (hex4 vendor) (some vendor) := hex4_numeral vendor

theorem notMem_numeral {base n : Nat} {text : Name} {c : Char} (h : IsNumeral base text n)
    (hbase : base ≤ 36) (hc : digitValue c = 36) : c ∉ text := by
  have hdigit {digits : Name} (hall : ∀ d ∈ digits, isDigit base d = true) : c ∉ digits := by
    intro hmem
    have hlt := of_decide_eq_true (hall c hmem)
    omega
  cases h with
  | plain hne hall => exact hdigit hall
  | @marked x digits hbase hx hne hall =>
      have hzero : c ≠ '0' := by
        rintro rfl
        cases hc
      have hmark : c ≠ x := by
        rintro rfl
        rcases hx with rfl | rfl <;> cases hc
      simp [hzero, hmark, hdigit hall]

/-- The numbers are the second, the fourth and the sixth word of a line. -/
theorem splitOn_listLine : (listLine bnum dnum vendor product names).splitOn ' ' =
    "Bus".toList :: decimal3 bnum :: "Device".toList :: (decimal3 dnum ++ [':']) ::
      "ID".toList :: (hex4 vendor ++ ':' :: hex4 product) :: names.splitOn ' ' := by
  have hdecimal (n : Nat) : ' ' ∉ decimal3 n :=
    notMem_numeral (decimal3_numeral n) (by decide) (by decide)
  have hhex (n : Nat) : ' ' ∉ hex4 n := notMem_numeral (hex4_numeral n) (by decide) (by decide)
  have hline : listLine bnum dnum vendor product names =
      "Bus".toList ++ ' ' :: (decimal3 bnum ++ ' ' :: ("Device".toList ++ ' ' ::
        ((decimal3 dnum ++ [':']) ++ ' ' :: ("ID".toList ++ ' ' ::
          ((hex4 vendor ++ ':' :: hex4 product) ++ ' ' :: names))))) := by
    simp [listLine]
  rw [hline, List.splitOn_append_cons_self_of_not_mem (by decide),
    List.splitOn_append_cons_self_of_not_mem (hdecimal _),
    List.splitOn_append_cons_self_of_not_mem (by decide),
    List.splitOn_append_cons_self_of_not_mem (by simp [hdecimal]),
    List.splitOn_append_cons_self_of_not_mem (by decide),
    List.splitOn_append_cons_self_of_not_mem (by simp [hhex])]

theorem selectArgument_listLine : selectArgument (listLine bnum dnum vendor product names) =
    some (decimal3 bnum ++ ':' :: decimal3 dnum) := by
  have hcolon : ':' ∉ decimal3 dnum :=
    notMem_numeral (decimal3_numeral dnum) (by decide) (by decide)
  rw [selectArgument, splitOn_listLine]
  simp only [takeWhile_colon hcolon]

theorem idsArgument_listLine : idsArgument (listLine bnum dnum vendor product names) =
    some (hex4 vendor ++ ':' :: hex4 product) := by
  rw [idsArgument, splitOn_listLine]

theorem newline_listLine (hnames : '\n' ∉ names) :
    '\n' ∉ listLine bnum dnum vendor product names := by
  have hdecimal (n : Nat) : '\n' ∉ decimal3 n :=
    notMem_numeral (decimal3_numeral n) (by decide) (by decide)
  have hhex (n : Nat) : '\n' ∉ hex4 n := notMem_numeral (hex4_numeral n) (by decide) (by decide)
  simp [listLine, hdecimal, hhex, hnames]

end Lines

def listedNames (hwdb : Hwdb) (sysfs : String → SysfsFile) (dev : LibusbDevice) (ids : DeviceIds) :
    Option (Name × Name) :=
  (getVendorProductWithFallback hwdb sysfs dev ids (zeros 128) (zeros 128)).map
    fun (vendor, product) => (bufferName vendor, bufferName product)

def Hwdb.OneLine (hwdb : Hwdb) : Prop := ∀ modalias, ∀ entry ∈ hwdb modalias, newline ∉ entry.2.val

section Names

variable {hwdb : Hwdb} {sysfs : String → SysfsFile} {dev : LibusbDevice} {ids : DeviceIds}

theorem newline_hwdbGet (h : hwdb.OneLine) {modalias key : String} {value : HwdbValue}
    (hget : hwdbGet hwdb modalias key = some value) : newline ∉ value.val := by
  obtain ⟨entry, hfind, rfl⟩ := Option.map_eq_some_iff.mp hget
  exact h modalias entry (List.mem_of_find?_eq_some hfind)

theorem newline_string (size : Nat) (file : SysfsFile) : newline ∉ file.string size := by
  cases file with
  | missing => exact List.not_mem_nil
  | unreadable => exact List.not_mem_nil
  | content bytes =>
      intro hmem
      have hclean := map_patched_clean isControl_mark.1 _ newline hmem
      exact absurd hclean (by decide)

theorem newline_found {s : NameSources} (hentry : ∀ value ∈ s.database, newline ∉ value.val)
    (size : Nat) : newline ∉ s.found size := by
  rw [NameSources.found]
  split
  · intro hmem
    have hvalue : newline ∈ s.entry := List.mem_of_mem_take hmem
    rw [NameSources.entry] at hvalue
    cases hdatabase : s.database with
    | none =>
        rw [hdatabase] at hvalue
        cases hvalue
    | some value =>
        rw [hdatabase] at hvalue
        exact hentry value hdatabase hvalue
  · exact newline_string size _

theorem newline_bufferName {buf : Buffer} (h : newline ∉ contents buf) : '\n' ∉ bufferName buf :=
  notMem_chars h

theorem newline_listedNames (h : hwdb.OneLine) {names : Name × Name}
    (hnames : listedNames hwdb sysfs dev ids = some names) : '\n' ∉ names.1 ∧ '\n' ∉ names.2 := by
  have hzeros : zeros 128 ≠ [] := by decide
  obtain ⟨vendor, product, hrun, hvendor, hproduct⟩ :=
    getVendorProductWithFallback_run hwdb sysfs dev ids hzeros hzeros
  rw [listedNames, hrun] at hnames
  obtain rfl := Option.some.inj hnames
  refine ⟨newline_bufferName ?_, newline_bufferName ?_⟩
  · rw [hvendor]
    exact newline_found (fun _ hvalue => newline_hwdbGet h hvalue) _
  · rw [hproduct]
    exact newline_found (fun _ hvalue => newline_hwdbGet h hvalue) _

end Names

section Relist

variable {δ : Type} (session : Session δ)

theorem text_shown (dev : δ) : (session.shown 0 dev).flatMap Effect.text =
    listLine (session.getBusNumber dev).toNat (session.getDeviceAddress dev).toNat
      (session.getDeviceDescriptor dev).idVendor.toNat
      (session.getDeviceDescriptor dev).idProduct.toNat
      ((session.names dev).1.toList ++ ' ' :: (session.names dev).2.toList) ++ ['\n'] := by
  rw [← printf_device]
  exact List.append_nil _

def Session.line (dev : δ) : Name :=
  listLine (session.getBusNumber dev).toNat (session.getDeviceAddress dev).toNat
    (session.getDeviceDescriptor dev).idVendor.toNat
    (session.getDeviceDescriptor dev).idProduct.toNat
    ((session.names dev).1.toList ++ ' ' :: (session.names dev).2.toList)

def Session.shownAll (devices : List δ) : List (δ × List Effect) :=
  devices.map fun dev => (dev, session.shown 0 dev)

theorem lines_shownAll {devices : List δ} (h : ∀ dev ∈ devices, '\n' ∉ session.line dev) :
    lines '\n' (stdoutOf (session.shownAll devices)) = devices.map session.line := by
  have htext : stdoutOf (session.shownAll devices) =
      (devices.map session.line).flatMap (· ++ ['\n']) := by
    rw [stdoutOf, Session.shownAll, List.flatMap_map, List.flatMap_map]
    simp only [text_shown, Session.line]
  rw [htext, ← List.append_nil ((devices.map session.line).flatMap _),
    lines_flatMap (List.forall_mem_map.mpr h), lines_nil, List.append_nil]

theorem main_arguments {numbers : Numbers} {options : List CommandOption}
    (hread : readOptions options {} = some (numbers.arguments 0)) {devices : List δ}
    (hdevices : session.getDeviceList = .ok devices) (hinit : session.libusbInit = 0) :
    main session options false =
      some (session.listed numbers 0 (byKey session.key devices) 1) := by
  rw [main, hread]
  simp only [Numbers.arguments, ne_eq, not_true_eq_false, Bool.false_eq_true, or_self, if_false,
    hinit, listDevices, hdevices, sortDeviceList_eq]
  exact congrArg some (listLoop_eq session numbers 0 _ 1)

theorem main_numbers (numbers : Numbers) (hharmless : numbers.Harmless)
    {options : List CommandOption} (hread : readOptions options {} = some (numbers.arguments 0))
    {devices : List δ} (hdevices : session.getDeviceList = .ok devices)
    (hinit : session.libusbInit = 0) {same : δ → Bool}
    (hsame : ∀ other, numbers.Wanted session.toLibusb other ↔ same other = true) {dev : δ}
    (hdev : dev ∈ byKey session.key devices) (hself : same dev = true) :
    main session options false =
      some (0, session.shownAll ((byKey session.key devices).filter same)) := by
  have hfilter : (byKey session.key devices).filter (numbers.Accepted session.toLibusb ·) =
      (byKey session.key devices).filter same := by
    apply List.filter_congr
    intro other _
    rw [Bool.eq_iff_iff, decide_eq_true_iff, accepted_iff_wanted numbers hharmless, hsame]
  have hne : (byKey session.key devices).filter same ≠ [] :=
    List.ne_nil_of_mem (List.mem_filter.mpr ⟨hdev, hself⟩)
  rw [main_arguments session hread hdevices hinit, Session.listed, hfilter, if_neg hne,
    Session.shownAll]

/-- The numbers in a line of the list, given back, list the devices with these numbers. -/
structure Session.Relists (list : List δ) (line : Name) (dev : δ) : Prop where
  select : ∃ optarg, selectArgument line = some optarg ∧
    main session [.select optarg] false =
      some (0, session.shownAll (list.filter fun other => session.key other = session.key dev))
  ids : ∃ optarg, idsArgument line = some optarg ∧
    main session [.ids optarg] false = some (0, session.shownAll (list.filter fun other =>
      (session.getDeviceDescriptor other).idVendor = (session.getDeviceDescriptor dev).idVendor ∧
      (session.getDeviceDescriptor other).idProduct = (session.getDeviceDescriptor dev).idProduct))

variable {session}

theorem relists {devices : List δ} (hdevices : session.getDeviceList = .ok devices)
    (hinit : session.libusbInit = 0) {dev : δ} (hdev : dev ∈ byKey session.key devices) :
    session.Relists (byKey session.key devices) (session.line dev) dev where
  select := by
    have hbus := (session.getBusNumber dev).toNat_lt
    have hdevnum := (session.getDeviceAddress dev).toNat_lt
    refine ⟨_, selectArgument_listLine _ _ _ _ _, main_numbers session
      ⟨some (session.getBusNumber dev).toNat, some (session.getDeviceAddress dev).toNat, none, none⟩
      (Or.inl ?_) ?_ hdevices hinit (fun other => ?_) hdev (decide_eq_true rfl)⟩
    · rw [forall_limits]
      simp only [Option.mem_def, Option.some.injEq, forall_eq', reduceCtorEq, false_imp_iff,
        implies_true, and_true]
      omega
    · rw [readOptions, select_given (.pair (decimal3_part _) (decimal3_part _)) rfl rfl]
      rfl
    · simp [Numbers.Wanted, Libusb.key]
  ids := by
    have hvendor := (session.getDeviceDescriptor dev).idVendor.toNat_lt
    have hproduct := (session.getDeviceDescriptor dev).idProduct.toNat_lt
    refine ⟨_, idsArgument_listLine _ _ _ _ _, main_numbers session
      ⟨none, none, some (session.getDeviceDescriptor dev).idVendor.toNat,
        some (session.getDeviceDescriptor dev).idProduct.toNat⟩
      (Or.inl ?_) ?_ hdevices hinit (fun other => ?_) hdev (decide_eq_true ⟨rfl, rfl⟩)⟩
    · rw [forall_limits]
      simp only [Option.mem_def, Option.some.injEq, forall_eq', reduceCtorEq, false_imp_iff,
        implies_true, true_and]
      omega
    · rw [readOptions, ids_given (.pair (hex4_part _) (hex4_part _)) rfl rfl]
      rfl
    · simp [Numbers.Wanted, UInt16.toNat_inj]

/-- The output is a line for each device, in ascending order, and the numbers in the line of a
device are arguments with which the devices that have these numbers are listed. -/
theorem main_relists {devices : List δ} (hdevices : session.getDeviceList = .ok devices)
    (hinit : session.libusbInit = 0) {hwdb : Hwdb} (hhwdb : hwdb.OneLine)
    {sysfs : String → SysfsFile} {ports : δ → LibusbDevice}
    (hnames : ∀ dev ∈ devices,
      listedNames hwdb sysfs (ports dev) (session.getDeviceDescriptor dev) =
        some ((session.names dev).1.toList, (session.names dev).2.toList)) :
    ∃ list, list.Perm devices ∧ list.Pairwise (fun dev next => session.key dev ≤ session.key next) ∧
      main session [] false = some (if devices = [] then 1 else 0, session.shownAll list) ∧
      List.Forall₂ (session.Relists list) (lines '\n' (stdoutOf (session.shownAll list))) list := by
  have hperm := byKey_perm session.key devices
  refine ⟨byKey session.key devices, hperm, pairwise_byKey session.key devices, ?_, ?_⟩
  · have hread : readOptions [] {} = some (Numbers.arguments ⟨none, none, none, none⟩ 0) := rfl
    have hall : (byKey session.key devices).filter
        (Numbers.Accepted ⟨none, none, none, none⟩ session.toLibusb ·) =
          byKey session.key devices := by
      refine List.filter_eq_self.mpr fun dev _ => decide_eq_true ?_
      exact ⟨Or.inl rfl, Or.inl rfl, Or.inl rfl, Or.inl rfl⟩
    have hempty : byKey session.key devices = [] ↔ devices = [] := by
      rw [← List.perm_nil, hperm.congr_left, List.perm_nil]
    rw [main_arguments session hread hdevices hinit, Session.listed, hall, Session.shownAll]
    simp only [hempty]
  · have hlines : ∀ dev ∈ byKey session.key devices, '\n' ∉ session.line dev := by
      intro dev hdev
      obtain ⟨hvendor, hproduct⟩ :=
        newline_listedNames hhwdb (hnames dev (hperm.mem_iff.mp hdev))
      exact newline_listLine _ _ _ _ _ (by simp [hvendor, hproduct])
    rw [lines_shownAll session hlines, List.forall₂_map_left_iff, List.forall₂_same]
    exact fun dev hdev => relists hdevices hinit hdev

def hubAndKeyboard : Session Bool where
  getBusNumber _ := 1
  getDeviceAddress keyboard := if keyboard then 5 else 1
  getDeviceDescriptor keyboard := if keyboard then ⟨0x04f2, 0x0112⟩ else ⟨0x1d6b, 2⟩
  getDeviceList := .ok [true, false]
  names _ := ("ACME", "")
  dumpdev _ := []
  libusbInit := 0
  lsusbT := 0
  dumpOneDevice _ := 0

theorem main_relists_hubAndKeyboard : ∃ list, list.Perm [true, false] ∧
    main hubAndKeyboard [] false = some (0, hubAndKeyboard.shownAll list) ∧
    List.Forall₂ (hubAndKeyboard.Relists list) (lines '\n' (stdoutOf (hubAndKeyboard.shownAll list)))
      list := by
  have hhwdb : Hwdb.OneLine oneVendor := by
    intro modalias entry hentry
    rw [List.mem_singleton.mp hentry]
    decide
  have hnames : ∀ keyboard ∈ [true, false], listedNames oneVendor (fun _ => .missing) ⟨1, some [2]⟩
      (hubAndKeyboard.getDeviceDescriptor keyboard) = some ("ACME".toList, "".toList) := by
    decide +kernel
  obtain ⟨list, hperm, -, hmain, hlines⟩ :=
    @main_relists Bool hubAndKeyboard _ rfl rfl _ hhwdb _ (fun _ => ⟨1, some [2]⟩) hnames
  exact ⟨list, hperm, hmain, hlines⟩

end Relist

end Usbutils
