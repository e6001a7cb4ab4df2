import Mathlib.Data.List.Permutation
import Usbutils.Effect
import Usbutils.Lib.Text
import Usbutils.Lsusb.SortDevices
import Usbutils.Usbreset.Devices

/-! `main` of `lsusb.c` and `list_devices`: the options `-s` and `-d`, and the devices that are
listed for them. -/
namespace Usbutils
open Bubble Text

inductive CommandOption where
  | version
  | verbose
  | help
  | tree
  | select (optarg : Name)
  | ids (optarg : Name)
  | device (optarg : Name)
  /-- `-P` and `-p` too have no case of their own. -/
  | other
  deriving DecidableEq, Repr

structure Arguments where
  err : Nat := 0
  verblevel : Nat := 0
  help : Bool := false
  treemode : Bool := false
  bus : Int := -1
  devnum : Int := -1
  vendor : Int := -1
  product : Int := -1
  devdump : Option Name := none

/-- `if (*text) number = strtoul(text, NULL, base);` -/
def numberArgument (strtoul : Name → Nat) (text : Name) (number : Int) : Int :=
  if text ≠ [] then toInt (strtoul text) else number

def Arguments.select (a : Arguments) (optarg : Name) : Arguments :=
  if ':' ∈ optarg then { a with
    bus := numberArgument (fun s => (strtoul s).1) (optarg.takeWhile (· ≠ ':')) a.bus
    devnum := numberArgument (fun s => (strtoul s).1) (afterFirst ':' optarg) a.devnum }
  else { a with devnum := numberArgument (fun s => (strtoul s).1) optarg a.devnum }

def Arguments.ids (a : Arguments) (optarg : Name) : Arguments :=
  if ':' ∈ optarg then { a with
    vendor := numberArgument Usbreset.strtoulHex (optarg.takeWhile (· ≠ ':')) a.vendor
    product := numberArgument Usbreset.strtoulHex (afterFirst ':' optarg) a.product }
  else { a with err := a.err + 1 }

/-- The loop over the options; `none` for a version that is printed. -/
def readOptions : List CommandOption → Arguments → Option Arguments
  | [], a => some a
  | .version :: _, _ => none
  | .verbose :: rest, a => readOptions rest { a with verblevel := a.verblevel + 1 }
  | .help :: rest, a => readOptions rest { a with help := true }
  | .tree :: rest, a => readOptions rest { a with treemode := true }
  | .select optarg :: rest, a => readOptions rest (a.select optarg)
  | .ids optarg :: rest, a => readOptions rest (a.ids optarg)
  | .device optarg :: rest, a => readOptions rest { a with devdump := some optarg }
  | .other :: rest, a => readOptions rest { a with err := a.err + 1 }

/-- What the program has from libusb and from the other functions: the devices or an error, the
names of a device and its dump, and the other modes of the program. -/
structure Session (δ : Type) extends Libusb δ where
  getDeviceList : Except Int (List δ)
  names : δ → String × String
  dumpdev : δ → List Effect
  libusbInit : Int
  lsusbT : Int
  dumpOneDevice : Name → Int

section Program

variable {δ : Type} (session : Session δ)

def Session.shown (verblevel : Nat) (dev : δ) : List Effect :=
  let desc := session.getDeviceDescriptor dev
  (if verblevel > 0 then [.print "\n" []] else []) ++
    .print "Bus %03u Device %03u: ID %04x:%04x %s %s\n"
      [.num (session.getBusNumber dev).toNat, .num (session.getDeviceAddress dev).toNat,
        .num desc.idVendor.toNat, .num desc.idProduct.toNat,
        .str (some (session.names dev).1), .str (some (session.names dev).2)] ::
    if verblevel > 0 then session.dumpdev dev else []

/-- The loop over the devices: the status, and what is printed for each that is not skipped. -/
def listLoop (busnum devnum vendorid productid : Int) (verblevel : Nat) :
    List δ → Int → Int × List (δ × List Effect)
  | [], status => (status, [])
  | dev :: rest, status =>
      let bnum := (session.getBusNumber dev).toNat
      let dnum := (session.getDeviceAddress dev).toNat
      let desc := session.getDeviceDescriptor dev
      if (busnum ≠ -1 ∧ busnum ≠ bnum) ∨ (devnum ≠ -1 ∧ devnum ≠ dnum) then
        listLoop busnum devnum vendorid productid verblevel rest status
      else if (vendorid ≠ -1 ∧ vendorid ≠ desc.idVendor.toNat) ∨
          (productid ≠ -1 ∧ productid ≠ desc.idProduct.toNat) then
        listLoop busnum devnum vendorid productid verblevel rest status
      else
        let (status, output) := listLoop busnum devnum vendorid productid verblevel rest 0
        (status, (dev, session.shown verblevel dev) :: output)

def listDevices (busnum devnum vendorid productid : Int) (verblevel : Nat) :
    Option (Int × List (δ × List Effect)) :=
  match session.getDeviceList with
  | .error _ => some (1, [])
  | .ok list => do
      let list ← session.toLibusb.sortDeviceList list
      return listLoop session busnum devnum vendorid productid verblevel list 1

/-- `main`; `operands` says whether there are arguments behind the options. -/
def main (options : List CommandOption) (operands : Bool) :
    Option (Int × List (δ × List Effect)) :=
  match readOptions options {} with
  | none => some (0, [])
  | some a =>
      if a.err ≠ 0 ∨ operands ∨ a.help then some (if a.help ∧ a.err = 0 then 0 else 1, [])
      else if a.treemode then some (session.lsusbT, [])
      else if session.libusbInit ≠ 0 then some (1, [])
      else
        match a.devdump with
        | some path => some (session.dumpOneDevice path, [])
        | none => listDevices session a.bus a.devnum a.vendor a.product a.verblevel

end Program

def IsPart (base : Nat) (text : Name) : Option Nat → Prop
  | none => text = []
  | some n => IsNumeral base text n

structure Numbers where
  bus : Option Nat
  devnum : Option Nat
  vendor : Option Nat
  product : Option Nat

inductive GivenS : Option Name → Option Nat → Option Nat → Prop where
  | none : GivenS none none none
  | pair {left right : Name} {bus devnum : Option Nat} : IsPart 10 left bus →
      IsPart 10 right devnum → GivenS (some (left ++ ':' :: right)) bus devnum
  | single {text : Name} {devnum : Option Nat} : IsPart 10 text devnum →
      GivenS (some text) none devnum

inductive GivenD : Option Name → Option Nat → Option Nat → Prop where
  | none : GivenD none none none
  | pair {left right : Name} {vendor product : Option Nat} : IsPart 16 left vendor →
      IsPart 16 right product → GivenD (some (left ++ ':' :: right)) vendor product

structure Numbers.Given (numbers : Numbers) (options : List CommandOption) (s d : Option Name) :
    Prop where
  select : GivenS s numbers.bus numbers.devnum
  ids : GivenD d numbers.vendor numbers.product
  options : (options.filter (· ≠ .verbose)).Perm
    (s.toList.map .select ++ d.toList.map .ids)

def Numbers.Wanted {δ : Type} (numbers : Numbers) (lib : Libusb δ) (dev : δ) : Prop :=
  (∀ n ∈ numbers.bus, (lib.getBusNumber dev).toNat = n) ∧
  (∀ n ∈ numbers.devnum, (lib.getDeviceAddress dev).toNat = n) ∧
  (∀ n ∈ numbers.vendor, (lib.getDeviceDescriptor dev).idVendor.toNat = n) ∧
  ∀ n ∈ numbers.product, (lib.getDeviceDescriptor dev).idProduct.toNat = n

instance {δ : Type} (numbers : Numbers) (lib : Libusb δ) (dev : δ) :
    Decidable (numbers.Wanted lib dev) :=
  inferInstanceAs (Decidable (_ ∧ _ ∧ _ ∧ _))

/-- The result for the devices that are connected is a list of the wanted ones, in ascending
order, each with its line, and success if there is one. -/
structure ListsWanted {δ : Type} (session : Session δ) (numbers : Numbers) (devices : List δ)
    (result : Int × List (δ × List Effect)) : Prop where
  listed : (result.2.map Prod.fst).Perm
    (devices.filter fun dev => numbers.Wanted session.toLibusb dev)
  ascending : (result.2.map Prod.fst).Pairwise
    fun dev devNext => session.key dev ≤ session.key devNext
  shown : ∃ verblevel, ∀ entry ∈ result.2, entry.2 = session.shown verblevel entry.1
  status : result.1 = 0 ↔ result.2 ≠ []

def converted (n : Nat) : Int := toInt (min n ulongMax)

def Numbers.limits (numbers : Numbers) : List (Option Nat × Nat) :=
  [(numbers.bus, 255), (numbers.devnum, 255), (numbers.vendor, 65535), (numbers.product, 65535)]

/-- All numbers are such that a device can have them, or one is converted to a number that no
device can have and that does not stand for any. -/
def Numbers.Harmless (numbers : Numbers) : Prop :=
  (∀ part ∈ numbers.limits, ∀ n ∈ part.1, n ≤ part.2) ∨
  ∃ part ∈ numbers.limits, ∃ n ∈ part.1, converted n ≠ -1 ∧ ∀ k ≤ part.2, converted n ≠ k

section Arguments

theorem isDigit_ten {c : Char} (h : isDigit 10 c = true) : c.isDigit = true := by
  have hlt := of_decide_eq_true h
  rw [Char.isDigit_iff_toNat]
  simp only [Char.reduceToNat]
  unfold digitValue at hlt
  split at hlt
  · assumption
  · split at hlt
    · omega
    · split at hlt <;> omega

theorem numeral_head {base : Nat} {text : Name} {n : Nat} (h : IsNumeral base text n)
    (hbase : base ≤ 36) : text.dropWhile isSpace = text ∧ text.head? ≠ some '-' ∧
      text.head? ≠ some '+' := by
  obtain ⟨c, hhead, hc⟩ := h.head hbase
  obtain ⟨rest, rfl⟩ := List.head?_eq_some_iff.mp hhead
  have hnot (d : Char) (hd : digitValue d = 36) : c ≠ d := by
    rintro rfl
    omega
  have hspace : ¬isSpace c = true := by
    simp [isSpace, hnot ' ' (by decide), hnot '\t' (by decide), hnot '\n' (by decide),
      hnot '\x0b' (by decide), hnot '\x0c' (by decide), hnot '\r' (by decide)]
  refine ⟨List.dropWhile_cons_of_neg hspace, ?_, ?_⟩
  · exact fun h => hnot '-' (by decide) (Option.some.inj h)
  · exact fun h => hnot '+' (by decide) (Option.some.inj h)

theorem strtoul_numeral {text : Name} {n : Nat} (h : IsNumeral 10 text n) :
    (strtoul text).1 = min n ulongMax := by
  obtain ⟨hbody, hminus, hplus⟩ := numeral_head h (by decide)
  cases h with
  | marked hbase => cases hbase
  | plain hne hdigits =>
      have hall : ∀ c ∈ text, c.isDigit = true := fun c hc => isDigit_ten (hdigits c hc)
      have htake : text.takeWhile Char.isDigit = text := List.takeWhile_eq_self_iff.mpr hall
      have hvalue : Nat.ofDigitChars 10 text 0 = value 10 text := by
        rw [Nat.ofDigitChars_eq_foldl, value]
        apply List.foldl_ext
        intro v c hc
        rw [digitValue, if_pos (by simpa [Char.isDigit_iff_toNat] using hall c hc)]
        rfl
      simp only [strtoul, hbody, hplus, beq_eq_false_iff_ne.mpr hminus]
      simp only [Bool.false_eq_true, or_self, if_false, htake, hne, hvalue]
      split <;> omega

theorem isHexDigit_eq (c : Char) : Usbreset.isHexDigit c = isDigit 16 c := by
  rw [Bool.eq_iff_iff, isDigit, decide_eq_true_iff, digitValue]
  simp only [Usbreset.isHexDigit, Bool.or_eq_true, Bool.and_eq_true, decide_eq_true_eq,
    Char.isDigit_iff_toNat, Char.reduceToNat]
  split
  · omega
  · split
    · omega
    · split <;> omega

theorem hexDigit_eq {c : Char} (h : isDigit 16 c = true) : Usbreset.hexDigit c = digitValue c := by
  have hlt := of_decide_eq_true h
  simp only [Usbreset.hexDigit, digitValue, Char.isDigit_iff_toNat, Char.reduceToNat] at hlt ⊢
  split
  · rfl
  · next hten =>
      rw [if_neg hten] at hlt
      split at hlt
      · next hlower => rw [if_pos hlower, if_pos hlower.1]
      · next hlower =>
          split at hlt
          · next hupper => rw [if_neg hlower, if_pos hupper, if_neg (by omega)]
          · omega

theorem skip0x_eq (s : Name) : Usbreset.skip0x s = skipMark 16 s := by
  fun_cases Usbreset.skip0x s with
  | case1 x digit rest h => simp_all [skipMark, isHexDigit_eq]
  | case2 x digit rest h => simp_all [skipMark, isHexDigit_eq]
  | case3 s h =>
      unfold skipMark
      split
      · next x digit rest => exact absurd rfl (h x digit rest)
      · rfl

theorem strtoulHex_numeral {text : Name} {n : Nat} (h : IsNumeral 16 text n) :
    Usbreset.strtoulHex text = min n ulongMax := by
  obtain ⟨hbody, hminus, hplus⟩ := numeral_head h (by decide)
  have hends : Ends 16 [] := nofun
  have hscan := h.scan hends
  rw [List.append_nil, scanNumeral] at hscan
  split at hscan
  · cases hscan
  · have hvalue : value 16 ((skipMark 16 text).takeWhile (isDigit 16)) = n :=
      (Prod.mk.inj (Option.some.inj hscan)).1
    have hhex : Usbreset.isHexDigit = isDigit 16 := funext isHexDigit_eq
    have hfold : ((skipMark 16 text).takeWhile (isDigit 16)).foldl
        (fun v c => 16 * v + Usbreset.hexDigit c) 0 = n := by
      rw [← hvalue, value]
      apply List.foldl_ext
      intro v c hc
      rw [hexDigit_eq (List.mem_takeWhile_imp hc)]
    simp only [Usbreset.strtoulHex, hbody, hplus, beq_eq_false_iff_ne.mpr hminus,
      Bool.false_eq_true, or_self, if_false, skip0x_eq, hhex, hfold]
    split <;> omega

/-- The `int` for a part that is looked for; -1 stands for any number. -/
def wildcard (part : Option Nat) : Int := (part.map converted).getD (-1)

@[simp] theorem wildcard_none : wildcard none = -1 := rfl

@[simp] theorem wildcard_some (n : Nat) : wildcard (some n) = converted n := by
  rw [wildcard, Option.map_some, Option.getD_some]

variable {base : Nat} {text left right : Name} {part : Option Nat}

theorem numberArgument_part {strtoul : Name → Nat} (hbase : base ≤ 36)
    (hstrtoul : ∀ {text : Name} {n : Nat}, IsNumeral base text n → strtoul text = min n ulongMax)
    (h : IsPart base text part) : numberArgument strtoul text (-1) = wildcard part := by
  cases part with
  | none => rw [show text = [] from h]; rfl
  | some n =>
      obtain ⟨c, hhead, -⟩ := IsNumeral.head h hbase
      have hne : text ≠ [] := by
        rintro rfl
        cases hhead
      rw [numberArgument, if_pos hne, hstrtoul h, wildcard_some, converted]

theorem colon_not_mem (hbase : base ≤ 36) (h : IsPart base text part) : ':' ∉ text := by
  intro hcolon
  have hdigit {digits : Name} (hall : ∀ c ∈ digits, isDigit base c = true) : ':' ∉ digits := by
    intro hmem
    have hlt := of_decide_eq_true (hall _ hmem)
    have hvalue : digitValue ':' = 36 := by decide
    omega
  cases part with
  | none => rw [show text = [] from h] at hcolon; cases hcolon
  | some n =>
      cases h with
      | plain hne hall => exact hdigit hall hcolon
      | marked hbase hx hne hall => rcases hx with rfl | rfl <;> simp [hdigit hall] at hcolon

theorem takeWhile_colon (h : ':' ∉ left) :
    (left ++ ':' :: right).takeWhile (· ≠ ':') = left := by
  rw [List.takeWhile_append_of_pos, List.takeWhile_cons_of_neg (by simp), List.append_nil]
  intro c hc
  exact decide_eq_true fun heq : c = ':' => h (heq ▸ hc)

theorem select_given {optarg : Name} {bus devnum : Option Nat} {a : Arguments}
    (h : GivenS (some optarg) bus devnum) (hbus : a.bus = -1) (hdevnum : a.devnum = -1) :
    a.select optarg = { a with bus := wildcard bus, devnum := wildcard devnum } := by
  have hbase : 10 ≤ 36 := by decide
  cases h with
  | pair hleft hright =>
      have hcolon := colon_not_mem hbase hleft
      rw [Arguments.select, if_pos (by simp), takeWhile_colon hcolon, afterFirst_append _ hcolon,
        hbus, hdevnum, numberArgument_part hbase strtoul_numeral hleft,
        numberArgument_part hbase strtoul_numeral hright]
  | single htext =>
      rw [Arguments.select, if_neg (colon_not_mem hbase htext), hdevnum,
        numberArgument_part hbase strtoul_numeral htext, wildcard_none, ← hbus]

theorem ids_given {optarg : Name} {vendor product : Option Nat} {a : Arguments}
    (h : GivenD (some optarg) vendor product) (hvendor : a.vendor = -1)
    (hproduct : a.product = -1) :
    a.ids optarg = { a with vendor := wildcard vendor, product := wildcard product } := by
  have hbase : 16 ≤ 36 := by decide
  cases h with
  | pair hleft hright =>
      have hcolon := colon_not_mem hbase hleft
      rw [Arguments.ids, if_pos (by simp), takeWhile_colon hcolon, afterFirst_append _ hcolon,
        hvendor, hproduct, numberArgument_part hbase strtoulHex_numeral hleft,
        numberArgument_part hbase strtoulHex_numeral hright]

theorem readOptions_verbose (options : List CommandOption) {a b : Arguments} (verblevel : Nat)
    (h : readOptions (options.filter (· ≠ .verbose)) a = some b) :
    ∃ verblevel', readOptions options { a with verblevel } =
      some { b with verblevel := verblevel' } := by
  induction options generalizing a verblevel with
  | nil => exact ⟨verblevel, by rw [← Option.some.inj h]; rfl⟩
  | cons option rest ih =>
      have hskip : option ≠ .verbose →
          readOptions (option :: rest.filter (· ≠ .verbose)) a = some b := by
        intro hoption
        rwa [List.filter_cons_of_pos (by simpa using hoption)] at h
      cases option with
      | version => cases hskip nofun
      | verbose =>
          rw [List.filter_cons_of_neg (by simp)] at h
          exact ih (a := a) (verblevel + 1) h
      | help => exact ih verblevel (hskip nofun)
      | tree => exact ih verblevel (hskip nofun)
      | select optarg =>
          have hselect : ({ a with verblevel } : Arguments).select optarg =
              { a.select optarg with verblevel } := by
            unfold Arguments.select
            split <;> rfl
          rw [readOptions, hselect]
          exact ih verblevel (hskip nofun)
      | ids optarg =>
          have hids : ({ a with verblevel } : Arguments).ids optarg =
              { a.ids optarg with verblevel } := by
            unfold Arguments.ids
            split <;> rfl
          rw [readOptions, hids]
          exact ih verblevel (hskip nofun)
      | device optarg => exact ih verblevel (hskip nofun)
      | other => exact ih verblevel (hskip nofun)

def Numbers.arguments (numbers : Numbers) (verblevel : Nat) : Arguments :=
  { verblevel, bus := wildcard numbers.bus, devnum := wildcard numbers.devnum,
    vendor := wildcard numbers.vendor, product := wildcard numbers.product }

theorem readOptions_given {numbers : Numbers} {options : List CommandOption} {s d : Option Name}
    (h : numbers.Given options s d) :
    ∃ verblevel, readOptions options {} = some (numbers.arguments verblevel) := by
  obtain ⟨bus, devnum, vendor, product⟩ := numbers
  obtain ⟨hs, hd, hoptions⟩ := h
  suffices hread : readOptions (options.filter (· ≠ .verbose)) {} =
      some (Numbers.arguments ⟨bus, devnum, vendor, product⟩ 0) from
    readOptions_verbose options 0 hread
  cases s with
  | none =>
      cases hs
      cases d with
      | none =>
          cases hd
          rw [List.perm_nil.mp hoptions]
          rfl
      | some optarg =>
          rw [hoptions.eq_singleton, readOptions, ids_given hd rfl rfl]
          rfl
  | some optarg =>
      cases d with
      | none =>
          cases hd
          rw [hoptions.eq_singleton, readOptions, select_given hs rfl rfl]
          rfl
      | some optarg' =>
          rcases List.perm_pair.mp hoptions with horder | horder
          · rw [horder, readOptions, select_given hs rfl rfl, readOptions, ids_given hd rfl rfl]
            rfl
          · rw [horder, readOptions, ids_given hd rfl rfl, readOptions, select_given hs rfl rfl]
            rfl

end Arguments

section Devices

variable {δ : Type} (session : Session δ) (numbers : Numbers)

def Accepts (part : Option Nat) (k : Nat) : Prop := wildcard part = -1 ∨ wildcard part = k

instance (part : Option Nat) (k : Nat) : Decidable (Accepts part k) :=
  inferInstanceAs (Decidable (_ ∨ _))

def Numbers.Accepted (lib : Libusb δ) (dev : δ) : Prop :=
  Accepts numbers.bus (lib.getBusNumber dev).toNat ∧
  Accepts numbers.devnum (lib.getDeviceAddress dev).toNat ∧
  Accepts numbers.vendor (lib.getDeviceDescriptor dev).idVendor.toNat ∧
  Accepts numbers.product (lib.getDeviceDescriptor dev).idProduct.toNat

instance (lib : Libusb δ) (dev : δ) : Decidable (numbers.Accepted lib dev) :=
  inferInstanceAs (Decidable (_ ∧ _ ∧ _ ∧ _))

def Session.listed (verblevel : Nat) (list : List δ) (status : Int) :
    Int × List (δ × List Effect) :=
  (if list.filter (numbers.Accepted session.toLibusb ·) = [] then status else 0,
    (list.filter (numbers.Accepted session.toLibusb ·)).map
      fun dev => (dev, session.shown verblevel dev))

theorem listLoop_eq (verblevel : Nat) (list : List δ) (status : Int) :
    listLoop session (wildcard numbers.bus) (wildcard numbers.devnum) (wildcard numbers.vendor)
        (wildcard numbers.product) verblevel list status =
      session.listed numbers verblevel list status := by
  induction list generalizing status with
  | nil => rfl
  | cons dev rest ih =>
      by_cases haccept : numbers.Accepted session.toLibusb dev
      · rw [Session.listed, List.filter_cons_of_pos (by simpa using haccept), List.map_cons,
          if_neg nofun]
        obtain ⟨hbus, hdevnum, hvendor, hproduct⟩ := haccept
        simp only [Accepts] at hbus hdevnum hvendor hproduct
        rw [listLoop, if_neg (by tauto), if_neg (by tauto), ih]
        simp [Session.listed]
      · rw [Session.listed, List.filter_cons_of_neg (by simpa using haccept), ← Session.listed,
          ← ih, listLoop]
        simp only [Numbers.Accepted, Accepts] at haccept
        split
        · rfl
        · rw [if_pos (by tauto)]

/-- The program lists the accepted devices in the order of their numbers. -/
theorem main_given {numbers : Numbers} {options : List CommandOption} {s d : Option Name}
    (h : numbers.Given options s d) {devices : List δ}
    (hdevices : session.getDeviceList = .ok devices) (hinit : session.libusbInit = 0) :
    ∃ verblevel, main session options false =
      some (session.listed numbers verblevel (byKey session.key devices) 1) := by
  obtain ⟨verblevel, hread⟩ := readOptions_given h
  refine ⟨verblevel, ?_⟩
  rw [main, hread]
  simp only [Numbers.arguments, ne_eq, not_true_eq_false, Bool.false_eq_true, or_self, if_false,
    hinit, listDevices, hdevices, sortDeviceList_eq]
  exact congrArg some (listLoop_eq session numbers verblevel _ 1)

theorem listsWanted_iff (verblevel : Nat) (devices : List δ) :
    ListsWanted session numbers devices
        (session.listed numbers verblevel (byKey session.key devices) 1) ↔
      ∀ dev ∈ devices, numbers.Accepted session.toLibusb dev ↔
        numbers.Wanted session.toLibusb dev := by
  have hlisted : (session.listed numbers verblevel (byKey session.key devices) 1).2.map Prod.fst =
      (byKey session.key devices).filter (numbers.Accepted session.toLibusb ·) := by
    rw [Session.listed, List.map_map]
    exact List.map_id _
  have hperm := byKey_perm session.key devices
  constructor
  · intro h dev hdev
    have hmem := (hlisted ▸ h.listed).mem_iff (a := dev)
    simpa [hperm.mem_iff, hdev] using hmem
  · intro h
    refine ⟨?_, ?_, ⟨verblevel, ?_⟩, ?_⟩
    · rw [hlisted, ← List.filter_congr fun dev hdev => decide_eq_decide.mpr (h dev hdev)]
      exact hperm.filter _
    · rw [hlisted]
      exact (pairwise_byKey session.key devices).filter _
    · intro entry hentry
      obtain ⟨dev, -, rfl⟩ := List.mem_map.mp hentry
      rfl
    · simp only [Session.listed, ne_eq, List.map_eq_nil_iff]
      split <;> simp [*]

theorem accepts_small {n : Nat} (h : n ≤ 65535) (k : Nat) : Accepts (some n) k ↔ k = n := by
  have hconverted : converted n = n := by
    rw [converted, min_eq_left (h.trans (by decide)), toInt_eq (h.trans_lt (by decide))]
  rw [Accepts, wildcard_some, hconverted]
  omega

theorem accepts_iff {part : Option Nat} (h : ∀ n ∈ part, n ≤ 65535) (k : Nat) :
    Accepts part k ↔ ∀ n ∈ part, k = n := by
  cases part with
  | none => simp [Accepts]
  | some n => simp [accepts_small (h n rfl)]

/-- A number that is converted to none of a device rejects all devices, and none has it. -/
theorem rejects {n limit k : Nat} (hany : converted n ≠ -1) (hnone : ∀ k ≤ limit, converted n ≠ k)
    (hlimit : limit ≤ 65535) (hk : k ≤ limit) : ¬Accepts (some n) k ∧ k ≠ n := by
  have haccepts : ¬Accepts (some n) k := by
    rw [Accepts, wildcard_some]
    exact not_or.mpr ⟨hany, hnone k hk⟩
  refine ⟨haccepts, ?_⟩
  rintro rfl
  exact haccepts ((accepts_small (hk.trans hlimit) k).mpr rfl)

theorem exists_accepted {part : Option Nat} {limit : Nat}
    (h : ¬∃ n ∈ part, converted n ≠ -1 ∧ ∀ k ≤ limit, converted n ≠ k) :
    ∃ k ≤ limit, Accepts part k := by
  cases part with
  | none => exact ⟨0, limit.zero_le, Or.inl wildcard_none⟩
  | some n =>
      simp only [Accepts, wildcard_some]
      by_cases hany : converted n = -1
      · exact ⟨0, limit.zero_le, Or.inl hany⟩
      · have hsome : ¬∀ k ≤ limit, converted n ≠ k := fun hnone => h ⟨n, rfl, hany, hnone⟩
        push Not at hsome
        obtain ⟨k, hk, heq⟩ := hsome
        exact ⟨k, hk, Or.inr heq⟩

theorem forall_limits {P : Option Nat × Nat → Prop} :
    (∀ part ∈ numbers.limits, P part) ↔ P (numbers.bus, 255) ∧ P (numbers.devnum, 255) ∧
      P (numbers.vendor, 65535) ∧ P (numbers.product, 65535) := by
  simp only [Numbers.limits, List.forall_mem_cons, List.not_mem_nil, false_imp_iff, implies_true,
    and_true]

theorem accepted_iff_wanted (h : numbers.Harmless) (lib : Libusb δ) (dev : δ) :
    numbers.Accepted lib dev ↔ numbers.Wanted lib dev := by
  have hbus : (lib.getBusNumber dev).toNat ≤ 255 := by
    have := (lib.getBusNumber dev).toNat_lt
    omega
  have hdevnum : (lib.getDeviceAddress dev).toNat ≤ 255 := by
    have := (lib.getDeviceAddress dev).toNat_lt
    omega
  have hvendor : (lib.getDeviceDescriptor dev).idVendor.toNat ≤ 65535 := by
    have := (lib.getDeviceDescriptor dev).idVendor.toNat_lt
    omega
  have hproduct : (lib.getDeviceDescriptor dev).idProduct.toNat ≤ 65535 := by
    have := (lib.getDeviceDescriptor dev).idProduct.toNat_lt
    omega
  rcases h with hsmall | ⟨part, hpart, n, hn, hany, hnone⟩
  · obtain ⟨hb, hd, hv, hp⟩ := (forall_limits numbers).mp hsmall
    have hbyte : 255 ≤ 65535 := by decide
    exact and_congr (accepts_iff (fun n hn => (hb n hn).trans hbyte) _)
      (and_congr (accepts_iff (fun n hn => (hd n hn).trans hbyte) _)
        (and_congr (accepts_iff hv _) (accepts_iff hp _)))
  · suffices h : ¬numbers.Accepted lib dev ∧ ¬numbers.Wanted lib dev from
      iff_of_false h.1 h.2
    have hlimit : part.2 ≤ 65535 :=
      (@forall_limits numbers (·.2 ≤ 65535)).mpr (by simp) part hpart
    have hreject {k : Nat} (hk : k ≤ part.2) : ¬Accepts part.1 k ∧ ¬∀ n ∈ part.1, k = n := by
      obtain ⟨haccepts, hne⟩ := rejects hany hnone hlimit hk
      rw [Option.mem_def.mp hn]
      exact ⟨haccepts, fun h => hne (h n rfl)⟩
    simp only [Numbers.limits, List.mem_cons, List.not_mem_nil, or_false] at hpart
    rcases hpart with rfl | rfl | rfl | rfl
    · exact ⟨fun h => (hreject hbus).1 h.1, fun h => (hreject hbus).2 h.1⟩
    · exact ⟨fun h => (hreject hdevnum).1 h.2.1, fun h => (hreject hdevnum).2 h.2.1⟩
    · exact ⟨fun h => (hreject hvendor).1 h.2.2.1, fun h => (hreject hvendor).2 h.2.2.1⟩
    · exact ⟨fun h => (hreject hproduct).1 h.2.2.2, fun h => (hreject hproduct).2 h.2.2.2⟩

def oneDevice (bus devnum vendor product : Nat) : Session Unit where
  getBusNumber _ := .ofNat bus
  getDeviceAddress _ := .ofNat devnum
  getDeviceDescriptor _ := { idVendor := .ofNat vendor, idProduct := .ofNat product }
  getDeviceList := .ok [()]
  names _ := ("", "")
  dumpdev _ := []
  libusbInit := 0
  lsusbT := 0
  dumpOneDevice _ := 0

theorem exists_unwanted (h : ¬numbers.Harmless) :
    ∃ session : Session Unit, session.getDeviceList = .ok [()] ∧ session.libusbInit = 0 ∧
      numbers.Accepted session.toLibusb () ∧ ¬numbers.Wanted session.toLibusb () := by
  obtain ⟨hlarge, hnone⟩ := not_or.mp h
  have haccept : ∀ part ∈ numbers.limits, ∃ k ≤ part.2, Accepts part.1 k := fun part hpart =>
    exists_accepted fun h => hnone ⟨part, hpart, h⟩
  obtain ⟨⟨bus, hb, hbus⟩, ⟨devnum, hd, hdevnum⟩, ⟨vendor, hv, hvendor⟩, product, hp, hproduct⟩ :=
    (forall_limits numbers).mp haccept
  have height {k : Nat} (hk : k ≤ 255) : (UInt8.ofNat k).toNat = k :=
    UInt8.toNat_ofNat_of_lt' (hk.trans_lt (by decide))
  have hsixteen {k : Nat} (hk : k ≤ 65535) : (UInt16.ofNat k).toNat = k :=
    UInt16.toNat_ofNat_of_lt' (hk.trans_lt (by decide))
  refine ⟨oneDevice bus devnum vendor product, rfl, rfl, ?_, ?_⟩
  · simp only [Numbers.Accepted, oneDevice, height hb, height hd, hsixteen hv, hsixteen hp]
    exact ⟨hbus, hdevnum, hvendor, hproduct⟩
  · simp only [Numbers.Wanted, oneDevice, height hb, height hd, hsixteen hv, hsixteen hp]
    rintro ⟨hbus, hdevnum, hvendor, hproduct⟩
    apply hlarge
    exact (forall_limits numbers).mpr
      ⟨fun n hn => hbus n hn ▸ hb, fun n hn => hdevnum n hn ▸ hd,
        fun n hn => hvendor n hn ▸ hv, fun n hn => hproduct n hn ▸ hp⟩

end Devices

/-- The devices that are listed are the wanted ones, whatever is connected, exactly where the
numbers are harmless. -/
theorem main_lists_iff {numbers : Numbers} {options : List CommandOption} {s d : Option Name}
    (h : numbers.Given options s d) :
    (∀ (δ : Type) (session : Session δ) (devices : List δ), session.getDeviceList = .ok devices →
      session.libusbInit = 0 → ∃ result, main session options false = some result ∧
        ListsWanted session numbers devices result) ↔ numbers.Harmless := by
  constructor
  · intro hlists
    by_contra hharm
    obtain ⟨session, hdevices, hinit, haccepted, hwanted⟩ := exists_unwanted numbers hharm
    obtain ⟨result, hresult, hlisted⟩ := hlists Unit session [()] hdevices hinit
    obtain ⟨verblevel, hmain⟩ := main_given session h hdevices hinit
    obtain rfl := Option.some.inj (hmain.symm.trans hresult)
    have hiff := (listsWanted_iff session numbers verblevel [()]).mp hlisted () (by simp)
    exact hwanted (hiff.mp haccepted)
  · intro hharmless δ session devices hdevices hinit
    obtain ⟨verblevel, hmain⟩ := main_given session h hdevices hinit
    refine ⟨_, hmain, (listsWanted_iff session numbers verblevel devices).mpr ?_⟩
    intro dev hdev
    exact accepted_iff_wanted numbers hharmless session.toLibusb dev

theorem main_lists_hub :
    ∃ result, main (oneDevice 1 7 0x1d6b 2) [.select "1:".toList, .verbose, .ids "1d6b:2".toList]
        false = some result ∧
      ListsWanted (oneDevice 1 7 0x1d6b 2) ⟨some 1, none, some 0x1d6b, some 2⟩ [()] result := by
  have hone : IsPart 10 "1".toList (some 1) :=
    @isNumeral_of_all 10 "1".toList (by decide)
  have hvendor : IsPart 16 "1d6b".toList (some 0x1d6b) :=
    @isNumeral_of_all 16 "1d6b".toList (by decide)
  have hproduct : IsPart 16 "2".toList (some 2) :=
    @isNumeral_of_all 16 "2".toList (by decide)
  have hgiven : Numbers.Given ⟨some 1, none, some 0x1d6b, some 2⟩
      [.select "1:".toList, .verbose, .ids "1d6b:2".toList] (some "1:".toList)
      (some "1d6b:2".toList) :=
    ⟨@GivenS.pair _ [] _ _ hone rfl, .pair hvendor hproduct, .refl _⟩
  exact (main_lists_iff hgiven).mpr (Or.inl (by decide)) Unit (oneDevice 1 7 0x1d6b 2) [()] rfl rfl

/-- 4294967295 is no number of a device, but it is converted to the wildcard. -/
theorem main_lists_all :
    Numbers.Given ⟨none, some 4294967295, none, none⟩ [.select "4294967295".toList]
      (some "4294967295".toList) none ∧
    ¬∃ result, main (oneDevice 1 1 0 0) [.select "4294967295".toList] false = some result ∧
      ListsWanted (oneDevice 1 1 0 0) ⟨none, some 4294967295, none, none⟩ [()] result := by
  have hgiven : Numbers.Given ⟨none, some 4294967295, none, none⟩ [.select "4294967295".toList]
      (some "4294967295".toList) none :=
    ⟨.single (@isNumeral_of_all 10 "4294967295".toList (by decide)), .none, .refl _⟩
  refine ⟨hgiven, ?_⟩
  rintro ⟨result, hresult, hlists⟩
  obtain ⟨verblevel, hmain⟩ := main_given (oneDevice 1 1 0 0) hgiven rfl rfl
  obtain rfl := Option.some.inj (hmain.symm.trans hresult)
  have hiff := (listsWanted_iff (oneDevice 1 1 0 0) _ verblevel [()]).mp hlists () (by simp)
  exact absurd (hiff.mp (by decide)) (by decide)

end Usbutils
