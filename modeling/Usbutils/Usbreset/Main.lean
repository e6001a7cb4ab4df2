import Usbutils.Lib.Printf
import Usbutils.Usbreset.Devices

/-! `main` of `usbreset.c`: the devices that are listed without an argument, and the one that is
reset for an argument. -/
namespace Usbutils
open Text CString

namespace Usbreset

/-- Whether there is a minus, and what is left of the width and of the text behind a sign. -/
def scanSign (width : Nat) : Name → Bool × Nat × Name
  | c :: rest =>
      if width ≠ 0 ∧ (c = '-' ∨ c = '+') then (c == '-', width - 1, rest)
      else (false, width, c :: rest)
  | [] => (false, width, [])

def scanMark (base width : Nat) : Name → Bool × Nat × Name
  | '0' :: x :: rest =>
      if base = 16 ∧ 2 ≤ width ∧ (x = 'x' ∨ x = 'X') then (true, width - 2, rest)
      else (false, width, '0' :: x :: rest)
  | s => (false, width, s)

/-- `%d` or `%x` with a width: the number, and what is behind it. -/
def scanInt (base width : Nat) (s : Name) : Option (Int × Name) :=
  let (negative, width, s) := scanSign width (s.dropWhile isSpace)
  let (marked, width, s) := scanMark base width s
  let digits := (s.take width).takeWhile (isDigit base)
  if digits = [] ∧ ¬marked then none
  else some (if negative then -(value base digits) else value base digits, s.drop digits.length)

/-- Two numbers with a character between them; what is behind them does not matter. -/
def scanPair (base width : Nat) (between : Char) (s : Name) : Option (Int × Int) := do
  let (id1, s) ← scanInt base width s
  guard (s.head? = some between)
  let (id2, _) ← scanInt base width s.tail
  return (id1, id2)

def devlist (sysfs : String → SysfsFile) (devs : List String) : List UsbEntry :=
  match _hnext : parseDevlist sysfs devs with
  | (none, _) => []
  | (some e, rest) => e :: devlist sysfs rest
termination_by devs.length
decreasing_by exact parseDevlist_length _hnext

def entryLine (maxSerialLength : Nat) (dev : UsbEntry) : Name :=
  Printf.printf "  Number %03d/%03d  ID %04x:%04x  ".toList [.int dev.busNum, .int dev.devNum,
    .nat dev.vendorId.toNat, .nat dev.productId.toNat] ++
  (if 0 < dev.serial.length then
    "SN:".toList ++ Printf.Directive.text ⟨true, false, maxSerialLength, 's'⟩ (.str (chars dev.serial))
  else "   ".toList ++ Printf.Directive.text ⟨false, false, maxSerialLength, 's'⟩ (.str [])) ++
  ("  ".toList ++ chars dev.productName)

/-- The directory is opened twice. -/
def listDevices (sysfs : String → SysfsFile) (devs devsAgain : Option (List String)) : Name :=
  match devs with
  | none => []
  | some devs =>
      let maxSerialLength := (devlist sysfs devs).foldl (fun m dev => max m dev.serial.length) 0
      match devsAgain with
      | none => []
      | some devs => (devlist sysfs devs).flatMap fun dev => entryLine maxSerialLength dev ++ ['\n']

/-- What became of a device file: it cannot be opened, or the request fails, each with the error, or
the device is reset. -/
inductive ResetResult where
  | unopened (errno : Nat)
  | failed (errno : Nat)
  | done
  deriving DecidableEq, Repr

structure Outcome where
  status : Int
  stdout : Name
  stderr : List String
  opened : Option Name
  deriving DecidableEq, Repr

/-- What comes from outside: the directory as it is read each time, and the device files. -/
structure World where
  sysfs : String → SysfsFile
  devs : Option (List String)
  devsAgain : Option (List String)
  reset : Name → ResetResult
  strerror : Nat → String

def devicePath (dev : UsbEntry) : Name :=
  (Printf.printf "/dev/bus/usb/%03d/%03d".toList [.int dev.busNum, .int dev.devNum]).take
    (pathMax - 2)

variable (world : World)

def resetDevice (dev : UsbEntry) : Outcome where
  status := 0
  stdout := "Resetting ".toList ++ chars dev.productName ++ " ... ".toList ++
    match world.reset (devicePath dev) with
    | .unopened errno => ("can't open [" ++ world.strerror errno ++ "]\n").toList
    | .failed errno => ("failed [" ++ world.strerror errno ++ "]\n").toList
    | .done => "ok\n".toList
  stderr := []
  opened := some (devicePath dev)

def criterion (arg : Name) : Option Criterion :=
  match scanPair 10 3 '/' arg with
  | some number => some { number := some number }
  | none =>
      match scanPair 16 4 ':' arg with
      | some id => some { id := some id }
      | none =>
          if arg.take 3 = "SN:".toList then
            some { serial := some (ofChars (arg.drop 3)) }
          else if arg.length < 128 then some { product := some (ofChars arg) }
          else none

def usageText : Name :=
  "Usage:\n".toList ++
  "  usbreset VVVV:PPPP - reset by vendor and product id\n".toList ++
  "  usbreset BBB/DDD   - reset by bus and device number\n".toList ++
  "  usbreset SN:SERIAL - reset by serial number\n".toList ++
  "  usbreset \"Product\" - reset by product name\n\n".toList ++ "Devices:\n".toList

def resetFound : Option UsbEntry × List String → Outcome
  | (some dev, _) => resetDevice world dev
  | (none, stderr) =>
      { status := 1, stdout := [], stderr := stderr ++ ["No such device found\n"], opened := none }

def main (argv : List Name) : Outcome :=
  match argv with
  | [_, arg] =>
      match criterion arg with
      | some crit => resetFound world (findDevice world.sysfs world.devs crit)
      | none => usage
  | _ => usage
where
  usage : Outcome :=
    { status := 1
      stdout := usageText ++ listDevices world.sysfs world.devs world.devsAgain
      stderr := []
      opened := none }

section Scan

variable {base width : Nat} {digits rest : Name}

theorem isDigit_hex (hbase : base ≤ 16) {c : Char} (hc : isDigit base c = true) :
    isDigit 16 c = true :=
  decide_eq_true (Nat.lt_of_lt_of_le (of_decide_eq_true hc) hbase)

theorem digit_head {c : Char} (hc : isDigit 16 c = true) :
    isSpace c = false ∧ c ≠ '-' ∧ c ≠ '+' ∧ c ≠ 'x' ∧ c ≠ 'X' := by
  have hlt := of_decide_eq_true hc
  have hnot (d : Char) (hd : 16 ≤ digitValue d) : c ≠ d := by
    rintro rfl
    omega
  refine ⟨?_, hnot _ (by decide), hnot _ (by decide), hnot _ (by decide), hnot _ (by decide)⟩
  simp [isSpace, hnot ' ' (by decide), hnot '\t' (by decide), hnot '\n' (by decide),
    hnot '\x0b' (by decide), hnot '\x0c' (by decide), hnot '\r' (by decide)]

theorem scanSign_digit {c : Char} (hc : isDigit 16 c = true) :
    scanSign width (c :: rest) = (false, width, c :: rest) := by
  obtain ⟨-, hminus, hplus, -, -⟩ := digit_head hc
  rw [scanSign, if_neg (by simp [hminus, hplus])]

theorem scanMark_digits {c d : Char} (hd : isDigit 16 d = true) :
    scanMark base width (c :: d :: rest) = (false, width, c :: d :: rest) := by
  obtain ⟨-, -, -, hlower, hupper⟩ := digit_head hd
  unfold scanMark
  split
  · next heq =>
      obtain ⟨rfl, rfl, rfl⟩ : '0' = c ∧ _ = d ∧ _ = rest := by simpa [eq_comm] using heq
      rw [if_neg (by simp [hlower, hupper])]
  · rfl

theorem scanInt_cons {c d : Char} (hc : isDigit 16 c = true) (hd : isDigit 16 d = true) :
    scanInt base width (c :: d :: rest) =
      if ((c :: d :: rest).take width).takeWhile (isDigit base) = [] then none
      else some ((value base (((c :: d :: rest).take width).takeWhile (isDigit base)) : Int),
        (c :: d :: rest).drop (((c :: d :: rest).take width).takeWhile (isDigit base)).length) := by
  have hbody : (c :: d :: rest).dropWhile isSpace = c :: d :: rest :=
    List.dropWhile_cons_of_neg (by simp [(digit_head hc).1])
  rw [scanInt, hbody, scanSign_digit hc]
  simp only [scanMark_digits hd, Bool.false_eq_true, not_false_eq_true, and_true, if_false]

theorem exists_digits (hlength : 2 ≤ digits.length) : ∃ c d tail, digits = c :: d :: tail := by
  obtain ⟨c, tail, rfl⟩ := List.exists_cons_of_length_pos (show 0 < digits.length by omega)
  rw [List.length_cons] at hlength
  obtain ⟨d, tail, rfl⟩ := List.exists_cons_of_length_pos (show 0 < tail.length by omega)
  exact ⟨c, d, tail, rfl⟩

theorem scanInt_digits (hbase : base ≤ 16) (hlength : digits.length = width) (hwidth : 2 ≤ width)
    (hall : ∀ c ∈ digits, isDigit base c = true) :
    scanInt base width (digits ++ rest) = some ((value base digits : Int), rest) := by
  obtain ⟨c, d, tail, rfl⟩ := exists_digits (hlength ▸ hwidth)
  have htake : (c :: d :: (tail ++ rest)).take width = c :: d :: tail := List.take_left' hlength
  have hdigits : (c :: d :: tail).takeWhile (isDigit base) = c :: d :: tail :=
    List.takeWhile_eq_self_iff.mpr hall
  have hdrop : (c :: d :: (tail ++ rest)).drop (c :: d :: tail).length = rest := List.drop_left
  rw [List.cons_append, List.cons_append, scanInt_cons (isDigit_hex hbase (hall c (by simp)))
    (isDigit_hex hbase (hall d (by simp))), htake, hdigits, hdrop, if_neg (by simp)]

theorem scanInt_behind {number : Int} {behind : Name} (hlength : width < digits.length)
    (hwidth : 1 ≤ width) (hall : ∀ c ∈ digits, isDigit 16 c = true)
    (hscan : scanInt base width (digits ++ rest) = some (number, behind)) :
    ∃ c ∈ digits, behind.head? = some c := by
  obtain ⟨c, d, tail, rfl⟩ := exists_digits (show 2 ≤ digits.length by omega)
  rw [List.cons_append, List.cons_append, scanInt_cons (hall c (by simp)) (hall d (by simp))] at hscan
  split at hscan
  · cases hscan
  · obtain rfl := (Prod.mk.inj (Option.some.inj hscan)).2
    generalize hk : (((c :: d :: (tail ++ rest)).take width).takeWhile (isDigit base)).length = k
    have hle : k ≤ width := by
      rw [← hk]
      exact (List.takeWhile_sublist _).length_le.trans (List.length_take_le _ _)
    have hin : k < (c :: d :: tail).length := by omega
    refine ⟨(c :: d :: tail)[k], List.getElem_mem hin, ?_⟩
    rw [List.head?_drop]
    exact (List.getElem?_append_left hin).trans (List.getElem?_eq_getElem hin)

end Scan

def numberArgument (line : Name) : Option Name := (line.splitOn ' ')[3]?

def idsArgument (line : Name) : Option Name := (line.splitOn ' ')[6]?

def decimal3 (n : Int) : Name := Printf.Directive.text ⟨false, true, 3, 'd'⟩ (.int n)

def hex4 (n : Int) : Name := Printf.Directive.text ⟨false, true, 4, 'x'⟩ (.nat n.toNat)

theorem leftpad_read {base n width : Nat} (hone : 1 < base) (hbase : base ≤ 16) (hwidth : 0 < width)
    (hsmall : n < base ^ width) :
    ((Nat.toDigits base n).leftpad width '0').length = width ∧
      (∀ c ∈ (Nat.toDigits base n).leftpad width '0', isDigit base c = true) ∧
      value base ((Nat.toDigits base n).leftpad width '0') = n := by
  refine ⟨?_, Printf.isDigit_leftpad hone hbase n width, Printf.value_leftpad hone hbase n width⟩
  rw [List.length_leftpad]
  exact max_eq_left ((Nat.length_toDigits_le_iff hone hwidth).mpr hsmall)

theorem decimal3_read {n : Int} (hn : 0 ≤ n) (hsmall : n ≤ 999) :
    (decimal3 n).length = 3 ∧ (∀ c ∈ decimal3 n, isDigit 10 c = true) ∧
      (value 10 (decimal3 n) : Int) = n := by
  have htext : decimal3 n = (Nat.toDigits 10 n.toNat).leftpad 3 '0' := if_pos hn
  obtain ⟨hlength, hall, hvalue⟩ :=
    @leftpad_read 10 n.toNat 3 (by decide) (by decide) (by decide) (by omega)
  rw [htext, hvalue]
  exact ⟨hlength, hall, Int.toNat_of_nonneg hn⟩

theorem hex4_read {n : Int} (hn : 0 ≤ n) (hsmall : n ≤ 0xffff) :
    (hex4 n).length = 4 ∧ (∀ c ∈ hex4 n, isDigit 16 c = true) ∧
      (value 16 (hex4 n) : Int) = n := by
  obtain ⟨hlength, hall, hvalue⟩ :=
    @leftpad_read 16 n.toNat 4 (by decide) (by decide) (by decide) (by omega)
  have htext : hex4 n = (Nat.toDigits 16 n.toNat).leftpad 4 '0' := rfl
  rw [htext, hvalue]
  exact ⟨hlength, hall, Int.toNat_of_nonneg hn⟩

theorem scanPair_digits {base width : Nat} {between : Char} {left right : Name} (hbase : base ≤ 16)
    (hwidth : 2 ≤ width) (hleft : left.length = width) (hright : right.length = width)
    (hall : ∀ c ∈ left, isDigit base c = true) (hall' : ∀ c ∈ right, isDigit base c = true) :
    scanPair base width between (left ++ between :: right) =
      some ((value base left : Int), (value base right : Int)) := by
  have hbehind := @scanInt_digits base width right [] hbase hright hwidth hall'
  rw [List.append_nil] at hbehind
  rw [scanPair, scanInt_digits hbase hleft hwidth hall]
  simp [hbehind]

theorem criterion_number {bus dev : Int} (hbus : 0 ≤ bus ∧ bus ≤ 999) (hdev : 0 ≤ dev ∧ dev ≤ 999) :
    criterion (decimal3 bus ++ '/' :: decimal3 dev) = some { number := some (bus, dev) } := by
  obtain ⟨hlength, hall, hvalue⟩ := decimal3_read hbus.1 hbus.2
  obtain ⟨hlength', hall', hvalue'⟩ := decimal3_read hdev.1 hdev.2
  rw [criterion, scanPair_digits (by decide) (by decide) hlength hlength' hall hall', hvalue,
    hvalue']

/-- The ids are not taken for the numbers of a bus and a device. -/
theorem criterion_id {vid pid : Int} (hvid : 0 ≤ vid ∧ vid ≤ 0xffff) (hpid : 0 ≤ pid ∧ pid ≤ 0xffff) :
    criterion (hex4 vid ++ ':' :: hex4 pid) = some { id := some (vid, pid) } := by
  obtain ⟨hlength, hall, hvalue⟩ := hex4_read hvid.1 hvid.2
  obtain ⟨hlength', hall', hvalue'⟩ := hex4_read hpid.1 hpid.2
  have hno : scanPair 10 3 '/' (hex4 vid ++ ':' :: hex4 pid) = none := by
    rw [scanPair]
    cases hscan : scanInt 10 3 (hex4 vid ++ ':' :: hex4 pid) with
    | none => rfl
    | some found =>
        obtain ⟨number, behind⟩ := found
        obtain ⟨c, hc, hhead⟩ := scanInt_behind (by omega) (by decide) hall hscan
        have hslash : c ≠ '/' := by
          rintro rfl
          exact absurd (hall '/' hc) (by decide)
        simp [hhead, hslash]
  rw [criterion, hno]
  simp only
  rw [scanPair_digits (by decide) (by decide) hlength hlength' hall hall', hvalue, hvalue']

theorem scanInt_letter {base width : Nat} (hbase : base ≤ 16) (hwidth : 0 < width) (rest : Name) :
    scanInt base width ('S' :: rest) = none := by
  have hbody : ('S' :: rest).dropWhile isSpace = 'S' :: rest := rfl
  have hsign : scanSign width ('S' :: rest) = (false, width, 'S' :: rest) := by
    have hletter : ¬('S' = '-' ∨ 'S' = '+') := by decide
    rw [scanSign, if_neg fun h => hletter h.2]
  have hmark : scanMark base width ('S' :: rest) = (false, width, 'S' :: rest) := rfl
  have hdigit : isDigit base 'S' = false := decide_eq_false (by
    have hvalue : digitValue 'S' = 28 := by decide
    omega)
  obtain ⟨k, rfl⟩ := Nat.exists_eq_succ_of_ne_zero (Nat.pos_iff_ne_zero.mp hwidth)
  rw [scanInt, hbody, hsign]
  simp [hmark, hdigit]

theorem criterion_serial (serial : Name) :
    criterion ("SN:".toList ++ serial) = some { serial := some (ofChars serial) } := by
  have hno (base width : Nat) (between : Char) (hbase : base ≤ 16) (hwidth : 0 < width) :
      scanPair base width between ("SN:".toList ++ serial) = none := by
    have hscan : scanInt base width ("SN:".toList ++ serial) = none :=
      scanInt_letter hbase hwidth _
    rw [scanPair, hscan]
    rfl
  rw [criterion, hno 10 3 '/' (by decide) (by decide)]
  simp only
  rw [hno 16 4 ':' (by decide) (by decide)]
  rfl

theorem devlist_eq (sysfs : String → SysfsFile) (devs : List String) :
    devlist sysfs devs = scanned sysfs devs := by
  induction devs using devlist.induct sysfs with
  | case1 devs rest hnext =>
      rw [devlist, scanned_parseDevlist, hnext]
  | case2 devs e rest hnext ih =>
      rw [devlist, scanned_parseDevlist, hnext]
      simp only [ih]

def lineEnd (maxSerialLength : Nat) (dev : UsbEntry) : Name :=
  (if 0 < dev.serial.length then
    "SN:".toList ++ Printf.Directive.text ⟨true, false, maxSerialLength, 's'⟩ (.str (chars dev.serial))
  else "   ".toList ++ Printf.Directive.text ⟨false, false, maxSerialLength, 's'⟩ (.str [])) ++
  ("  ".toList ++ chars dev.productName)

theorem entryLine_eq (maxSerialLength : Nat) (dev : UsbEntry) : entryLine maxSerialLength dev =
    "  Number ".toList ++ (decimal3 dev.busNum ++ '/' :: decimal3 dev.devNum) ++ ("  ID ".toList ++
      (hex4 dev.vendorId ++ ':' :: hex4 dev.productId) ++
        ("  ".toList ++ lineEnd maxSerialLength dev)) := by
  have hformat : Printf.parse none "  Number %03d/%03d  ID %04x:%04x  ".toList =
      "  Number ".toList.map .plain ++ .directive ⟨false, true, 3, 'd'⟩ ::
      ("/".toList.map .plain ++ .directive ⟨false, true, 3, 'd'⟩ ::
      ("  ID ".toList.map .plain ++ .directive ⟨false, true, 4, 'x'⟩ ::
      (":".toList.map .plain ++ .directive ⟨false, true, 4, 'x'⟩ ::
      ("  ".toList.map .plain ++ [])))) := by decide +kernel
  rw [entryLine, Printf.printf, hformat]
  simp only [Printf.render_plain, Printf.render]
  simp [lineEnd, decimal3, hex4]

theorem devicePath_eq {dev : UsbEntry} (hlength : (decimal3 dev.busNum).length = 3)
    (hlength' : (decimal3 dev.devNum).length = 3) : devicePath dev =
      "/dev/bus/usb/".toList ++ (decimal3 dev.busNum ++ '/' :: decimal3 dev.devNum) := by
  have hformat : Printf.parse none "/dev/bus/usb/%03d/%03d".toList =
      "/dev/bus/usb/".toList.map .plain ++ .directive ⟨false, true, 3, 'd'⟩ ::
      ("/".toList.map .plain ++ [.directive ⟨false, true, 3, 'd'⟩]) := by decide +kernel
  have htext : Printf.printf "/dev/bus/usb/%03d/%03d".toList [.int dev.busNum, .int dev.devNum] =
      "/dev/bus/usb/".toList ++ (decimal3 dev.busNum ++ '/' :: decimal3 dev.devNum) := by
    rw [Printf.printf, hformat]
    simp only [Printf.render_plain, Printf.render]
    simp [decimal3]
  rw [devicePath, htext]
  refine List.take_of_length_le ?_
  rw [List.length_append, List.length_append, List.length_cons, hlength, hlength']
  decide

/-- The numbers as the kernel gives them. -/
structure UsbEntry.InRange (dev : UsbEntry) : Prop where
  busNum : 0 ≤ dev.busNum ∧ dev.busNum ≤ 999
  devNum : 0 ≤ dev.devNum ∧ dev.devNum ≤ 999
  vendorId : 0 ≤ dev.vendorId ∧ dev.vendorId ≤ 0xffff
  productId : 0 ≤ dev.productId ∧ dev.productId ≤ 0xffff

instance (dev : UsbEntry) : Decidable dev.InRange :=
  decidable_of_iff (_ ∧ _ ∧ _ ∧ _)
    ⟨fun ⟨hbus, hdev, hvendor, hproduct⟩ => ⟨hbus, hdev, hvendor, hproduct⟩,
      fun ⟨hbus, hdev, hvendor, hproduct⟩ => ⟨hbus, hdev, hvendor, hproduct⟩⟩

theorem notMem_digits {base : Nat} {text : Name} {c : Char} (hbase : base ≤ 36)
    (hall : ∀ d ∈ text, isDigit base d = true) (hc : digitValue c = 36) : c ∉ text := by
  intro hmem
  have hlt := of_decide_eq_true (hall c hmem)
  omega

section Line

variable {dev : UsbEntry} (hrange : dev.InRange) {c : Char} (hc : digitValue c = 36)
include hrange hc

theorem notMem_number (hslash : c ≠ '/') :
    c ∉ decimal3 dev.busNum ++ '/' :: decimal3 dev.devNum := by
  have hbus := notMem_digits (by decide) (decimal3_read hrange.busNum.1 hrange.busNum.2).2.1 hc
  have hdev := notMem_digits (by decide) (decimal3_read hrange.devNum.1 hrange.devNum.2).2.1 hc
  simp [hbus, hdev, hslash]

theorem notMem_ids (hcolon : c ≠ ':') : c ∉ hex4 dev.vendorId ++ ':' :: hex4 dev.productId := by
  have hvendor := notMem_digits (by decide) (hex4_read hrange.vendorId.1 hrange.vendorId.2).2.1 hc
  have hproduct :=
    notMem_digits (by decide) (hex4_read hrange.productId.1 hrange.productId.2).2.1 hc
  simp [hvendor, hproduct, hcolon]

end Line

theorem splitOn_entryLine {dev : UsbEntry} (hrange : dev.InRange) (maxSerialLength : Nat) :
    (entryLine maxSerialLength dev).splitOn ' ' =
      [] :: [] :: "Number".toList :: (decimal3 dev.busNum ++ '/' :: decimal3 dev.devNum) :: [] ::
        "ID".toList :: (hex4 dev.vendorId ++ ':' :: hex4 dev.productId) :: [] ::
          (lineEnd maxSerialLength dev).splitOn ' ' := by
  have hline : entryLine maxSerialLength dev =
      [] ++ ' ' :: ([] ++ ' ' :: ("Number".toList ++ ' ' ::
        ((decimal3 dev.busNum ++ '/' :: decimal3 dev.devNum) ++ ' ' :: ([] ++ ' ' ::
          ("ID".toList ++ ' ' :: ((hex4 dev.vendorId ++ ':' :: hex4 dev.productId) ++ ' ' ::
            ([] ++ ' ' :: lineEnd maxSerialLength dev))))))) := by
    rw [entryLine_eq]
    simp
  rw [hline, List.splitOn_append_cons_self_of_not_mem List.not_mem_nil,
    List.splitOn_append_cons_self_of_not_mem List.not_mem_nil,
    List.splitOn_append_cons_self_of_not_mem (by decide),
    List.splitOn_append_cons_self_of_not_mem (notMem_number hrange (by decide) (by decide)),
    List.splitOn_append_cons_self_of_not_mem List.not_mem_nil,
    List.splitOn_append_cons_self_of_not_mem (by decide),
    List.splitOn_append_cons_self_of_not_mem (notMem_ids hrange (by decide) (by decide)),
    List.splitOn_append_cons_self_of_not_mem List.not_mem_nil]

theorem newline_copyName (sysfs : String → SysfsFile) (dName attr : String) :
    '\n' ∉ chars (copyName (attrString sysfs dName attr)) := by
  refine @notMem_chars newline _ fun hmem => ?_
  obtain ⟨result, hrun, hclean⟩ := sysfsAttr_clean sysfs dName attr
  have hname := List.mem_of_mem_take hmem
  rw [attrString, hrun] at hname
  cases result with
  | none => cases hname
  | some buf => exact absurd ((hclean buf rfl).2.clean _ hname) (by decide)

theorem newline_pad (d : Printf.Directive) {text : Name} (h : '\n' ∉ text) :
    '\n' ∉ d.text (.str text) := by
  change '\n' ∉ Printf.Directive.pad _ _
  rw [Printf.Directive.pad]
  split
  · simp [List.rightpad, h]
  · simp [List.leftpad, h]

theorem newline_entryLine {dev : UsbEntry} (hrange : dev.InRange)
    (hserial : '\n' ∉ chars dev.serial) (hproduct : '\n' ∉ chars dev.productName)
    (maxSerialLength : Nat) : '\n' ∉ entryLine maxSerialLength dev := by
  have hend : '\n' ∉ lineEnd maxSerialLength dev := by
    rw [lineEnd]
    split
    · simp [hproduct, newline_pad _ hserial]
    · simp [hproduct, newline_pad _ List.not_mem_nil]
  have hnumber := notMem_number hrange (show digitValue '\n' = 36 by decide) (by decide)
  have hids := notMem_ids hrange (show digitValue '\n' = 36 by decide) (by decide)
  rw [entryLine_eq]
  simp only [List.mem_append, not_or] at hnumber hids ⊢
  exact ⟨⟨by decide, hnumber⟩, ⟨by decide, hids⟩, by decide, hend⟩

section Selects

variable {world : World} {names : List String}

theorem main_criterion (hdevs : world.devs = some names) {arg : Name} {crit : Criterion}
    (hcriterion : criterion arg = some crit) (prog : Name) : main world [prog, arg] =
      resetFound world (report ((scanned world.sysfs names).filter crit.fits)) := by
  rw [main, hcriterion]
  simp only
  rw [hdevs, findDevice, search_eq, Option.toList_none, List.nil_append]

/-- For the number or the ids in the line of a device, or for its serial number, the device is reset
if no other in the list has the same. -/
structure World.Selects (world : World) (devices : List UsbEntry) (line : Name) (dev : UsbEntry) :
    Prop where
  number : ∃ arg, numberArgument line = some arg ∧
    devicePath dev = "/dev/bus/usb/".toList ++ arg ∧
    ∀ prog, main world [prog, arg] = resetFound world (report (devices.filter fun other =>
      other.busNum = dev.busNum ∧ other.devNum = dev.devNum))
  ids : ∃ arg, idsArgument line = some arg ∧
    ∀ prog, main world [prog, arg] = resetFound world (report (devices.filter fun other =>
      other.vendorId = dev.vendorId ∧ other.productId = dev.productId))
  serial (prog : Name) : main world [prog, "SN:".toList ++ chars dev.serial] =
    resetFound world (report (devices.filter fun other => strcasecmp other.serial dev.serial = 0))

theorem selects (hdevs : world.devs = some names) {dev : UsbEntry} (hrange : dev.InRange)
    (maxSerialLength : Nat) : world.Selects (scanned world.sysfs names)
      (entryLine maxSerialLength dev) dev where
  number := by
    refine ⟨_, by rw [numberArgument, splitOn_entryLine hrange]; rfl, ?_, fun prog => ?_⟩
    · exact devicePath_eq (decimal3_read hrange.busNum.1 hrange.busNum.2).1
        (decimal3_read hrange.devNum.1 hrange.devNum.2).1
    · rw [main_criterion hdevs (criterion_number hrange.busNum hrange.devNum)]
      congr 3
      funext other
      simp [Criterion.fits, Bool.decide_and, beq_eq_decide]
  ids := by
    refine ⟨_, by rw [idsArgument, splitOn_entryLine hrange]; rfl, fun prog => ?_⟩
    rw [main_criterion hdevs (criterion_id hrange.vendorId hrange.productId)]
    congr 3
    funext other
    simp [Criterion.fits, Bool.decide_and, beq_eq_decide]
  serial prog := by
    rw [main_criterion hdevs (criterion_serial _), ofChars_chars]
    congr 3
    funext other
    simp [Criterion.fits, beq_eq_decide]

theorem opened_iff (hdevs : world.devs = some names) {argv : List Name} {path : Name} :
    (main world argv).opened = some path ↔ ∃ prog arg crit dev, argv = [prog, arg] ∧
      criterion arg = some crit ∧ (scanned world.sysfs names).filter crit.fits = [dev] ∧
      path = devicePath dev := by
  constructor
  · intro hopened
    unfold main at hopened
    split at hopened
    · next prog arg =>
        split at hopened
        · next crit hcriterion =>
            rw [hdevs, findDevice, search_eq, Option.toList_none, List.nil_append] at hopened
            generalize hfits : (scanned world.sysfs names).filter crit.fits = devices at hopened
            cases devices with
            | nil => cases hopened
            | cons dev rest =>
                cases rest with
                | nil => exact ⟨prog, arg, crit, dev, rfl, hcriterion, hfits,
                    (Option.some.inj hopened).symm⟩
                | cons _ _ => cases hopened
        · cases hopened
    · cases hopened
  · rintro ⟨prog, arg, crit, dev, rfl, hcriterion, hfits, rfl⟩
    rw [main_criterion hdevs hcriterion, hfits]
    rfl

def listing (stdout : Name) : List Name := (lines '\n' stdout).drop 7

theorem listing_usage (hdevs : world.devs = some names) (hagain : world.devsAgain = some names)
    (hrange : ∀ dev ∈ scanned world.sysfs names, dev.InRange) : ∃ maxSerialLength,
      listing (main.usage world).stdout =
        (scanned world.sysfs names).map (entryLine maxSerialLength) := by
  refine ⟨(scanned world.sysfs names).foldl (fun m dev => max m dev.serial.length) 0, ?_⟩
  generalize hwidth : (scanned world.sysfs names).foldl (fun m dev => max m dev.serial.length) 0 =
    width
  have hclean : ∀ dev ∈ scanned world.sysfs names, '\n' ∉ entryLine width dev := by
    intro dev hdev
    obtain ⟨dName, -, hentry⟩ := List.mem_map.mp ((List.takeWhile_sublist _).subset hdev)
    refine newline_entryLine (hrange dev hdev) ?_ ?_ width
    · rw [← hentry]
      exact newline_copyName world.sysfs dName "serial"
    · rw [← hentry]
      exact newline_copyName world.sysfs dName "product"
  have hlines : listDevices world.sysfs world.devs world.devsAgain =
      ((scanned world.sysfs names).map (entryLine width)).flatMap (· ++ ['\n']) := by
    rw [hdevs, hagain, listDevices, List.flatMap_map]
    simp only [devlist_eq, hwidth]
  have husage : ∃ front : List Name, front.length = 7 ∧ (∀ line ∈ front, '\n' ∉ line) ∧
      usageText = front.flatMap (· ++ ['\n']) := by
    refine ⟨["Usage:".toList, "  usbreset VVVV:PPPP - reset by vendor and product id".toList,
      "  usbreset BBB/DDD   - reset by bus and device number".toList,
      "  usbreset SN:SERIAL - reset by serial number".toList,
      "  usbreset \"Product\" - reset by product name".toList, [], "Devices:".toList], rfl, ?_, ?_⟩
    · decide +kernel
    · decide +kernel
  obtain ⟨front, hseven, hfront, husage⟩ := husage
  have hstdout : (main.usage world).stdout =
      front.flatMap (· ++ ['\n']) ++ listDevices world.sysfs world.devs world.devsAgain := by
    rw [← husage]
    rfl
  rw [listing, hstdout, lines_flatMap hfront, hlines, ← hseven, List.drop_left,
    ← List.append_nil (((scanned world.sysfs names).map _).flatMap _),
    lines_flatMap (List.forall_mem_map.mpr hclean), lines_nil, List.append_nil]

/-- Without one argument there is a line for each device, and with an argument a device file is
opened exactly where a single device fits; the numbers in a line are arguments for the device. -/
theorem main_selects (hdevs : world.devs = some names) (hagain : world.devsAgain = some names)
    (hrange : ∀ dev ∈ scanned world.sysfs names, dev.InRange) :
    (∀ argv : List Name, argv.length ≠ 2 → (main world argv).status = 1 ∧
      List.Forall₂ (world.Selects (scanned world.sysfs names)) (listing (main world argv).stdout)
        (scanned world.sysfs names)) ∧
    ∀ argv path, (main world argv).opened = some path ↔ ∃ prog arg crit dev, argv = [prog, arg] ∧
      criterion arg = some crit ∧ (scanned world.sysfs names).filter crit.fits = [dev] ∧
      path = devicePath dev := by
  refine ⟨fun argv hargv => ?_, fun argv path => opened_iff hdevs⟩
  have husage : main world argv = main.usage world := by
    unfold main
    split
    · exact absurd rfl hargv
    · rfl
  obtain ⟨maxSerialLength, hlisting⟩ := listing_usage hdevs hagain hrange
  rw [husage, hlisting, List.forall₂_map_left_iff, List.forall₂_same]
  exact ⟨rfl, fun dev hdev => selects hdevs (hrange dev hdev) maxSerialLength⟩

def oneKeyboard : World where
  sysfs := unpluggedFirst
  devs := some ["1-2", "1-2:1.0"]
  devsAgain := some ["1-2", "1-2:1.0"]
  reset _ := .done
  strerror _ := ""

def keyboardEntry : UsbEntry :=
  { busNum := 1, devNum := 5, vendorId := 0x04f2, productId := 0x0112 }

theorem main_selects_oneKeyboard :
    (main oneKeyboard []).status = 1 ∧
    List.Forall₂ (oneKeyboard.Selects [keyboardEntry]) (listing (main oneKeyboard []).stdout)
      [keyboardEntry] ∧
    (main oneKeyboard ["usbreset".toList, "04f2:0112".toList]).opened =
      some "/dev/bus/usb/001/005".toList := by
  have hscanned : scanned oneKeyboard.sysfs ["1-2", "1-2:1.0"] = [keyboardEntry] := by
    decide +kernel
  have hrange : ∀ dev ∈ scanned oneKeyboard.sysfs ["1-2", "1-2:1.0"], dev.InRange := by
    rw [hscanned]
    decide
  obtain ⟨hlist, hopened⟩ := @main_selects oneKeyboard ["1-2", "1-2:1.0"] rfl rfl hrange
  rw [hscanned] at hlist hopened
  obtain ⟨hstatus, hlines⟩ := hlist [] (by decide)
  refine ⟨hstatus, hlines, (hopened _ _).mpr ⟨_, _, { id := some (0x04f2, 0x0112) },
    keyboardEntry, rfl, ?_, ?_, ?_⟩⟩
  · exact @criterion_id 0x04f2 0x0112 ⟨by decide, by decide⟩ ⟨by decide, by decide⟩
  · decide
  · decide +kernel

end Selects

end Usbreset

end Usbutils
