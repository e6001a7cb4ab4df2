import Mathlib.Algebra.Group.Int.Defs
import Mathlib.Algebra.Group.Nat.Defs
import Usbutils.Lsusb.Print
import Mathlib.Tactic.SplitIfs

/-! `dump_report_desc` and `dump_unit` of `lsusb.c`. A report descriptor comes from
the device in a buffer of its own. -/
namespace Usbutils
open ByteProg

def signed (bits value : Nat) : Int :=
  if value < 2 ^ (bits - 1) then value else (value : Int) - 2 ^ bits

namespace Report

def systems : StringTable := [
  some "None", some "SI Linear", some "SI Rotation", some "English Linear", some "English Rotation"]

def units : List StringTable := [
  [some "None", some "None", some "None", some "None", some "None", some "None", some "None",
   some "None"],
  [some "None", some "Centimeter", some "Gram", some "Seconds", some "Kelvin", some "Ampere",
   some "Candela", some "None"],
  [some "None", some "Radians", some "Gram", some "Seconds", some "Kelvin", some "Ampere",
   some "Candela", some "None"],
  [some "None", some "Inch", some "Slug", some "Seconds", some "Fahrenheit", some "Ampere",
   some "Candela", some "None"],
  [some "None", some "Degrees", some "Slug", some "Seconds", some "Fahrenheit", some "Ampere",
   some "Candela", some "None"]]

def nibbleExponent (nibble : Nat) : Int :=
  let val := nibble &&& 0x7
  if nibble &&& 0x08 ≠ 0 then -(((0x7 ^^^ val : Nat) : Int) + 1) else val

/-- The factors from nibble `i` on; returns how many there were before and in these. -/
def dumpFactors (names : StringTable) : Nat → Nat → Nat → Nat → Dump Nat
  | 0, _, _, earlierUnit => pure earlierUnit
  | count + 1, i, data, earlierUnit => do
      let nibble := data &&& 0xf
      (if nibble ≠ 0 then do
        Prog.when (earlierUnit > 0) do print "*" []
        print "%s" [.str (← lookup names i)]
        Prog.when (nibble ≠ 1) do print "^%d" [.int (nibbleExponent nibble)]
        dumpFactors names count (i + 1) (data >>> 4) (earlierUnit + 1)
      else dumpFactors names count (i + 1) (data >>> 4) earlierUnit)

def dumpUnit (data len : Nat) : Dump Unit := do
  let sys := data &&& 0xf
  (if sys > 4 then
    if sys = 0xf then print "System: Vendor defined, Unit: (unknown)\n" []
    else print "System: Reserved, Unit: (unknown)\n" []
  else do
    print "System: %s, Unit: " [.str (← lookup systems sys)]
    -- the first nibble names the system
    let earlierUnit ← dumpFactors (units[sys]?.getD []) (len * 2 - 1) 1 (data >>> 4) 0
    Prog.when (earlierUnit = 0) do print "(None)" []
    print "\n" [])

def types : StringTable := [some "Main", some "Global", some "Local", some "reserved"]

def indent : Arg := text "                            "

def collection (data : Nat) : Dump Unit :=
  match data with
  | 0x00 => print "Physical\n" []
  | 0x01 => print "Application\n" []
  | 0x02 => print "Logical\n" []
  | 0x03 => print "Report\n" []
  | 0x04 => print "Named Array\n" []
  | 0x05 => print "Usage Switch\n" []
  | 0x06 => print "Usage Modifier\n" []
  | _ =>
      if data &&& 0x80 ≠ 0 then print "Vendor defined\n" []
      else print "Reserved for future use.\n" []

def flag (data mask : Nat) (set unset : String) : Arg :=
  text (if data &&& mask ≠ 0 then set else unset)

def itemData (address : Nat) : Nat → Nat → Nat → Dump Nat
  | 0, _, data => pure data
  | count + 1, j, data => do
      let byte ← Prog.byte (address + j)
      print "0x%02x " [.num byte]
      itemData address count (j + 1) ((data + byte <<< (8 * j)) % 2 ^ 32)

/-- The annotation of an item; returns the usage page behind it. -/
def annotate (env : Env) (btag data bsize hut : Nat) : Dump Nat :=
  match btag with
  | 0x04 => do
      print "%s%s\n" [indent, text ((env.namesHuts data).getD "Unknown")]
      return data
  | 0x08 | 0x18 | 0x28 => do
      print "%s%s\n" [indent,
        text ((env.namesHutus (((hut <<< 16) % 2 ^ 32 + data) % 2 ^ 32)).getD "Unknown")]
      return hut
  | 0x54 => do
      print "%sUnit Exponent: %i\n" [indent, .int (signed 8 (data % 2 ^ 8))]
      return hut
  | 0x64 => do
      print "%s" [indent]
      dumpUnit data bsize
      return hut
  | 0xa0 => do
      print "%s" [indent]
      collection data
      return hut
  | 0x80 | 0x90 | 0xb0 => do
      print "%s%s %s %s %s %s\n" [indent, flag data 0x01 "Constant" "Data",
        flag data 0x02 "Variable" "Array", flag data 0x04 "Relative" "Absolute",
        flag data 0x08 "Wrap" "No_Wrap", flag data 0x10 "Non_Linear" "Linear"]
      print "%s%s %s %s %s\n" [indent, flag data 0x20 "No_Preferred_State" "Preferred_State",
        flag data 0x40 "Null_State" "No_Null_Position", flag data 0x80 "Volatile" "Non_Volatile",
        flag data 0x100 "Buffered Bytes" "Bitfield"]
      return hut
  | _ => pure hut

def itemSize (first : Nat) : Nat := if first &&& 0x03 = 3 then 4 else first &&& 0x03

/-- `data` is left as it was by an item without data. -/
def printData (address bsize data : Nat) : Dump Nat :=
  if bsize > 0 then do
    print " [ " []
    let data ← itemData address bsize 0 0
    print "] %d" [.int (signed 32 data)]
    return data
  else do
    print "none" []
    return data

/-- The items from offset `i` on; each takes a byte at least. -/
def dumpItems (env : Env) (b l : Nat) : Nat → Nat → Nat → Nat → Dump Unit
  | 0, i, _, _ => Prog.when (i < l) (Prog.stop .endless)
  | fuel + 1, i, data, hut =>
      Prog.when (i < l) do
        let first ← Prog.byte (b + i)
        let bsize := itemSize first
        (if i + 1 + bsize > l then print "            ** TRUNCATED at offset %d **\n" [.num i]
        else do
          let btag := first &&& 0xfc
          print "            Item(%-6s): %s, data=" [.str (← lookup types ((first &&& 0x0c) >>> 2)),
            text ((env.namesReporttag btag).getD "Unknown")]
          let data ← printData (b + (i + 1)) bsize data
          print "\n" []
          let hut ← annotate env btag data bsize hut
          dumpItems env b l fuel (i + (1 + bsize)) data hut)

end Report

def dumpReportDesc (env : Env) (b l : Nat) : Dump Unit := do
  print "          Report Descriptor: (length is %d)\n" [.num l]
  Report.dumpItems env b l l 0 0xffff 0xffff

namespace Report

variable {env : Env} {m : Memory} {lo hi : Nat}

theorem dumpFactors_returns (names : StringTable) (count i data earlierUnit : Nat) :
    (dumpFactors names count i data earlierUnit).Returns m := by
  induction count generalizing i data earlierUnit with
  | zero => exact ⟨earlierUnit, rfl⟩
  | succ count ih =>
      refine .ite (fun _ => ?_) fun _ => ih _ _ _
      refine .bind (Prog.returns_unit.mpr (by simp)) fun _ _ => ?_
      refine .bind (.of_result (result_lookup ..)) fun _ _ => ?_
      refine .bind (.of_result (result_print ..)) fun _ _ => ?_
      exact .bind (Prog.returns_unit.mpr (by simp)) fun _ _ => ih _ _ _

theorem dumpFactors_within {names : StringTable} {count i : Nat} (data earlierUnit : Nat)
    (h : i + count ≤ names.length) :
    Prog.All (Within lo hi) (dumpFactors names count i data earlierUnit) m := by
  induction count generalizing i data earlierUnit with
  | zero => simp [dumpFactors]
  | succ count ih =>
      simp [dumpFactors, ih (i := i + 1) _ _ (by omega)]
      omega

@[simp] theorem result_dumpUnit (data len : Nat) : (dumpUnit data len).result m = .ok () := by
  obtain ⟨earlier, hearlier⟩ := dumpFactors_returns (m := m) (units[data &&& 0xf]?.getD [])
    (len * 2 - 1) 1 (data >>> 4) 0
  simp [dumpUnit, hearlier]

/-- Four bytes hold no more nibbles than a system has units. -/
theorem dumpUnit_within {data len : Nat} (hlen : len ≤ 4) :
    Prog.All (Within lo hi) (dumpUnit data len) m := by
  simp [dumpUnit]
  intro hsys
  have hunits : ∀ sys ≤ 4, (units[sys]?.getD []).length = 8 := by decide
  exact ⟨by simp [systems]; omega, dumpFactors_within _ _ (by rw [hunits _ hsys]; omega)⟩

theorem itemSize_le (first : Nat) : itemSize first ≤ 4 := by
  have : first &&& 0x03 ≤ 0x03 := Nat.and_le_right
  unfold itemSize
  split <;> omega

theorem itemData_returns (address count j data : Nat) :
    (itemData address count j data).Returns m := by
  induction count generalizing j data with
  | zero => exact ⟨data, rfl⟩
  | succ count ih =>
      exact .bind (.of_result (Prog.result_byte ..)) fun _ _ =>
        .bind (.of_result (result_print ..)) fun _ _ => ih _ _

theorem itemData_within {address count j : Nat} (data : Nat) (hlo : lo ≤ address)
    (hhi : address + (j + count) ≤ hi) :
    Prog.All (Within lo hi) (itemData address count j data) m := by
  induction count generalizing j data with
  | zero => simp [itemData]
  | succ count ih =>
      simp [itemData, ih (j := j + 1) _ (by omega)]
      omega

theorem annotate_returns (btag data bsize hut : Nat) :
    (annotate env btag data bsize hut).Returns m := by
  have hcollection : (collection data).result m = .ok () := by
    unfold collection
    split <;> simp
  unfold annotate
  split <;> simp [Prog.Returns, hcollection, Except.map]

theorem annotate_within {bsize : Nat} (btag data hut : Nat) (hsize : bsize ≤ 4) :
    Prog.All (Within lo hi) (annotate env btag data bsize hut) m := by
  have hcollection : Prog.All (Within lo hi) (collection data) m := by
    unfold collection
    split <;> simp
  unfold annotate
  split <;> simp [hcollection, dumpUnit_within hsize]

theorem printData_returns (address bsize data : Nat) : (printData address bsize data).Returns m := by
  obtain ⟨value, hvalue⟩ := itemData_returns (m := m) address bsize 0 0
  unfold printData
  split <;> simp [Prog.Returns, hvalue, Except.map]

theorem printData_within {address bsize : Nat} (data : Nat) (hlo : lo ≤ address)
    (hhi : address + bsize ≤ hi) : Prog.All (Within lo hi) (printData address bsize data) m := by
  have hitem : Prog.All (Within lo hi) (itemData address bsize 0 0) m :=
    itemData_within 0 hlo (by omega)
  unfold printData
  split <;> simp [hitem]

theorem result_dumpItems (b l : Nat) {fuel i : Nat} (data hut : Nat) (h : l ≤ i + fuel) :
    (dumpItems env b l fuel i data hut).result m = .ok () := by
  induction fuel generalizing i data hut with
  | zero => simp [dumpItems, show ¬i < l by omega]
  | succ fuel ih =>
      refine Prog.returns_unit.mp (.ite (fun hi => ?_) fun _ => .of_result rfl)
      refine .bind (.of_result (Prog.result_byte ..)) fun first _ => ?_
      refine .ite (fun _ => .of_result (result_print ..)) fun _ => ?_
      refine .bind (.of_result (result_lookup ..)) fun _ _ => ?_
      refine .bind (.of_result (result_print ..)) fun _ _ => .bind (printData_returns ..) fun _ _ => ?_
      refine .bind (.of_result (result_print ..)) fun _ _ => .bind (annotate_returns ..) fun _ _ => ?_
      exact Prog.returns_unit.mpr (ih _ _ (by omega))

theorem dumpItems_within (b l fuel i data hut : Nat) :
    Prog.All (Within b (b + l)) (dumpItems env b l fuel i data hut) m := by
  induction fuel generalizing i data hut with
  | zero => simp [dumpItems]
  | succ fuel ih =>
      simp only [dumpItems, Prog.all_when, Prog.all_bind, Prog.all_byte, within_read,
        Prog.result_byte, Except.ok.injEq, forall_eq', Prog.all_ite, all_print, within_print,
        implies_true, true_and, all_lookup, within_lookup, result_print, forall_const,
        result_lookup]
      have hsize := itemSize_le (m (b + i)).toNat
      have htype : ((m (b + i)).toNat &&& 0x0c) ≤ 0x0c := Nat.and_le_right
      refine fun hi => ⟨by omega, fun hfit => ⟨?_, printData_within _ (by omega) (by omega), ?_⟩⟩
      · rw [Nat.shiftRight_eq_div_pow]
        change _ < 4
        omega
      · exact fun _ _ => ⟨annotate_within _ _ _ hsize, fun _ _ => ih _ _ _⟩

end Report

variable {env : Env} {m : Memory}

@[simp] theorem result_dumpReportDesc (b l : Nat) :
    (dumpReportDesc env b l).result m = .ok () := by
  simp [dumpReportDesc, Report.result_dumpItems]

theorem dumpReportDesc_within (b l : Nat) :
    Prog.All (Within b (b + l)) (dumpReportDesc env b l) m := by
  simp [dumpReportDesc, Report.dumpItems_within]

end Usbutils
