import Usbutils.Lib.Prog
import Usbutils.Desc.Tables

/-! What the dumping functions of `lsusb` do besides reading memory. A `printf`
of several lines is one `print` for each line. The last constructors of `Effect`
print nothing: they mark where a step of the source happened, so that statements
can say which bytes a printed field stands for. -/
namespace Usbutils
open ByteProg

/-- An argument of `printf`; a string argument is `none` for a null pointer. -/
inductive Arg where
  | num (value : Nat)
  | int (value : Int)
  | str (text : Option String)
  deriving DecidableEq, Repr

inductive Effect where
  | print (format : String) (args : List Arg)
  | error (format : String) (args : List Arg)
  | lookup (index size : Nat)
  /-- An unsigned subtraction whose result is used as a width. -/
  | subtract (minuend subtrahend : Nat)
  | dump (desc : DescId) (address length : Nat)
  /-- `value_renderer` is called for one entry of a field. -/
  | field (desc : DescId) (current : Desc) (entry address size : Nat)
  | trailing (address : Nat)
  deriving DecidableEq, Repr

inductive Stop where
  | exit
  /-- A recursion or loop of the source that does not end. -/
  | endless
  deriving DecidableEq, Repr

abbrev Dump := Prog Effect Stop

/-- What comes from outside the descriptor bytes: the options, the answers of the
open device and the name tables. -/
structure Env where
  doReportDesc : Bool
  dev : Bool
  /-- Whether an interface can be claimed, at the entry of a HID descriptor. -/
  claimInterface : Nat → Nat → Bool
  /-- The result of a report request and the buffer after it, for an interface, an
  entry and an attempt. -/
  getReport : Nat → Nat → Nat → Int × Memory
  libusbErrorName : Int → String
  getDevString : Nat → Option String
  /-- The result of a request for a WebUSB URL and the buffer after it, for a vendor code
  and an index. -/
  webusbReply : Nat → Nat → Int × Memory
  namesReporttag : Nat → Option String
  namesHuts : Nat → Option String
  namesHutus : Nat → Option String
  namesAudioterminal : Nat → Option String
  namesVideoterminal : Nat → Option String
  namesCountrycode : Nat → Option String
  namesHid : Nat → Option String
  getClassString : Nat → String
  getSubclassString : Nat → Nat → String
  getProtocolString : Nat → Nat → Nat → String
  deriving Inhabited

def print (format : String) (args : List Arg) : Dump Unit := Prog.emit (.print format args)

def printError (format : String) (args : List Arg) : Dump Unit := Prog.emit (.error format args)

def u8 (address : Nat) : Dump Arg := do return .num (← Prog.byte address)

def convertLeU16 (buf : Nat) : Dump Nat := do
  return (← Prog.byte buf) ||| (← Prog.byte (buf + 1)) <<< 8

def convertLeU32 (buf : Nat) : Dump Nat := do
  return (← Prog.byte buf) ||| (← Prog.byte (buf + 1)) <<< 8 |||
    (← Prog.byte (buf + 2)) <<< 16 ||| (← Prog.byte (buf + 3)) <<< 24

def lookup (table : StringTable) (index : Nat) : Dump (Option String) := do
  Prog.emit (.lookup index table.length)
  return table[index]?.join

def dumpBytes (buf len : Nat) : Dump Unit := do
  Prog.loop len fun i => do
    print " %02x" [← u8 (buf + i)]
  print "\n" []

def dumpJunk (buf : Nat) (indent : String) (len : Nat) : Dump Unit := do
  let bLength ← Prog.byte buf
  Prog.when (len < bLength) do
    print "%sjunk at descriptor end:" [.str indent]
    Prog.loop (bLength - len) fun i => do
      print " %02x" [← u8 (buf + (len + i))]
    print "\n" []

variable {E : Entry Effect → Prop} {m : Memory}

@[simp] theorem all_print (format : String) (args : List Arg) :
    Prog.All E (print format args) m ↔ E (.act (.print format args)) := by
  simp [print]

@[simp] theorem result_print (format : String) (args : List Arg) :
    (print format args).result m = .ok () := rfl

@[simp] theorem acts_print (format : String) (args : List Arg) :
    (print format args).acts m = [.print format args] := rfl

@[simp] theorem all_printError (format : String) (args : List Arg) :
    Prog.All E (printError format args) m ↔ E (.act (.error format args)) := by
  simp [printError]

@[simp] theorem result_printError (format : String) (args : List Arg) :
    (printError format args).result m = .ok () := rfl

@[simp] theorem all_u8 (a : Nat) : Prog.All E (u8 a) m ↔ E (.read a) := by
  simp [u8]

@[simp] theorem result_u8 (a : Nat) : (u8 a).result m = .ok (.num (m a).toNat) := rfl

@[simp] theorem acts_u8 (a : Nat) : (u8 a).acts m = [] := rfl

@[simp] theorem all_convertLeU16 (a : Nat) :
    Prog.All E (convertLeU16 a) m ↔ E (.read a) ∧ E (.read (a + 1)) := by
  simp [convertLeU16]

@[simp] theorem result_convertLeU16 (a : Nat) :
    (convertLeU16 a).result m = .ok ((m a).toNat ||| (m (a + 1)).toNat <<< 8) := rfl

@[simp] theorem all_convertLeU32 (a : Nat) :
    Prog.All E (convertLeU32 a) m ↔
      E (.read a) ∧ E (.read (a + 1)) ∧ E (.read (a + 2)) ∧ E (.read (a + 3)) := by
  simp [convertLeU32]

@[simp] theorem result_convertLeU32 (a : Nat) :
    (convertLeU32 a).result m = .ok ((m a).toNat ||| (m (a + 1)).toNat <<< 8 |||
      (m (a + 2)).toNat <<< 16 ||| (m (a + 3)).toNat <<< 24) := rfl

@[simp] theorem all_lookup (table : StringTable) (i : Nat) :
    Prog.All E (lookup table i) m ↔ E (.act (.lookup i table.length)) := by
  simp [lookup]

@[simp] theorem result_lookup (table : StringTable) (i : Nat) :
    (lookup table i).result m = .ok table[i]?.join := rfl

@[simp] theorem result_dumpBytes (buf len : Nat) : (dumpBytes buf len).result m = .ok () := by
  simp [dumpBytes, Prog.result_loop]

@[simp] theorem result_dumpJunk (buf : Nat) (indent : String) (len : Nat) :
    (dumpJunk buf indent len).result m = .ok () := by
  simp [dumpJunk, Prog.result_loop]

/-- Reads stay in `[lo, hi)`, tables are indexed inside their bounds and
subtractions do not go below zero. -/
def Within (lo hi : Nat) : Entry Effect → Prop
  | .read a => lo ≤ a ∧ a < hi
  | .act (.lookup index size) => index < size
  | .act (.subtract minuend subtrahend) => subtrahend ≤ minuend
  | .act _ => True

@[simp] theorem within_read (lo hi a : Nat) : Within lo hi (.read a) ↔ lo ≤ a ∧ a < hi := Iff.rfl

@[simp] theorem within_lookup (lo hi i n : Nat) :
    Within lo hi (.act (.lookup i n)) ↔ i < n := Iff.rfl

@[simp] theorem within_subtract (lo hi a b : Nat) :
    Within lo hi (.act (.subtract a b)) ↔ b ≤ a := Iff.rfl

@[simp] theorem within_print (lo hi : Nat) (format : String) (args : List Arg) :
    Within lo hi (.act (.print format args)) := trivial

@[simp] theorem within_error (lo hi : Nat) (format : String) (args : List Arg) :
    Within lo hi (.act (.error format args)) := trivial

theorem Within.mono {lo lo' hi hi' : Nat} (hlo : lo' ≤ lo) (hhi : hi ≤ hi')
    {entry : Entry Effect} (h : Within lo hi entry) : Within lo' hi' entry := by
  cases entry with
  | read a => exact ⟨Nat.le_trans hlo h.1, Nat.lt_of_lt_of_le h.2 hhi⟩
  | act effect => cases effect <;> exact h

theorem dumpBytes_within {lo hi buf len : Nat} (hlo : lo ≤ buf) (hhi : buf + len ≤ hi) :
    Prog.All (Within lo hi) (dumpBytes buf len) m := by
  simp only [dumpBytes, Prog.all_bind, all_print, within_print, implies_true, and_true]
  apply Prog.all_loop
  intro i hi'
  simp
  omega

theorem dumpBytes_whole (buf len : Nat) :
    Prog.All (Within buf (buf + len)) (dumpBytes buf len) m :=
  dumpBytes_within (Nat.le_refl buf) (Nat.le_refl _)

theorem dumpJunk_within {buf : Nat} (indent : String) (len : Nat) (h : 0 < (m buf).toNat) :
    Prog.All (Within buf (buf + (m buf).toNat)) (dumpJunk buf indent len) m := by
  simp only [dumpJunk, Prog.all_bind, Prog.all_byte, within_read, Prog.result_byte,
    Except.ok.injEq, forall_eq', forall_const, Prog.all_when, all_print, within_print, true_and,
    result_print, implies_true, and_true]
  refine ⟨by omega, fun hlen => Prog.all_loop _ fun i hi => ?_⟩
  simp
  omega

end Usbutils
