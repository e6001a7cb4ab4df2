import Usbutils.Effect

/-! Helpers that the class decoders of `lsusb` share. A decoder is given the
address of a descriptor; its byte `i` stands at `buf + i`. -/
namespace Usbutils
open ByteProg

def usbDtCsDevice : Nat := 0x21
def usbDtCsInterface : Nat := 0x24
def usbDtCsEndpoint : Nat := 0x25

def le16 (buf : Nat) : Dump Arg := do return .num (← convertLeU16 buf)

def le24 (buf : Nat) : Dump Arg := do
  return .num ((← Prog.byte buf) ||| (← Prog.byte (buf + 1)) <<< 8 |||
    (← Prog.byte (buf + 2)) <<< 16)

def le32 (buf : Nat) : Dump Arg := do return .num (← convertLeU32 buf)

def hex2 (value : Nat) : String :=
  String.ofList [Nat.digitChar (value / 16), Nat.digitChar (value % 16)]

def hexBytes : List Nat → Dump String
  | [] => pure ""
  | address :: rest => do return hex2 (← Prog.byte address) ++ (← hexBytes rest)

def getGuid (buf : Nat) : Dump String := do
  let timeLow ← hexBytes [buf + 3, buf + 2, buf + 1, buf]
  let timeMid ← hexBytes [buf + 5, buf + 4]
  let timeHigh ← hexBytes [buf + 7, buf + 6]
  let clock ← hexBytes [buf + 8, buf + 9]
  let node ← hexBytes [buf + 10, buf + 11, buf + 12, buf + 13, buf + 14, buf + 15]
  return "\x7b" ++ timeLow ++ "-" ++ timeMid ++ "-" ++ timeHigh ++ "-" ++ clock ++ "-" ++ node ++
    "\x7d"

def text (s : String) : Arg := .str (some s)

def snprintf (size : Nat) (text : String) : String := String.ofList (text.toList.take (size - 1))

def getVideoterminalString (env : Env) (termt : Nat) : Arg :=
  text (snprintf 128 ((env.namesVideoterminal termt).getD ""))

def endpointArgs (address : Nat) : List Arg :=
  [.num address, .num (address &&& 0x0f), text (if address &&& 0x80 ≠ 0 then "IN" else "OUT")]

/-- `if (!(buf[0] < need)) rest`, with the warning of the class decoders -/
def guardLength (bLength need : Nat) (rest : Dump Unit) : Dump Unit :=
  if bLength < need then print "      Warning: Descriptor too short\n" [] else rest

def checkType (buf type : Nat) : Dump Unit := do
  let bDescriptorType ← Prog.byte (buf + 1)
  Prog.when (bDescriptorType ≠ type) do
    print "      Warning: Invalid descriptor\n" []

def interfaceHeading (title : String) (buf : Nat) : Dump Unit := do
  print title []
  print "        bLength             %5u\n" [← u8 buf]
  print "        bDescriptorType     %5u\n" [← u8 (buf + 1)]
  print "        bDescriptorSubtype  %5u " [← u8 (buf + 2)]

def dumpPayload (buf bLength : Nat) : Dump Unit :=
  if 3 < bLength then dumpBytes (buf + 3) (bLength - 3) else print "\n" []

/-- `for (i = 0; i < count; i++) if ((value >> i) & 1) printf("          %s\n", table[i]);` -/
def bitNames (table : StringTable) (count value : Nat) : Dump Unit :=
  Prog.loop count fun i =>
    Prog.when (value >>> i &&& 1 ≠ 0) do
      print "          %s\n" [.str (← lookup table i)]

def bitLines (value : Nat) : List (Nat × String) → Dump Unit
  | [] => pure ()
  | (mask, line) :: rest => do
      Prog.when (value &&& mask ≠ 0) do print line []
      bitLines value rest

variable {E : Entry Effect → Prop} {m : Memory} {lo hi : Nat}

@[simp] theorem all_le16 (a : Nat) :
    Prog.All E (le16 a) m ↔ E (.read a) ∧ E (.read (a + 1)) := by
  simp [le16]

@[simp] theorem result_le16 (a : Nat) :
    (le16 a).result m = .ok (.num ((m a).toNat ||| (m (a + 1)).toNat <<< 8)) := rfl

@[simp] theorem all_le24 (a : Nat) :
    Prog.All E (le24 a) m ↔ E (.read a) ∧ E (.read (a + 1)) ∧ E (.read (a + 2)) := by
  simp [le24]

@[simp] theorem result_le24 (a : Nat) :
    (le24 a).result m = .ok (.num ((m a).toNat ||| (m (a + 1)).toNat <<< 8 |||
      (m (a + 2)).toNat <<< 16)) := rfl

@[simp] theorem all_le32 (a : Nat) :
    Prog.All E (le32 a) m ↔
      E (.read a) ∧ E (.read (a + 1)) ∧ E (.read (a + 2)) ∧ E (.read (a + 3)) := by
  simp [le32]

@[simp] theorem result_le32 (a : Nat) :
    (le32 a).result m = .ok (.num ((m a).toNat ||| (m (a + 1)).toNat <<< 8 |||
      (m (a + 2)).toNat <<< 16 ||| (m (a + 3)).toNat <<< 24)) := rfl

def hexText (m : Memory) : List Nat → String
  | [] => ""
  | address :: rest => hex2 (m address).toNat ++ hexText m rest

@[simp] theorem result_hexBytes (addresses : List Nat) :
    (hexBytes addresses).result m = .ok (hexText m addresses) := by
  induction addresses with
  | nil => rfl
  | cons a rest ih => simp [hexBytes, hexText, ih, Except.map]

@[simp] theorem all_hexBytes (addresses : List Nat) :
    Prog.All E (hexBytes addresses) m ↔ ∀ a ∈ addresses, E (.read a) := by
  induction addresses with
  | nil => simp [hexBytes]
  | cons a rest ih => simp [hexBytes, ih]

def guidText (m : Memory) (buf : Nat) : String :=
  "\x7b" ++ hexText m [buf + 3, buf + 2, buf + 1, buf] ++ "-" ++ hexText m [buf + 5, buf + 4] ++
    "-" ++ hexText m [buf + 7, buf + 6] ++ "-" ++ hexText m [buf + 8, buf + 9] ++ "-" ++
    hexText m [buf + 10, buf + 11, buf + 12, buf + 13, buf + 14, buf + 15] ++ "\x7d"

@[simp] theorem result_getGuid (buf : Nat) : (getGuid buf).result m = .ok (guidText m buf) := by
  simp [getGuid, guidText, Except.map]

theorem getGuid_within {buf : Nat} (hlo : lo ≤ buf) (hhi : buf + 16 ≤ hi) :
    Prog.All (Within lo hi) (getGuid buf) m := by
  simp [getGuid]
  omega

@[simp] theorem guardLength_within (bLength need : Nat) (rest : Dump Unit) :
    Prog.All (Within lo hi) (guardLength bLength need rest) m ↔
      (need ≤ bLength → Prog.All (Within lo hi) rest m) := by
  simp [guardLength]

@[simp] theorem result_guardLength (bLength need : Nat) (rest : Dump Unit) :
    (guardLength bLength need rest).result m =
      if bLength < need then .ok () else rest.result m := by
  simp [guardLength]

@[simp] theorem checkType_within (buf type : Nat) :
    Prog.All (Within lo hi) (checkType buf type) m ↔ lo ≤ buf + 1 ∧ buf + 1 < hi := by
  simp [checkType]

@[simp] theorem result_checkType (buf type : Nat) : (checkType buf type).result m = .ok () := by
  simp [checkType]

@[simp] theorem result_interfaceHeading (title : String) (buf : Nat) :
    (interfaceHeading title buf).result m = .ok () := rfl

theorem interfaceHeading_within (title : String) {buf : Nat} (hlo : lo ≤ buf)
    (hhi : buf + 3 ≤ hi) : Prog.All (Within lo hi) (interfaceHeading title buf) m := by
  simp [interfaceHeading]
  omega

@[simp] theorem result_dumpPayload (buf bLength : Nat) :
    (dumpPayload buf bLength).result m = .ok () := by
  simp [dumpPayload]

theorem dumpPayload_within (buf : Nat) :
    Prog.All (Within buf (buf + (m buf).toNat)) (dumpPayload buf (m buf).toNat) m := by
  simp only [dumpPayload, Prog.all_ite, all_print, within_print, implies_true, and_true]
  exact fun h => dumpBytes_within (by omega) (by omega)

@[simp] theorem result_bitNames (table : StringTable) (count value : Nat) :
    (bitNames table count value).result m = .ok () :=
  Prog.result_loop count fun i => by simp

@[simp] theorem bitNames_within {table : StringTable} {count : Nat} (value : Nat)
    (h : count ≤ table.length) : Prog.All (Within lo hi) (bitNames table count value) m := by
  refine Prog.all_loop count fun i hi => ?_
  simp
  omega

@[simp] theorem result_bitLines (value : Nat) (lines : List (Nat × String)) :
    (bitLines value lines).result m = .ok () := by
  induction lines with
  | nil => rfl
  | cons line rest ih => simp [bitLines, ih]

@[simp] theorem bitLines_within (value : Nat) (lines : List (Nat × String)) :
    Prog.All (Within lo hi) (bitLines value lines) m := by
  induction lines with
  | nil => simp [bitLines]
  | cons line rest ih => simp [bitLines, ih]

def Avoids (effect : Effect) : Entry Effect → Prop
  | .act e => e ≠ effect
  | _ => True

@[simp] theorem avoids_read (effect : Effect) (a : Nat) : Avoids effect (.read a) := trivial

@[simp] theorem avoids_print (format format' : String) (args args' : List Arg) :
    Avoids (.print format args) (.act (.print format' args')) ↔
      ¬(format' = format ∧ args' = args) := by
  simp [Avoids]

theorem mem_acts_iff_avoids {effect : Effect} {p : Dump Unit} :
    effect ∈ p.acts m ↔ ¬Prog.All (Avoids effect) p m := by
  have heq : Avoids effect = fun entry => entry ≠ .act effect := by
    funext entry
    cases entry <;> simp [Avoids]
  rw [Prog.mem_acts, Prog.mem_log_iff, heq]

def endsLine (format : String) : Bool := format.toList.getLast? == some '\n'

def Effect.isLine : Effect → Bool
  | .print format _ => endsLine format
  | _ => false

def PrintsLine (p : Dump Unit) (m : Memory) : Prop := ∃ e ∈ p.acts m, e.isLine = true

theorem print_printsLine {format : String} (h : endsLine format = true) (args : List Arg) :
    PrintsLine (print format args) m :=
  ⟨.print format args, List.mem_singleton.mpr rfl, h⟩

theorem PrintsLine.left {p : Dump Unit} (h : PrintsLine p m) (rest : Unit → Dump Unit) :
    PrintsLine (p >>= rest) m := by
  obtain ⟨e, he, hline⟩ := h
  exact ⟨e, by rw [Prog.acts_bind]; exact List.mem_append_left _ he, hline⟩

/-- What comes before the line may compute something, as long as it returns. -/
theorem PrintsLine.after {α : Type} {p : Dump α} {a : α} {rest : α → Dump Unit}
    (hp : p.result m = .ok a) (h : PrintsLine (rest a) m) : PrintsLine (p >>= rest) m := by
  obtain ⟨e, he, hline⟩ := h
  exact ⟨e, by rw [Prog.acts_bind_ok hp]; exact List.mem_append_right _ he, hline⟩

theorem PrintsLine.of_print {format : String} {args : List Arg} {rest : Unit → Dump Unit}
    (h : endsLine format = true) : PrintsLine (print format args >>= rest) m :=
  (print_printsLine h args).left rest

theorem PrintsLine.ite {c : Prop} [Decidable c] {p q : Dump Unit} (hp : c → PrintsLine p m)
    (hq : ¬c → PrintsLine q m) : PrintsLine (if c then p else q) m := by
  split
  case isTrue h => exact hp h
  case isFalse h => exact hq h

theorem dumpBytes_printsLine (buf len : Nat) : PrintsLine (dumpBytes buf len) m := by
  unfold dumpBytes
  exact .after (Prog.result_loop len fun i => by simp) (print_printsLine (by decide) [])

theorem guardLength_printsLine {bLength need : Nat} {rest : Dump Unit}
    (h : need ≤ bLength → PrintsLine rest m) : PrintsLine (guardLength bLength need rest) m :=
  .ite (fun _ => print_printsLine (by decide) []) fun hlen => h (Nat.le_of_not_lt hlen)

theorem interfaceHeading_printsLine {title : String} (h : endsLine title = true)
    (buf : Nat) : PrintsLine (interfaceHeading title buf) m :=
  .of_print h

end Usbutils
