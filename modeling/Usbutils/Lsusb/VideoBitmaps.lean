import Usbutils.Lib.LittleEndian
import Usbutils.Lsusb.VideoControl

/-! The control bitmaps of `dump_videocontrol_interface`: the number that is printed for
a bitmap, and the names in the lines below it. -/
namespace Usbutils
open ByteProg

def setNames (table : StringTable) (count value : Nat) : List (Option String) :=
  ((List.range count).filter value.testBit).map fun i => table[i]?.join

def namesBelow : List Effect → List (Option String)
  | .lookup _ _ :: rest => namesBelow rest
  | .print format [.str name] :: rest =>
      if format = "          %s\n" then name :: namesBelow rest else []
  | _ => []

def Effect.number? (format : String) : Effect → Option Nat
  | .print f [.num value] => if f = format then some value else none
  | _ => none

/-- The first number printed with a format, and the names below it. -/
def shownBitmap (format : String) : List Effect → Option (Nat × List (Option String))
  | [] => none
  | effect :: rest =>
      match effect.number? format with
      | some value => some (value, namesBelow rest)
      | none => shownBitmap format rest

def Skips (format : String) : Entry Effect → Prop
  | .act (.print f _) => f ≠ format
  | _ => True

section Shown

variable {format : String} {m : Memory}

@[simp] theorem skips_read (a : Nat) : Skips format (.read a) := trivial

@[simp] theorem skips_print (f : String) (args : List Arg) :
    Skips format (.act (.print f args)) ↔ f ≠ format := Iff.rfl

@[simp] theorem skips_lookup (i n : Nat) : Skips format (.act (.lookup i n)) := trivial

theorem number?_skip {effect : Effect} (h : Skips format (.act effect)) :
    effect.number? format = none := by
  unfold Effect.number?
  split
  · exact if_neg h
  · rfl

theorem shownBitmap_skip {before rest : List Effect}
    (h : ∀ e ∈ before, Skips format (.act e)) :
    shownBitmap format (before ++ rest) = shownBitmap format rest := by
  induction before with
  | nil => rfl
  | cons e before ih =>
      rw [List.cons_append, shownBitmap, number?_skip (h e (List.mem_cons_self ..))]
      exact ih fun e he => h e (List.mem_cons_of_mem _ he)

theorem shownBitmap_bind {α : Type} {p : Dump α} (hskip : Prog.All (Skips format) p m)
    (f : α → Dump Unit) :
    shownBitmap format ((p >>= f).acts m) =
      match p.result m with
      | .ok a => shownBitmap format ((f a).acts m)
      | .error _ => none := by
  have hbefore : ∀ e ∈ p.acts m, Skips format (.act e) := fun e he => hskip _ (Prog.mem_acts.mp he)
  rw [Prog.acts_bind, shownBitmap_skip hbefore]
  cases p.result m <;> rfl

theorem acts_bitNames (table : StringTable) (count value : Nat) :
    (bitNames table count value).acts m = (List.range count).flatMap fun i =>
      if value.testBit i then
        [.lookup i table.length, .print "          %s\n" [.str table[i]?.join]]
      else [] := by
  rw [bitNames, Prog.acts_loop count fun i => by simp]
  congr 1
  funext i
  by_cases hbit : value.testBit i = true
  · rw [Prog.when, if_pos ((and_one_ne_zero ..).mpr hbit), if_pos hbit]
    rfl
  · rw [Prog.when, if_neg (mt (and_one_ne_zero ..).mp hbit), if_neg hbit]
    rfl

theorem namesBelow_append (table : StringTable) (count value : Nat) (rest : List Effect) :
    namesBelow ((bitNames table count value).acts m ++ rest) =
      setNames table count value ++ namesBelow rest := by
  rw [acts_bitNames, setNames]
  induction List.range count with
  | nil => rfl
  | cons i indices ih =>
      by_cases hbit : value.testBit i = true
      · simp [hbit, namesBelow, ih]
      · simp [hbit, ih]

theorem namesBelow_bitNames (table : StringTable) (count value : Nat) :
    namesBelow ((bitNames table count value).acts m) = setNames table count value := by
  simpa [namesBelow] using @namesBelow_append m table count value []

theorem namesBelow_bind (table : StringTable) (count value : Nat) (rest : Unit → Dump Unit) :
    namesBelow ((bitNames table count value >>= rest).acts m) =
      setNames table count value ++ namesBelow ((rest ()).acts m) := by
  rw [Prog.acts_bind_ok (result_bitNames ..), namesBelow_append]

theorem shownBitmap_print (value : Nat) (rest : Unit → Dump Unit) :
    shownBitmap format ((print format [.num value] >>= rest).acts m) =
      some (value, namesBelow ((rest ()).acts m)) := by
  rw [Prog.acts_bind_ok (result_print ..), acts_print, List.cons_append, List.nil_append,
    shownBitmap]
  simp [Effect.number?]

end Shown

namespace VideoControl

section Shift

variable {m : Memory}

theorem shift_or_byte (ctrls : Nat) (byte : UInt8) :
    (ctrls <<< 8) % 2 ^ 32 ||| byte.toNat = (ctrls * 256 + byte.toNat) % 2 ^ 32 := by
  have hbyte := byte.toNat_lt
  have hmul : (ctrls <<< 8) % 2 ^ 32 = (ctrls % 2 ^ 24) <<< 8 := by
    rw [Nat.shiftLeft_eq, Nat.shiftLeft_eq]
    omega
  rw [hmul, ← Nat.shiftLeft_add_eq_or_of_lt hbyte, Nat.shiftLeft_eq]
  omega

/-- Bytes that are shifted in from the last to the first move what was there before up. -/
theorem shifted_reverse (a k ctrls : Nat) :
    shifted m (List.range' a k).reverse ctrls % 2 ^ 32 =
      (ctrls * 256 ^ k + leValue m a k) % 2 ^ 32 := by
  induction k generalizing ctrls with
  | zero => simp [shifted, leValue_zero]
  | succ k ih =>
      have hrange : (List.range' a (k + 1)).reverse = (a + k) :: (List.range' a k).reverse := by
        rw [List.range'_concat, List.reverse_append]
        simp
      have hstep : (ctrls * 256 + (m (a + k)).toNat) % 2 ^ 32 * 256 ^ k % 2 ^ 32 =
          (ctrls * 256 + (m (a + k)).toNat) * 256 ^ k % 2 ^ 32 := Nat.mod_mul_mod ..
      rw [hrange, shifted, shift_or_byte, ih, Nat.add_mod, hstep, ← Nat.add_mod, leValue_succ_last]
      congr 1
      ring

theorem shifted_lt {addresses : List Nat} {ctrls : Nat} (h : ctrls < 2 ^ 32) :
    shifted m addresses ctrls < 2 ^ 32 := by
  induction addresses generalizing ctrls with
  | nil => exact h
  | cons a rest ih =>
      rw [shifted, shift_or_byte]
      exact ih (Nat.mod_lt _ (by decide))

theorem shifted_bitmapTail {stop size : Nat} (h : size ≤ stop) :
    shifted m (bitmapTail stop size) 0 = leValue m (stop - min 3 size) (min 3 size) := by
  have htail : bitmapTail stop size = (List.range' (stop - min 3 size) (min 3 size)).reverse := by
    apply List.ext_getElem
    · simp [bitmapTail]
    · intro i hi _
      simp only [bitmapTail, List.length_map, List.length_range] at hi
      simp only [bitmapTail, List.getElem_map, List.getElem_range, List.getElem_reverse,
        List.getElem_range', List.length_range']
      omega
  have hlt := leValue_lt m (stop - min 3 size) (min 3 size)
  have hpow : 256 ^ min 3 size ≤ 256 ^ 3 := Nat.pow_le_pow_right (by decide) (by omega)
  have hmod := @shifted_reverse m (stop - min 3 size) (min 3 size) 0
  rw [htail, ← Nat.mod_eq_of_lt (shifted_lt (by decide : 0 < 2 ^ 32)), hmod, Nat.zero_mul,
    Nat.zero_add]
  exact Nat.mod_eq_of_lt (by omega)

end Shift

/-- A field of control bits: where it stands, how many bytes it has, and the names that
the protocol has for its bits. -/
structure ControlField where
  format : String
  address : Nat
  size : Nat
  names : StringTable
  count : Nat

def ControlField.value (field : ControlField) (m : Memory) : Nat :=
  leValue m field.address (min 3 field.size)

def ControlField.Shown (field : ControlField) (m : Memory) (acts : List Effect) : Prop :=
  shownBitmap field.format acts =
    some (field.value m, setNames field.names field.count (field.value m))

def cameraControls (m : Memory) (buf protocol : Nat) : ControlField where
  format := "        bmControls           0x%08x\n"
  address := buf + 15
  size := (m (buf + 14)).toNat
  names := camctrlnames
  count := if protocol = usbVideoProtocol15 then 22 else 19

def processingControls (m : Memory) (buf protocol : Nat) : ControlField where
  format := "        bmControls     0x%08x\n"
  address := buf + 8
  size := (m (buf + 7)).toNat
  names := ctrlnames
  count := if protocol = usbVideoProtocol15 then 19 else 18

inductive ControlsOf (m : Memory) (buf protocol : Nat) : ControlField → Prop
  | camera (hsubtype : m (buf + 2) = 0x02) (hterminal : leValue m (buf + 4) 2 = 0x0201)
      (hlength : 15 + (m (buf + 14)).toNat ≤ (m buf).toNat) :
      ControlsOf m buf protocol (cameraControls m buf protocol)
  | processing (hsubtype : m (buf + 2) = 0x05)
      (hlength : 10 + (m (buf + 7)).toNat ≤ (m buf).toNat) :
      ControlsOf m buf protocol (processingControls m buf protocol)

section Controls

variable {env : Env} {m : Memory} {buf protocol : Nat} {format : String}

theorem skips_checkType (h : "      Warning: Invalid descriptor\n" ≠ format) (type : Nat) :
    Prog.All (Skips format) (checkType buf type) m := by
  simp [checkType, h]

theorem shownBitmap_subtypeDump {subtype : UInt8} (hsubtype : m (buf + 2) = subtype)
    (hlength : 3 ≤ (m buf).toNat)
    (hskip : ∀ f ∈ ["      Warning: Invalid descriptor\n",
      "      VideoControl Interface Descriptor:\n", "        bLength             %5u\n",
      "        bDescriptorType     %5u\n", "        bDescriptorSubtype  %5u "], f ≠ format) :
    shownBitmap format ((dumpVideocontrolInterface env buf protocol).acts m) =
      shownBitmap format ((subtypeDump env buf (m buf).toNat protocol subtype.toNat).acts m) := by
  simp only [List.mem_cons, List.not_mem_nil, or_false, forall_eq_or_imp, forall_eq] at hskip
  obtain ⟨hinvalid, htitle, hlen, htype, hsub⟩ := hskip
  have hheading : Prog.All (Skips format)
      (interfaceHeading "      VideoControl Interface Descriptor:\n" buf) m := by
    simp [interfaceHeading, htitle, hlen, htype, hsub]
  have hlong : ¬(m buf).toNat < 3 := by omega
  simp [dumpVideocontrolInterface, shownBitmap_bind, skips_checkType hinvalid, guardLength, hlong,
    hheading, hsubtype]

theorem namesBelow_dumpJunk (indent : String) (len : Nat) :
    namesBelow ((dumpJunk buf indent len).acts m) = [] := by
  rw [dumpJunk, Prog.acts_bind_ok (Prog.result_byte ..), Prog.acts_byte, List.nil_append, Prog.when]
  split
  · rw [Prog.acts_bind_ok (result_print ..)]
    rfl
  · rfl

theorem shiftIn_skips (addresses : List Nat) (ctrls : Nat) :
    Prog.All (Skips format) (shiftIn addresses ctrls) m := by
  induction addresses generalizing ctrls with
  | nil => simp [shiftIn]
  | cons a rest ih => simp [shiftIn, ih]

def ControlField.last (field : ControlField) (m : Memory) : Nat :=
  leValue m (field.address + (field.size - min 3 field.size)) (min 3 field.size)

theorem shifted_field {field : ControlField} {stop size : Nat} (hsize : field.size = size)
    (hstop : field.address + size = stop) : shifted m (bitmapTail stop size) 0 = field.last m := by
  rw [shifted_bitmapTail (by omega), ControlField.last, hsize]
  congr 1
  omega

theorem controls_shown {field : ControlField} (h : ControlsOf m buf protocol field) :
    shownBitmap field.format ((dumpVideocontrolInterface env buf protocol).acts m) =
      some (field.last m, setNames field.names field.count (field.last m)) := by
  cases h with
  | camera hsubtype hterminal hlength =>
      have hctrls : shifted m
          (bitmapTail (buf + (8 + (7 + (m (buf + 14)).toNat))) (m (buf + 14)).toNat) 0 =
            (cameraControls m buf protocol).last m :=
        shifted_field rfl (by simp only [cameraControls]; omega)
      have hshort : ¬(m buf).toNat < 8 ∧ ¬(m buf).toNat < 15 := by omega
      have hfit : ¬(m buf).toNat < 8 + (7 + (m (buf + 14)).toNat) := by omega
      rw [shownBitmap_subtypeDump hsubtype (by omega) (by simp [cameraControls])]
      simp [subtypeDump, inputTerminal, cameraTerminal, cameraControls, shownBitmap_bind,
        guardLength, leValue_two, hterminal, hshort, hfit, shiftIn_skips, hctrls,
        shownBitmap_print, namesBelow_bind, namesBelow_dumpJunk]
  | processing hsubtype hlength =>
      have hctrls : shifted m (bitmapTail (buf + (8 + (m (buf + 7)).toNat)) (m (buf + 7)).toNat) 0 =
          (processingControls m buf protocol).last m :=
        shifted_field rfl (by simp only [processingControls]; omega)
      have hshort : ¬(m buf).toNat < 8 := by omega
      have hfit : ¬(m buf).toNat < 10 + (m (buf + 7)).toNat := by omega
      rw [shownBitmap_subtypeDump hsubtype (by omega) (by simp [processingControls])]
      simp [subtypeDump, processingUnit, processingControls, shownBitmap_bind, guardLength, hshort,
        hfit, shiftIn_skips, hctrls, shownBitmap_print, namesBelow_bind]
      rw [Prog.acts_bind_ok (Prog.result_byte ..), Prog.acts_bind_ok (result_print ..)]
      rfl

/-- The bytes are taken from the end of the field, so a field of more than three bytes is shown
right only where its first three bytes are those at its end. -/
theorem dumpVideocontrolInterface_bmControls {field : ControlField}
    (h : ControlsOf m buf protocol field) :
    field.Shown m ((dumpVideocontrolInterface env buf protocol).acts m) ↔
      field.size ≤ 3 ∨
        ∀ i < 3, m (field.address + (field.size - 3) + i) = m (field.address + i) := by
  have hshown : field.Shown m ((dumpVideocontrolInterface env buf protocol).acts m) ↔
      field.last m = field.value m := by
    rw [ControlField.Shown, controls_shown h]
    simp only [Option.some.injEq, Prod.mk.injEq]
    exact ⟨And.left, fun heq => ⟨heq, by rw [heq]⟩⟩
  rw [hshown, ControlField.last, ControlField.value]
  by_cases hsize : field.size ≤ 3
  · rw [Nat.min_eq_right hsize, Nat.sub_self, Nat.add_zero]
    exact iff_of_true rfl (.inl hsize)
  · rw [Nat.min_eq_left (by omega), leValue_inj, or_iff_right hsize]

def brightness : Memory :=
  fun a => [14, 0x24, 0x05, 2, 1, 0, 0, 4, 0x01, 0, 0, 0, 0, 0].getD a 0

theorem dumpVideocontrolInterface_brightness :
    ControlsOf brightness 0 0 (processingControls brightness 0 0) ∧
      ((processingControls brightness 0 0).value brightness = 1 ∧
        setNames ctrlnames 18 1 = [some "Brightness"]) ∧
      shownBitmap (processingControls brightness 0 0).format
        ((dumpVideocontrolInterface default 0 0).acts brightness) = some (0, []) :=
  ⟨.processing (by decide) (by decide), by decide, by decide +kernel⟩

theorem dumpVideocontrolInterface_bmControls_brightness :
    ¬(processingControls brightness 0 0).Shown brightness
      ((dumpVideocontrolInterface default 0 0).acts brightness) := by
  intro hshown
  have hbytes := (dumpVideocontrolInterface_bmControls (.processing (by decide) (by decide))).mp hshown
  revert hbytes
  decide

end Controls

structure EncodingUnit (m : Memory) (buf : Nat) : Prop where
  subtype : m (buf + 2) = 0x07
  length : 13 ≤ (m buf).toNat

def runtimeFormat : String := "        bmControlsRuntime       0x%08x\n"

def shownRuntime (env : Env) (m : Memory) (buf protocol : Nat) :
    Option (Nat × List (Option String)) :=
  shownBitmap runtimeFormat ((dumpVideocontrolInterface env buf protocol).acts m)

section Runtime

variable {env env' : Env} {m m' : Memory} {buf buf' protocol protocol' : Nat} {format : String}

theorem bitNames_skips (h : "          %s\n" ≠ format) (table : StringTable) (count value : Nat) :
    Prog.All (Skips format) (bitNames table count value) m := by
  refine Prog.all_loop count fun i _ => ?_
  simp [h]

/-- The lowest byte of the other bitmap is still there when the runtime bytes are shifted in. -/
theorem shifted_runtime :
    shifted m [buf + 12, buf + 11, buf + 10] (shifted m [buf + 9, buf + 8, buf + 7] 0) =
      leValue m (buf + 10) 3 + (m (buf + 7)).toNat * 2 ^ 24 := by
  have hcontrols := @shifted_reverse m (buf + 7) 3 0
  have hruntime := @shifted_reverse m (buf + 10) 3 (shifted m [buf + 9, buf + 8, buf + 7] 0)
  have hlt := @shifted_lt m [buf + 12, buf + 11, buf + 10] (shifted m [buf + 9, buf + 8, buf + 7] 0)
    (shifted_lt (by decide))
  have hthree := leValue_lt m (buf + 10) 3
  have hbyte := (m (buf + 7)).toNat_lt
  rw [leValue_succ m (buf + 7) 2] at hcontrols
  change shifted m [buf + 9, buf + 8, buf + 7] 0 % 2 ^ 32 = _ at hcontrols
  change shifted m [buf + 12, buf + 11, buf + 10] _ % 2 ^ 32 = _ at hruntime
  omega

theorem encodingUnit_shown (h : EncodingUnit m buf) :
    shownRuntime env m buf protocol =
      some (leValue m (buf + 10) 3 + (m (buf + 7)).toNat * 2 ^ 24, setNames enctrlnames 20
        (leValue m (buf + 10) 3 + (m (buf + 7)).toNat * 2 ^ 24)) := by
  have hlong : ¬(m buf).toNat < 13 := Nat.not_lt.mpr h.length
  rw [shownRuntime, shownBitmap_subtypeDump h.subtype (Nat.le_trans (by decide) h.length) (by decide)]
  simp [subtypeDump, encodingUnit, shownBitmap_bind, guardLength, hlong, shiftIn_skips,
    bitNames_skips, runtimeFormat, shifted_runtime, shownBitmap_print, namesBelow_bitNames]

/-- The value shown for the runtime controls is their own exactly where the first byte of the
other bitmap is zero, so nothing else is shown for the same runtime controls only there. -/
theorem dumpVideocontrolInterface_bmControlsRuntime (h : EncodingUnit m buf)
    (h' : EncodingUnit m' buf') (hsame : ∀ i < 3, m (buf + 10 + i) = m' (buf' + 10 + i)) :
    (∃ names, shownRuntime env m buf protocol = some (leValue m (buf + 10) 3, names) ∧
      shownRuntime env' m' buf' protocol' = some (leValue m (buf + 10) 3, names)) ↔
      m (buf + 7) = 0 ∧ m' (buf' + 7) = 0 := by
  have hvalue : leValue m (buf + 10) 3 = leValue m' (buf' + 10) 3 := leValue_inj.mpr hsame
  rw [encodingUnit_shown h, encodingUnit_shown h', ← hvalue]
  constructor
  · rintro ⟨names, hshown, hshown'⟩
    simp only [Option.some.injEq, Prod.mk.injEq] at hshown hshown'
    exact ⟨UInt8.toNat_inj.mp (by simp; omega), UInt8.toNat_inj.mp (by simp; omega)⟩
  · rintro ⟨hzero, hzero'⟩
    rw [hzero, hzero', UInt8.toNat_zero, Nat.zero_mul, Nat.add_zero]
    exact ⟨_, rfl, rfl⟩

def layerControls (controls : UInt8) : Memory :=
  fun a => [13, 0x24, 0x07, 5, 2, 0, 3, controls, 0, 0, 0, 0, 0].getD a 0

/-- No runtime controls are shown as `0x00000000` or as `0x01000000`. -/
theorem dumpVideocontrolInterface_layerControls :
    (EncodingUnit (layerControls 0) 0 ∧ EncodingUnit (layerControls 1) 0) ∧
      (∀ i < 3, layerControls 0 (10 + i) = layerControls 1 (10 + i)) ∧
      shownRuntime default (layerControls 0) 0 0 = some (0, []) ∧
      shownRuntime default (layerControls 1) 0 0 = some (0x01000000, []) :=
  ⟨⟨⟨by decide, by decide⟩, ⟨by decide, by decide⟩⟩, by decide, by decide +kernel, by decide +kernel⟩

theorem dumpVideocontrolInterface_bmControlsRuntime_layerControls :
    ∃ names, shownRuntime default (layerControls 0) 0 0 = some (0, names) ∧
      shownRuntime default (layerControls 0) 0 1 = some (0, names) :=
  (dumpVideocontrolInterface_bmControlsRuntime ⟨by decide, by decide⟩ ⟨by decide, by decide⟩
    (by decide)).mpr ⟨by decide, by decide⟩

end Runtime

end VideoControl

end Usbutils
