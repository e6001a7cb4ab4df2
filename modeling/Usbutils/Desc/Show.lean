import Usbutils.Desc.Render

/-! What is printed for a value, whatever memory it was read from. The renderers
print the little-endian value of the bytes they are given. -/
namespace Usbutils
open ByteProg

def showHex (width bytes value : Nat) : Dump Unit :=
  print " %*s0x%0*llx"
    [.num (if width ≥ bytes * 2 then width - bytes * 2 else 0), .str "", .num (bytes * 2),
      .num value]

def showNumber (width bytes value : Nat) : Dump Unit :=
  if bytes = 1 then print "   %*u" [.num width, .num value] else showHex width bytes value

def digit (value k : Nat) : Nat := value / 256 ^ k % 256

def showValue (env : Env) (type : DescType) (size value indent : Nat) : Dump Unit :=
  match type with
  | .number | .constant | .csStrDescId => do
      showNumber 4 size value
      print "\n" []
  | .numberPostfix text => do
      showNumber 4 size value
      print "%s\n" [.str text]
  | .numberStrings strings => do
      showNumber 4 size value
      numberStringsFrom strings value (strings.length + 1) 0
      print "\n" []
  | .bcd => do
      print "  %2x" [.num (digit value (size - 1))]
      Prog.loop (size - 1) fun i => print ".%02x" [.num (digit value (size - 1 - (i + 1)))]
      print "\n" []
  | .bitmap => do
      showHex 4 size value
      print "\n" []
  | .bmcontrol1 strings => do
      showHex 4 size value
      print "\n" []
      descBmcontrolDump value strings false (indent + 1)
  | .bmcontrol2 strings => do
      showHex 4 size value
      print "\n" []
      descBmcontrolDump value strings true (indent + 1)
  | .bitmapStrings strings count => do
      showHex 4 size value
      print "\n" []
      Prog.loop count fun i => do
        match ← lookup strings i with
        | none => pure ()
        | some string =>
            Prog.when ((value >>> i) &&& 0x1 ≠ 0) do
              print "%*s%s\n" [.num ((indent + 1) * 2), .str "", .str string]
  | .strDescIndex => do
      showNumber 4 size value
      match env.getDevString value with
      | some string => print " %s\n" [.str string]
      | none => print "\n" []
  | .terminalStr => do
      showNumber 4 size value
      print " %s\n" [.str ((env.namesAudioterminal (value % 2 ^ 16)).getD "(unknown)")]
  | .extension _ _ => pure ()
  | .snowflake snowflake => do
      showNumber 4 size value
      snowflake.dump value (indent + 1)

theorem strDescIndex_size (id : DescId) :
    ∀ c ∈ id.fields, c.type = .strDescIndex → c.sizeField = none ∧ c.size = 1 := by
  cases id <;> decide

section Shows

variable {env : Env} {nested : DescId → Nat → Nat → Dump Unit} {id : DescId} {c : Desc}
  {m : Memory} {size buf bufLen indent offset : Nat}

theorem hexRenderer_asIf (width : Nat) (hsize : size ≤ 8) :
    Prog.AsIf buf (buf + offset + size) (hexRenderer buf width offset size)
      (showHex width size (leValue m (buf + offset) size)) m := by
  have hread := @getNBytesAsUll_computes m buf _ buf offset size (by omega) (Nat.le_refl _)
  rw [Nat.min_eq_left hsize] at hread
  exact Prog.AsIf.of_computes hread (Prog.AsIf.refl _)

theorem numberRenderer_asIf (width : Nat) (hsize : size ≤ 8) :
    Prog.AsIf buf (buf + offset + size) (numberRenderer buf width offset size)
      (showNumber width size (leValue m (buf + offset) size)) m := by
  unfold numberRenderer showNumber
  split
  · next hone =>
      subst hone
      rw [leValue_one]
      refine Prog.AsIf.of_computes (a := Arg.num (m (buf + offset)).toNat) ?_ (Prog.AsIf.refl _)
      exact (Prog.Computes.byte (by omega) (by omega)).map Arg.num
  · exact hexRenderer_asIf width hsize

/-- A renderer prints the value of its bytes. -/
theorem valueRenderer_asIf (hc : c ∈ id.fields) (hext : c.type.isExtension = false)
    (hpos : 0 < size) (hsize : size ≤ 8) (hfixed : c.sizeField = none → size = c.size) :
    Prog.AsIf buf (buf + offset + size)
      (valueRenderer env nested c size buf bufLen id.fields indent offset)
      (showValue env c.type size (leValue m (buf + offset) size) indent) m := by
  have hnumber := @numberRenderer_asIf m size buf offset 4 hsize
  have hhex := @hexRenderer_asIf m size buf offset 4 hsize
  have hread := @getNBytesAsUll_computes m buf _ buf offset size (by omega) (Nat.le_refl _)
  rw [Nat.min_eq_left hsize] at hread
  unfold valueRenderer showValue
  cases htype : c.type with
  | constant => exact hnumber.bind fun _ => Prog.AsIf.refl _
  | number => exact hnumber.bind fun _ => Prog.AsIf.refl _
  | numberPostfix text => exact hnumber.bind fun _ => Prog.AsIf.refl _
  | csStrDescId => exact hnumber.bind fun _ => Prog.AsIf.refl _
  | bitmap => exact hhex.bind fun _ => Prog.AsIf.refl _
  | bcd =>
      have hdigit : ∀ k < size, Prog.Computes buf (buf + offset + size)
          (u8 (buf + (offset + k))) m (.num (digit (leValue m (buf + offset) size) k)) := by
        intro k hk
        rw [digit, leValue_digit m hk, ← Nat.add_assoc]
        exact (Prog.Computes.byte (by omega) (by omega)).map Arg.num
      have hfirst := hdigit (size - 1) (by omega)
      rw [show offset + (size - 1) = offset + size - 1 by omega] at hfirst
      apply Prog.AsIf.of_computes hfirst
      apply (Prog.AsIf.refl _).bind
      intro _
      apply Prog.AsIf.bind
      · apply Prog.AsIf.loop
        intro i hi
        have hnext := hdigit (size - 1 - (i + 1)) (by omega)
        rw [show offset + (size - 1 - (i + 1)) = offset + size - 1 - (i + 1) by omega] at hnext
        exact Prog.AsIf.of_computes hnext (Prog.AsIf.refl _)
      · exact fun _ => Prog.AsIf.refl _
  | bmcontrol1 strings =>
      exact hhex.bind fun _ => (Prog.AsIf.refl _).bind fun _ =>
        Prog.AsIf.of_computes hread (Prog.AsIf.refl _)
  | bmcontrol2 strings =>
      exact hhex.bind fun _ => (Prog.AsIf.refl _).bind fun _ =>
        Prog.AsIf.of_computes hread (Prog.AsIf.refl _)
  | strDescIndex =>
      obtain ⟨hnone, hone⟩ := strDescIndex_size id c hc htype
      rw [hone] at hfixed
      have hsize1 := hfixed hnone
      subst hsize1
      rw [leValue_one] at hnumber ⊢
      exact hnumber.bind fun _ => Prog.AsIf.of_computes
        (Prog.Computes.byte (by omega) (by omega)) (Prog.AsIf.refl _)
  | terminalStr =>
      exact hnumber.bind fun _ => Prog.AsIf.of_computes hread (Prog.AsIf.refl _)
  | bitmapStrings strings count =>
      exact Prog.AsIf.of_computes hread (hhex.bind fun _ => Prog.AsIf.refl _)
  | numberStrings strings =>
      exact Prog.AsIf.of_computes hread (hnumber.bind fun _ => Prog.AsIf.refl _)
  | extension typeField d =>
      rw [htype] at hext
      cases hext
  | snowflake snowflake =>
      exact hnumber.bind fun _ => Prog.AsIf.of_computes hread (Prog.AsIf.refl _)

end Shows

theorem blind_print (format : String) (args : List Arg) : Prog.Blind (print format args) :=
  Prog.Blind.emit _

theorem blind_lookup (table : StringTable) (i : Nat) : Prog.Blind (lookup table i) :=
  (Prog.Blind.emit _).bind fun _ => Prog.Blind.pure _

theorem blind_showHex (width bytes value : Nat) : Prog.Blind (showHex width bytes value) :=
  blind_print ..

theorem blind_showNumber (width bytes value : Nat) : Prog.Blind (showNumber width bytes value) :=
  (blind_print ..).ite (blind_showHex ..)

theorem blind_descBmcontrolFrom (value : Nat) (strings : StringTable) (twoBits : Bool)
    (indent fuel count : Nat) :
    Prog.Blind (descBmcontrolFrom value strings twoBits indent fuel count) := by
  induction fuel generalizing count with
  | zero => exact Prog.Blind.stop _
  | succ fuel ih =>
      apply (blind_lookup strings count).bind
      intro entry
      cases entry with
      | none => exact Prog.Blind.pure ()
      | some string =>
          refine Prog.Blind.bind (Prog.Blind.when (Prog.Blind.ite ?_ ?_)) fun _ => ih (count + 1)
          · exact ((blind_lookup ..).bind fun _ => blind_print ..).when
          · exact (blind_print ..).when

theorem blind_numberStringsFrom (strings : StringTable) (value fuel i : Nat) :
    Prog.Blind (numberStringsFrom strings value fuel i) := by
  induction fuel generalizing i with
  | zero => exact Prog.Blind.stop _
  | succ fuel ih =>
      refine Prog.Blind.when ((blind_lookup strings i).bind fun entry => ?_)
      cases entry with
      | none => exact Prog.Blind.pure ()
      | some string => exact (blind_print ..).when.bind fun _ => ih (i + 1)

theorem blind_snowflake (snowflake : Snowflake) (value indent : Nat) :
    Prog.Blind (snowflake.dump value indent) := by
  cases snowflake with
  | uac2ClkSrcBmattr =>
      refine (blind_lookup ..).bind fun _ => Prog.Blind.bind ?_ fun _ => blind_print ..
      exact (blind_lookup ..).ite (Prog.Blind.pure _)
  | uac3ClkSrcBmattr =>
      exact (blind_lookup ..).bind fun _ => (blind_lookup ..).bind fun _ => blind_print ..
  | uac1AsInterfaceWformattag =>
      refine Prog.Blind.bind ?_ fun _ => blind_print ..
      exact (blind_lookup ..).ite ((blind_lookup ..).ite ((blind_lookup ..).ite (Prog.Blind.pure _)))
  | uac2AsInterfaceBmformats =>
      refine (blind_print ..).bind fun _ => Prog.Blind.loop _ fun i => Prog.Blind.when ?_
      exact (blind_lookup ..).bind fun _ => blind_print ..
  | midiSourcePair => exact blind_print ..

theorem blind_showValue (env : Env) (type : DescType) (size value indent : Nat) :
    Prog.Blind (showValue env type size value indent) := by
  have hnumber := blind_showNumber 4 size value
  have hhex := blind_showHex 4 size value
  unfold showValue
  cases type with
  | bcd =>
      exact (blind_print ..).bind fun _ =>
        (Prog.Blind.loop _ fun _ => blind_print ..).bind fun _ => blind_print ..
  | bitmap => exact hhex.bind fun _ => blind_print ..
  | bmcontrol1 strings =>
      exact hhex.bind fun _ => (blind_print ..).bind fun _ => blind_descBmcontrolFrom ..
  | bmcontrol2 strings =>
      exact hhex.bind fun _ => (blind_print ..).bind fun _ => blind_descBmcontrolFrom ..
  | bitmapStrings strings count =>
      refine hhex.bind fun _ => (blind_print ..).bind fun _ => Prog.Blind.loop _ fun i => ?_
      refine (blind_lookup ..).bind fun entry => ?_
      cases entry with
      | none => exact Prog.Blind.pure ()
      | some string => exact (blind_print ..).when
  | numberStrings strings =>
      exact hnumber.bind fun _ => (blind_numberStringsFrom ..).bind fun _ => blind_print ..
  | strDescIndex =>
      refine hnumber.bind fun _ => ?_
      cases env.getDevString value <;> exact blind_print ..
  | extension typeField d => exact Prog.Blind.pure ()
  | snowflake snowflake => exact hnumber.bind fun _ => blind_snowflake ..
  | _ => exact hnumber.bind fun _ => blind_print ..

end Usbutils
