import Usbutils.Desc.Render
import Usbutils.Lib.LittleEndian

/-! The names that are printed below a bitmap field: those that its table has for the bits,
or for the groups of two bits, that are set. -/
namespace Usbutils
open ByteProg

/-- A line with a name, and the word behind it that tells what a host may do. -/
def Effect.nameLine : Effect → Option (String × Option String)
  | .print format [_, _, .str (some name)] =>
      if format = "%*s%s\n" ∨ format = "%*s%s Control\n" then some (name, none) else none
  | .print format [_, _, .str (some name), .str setting] =>
      if format = "%*s%s Control (%s)\n" then some (name, setting) else none
  | _ => none

def namesPrinted (acts : List Effect) : List (String × Option String) :=
  acts.filterMap Effect.nameLine

def oneBit (value i : Nat) : Option (Option String) :=
  if value.testBit i then some none else none

def twoBits (value i : Nat) : Option (Option String) :=
  match value.testBit (2 * i + 1), value.testBit (2 * i) with
  | false, false => none
  | false, true => some (some "read-only")
  | true, false => some (some "ILLEGAL VALUE (0b10)")
  | true, true => some (some "read/write")

/-- The name of entry `i` of a table, if it has one and is shown. -/
def entryNames (shown : Nat → Option (Option String)) (strings : StringTable) (i : Nat) :
    List (String × Option String) :=
  match strings[i]?.join with
  | none => []
  | some name => if name = "" then [] else (shown i).toList.map fun word => (name, word)

def tableNames (shown : Nat → Option (Option String)) (strings : StringTable) :
    List (String × Option String) :=
  (List.range strings.length).flatMap (entryNames shown strings)

def definedNames (type : DescType) (value : Nat) : List (String × Option String) :=
  match type with
  | .bitmapStrings strings _ | .bmcontrol1 strings => tableNames (oneBit value) strings
  | .bmcontrol2 strings => tableNames (twoBits value) strings
  | _ => []

def Terminated (strings : StringTable) : Prop :=
  strings ≠ [] ∧ ∀ i < strings.length, strings[i]?.join = none ↔ i + 1 = strings.length

instance (strings : StringTable) : Decidable (Terminated strings) :=
  inferInstanceAs (Decidable (_ ∧ _))

section Names

variable {m : Memory} {value indent : Nat} {strings : StringTable}

theorem namesPrinted_append (left right : List Effect) :
    namesPrinted (left ++ right) = namesPrinted left ++ namesPrinted right :=
  List.filterMap_append

theorem twoBits_eq (value i : Nat) :
    twoBits value i =
      if value >>> (i * 2) &&& 0x3 = 0 then none
      else some (([some "read-only", some "ILLEGAL VALUE (0b10)", some "read/write"] :
        StringTable)[(value >>> (i * 2) &&& 0x3) - 1]?.join) := by
  have hcontrol : value >>> (i * 2) &&& 0x3 = value / 2 ^ (2 * i) % 4 := by
    rw [Nat.mul_comm, Nat.shiftRight_eq_div_pow]
    exact Nat.and_two_pow_sub_one_eq_mod _ 2
  have hhigh : value / 2 ^ (2 * i + 1) = value / 2 ^ (2 * i) / 2 := by
    rw [Nat.pow_succ, Nat.div_div_eq_div_mul]
  rw [twoBits, hcontrol, Nat.testBit_eq_decide_div_mod_eq, Nat.testBit_eq_decide_div_mod_eq, hhigh]
  generalize value / 2 ^ (2 * i) = group
  have hcases : group % 4 = 0 ∨ group % 4 = 1 ∨ group % 4 = 2 ∨ group % 4 = 3 := by omega
  rcases hcases with h | h | h | h
  all_goals
    rw [h]
    have hlow : group % 2 = group % 4 % 2 := by omega
    have hup : group / 2 % 2 = group % 4 / 2 := by omega
    rw [hlow, hup, h]
    rfl

def bits (two : Bool) : Nat → Nat → Option (Option String) := if two then twoBits else oneBit

theorem namesPrinted_oneBit (i : Nat) {name : String} (hname : strings[i]?.join = some name) :
    namesPrinted ((Prog.when (name ≠ "") (Prog.when ((value >>> i) &&& 0x1 ≠ 0)
      (print "%*s%s Control\n" [.num (indent * 2), .str "", .str name])) : Dump Unit).acts m) =
      entryNames (oneBit value) strings i := by
  rw [entryNames, hname]
  by_cases hempty : name = ""
  · simp [hempty, Prog.when, namesPrinted]
  · cases hbit : value.testBit i with
    | false =>
        have hclear := not_ne_iff.mp (mt (and_one_ne_zero value i).mp (by simp [hbit]))
        simp [hempty, Prog.when, namesPrinted, oneBit, hclear, hbit]
    | true =>
        have hset := (and_one_ne_zero value i).mpr hbit
        rw [Prog.when, if_pos hempty, Prog.when, if_pos hset, oneBit, if_pos hbit]
        simp only [hempty, if_false]
        rfl

theorem namesPrinted_twoBits (i : Nat) {name : String} (hname : strings[i]?.join = some name) :
    namesPrinted ((Prog.when (name ≠ "") (Prog.when ((value >>> (i * 2)) &&& 0x3 ≠ 0) (do
      let setting ← lookup [some "read-only", some "ILLEGAL VALUE (0b10)", some "read/write"]
        (((value >>> (i * 2)) &&& 0x3) - 1)
      print "%*s%s Control (%s)\n"
        [.num (indent * 2), .str "", .str name, .str setting])) : Dump Unit).acts m) =
      entryNames (twoBits value) strings i := by
  rw [entryNames, hname]
  by_cases hempty : name = ""
  · simp [hempty, Prog.when, namesPrinted]
  · by_cases hzero : value >>> (i * 2) &&& 0x3 = 0
    · simp [hempty, Prog.when, namesPrinted, twoBits_eq, hzero]
    · rw [Prog.when, if_pos hempty, Prog.when, if_pos hzero, twoBits_eq, if_neg hzero]
      simp only [hempty, if_false]
      rfl

theorem namesPrinted_descBmcontrolFrom (two : Bool) (h : Terminated strings) {fuel count : Nat}
    (hcount : count < strings.length) (hfuel : strings.length < count + fuel) :
    namesPrinted ((descBmcontrolFrom value strings two indent fuel count).acts m) =
      (List.range' count (strings.length - count)).flatMap
        (entryNames (if two then twoBits value else oneBit value) strings) := by
  induction fuel generalizing count with
  | zero => omega
  | succ fuel ih =>
      have hrange : List.range' count (strings.length - count) =
          count :: List.range' (count + 1) (strings.length - (count + 1)) := by
        rw [← List.range'_succ]
        congr 1
        omega
      rw [descBmcontrolFrom, Prog.acts_bind_ok (result_lookup ..), hrange, List.flatMap_cons]
      cases hname : strings[count]?.join with
      | none =>
          have hlast := (h.2 count hcount).mp hname
          have hempty : strings.length - (count + 1) = 0 := by omega
          rw [hempty, entryNames, hname]
          rfl
      | some name =>
          have hlast := mt (h.2 count hcount).mpr (by simp [hname])
          have hnext := @ih (count + 1) (by omega) (by omega)
          cases two with
          | false =>
              rw [namesPrinted_append, Prog.acts_bind_ok (show _ = Except.ok () by simp),
                namesPrinted_append, hnext]
              exact congrArg (· ++ _) (namesPrinted_oneBit count hname)
          | true =>
              rw [namesPrinted_append, Prog.acts_bind_ok (show _ = Except.ok () by simp),
                namesPrinted_append, hnext]
              exact congrArg (· ++ _) (namesPrinted_twoBits count hname)

theorem namesPrinted_flatMap (indices : List Nat) (f : Nat → List Effect) :
    namesPrinted (indices.flatMap f) = indices.flatMap fun i => namesPrinted (f i) := by
  induction indices with
  | nil => rfl
  | cons i rest ih => rw [List.flatMap_cons, namesPrinted_append, ih, List.flatMap_cons]

theorem namesPrinted_bitmapStrings (count : Nat) (h : ∀ i < count, strings[i]?.join ≠ some "") :
    namesPrinted ((Prog.loop count fun i => do
        match ← lookup strings i with
        | none => pure ()
        | some string =>
            Prog.when ((value >>> i) &&& 0x1 ≠ 0) do
              print "%*s%s\n" [.num ((indent + 1) * 2), .str "", .str string] : Dump Unit).acts m) =
      (List.range count).flatMap (entryNames (oneBit value) strings) := by
  rw [Prog.acts_loop, namesPrinted_flatMap]
  · apply List.flatMap_congr
    intro i hi
    have hne := h i (List.mem_range.mp hi)
    rw [Prog.acts_bind_ok (result_lookup ..), entryNames]
    cases hname : strings[i]?.join with
    | none => rfl
    | some name =>
        have hempty : name ≠ "" := fun heq => hne (hname.trans (congrArg some heq))
        cases hbit : value.testBit i with
        | false =>
            have hclear := not_ne_iff.mp (mt (and_one_ne_zero value i).mp (by simp [hbit]))
            simp [hempty, Prog.when, namesPrinted, oneBit, hclear, hbit, lookup, Effect.nameLine]
        | true =>
            have hset := (and_one_ne_zero value i).mpr hbit
            dsimp only
            rw [Prog.when, if_pos hset, oneBit, if_pos hbit, if_neg hempty]
            rfl
  · intro i
    rw [Prog.result_bind, result_lookup]
    dsimp only
    split <;> simp

theorem tableNames_congr {shown shown' : Nat → Option (Option String)}
    (h : ∀ i < strings.length, shown i = shown' i) :
    tableNames shown strings = tableNames shown' strings := by
  apply List.flatMap_congr
  intro i hi
  rw [entryNames, entryNames, h i (List.mem_range.mp hi)]

end Names

def DescType.showsNames : DescType → Bool
  | .bmcontrol1 _ | .bmcontrol2 _ | .bitmapStrings _ _ => true
  | _ => false

/-- A table ends where the loop over it ends and has names for bits of an `unsigned long long`
only. A count next to a table leaves no name out, except in the channel names of UAC2. -/
def DescType.tableFits : DescType → Bool
  | .bmcontrol1 strings => decide (Terminated strings ∧ strings.length ≤ 64)
  | .bmcontrol2 strings => decide (Terminated strings ∧ strings.length ≤ 32)
  | .bitmapStrings strings count => decide (strings.length ≤ 64 ∧ count ≤ strings.length ∧
      (∀ i < strings.length, strings[i]?.join ≠ some "") ∧
        (strings = uac2ChannelNames ∧ count = 26 ∨
          ∀ i < strings.length, count ≤ i → strings[i]?.join = none))
  | _ => true

theorem tableFits_fields (id : DescId) : ∀ c ∈ id.fields, c.type.tableFits = true := by
  cases id <;> decide +kernel

section Fields

variable {env : Env} {nested : DescId → Nat → Nat → Dump Unit} {m : Memory}
  {size buf bufLen indent offset : Nat} {desc : List Desc} {c : Desc}

theorem getNBytes_reads : Prog.Computes (buf + offset) (buf + offset + size)
    (getNBytesAsUll buf offset size) m (leValue m (buf + offset) size % 256 ^ 8) := by
  rw [← leValue_mod]
  exact getNBytesAsUll_computes m (Nat.le_refl _) (Nat.le_refl _)

theorem namesPrinted_hexRenderer (width : Nat) :
    namesPrinted ((hexRenderer buf width offset size).acts m) = [] := by
  rw [hexRenderer, getNBytes_reads.acts_bind]
  rfl

theorem testBit_mod {value i : Nat} (h : i < 64) :
    (value % 256 ^ 8).testBit i = value.testBit i := by
  have hpow : 256 ^ 8 = 2 ^ 64 := by decide
  rw [hpow, Nat.testBit_mod_two_pow, decide_eq_true h, Bool.true_and]

theorem oneBit_mod (value : Nat) {i : Nat} (h : i < 64) :
    oneBit (value % 256 ^ 8) i = oneBit value i := by
  rw [oneBit, oneBit, testBit_mod h]

theorem twoBits_mod (value : Nat) {i : Nat} (h : i < 32) :
    twoBits (value % 256 ^ 8) i = twoBits value i := by
  rw [twoBits, twoBits, testBit_mod (by omega), testBit_mod (by omega)]

theorem namesPrinted_descBmcontrolDump (two : Bool) {strings : StringTable}
    (h : Terminated strings) (value indent : Nat) :
    namesPrinted ((descBmcontrolDump value strings two indent).acts m) =
      tableNames (if two then twoBits value else oneBit value) strings := by
  have hpos := List.length_pos_iff.mpr h.1
  rw [descBmcontrolDump, namesPrinted_descBmcontrolFrom two h hpos (by omega), Nat.sub_zero,
    ← List.range_eq_range', tableNames]

/-- What is printed for a field that shows names: all of its table, or those below the count. -/
theorem namesPrinted_valueRenderer (hnames : c.type.showsNames = true)
    (hfits : c.type.tableFits = true) :
    namesPrinted ((valueRenderer env nested c size buf bufLen desc indent offset).acts m) =
      match c.type with
      | .bitmapStrings strings count => (List.range count).flatMap
          (entryNames (oneBit (leValue m (buf + offset) size)) strings)
      | type => definedNames type (leValue m (buf + offset) size) := by
  have hhex := @namesPrinted_hexRenderer m size buf offset 4
  have hresult : (hexRenderer buf 4 offset size).result m = .ok () := by simp
  unfold valueRenderer
  cases htype : c.type with
  | bmcontrol1 strings =>
      rw [htype] at hfits
      obtain ⟨hend, hlength⟩ := of_decide_eq_true hfits
      dsimp only
      rw [Prog.acts_bind_ok hresult, namesPrinted_append, hhex, Prog.acts_bind_ok (result_print ..),
        namesPrinted_append, getNBytes_reads.acts_bind, namesPrinted_descBmcontrolDump false hend]
      exact tableNames_congr fun i hi => oneBit_mod _ (Nat.lt_of_lt_of_le hi hlength)
  | bmcontrol2 strings =>
      rw [htype] at hfits
      obtain ⟨hend, hlength⟩ := of_decide_eq_true hfits
      dsimp only
      rw [Prog.acts_bind_ok hresult, namesPrinted_append, hhex, Prog.acts_bind_ok (result_print ..),
        namesPrinted_append, getNBytes_reads.acts_bind, namesPrinted_descBmcontrolDump true hend]
      exact tableNames_congr fun i hi => twoBits_mod _ (Nat.lt_of_lt_of_le hi hlength)
  | bitmapStrings strings count =>
      rw [htype] at hfits
      obtain ⟨hlength, hcount, hempty, -⟩ := of_decide_eq_true hfits
      dsimp only
      have hloop := @namesPrinted_bitmapStrings m (leValue m (buf + offset) size % 256 ^ 8) indent
        strings count fun i hi => hempty i (Nat.lt_of_lt_of_le hi hcount)
      rw [getNBytes_reads.acts_bind, Prog.acts_bind_ok hresult, namesPrinted_append, hhex,
        Prog.acts_bind_ok (result_print ..), namesPrinted_append]
      refine hloop.trans (List.flatMap_congr fun i hi => ?_)
      have hbit := List.mem_range.mp hi
      rw [entryNames, entryNames, oneBit_mod _ (by omega)]
  | _ =>
      rw [htype] at hnames
      exact absurd hnames Bool.false_ne_true

theorem lastChannelName (value : Nat) :
    entryNames (oneBit value) uac2ChannelNames 26 =
      if value.testBit 26 then [("Back Right of Center (BRC)", none)] else [] := by
  have hname : (uac2ChannelNames[26]?.join) = some "Back Right of Center (BRC)" := rfl
  rw [entryNames, hname, oneBit]
  cases value.testBit 26 <;> rfl

theorem flatMap_entryNames {shown : Nat → Option (Option String)} {strings : StringTable}
    {count : Nat} (hcount : count ≤ strings.length)
    (h : ∀ i < strings.length, count ≤ i → strings[i]?.join = none) :
    (List.range count).flatMap (entryNames shown strings) = tableNames shown strings := by
  obtain ⟨k, hk⟩ := Nat.exists_eq_add_of_le hcount
  have hrest : ((List.range k).map (count + ·)).flatMap (entryNames shown strings) = [] := by
    rw [List.flatMap_eq_nil_iff]
    intro i hi
    obtain ⟨j, hj, rfl⟩ := List.mem_map.mp hi
    have hlt := List.mem_range.mp hj
    rw [entryNames, h (count + j) (by omega) (by omega)]
  rw [tableNames, hk, List.range_add, List.flatMap_append, hrest, List.append_nil]

/-- Every name of a set bit is printed and no other, except that the 27th channel name of UAC2
is left out where its bit is set. -/
theorem valueRenderer_names (id : DescId) (hc : c ∈ id.fields) (hnames : c.type.showsNames = true) :
    namesPrinted ((valueRenderer env nested c size buf bufLen id.fields indent offset).acts m) =
        definedNames c.type (leValue m (buf + offset) size) ↔
      (c.type = .bitmapStrings uac2ChannelNames 26 →
        (leValue m (buf + offset) size).testBit 26 = false) := by
  have hfits := tableFits_fields id c hc
  rw [namesPrinted_valueRenderer hnames hfits]
  generalize leValue m (buf + offset) size = value
  cases htype : c.type with
  | bitmapStrings strings count =>
      rw [htype] at hfits
      obtain ⟨-, hcount, -, hlist⟩ := of_decide_eq_true hfits
      dsimp only [definedNames]
      rcases hlist with ⟨rfl, rfl⟩ | hrest
      · have hlast : tableNames (oneBit value) uac2ChannelNames =
            (List.range 26).flatMap (entryNames (oneBit value) uac2ChannelNames) ++
              entryNames (oneBit value) uac2ChannelNames 26 := by
          rw [tableNames, show uac2ChannelNames.length = 26 + 1 from rfl, List.range_succ,
            List.flatMap_append, List.flatMap_singleton]
        rw [hlast, List.self_eq_append_right, lastChannelName, forall_prop_of_true rfl]
        cases value.testBit 26 <;> simp
      · refine iff_of_true (flatMap_entryNames hcount hrest) fun hchannels => ?_
        obtain ⟨rfl, rfl⟩ := DescType.bitmapStrings.inj hchannels
        exact absurd (hrest 26 (by decide) (Nat.le_refl 26)) (by decide)
  | bmcontrol1 strings => exact iff_of_true rfl (fun h => nomatch h)
  | bmcontrol2 strings => exact iff_of_true rfl (fun h => nomatch h)
  | _ =>
      rw [htype] at hnames
      exact absurd hnames Bool.false_ne_true

def channelConfig : Desc :=
  { field := "bmChannelConfig", size := 4, type := .bitmapStrings uac2ChannelNames 26 }

def rearChannel : Memory := fun a => [0x01, 0x00, 0x00, 0x04].getD a 0

theorem valueRenderer_rearChannel :
    channelConfig ∈ DescId.audio2AcInputTerminal.fields ∧
      definedNames channelConfig.type (leValue rearChannel 0 4) =
        [("Front Left (FL)", none), ("Back Right of Center (BRC)", none)] ∧
      namesPrinted ((valueRenderer default (fun _ _ _ => pure ()) channelConfig 4 0 4
        DescId.audio2AcInputTerminal.fields 4 0).acts rearChannel) = [("Front Left (FL)", none)] :=
  ⟨by decide +kernel, by decide +kernel, by decide +kernel⟩

theorem valueRenderer_names_rearChannel :
    namesPrinted ((valueRenderer default (fun _ _ _ => pure ()) channelConfig 4 0 4
        DescId.audio2AcInputTerminal.fields 4 0).acts rearChannel) ≠
      definedNames channelConfig.type (leValue rearChannel 0 4) := by
  intro hall
  have hbit := (valueRenderer_names .audio2AcInputTerminal (by decide +kernel) rfl).mp hall rfl
  revert hbit
  decide

end Fields

end Usbutils
