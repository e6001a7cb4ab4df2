import Mathlib.Data.List.DropRight
import Mathlib.Data.List.Induction
import Mathlib.Data.Nat.Bitwise
import Usbutils.Desc.Show
import Usbutils.Lsusb.ReportItems

/-! What the text of an item owes to the items before it. Two variables of
`dump_report_desc` outlive an item: its data, which an item without data leaves as it is,
and the usage page. -/
namespace Usbutils
open ByteProg

def ShortItem.number (item : ShortItem) : Nat := Nat.ofDigits 256 (item.data.map UInt8.toNat)

/-- The number of the last item that has data, or what `data` starts with. -/
def lastNumber (items : List ShortItem) : Nat :=
  match items.reverse.find? fun item => item.data ≠ [] with
  | some item => item.number
  | none => 0xffff

def carried : List ShortItem → Nat → Nat → Nat × Nat
  | [], before, hut => (before, hut)
  | item :: rest, before, hut => carried rest (item.value before) (item.page before hut)

/-- The number of the last usage page, or what `hut` starts with. -/
def lastPage (items : List ShortItem) : Nat :=
  match items.reverse.find? fun item => item.tag.val = 1 with
  | some item => item.number
  | none => 0xffff

/-- What `hut` is: a usage page without data has the number of an item before it. -/
def keptPage (items : List ShortItem) : Nat :=
  lastNumber (items.rdropWhile fun item => item.tag.val ≠ 1)

/-- `(page << 16) + id`, an `unsigned int` -/
def usageKey (page id : Nat) : Nat := ((page <<< 16) % 2 ^ 32 + id) % 2 ^ 32

section Carried

variable (items : List ShortItem) (item : ShortItem)

theorem lastNumber_concat : lastNumber (items ++ [item]) =
    if item.data = [] then lastNumber items else item.number := by
  rw [lastNumber, List.reverse_append, List.reverse_singleton, List.singleton_append,
    List.find?_cons]
  by_cases hempty : item.data = []
  · simp only [hempty, if_true, ne_eq, not_true, decide_false]
    rfl
  · simp only [hempty, if_false, ne_eq, not_false_eq_true, decide_true]

theorem lastPage_concat : lastPage (items ++ [item]) =
    if item.tag.val = 1 then item.number else lastPage items := by
  rw [lastPage, List.reverse_append, List.reverse_singleton, List.singleton_append,
    List.find?_cons]
  by_cases hpage : item.tag.val = 1
  · simp only [hpage, decide_true, if_true]
  · simp only [hpage, decide_false, if_false]
    rfl

theorem keptPage_concat : keptPage (items ++ [item]) =
    if item.tag.val = 1 then lastNumber (items ++ [item]) else keptPage items := by
  by_cases hpage : item.tag.val = 1
  · rw [keptPage, List.rdropWhile_concat_neg _ _ _ (by simp [hpage]), if_pos hpage]
  · rw [keptPage, List.rdropWhile_concat_pos _ _ _ (by simp [hpage]), if_neg hpage, keptPage]

theorem carried_append (later : List ShortItem) (before hut : Nat) :
    carried (items ++ later) before hut =
      carried later (carried items before hut).1 (carried items before hut).2 := by
  induction items generalizing before hut with
  | nil => rfl
  | cons item rest ih => exact ih _ _

/-- What an item finds is the number of the last item that has data, and the page. -/
theorem carried_eq : carried items 0xffff 0xffff = (lastNumber items, keptPage items) := by
  induction items using List.reverseRec with
  | nil => rfl
  | append_singleton items item ih =>
      rw [carried_append, ih, carried, carried, ShortItem.page, ShortItem.value, keptPage_concat,
        lastNumber_concat]
      rfl

/-- With data in all items the page is that of the last usage page. -/
theorem keptPage_eq (h : ∀ item ∈ items, item.data ≠ []) : keptPage items = lastPage items := by
  induction items using List.reverseRec with
  | nil => rfl
  | append_singleton items item ih =>
      rw [keptPage_concat, lastPage_concat, lastNumber_concat, if_neg (h item (by simp)),
        ih fun other hother => h other (List.mem_append_left _ hother)]

end Carried

def Effect.isPrint : Effect → Bool
  | .print _ _ => true
  | _ => false

def printed (acts : List Effect) : List Effect := acts.filter Effect.isPrint

def Effect.beginsItem : Effect → Bool
  | .print format _ => format == "            Item(%-6s): %s, data=" ||
      format == "            ** TRUNCATED at offset %d **\n"
  | _ => false

/-- What is printed from the first line of an item up to the next one, for the item that
`skip` others come before. -/
def textAt : Nat → List Effect → List Effect
  | _, [] => []
  | skip, effect :: rest =>
      if effect.beginsItem then
        if skip = 0 then effect :: rest.takeWhile fun e => !e.beginsItem
        else textAt (skip - 1) rest
      else textAt skip rest

def itemText (env : Env) (m : Memory) (b l skip : Nat) : List Effect :=
  textAt skip (printed ((dumpReportDesc env b l).acts m))

section Text

variable {env : Env} {m : Memory} {b l : Nat} {item : ShortItem} {effects rest : List Effect}

@[simp] theorem printed_nil : printed [] = [] := rfl

@[simp] theorem printed_print (format : String) (args : List Arg) (rest : List Effect) :
    printed (.print format args :: rest) = .print format args :: printed rest := rfl

@[simp] theorem printed_lookup (i n : Nat) (rest : List Effect) :
    printed (.lookup i n :: rest) = printed rest := rfl

@[simp] theorem printed_append (left right : List Effect) :
    printed (left ++ right) = printed left ++ printed right :=
  List.filter_append ..

theorem textAt_plain (h : ∀ e ∈ effects, e.beginsItem = false) (skip : Nat) :
    textAt skip (effects ++ rest) = textAt skip rest := by
  induction effects with
  | nil => rfl
  | cons e effects ih =>
      rw [List.cons_append, textAt, h e (List.mem_cons_self ..), if_neg Bool.false_ne_true]
      exact ih fun e' he' => h e' (List.mem_cons_of_mem e he')

def Plain : Entry Effect → Prop
  | .act effect => effect.beginsItem = false
  | .read _ => True

@[simp] theorem plain_read (a : Nat) : Plain (.read a) := trivial

@[simp] theorem plain_act (effect : Effect) :
    Plain (.act effect) ↔ effect.beginsItem = false := Iff.rfl

theorem dumpFactors_plain (names : StringTable) (count i data earlierUnit : Nat) :
    Prog.All Plain (Report.dumpFactors names count i data earlierUnit) m := by
  induction count generalizing i data earlierUnit with
  | zero => simp [Report.dumpFactors]
  | succ count ih => simp [Report.dumpFactors, Effect.beginsItem, ih]

theorem annotate_plain (btag data bsize hut : Nat) :
    Prog.All Plain (Report.annotate env btag data bsize hut) m := by
  have hcollection : Prog.All Plain (Report.collection data) m := by
    unfold Report.collection
    split <;> simp [Effect.beginsItem]
  have hunit : Prog.All Plain (Report.dumpUnit data bsize) m := by
    simp [Report.dumpUnit, Effect.beginsItem, dumpFactors_plain]
  unfold Report.annotate
  split <;> simp [Effect.beginsItem, hcollection, hunit]

theorem takeWhile_plain (h : ∀ e ∈ effects, e.beginsItem = false)
    (hrest : ∀ e ∈ rest.head?, e.beginsItem = true) :
    (effects ++ rest).takeWhile (fun e => !e.beginsItem) = effects := by
  have hhead : rest.takeWhile (fun e => !e.beginsItem) = [] := by
    cases rest with
    | nil => rfl
    | cons e rest => simp [hrest e rfl]
  rw [List.takeWhile_append_of_pos (by simpa using h), hhead, List.append_nil]

def ShortItem.dataText (item : ShortItem) (before : Nat) : List Effect :=
  (if item.data = [] then [.print "none" []]
    else .print " [ " [] ::
      (item.data.map (fun byte => .print "0x%02x " [.num byte.toNat]) ++
        [.print "] %d" [.int (signed 32 (item.value before))]])) ++ [.print "\n" []]

def ShortItem.firstLine (env : Env) (item : ShortItem) : Effect :=
  .print "            Item(%-6s): %s, data=" [.str (Report.types[item.tag.val % 4]?.join),
    text ((env.namesReporttag (4 * item.tag)).getD "Unknown")]

theorem printed_acts (item : ShortItem) (before hut : Nat) :
    printed (item.acts env m before hut) = item.firstLine env :: (item.dataText before ++
      printed ((Report.annotate env (4 * item.tag) (item.value before) item.data.length hut).acts m)) := by
  have hbytes : printed (item.data.map fun byte => .print "0x%02x " [.num byte.toNat]) =
      item.data.map fun byte => .print "0x%02x " [.num byte.toNat] := by
    induction item.data with
    | nil => rfl
    | cons byte rest ih => rw [List.map_cons, printed_print, ih]
  unfold ShortItem.acts ShortItem.dataText ShortItem.firstLine
  by_cases hempty : item.data = []
  · simp [hempty]
  · simp [hempty, hbytes]

theorem firstLine_begins (item : ShortItem) : (item.firstLine env).beginsItem = true := rfl

theorem dataText_plain (item : ShortItem) (before : Nat) :
    ∀ e ∈ item.dataText before, e.beginsItem = false := by
  unfold ShortItem.dataText
  by_cases hempty : item.data = []
  · simp [hempty, Effect.beginsItem]
  · simp [hempty, Effect.beginsItem, or_imp, forall_and]

theorem acts_plain (item : ShortItem) (before hut : Nat) :
    ∀ e ∈ item.dataText before ++ printed ((Report.annotate env (4 * item.tag) (item.value before)
      item.data.length hut).acts m), e.beginsItem = false := by
  intro e he
  rcases List.mem_append.mp he with hdata | hannotation
  · exact dataText_plain item before e hdata
  · exact annotate_plain _ _ _ _ _ (Prog.mem_acts.mp (List.mem_filter.mp hannotation).1)

theorem textAt_zero_item (before hut : Nat) (hrest : ∀ e ∈ rest.head?, e.beginsItem = true) :
    textAt 0 (printed (item.acts env m before hut) ++ rest) =
      printed (item.acts env m before hut) := by
  rw [printed_acts, List.cons_append, textAt, if_pos (firstLine_begins item), if_pos rfl,
    takeWhile_plain (acts_plain item before hut) hrest]

theorem textAt_succ_item (skip before hut : Nat) :
    textAt (skip + 1) (printed (item.acts env m before hut) ++ rest) = textAt skip rest := by
  rw [printed_acts, List.cons_append, textAt, if_pos (firstLine_begins item),
    if_neg (Nat.succ_ne_zero skip), textAt_plain (acts_plain item before hut), Nat.add_sub_cancel]

theorem textAt_items (items : List ShortItem) (before hut : Nat) :
    textAt items.length (printed (itemsActs env m items before hut) ++ rest) = textAt 0 rest := by
  induction items generalizing before hut with
  | nil => rfl
  | cons item items ih =>
      rw [itemsActs, printed_append, List.append_assoc, List.length_cons, textAt_succ_item, ih]

theorem dumpItems_begins (fuel i data hut : Nat) :
    ∀ e ∈ (printed ((Report.dumpItems env b l fuel i data hut).acts m)).head?,
      e.beginsItem = true := by
  cases fuel with
  | zero =>
      rw [Report.dumpItems, Prog.when]
      split <;> exact fun e he => absurd he (Option.not_mem_none e)
  | succ fuel =>
      rw [Report.dumpItems, Prog.when]
      split
      · rw [Prog.acts_bind_ok (Prog.result_byte ..)]
        dsimp only
        split
        · intro e he
          obtain rfl := Option.some.inj he
          rfl
        · rw [Prog.acts_bind_ok (result_lookup ..), Prog.acts_bind_ok (result_print ..)]
          intro e he
          obtain rfl := Option.some.inj he
          rfl
      · exact fun e he => absurd he (Option.not_mem_none e)

theorem length_encode (item : ShortItem) : item.encode.length = 1 + item.data.length := by
  rw [ShortItem.encode, List.length_cons, Nat.add_comm]

theorem acts_dumpItems_front (items : List ShortItem) {after : List UInt8} {fuel i : Nat}
    (data hut : Nat) (hrest : Holds m (b + i) (items.flatMap ShortItem.encode ++ after))
    (hlength : i + (items.flatMap ShortItem.encode ++ after).length = l) :
    (Report.dumpItems env b l (items.length + fuel) i data hut).acts m =
      itemsActs env m items data hut ++
        (Report.dumpItems env b l fuel (i + (items.flatMap ShortItem.encode).length)
          (carried items data hut).1 (carried items data hut).2).acts m := by
  induction items generalizing i data hut with
  | nil =>
      rw [List.length_nil, Nat.zero_add]
      rfl
  | cons item rest ih =>
      rw [List.flatMap_cons, List.append_assoc] at hrest hlength
      have hnext := ((holds_append ..).mp hrest).2
      have hsize := length_encode item
      rw [hsize, Nat.add_assoc] at hnext
      have htotal : i + (1 + item.data.length) +
          (rest.flatMap ShortItem.encode ++ after).length = l := by
        rw [List.length_append, hsize] at hlength
        omega
      have hfuel : (item :: rest).length + fuel = rest.length + fuel + 1 := by
        rw [List.length_cons]
        omega
      have hoffset : i + (1 + item.data.length) + (rest.flatMap ShortItem.encode).length =
          i + ((item :: rest).flatMap ShortItem.encode).length := by
        rw [List.flatMap_cons, List.length_append, hsize]
        omega
      rw [hfuel, acts_dumpItems_item item data hut hrest hlength, ih _ _ hnext htotal, itemsActs,
        List.append_assoc, hoffset]
      rfl

/-- The text of an item is that of its bytes, behind the data and the page of the items that
come before it. -/
theorem itemText_eq {before : List ShortItem} {after : List UInt8}
    (h : Holds m b (before.flatMap ShortItem.encode ++ (item.encode ++ after)))
    (hl : l = (before.flatMap ShortItem.encode ++ (item.encode ++ after)).length) :
    itemText env m b l before.length =
      printed (item.acts env m (lastNumber before) (keptPage before)) := by
  have hcount : before.length ≤ (before.flatMap ShortItem.encode).length := by
    clear h hl
    induction before with
    | nil => exact Nat.le_refl 0
    | cons item rest ih =>
        have hsize := length_encode item
        rw [List.flatMap_cons, List.length_append, List.length_cons]
        omega
  have hitem := length_encode item
  obtain ⟨fuel, hfuel⟩ : ∃ fuel, l = before.length + (fuel + 1) := by
    refine ⟨l - before.length - 1, ?_⟩
    simp only [List.length_append] at hl
    omega
  have hfront := @acts_dumpItems_front env m b l before (item.encode ++ after) (fuel + 1) 0 0xffff
    0xffff h (by omega)
  have hnext := ((holds_append ..).mp h).2
  rw [Nat.zero_add, acts_dumpItems_item item _ _ hnext (by rw [hl]; exact List.length_append.symm),
    ← hfuel] at hfront
  rw [itemText, dumpReportDesc, Prog.acts_bind_ok (result_print ..), hfront, acts_print,
    List.singleton_append, printed_print, textAt, if_neg (by simp [Effect.beginsItem]),
    printed_append, textAt_items, printed_append,
    textAt_zero_item _ _ (dumpItems_begins _ _ _ _), carried_eq]

/-- The annotation that an item with these tag bits has for the number `before` and the page `hut`,
if it has no data, is the one for zero and `page`. -/
def ReadsZero (env : Env) (btag before hut page : Nat) : Prop :=
  match btag with
  | 0x04 => (env.namesHuts before).getD "Unknown" = (env.namesHuts 0).getD "Unknown"
  | 0x08 | 0x18 | 0x28 => (env.namesHutus (usageKey hut before)).getD "Unknown" =
      (env.namesHutus (usageKey page 0)).getD "Unknown"
  | 0x54 => before % 256 = 0
  | 0x64 => before % 16 = 0
  | 0xa0 => before = 0
  | 0x80 | 0x90 | 0xb0 => before % 512 = 0
  | _ => True

def NamedAlike (env : Env) (item : ShortItem) (hut hut' : Nat) : Prop :=
  item.tag.val ∈ [2, 6, 10] → (env.namesHutus (usageKey hut item.number)).getD "Unknown" =
    (env.namesHutus (usageKey hut' item.number)).getD "Unknown"

theorem and_mask (value bits : Nat) : value &&& (2 ^ bits - 1) = value % 2 ^ bits :=
  Nat.and_two_pow_sub_one_eq_mod value bits

theorem printed_unit (before : Nat) :
    printed ((Report.dumpUnit before 0).acts m) =
      if before % 16 > 4 then
        if before % 16 = 0xf then [.print "System: Vendor defined, Unit: (unknown)\n" []]
        else [.print "System: Reserved, Unit: (unknown)\n" []]
      else [.print "System: %s, Unit: " [.str Report.systems[before % 16]?.join],
        .print "(None)" [], .print "\n" []] := by
  have hsys : before &&& 0xf = before % 16 := and_mask before 4
  rw [Report.dumpUnit, hsys]
  split
  · split <;> rfl
  · rfl

theorem unit_zero (before : Nat) :
    printed ((Report.dumpUnit before 0).acts m) = printed ((Report.dumpUnit 0 0).acts m) ↔
      before % 16 = 0 := by
  have hnames : ∀ system ≤ 4, Report.systems[system]?.join = some "None" → system = 0 := by decide
  rw [printed_unit, printed_unit, Nat.zero_mod, if_neg (by decide : ¬0 > 4)]
  constructor
  · intro h
    split at h
    · split at h <;> simp at h
    · simp only [List.cons.injEq, Effect.print.injEq, Arg.str.injEq] at h
      exact hnames _ (by omega) h.1.2.1
  · intro h
    rw [h]
    rfl

theorem collection_zero (before : Nat) :
    printed ((Report.collection before).acts m) = printed ((Report.collection 0).acts m) ↔
      before = 0 := by
  constructor
  · intro h
    unfold Report.collection at h
    split at h
    · rfl
    case h_8 =>
      -- vendor defined and reserved collections have texts of their own
      split at h <;> simp at h
    all_goals simp at h
  · rintro rfl
    rfl

theorem and_two_pow_eq_zero (value i : Nat) : value &&& 2 ^ i = 0 ↔ value / 2 ^ i % 2 = 0 := by
  rw [Nat.and_two_pow, Nat.testBit_eq_decide_div_mod_eq]
  have htwo := Nat.two_pow_pos i
  by_cases hbit : value / 2 ^ i % 2 = 1
  · simp [hbit]
  · simp [hbit]
    omega

theorem mod_two_pow_succ_eq_zero (value i : Nat) :
    value % 2 ^ (i + 1) = 0 ↔ value % 2 ^ i = 0 ∧ value &&& 2 ^ i = 0 := by
  rw [and_two_pow_eq_zero, Nat.pow_succ, Nat.mod_mul, Nat.add_eq_zero_iff, Nat.mul_eq_zero]
  simp

theorem flags_zero (before : Nat) :
    ((before % 2 = 0 ∧ before &&& 2 = 0 ∧ before &&& 4 = 0 ∧ before &&& 8 = 0 ∧ before &&& 16 = 0) ∧
      before &&& 32 = 0 ∧ before &&& 64 = 0 ∧ before &&& 128 = 0 ∧ before &&& 256 = 0) ↔
        before % 512 = 0 := by
  have h1 : before % 4 = 0 ↔ before % 2 = 0 ∧ _ := mod_two_pow_succ_eq_zero before 1
  have h2 : before % 8 = 0 ↔ before % 4 = 0 ∧ _ := mod_two_pow_succ_eq_zero before 2
  have h3 : before % 16 = 0 ↔ before % 8 = 0 ∧ _ := mod_two_pow_succ_eq_zero before 3
  have h4 : before % 32 = 0 ↔ before % 16 = 0 ∧ _ := mod_two_pow_succ_eq_zero before 4
  have h5 : before % 64 = 0 ↔ before % 32 = 0 ∧ _ := mod_two_pow_succ_eq_zero before 5
  have h6 : before % 128 = 0 ↔ before % 64 = 0 ∧ _ := mod_two_pow_succ_eq_zero before 6
  have h7 : before % 256 = 0 ↔ before % 128 = 0 ∧ _ := mod_two_pow_succ_eq_zero before 7
  have h8 : before % 512 = 0 ↔ before % 256 = 0 ∧ _ := mod_two_pow_succ_eq_zero before 8
  rw [h8, h7, h6, h5, h4, h3, h2, h1]
  simp only [and_assoc]
  rfl

theorem signed_zero (value : Nat) : signed 8 (value % 256) = signed 8 0 ↔ value % 256 = 0 := by
  unfold signed
  split <;> split <;> omega

theorem annotate_zero (btag before hut page : Nat) :
    printed ((Report.annotate env btag before 0 hut).acts m) =
      printed ((Report.annotate env btag 0 0 page).acts m) ↔
        ReadsZero env btag before hut page := by
  unfold Report.annotate ReadsZero usageKey
  split <;>
    simp [Prog.acts_bind, text, unit_zero, collection_zero, Report.flag, signed_zero, flags_zero]

theorem acts_zero_iff (h : item.data = []) (before hut page : Nat) :
    printed (item.acts env m before hut) = printed (item.acts env m 0 page) ↔
      ReadsZero env (4 * item.tag) before hut page := by
  have hdata : item.dataText before = item.dataText 0 := by
    rw [ShortItem.dataText, ShortItem.dataText, if_pos h, if_pos h]
  have hvalue (before : Nat) : item.value before = before := by rw [ShortItem.value, if_pos h]
  rw [printed_acts, printed_acts, hdata, List.cons_inj_right, List.append_cancel_left_eq, hvalue,
    hvalue, h]
  exact annotate_zero _ _ _ _

theorem annotate_page_iff (btag data bsize hut hut' : Nat) :
    printed ((Report.annotate env btag data bsize hut).acts m) =
      printed ((Report.annotate env btag data bsize hut').acts m) ↔
        (btag ∈ [8, 24, 40] → (env.namesHutus (usageKey hut data)).getD "Unknown" =
          (env.namesHutus (usageKey hut' data)).getD "Unknown") := by
  unfold Report.annotate usageKey
  split <;> simp_all [Prog.acts_bind, text]

theorem acts_page_iff (h : item.data ≠ []) (before before' hut hut' : Nat) :
    printed (item.acts env m before hut) = printed (item.acts env m before' hut') ↔
      NamedAlike env item hut hut' := by
  have hvalue (before : Nat) : item.value before = item.number := by
    rw [ShortItem.value, if_neg h, ShortItem.number]
  have hdata : item.dataText before = item.dataText before' := by
    rw [ShortItem.dataText, ShortItem.dataText, hvalue, hvalue]
  have htag : 4 * item.tag.val ∈ [8, 24, 40] ↔ item.tag.val ∈ [2, 6, 10] := by
    simp only [List.mem_cons, List.not_mem_nil, or_false]
    omega
  rw [printed_acts, printed_acts, hdata, List.cons_inj_right, List.append_cancel_left_eq, hvalue,
    hvalue, annotate_page_iff, htag, NamedAlike]

theorem dumpFactors_blind (names : StringTable) (count i data earlierUnit : Nat) :
    Prog.Blind (Report.dumpFactors names count i data earlierUnit) := by
  induction count generalizing i data earlierUnit with
  | zero => exact Prog.Blind.pure _
  | succ count ih =>
      refine Prog.Blind.ite (Prog.Blind.bind (blind_print ..).when fun _ => ?_) (ih ..)
      refine (blind_lookup ..).bind fun _ => (blind_print ..).bind fun _ => ?_
      exact Prog.Blind.bind (blind_print ..).when fun _ => ih ..

theorem annotate_blind (btag data bsize hut : Nat) :
    Prog.Blind (Report.annotate env btag data bsize hut) := by
  have hunit : Prog.Blind (Report.dumpUnit data bsize) := by
    refine Prog.Blind.ite (Prog.Blind.ite (blind_print ..) (blind_print ..)) ?_
    refine (blind_lookup ..).bind fun _ => (blind_print ..).bind fun _ => ?_
    refine (dumpFactors_blind ..).bind fun _ => ?_
    exact Prog.Blind.bind (blind_print ..).when fun _ => blind_print ..
  have hcollection : Prog.Blind (Report.collection data) := by
    unfold Report.collection
    split
    case h_8 => exact (blind_print ..).ite (blind_print ..)
    all_goals exact blind_print ..
  unfold Report.annotate
  split
  case h_6 => exact (blind_print ..).bind fun _ => hunit.bind fun _ => Prog.Blind.pure _
  case h_7 => exact (blind_print ..).bind fun _ => hcollection.bind fun _ => Prog.Blind.pure _
  case h_8 | h_9 | h_10 =>
    exact (blind_print ..).bind fun _ => (blind_print ..).bind fun _ => Prog.Blind.pure _
  case h_11 => exact Prog.Blind.pure _
  all_goals exact (blind_print ..).bind fun _ => Prog.Blind.pure _

theorem acts_blind (item : ShortItem) (before hut : Nat) (m' : Memory) :
    item.acts env m before hut = item.acts env m' before hut := by
  rw [ShortItem.acts, (annotate_blind ..).acts_eq m m']
  rfl

/-- With the same usage page before it, an item is shown alike behind whatever items, and as zero
where it has no data, exactly where neither the number nor the page that others left shows. -/
theorem dumpReportDesc_itemText {m' : Memory} {b' l' : Nat} {before before' : List ShortItem}
    {after after' : List UInt8}
    (h : Holds m b (before.flatMap ShortItem.encode ++ (item.encode ++ after)))
    (hl : l = (before.flatMap ShortItem.encode ++ (item.encode ++ after)).length)
    (h' : Holds m' b' (before'.flatMap ShortItem.encode ++ (item.encode ++ after')))
    (hl' : l' = (before'.flatMap ShortItem.encode ++ (item.encode ++ after')).length)
    (hpage : lastPage before = lastPage before') :
    (itemText env m b l before.length = itemText env m' b' l' before'.length ∧
      (item.data = [] →
        itemText env m b l before.length = printed (item.acts env m 0 (lastPage before)))) ↔
      if item.data = [] then
        ReadsZero env (4 * item.tag) (lastNumber before) (keptPage before) (lastPage before) ∧
          ReadsZero env (4 * item.tag) (lastNumber before') (keptPage before') (lastPage before')
      else NamedAlike env item (keptPage before) (keptPage before') := by
  rw [itemText_eq h hl, itemText_eq h' hl', ← hpage,
    acts_blind item (lastNumber before') (keptPage before') m]
  split
  case isTrue hdata =>
    have hzero (list : List ShortItem) := @acts_zero_iff env m item hdata (lastNumber list)
      (keptPage list) (lastPage before)
    rw [forall_prop_of_true hdata, ← hzero before, ← hzero before']
    exact ⟨fun ⟨hsame, hfirst⟩ => ⟨hfirst, hsame.symm.trans hfirst⟩,
      fun ⟨hfirst, hsecond⟩ => ⟨hfirst.trans hsecond.symm, hfirst⟩⟩
  case isFalse hdata =>
    rw [← @acts_page_iff env m item hdata (lastNumber before) (lastNumber before')]
    exact and_iff_left fun hempty => absurd hempty hdata

def collectionOf (kind : UInt8) : ShortItem := ⟨40, [kind], by simp⟩

def bareCollection : ShortItem := ⟨40, [], by simp⟩

def collections (kind : UInt8) : Memory := fun a => [0xa1, kind, 0xa0].getD a 0

theorem holds_collections (kind : UInt8) : Holds (collections kind) 0
    ([collectionOf kind].flatMap ShortItem.encode ++ (bareCollection.encode ++ [])) := rfl

/-- The second collection is of the kind of the first one. -/
theorem dumpReportDesc_collections :
    (∀ kind ∈ [(1 : UInt8), 2], Holds (collections kind) 0
      ([collectionOf kind].flatMap ShortItem.encode ++ (bareCollection.encode ++ []))) ∧
    lastPage [collectionOf 1] = lastPage [collectionOf 2] ∧
    (itemText default (collections 1) 0 3 1).getLast? = some (.print "Application\n" []) ∧
    (itemText default (collections 2) 0 3 1).getLast? = some (.print "Logical\n" []) :=
  ⟨fun kind _ => holds_collections kind, rfl, by decide +kernel, by decide +kernel⟩

def zeroExponent : ShortItem := ⟨21, [0], by simp⟩

/-- A unit exponent of 0 stands before the collection without data. -/
def behindExponent : Memory := fun a => [0x55, 0, 0xa0].getD a 0

theorem dumpReportDesc_itemText_collections :
    itemText default (collections 0) 0 3 1 = itemText default behindExponent 0 3 1 ∧
      (bareCollection.data = [] → itemText default (collections 0) 0 3 1 =
        printed (bareCollection.acts default (collections 0) 0 (lastPage [collectionOf 0]))) :=
  (@dumpReportDesc_itemText default (collections 0) 0 3 bareCollection behindExponent 0 3
    [collectionOf 0] [zeroExponent] [] [] (holds_collections 0) rfl rfl rfl rfl).mpr
      ⟨(rfl : lastNumber [collectionOf 0] = 0), (rfl : lastNumber [zeroExponent] = 0)⟩

/-- The usage that an item is about: one of four bytes holds its page itself. -/
def ShortItem.usage (item : ShortItem) (page : Nat) : Nat :=
  if item.data.length = 4 then usageKey (item.number / 2 ^ 16) (item.number % 2 ^ 16)
  else usageKey page item.number

theorem number_lt (item : ShortItem) : item.number < 256 ^ item.data.length := by
  have hdigits := @Nat.ofDigits_lt_base_pow_length 256 (item.data.map UInt8.toNat) (by decide) (by
    intro digit hdigit
    obtain ⟨byte, -, rfl⟩ := List.mem_map.mp hdigit
    exact byte.toNat_lt)
  rwa [List.length_map] at hdigits

theorem usage_eq_iff (item : ShortItem) (page : Nat) :
    usageKey page item.number = item.usage page ↔ item.data.length ≠ 4 ∨ page % 2 ^ 16 = 0 := by
  have hlt := number_lt item
  by_cases hlength : item.data.length = 4
  · rw [hlength] at hlt
    rw [ShortItem.usage, if_pos hlength]
    simp only [usageKey, Nat.shiftLeft_eq]
    omega
  · rw [ShortItem.usage, if_neg hlength]
    exact iff_of_true rfl (.inl hlength)

theorem last_usage {names : Nat → Option String} (before hut : Nat) (hdata : item.data ≠ [])
    (husage : item.tag.val ∈ [2, 6, 10]) :
    (printed (item.acts { env with namesHutus := names } m before hut)).getLast? =
      some (.print "%s%s\n"
        [Report.indent, text ((names (usageKey hut item.number)).getD "Unknown")]) := by
  have hvalue : item.value before = item.number := by
    rw [ShortItem.value, if_neg hdata, ShortItem.number]
  have hannotation : printed ((Report.annotate { env with namesHutus := names } (4 * item.tag)
      item.number item.data.length hut).acts m) = [.print "%s%s\n"
        [Report.indent, text ((names (usageKey hut item.number)).getD "Unknown")]] := by
    simp only [List.mem_cons, List.not_mem_nil, or_false] at husage
    rcases husage with htag | htag | htag <;> rw [htag] <;> rfl
  rw [printed_acts, hvalue, hannotation, ← List.cons_append, List.getLast?_append]
  rfl

/-- A usage is looked up in the page of its own item or in the last usage page, except that a
usage of four bytes has the last usage page added to its own. -/
theorem dumpReportDesc_usage {before : List ShortItem} {after : List UInt8}
    (h : Holds m b (before.flatMap ShortItem.encode ++ (item.encode ++ after)))
    (hl : l = (before.flatMap ShortItem.encode ++ (item.encode ++ after)).length)
    (hdata : ∀ other ∈ before, other.data ≠ []) (hitem : item.data ≠ [])
    (husage : item.tag.val ∈ [2, 6, 10]) :
    (∀ names, (itemText { env with namesHutus := names } m b l before.length).getLast? =
      some (.print "%s%s\n"
        [Report.indent, text ((names (item.usage (lastPage before))).getD "Unknown")])) ↔
      item.data.length ≠ 4 ∨ lastPage before % 2 ^ 16 = 0 := by
  rw [← usage_eq_iff item]
  constructor
  · intro hall
    by_contra hkey
    have hshown := hall fun key =>
      if key = usageKey (lastPage before) item.number then some "" else none
    rw [itemText_eq h hl, last_usage _ _ hitem husage, keptPage_eq _ hdata] at hshown
    simp [text, Ne.symm hkey] at hshown
  · intro hkey names
    rw [itemText_eq h hl, last_usage _ _ hitem husage, keptPage_eq _ hdata, hkey]

def extendedUsage : Memory := fun a => [0x05, 0x01, 0x0b, 0x30, 0x00, 0x01, 0x00].getD a 0

def desktopPage : ShortItem := ⟨1, [0x01], by simp⟩

def extendedAxis : ShortItem := ⟨2, [0x30, 0x00, 0x01, 0x00], by simp⟩

/-- The usage looked up is that of page 2, not of page 1. -/
theorem dumpReportDesc_extendedUsage :
    Holds extendedUsage 0 ([desktopPage].flatMap ShortItem.encode ++ (extendedAxis.encode ++ [])) ∧
      extendedAxis.usage (lastPage [desktopPage]) = 0x00010030 ∧
      ∀ names, (itemText { (default : Env) with namesHutus := names } extendedUsage 0 7 1).getLast? =
        some (.print "%s%s\n" [Report.indent, text ((names 0x00020030).getD "Unknown")]) :=
  ⟨by decide, by decide, fun _ => rfl⟩

theorem dumpReportDesc_usage_extendedUsage :
    ¬∀ names, (itemText { (default : Env) with namesHutus := names } extendedUsage 0 7 1).getLast? =
      some (.print "%s%s\n"
        [Report.indent, text ((names (extendedAxis.usage (lastPage [desktopPage]))).getD "Unknown")]) := by
  have hread := @dumpReportDesc_usage default extendedUsage 0 7 extendedAxis [desktopPage] []
    (by decide) (by decide) (by decide) (by decide) (by decide)
  exact fun hall => absurd (hread.mp hall) (by decide)

end Text

end Usbutils
