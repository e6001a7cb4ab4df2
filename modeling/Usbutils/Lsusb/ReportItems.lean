import Usbutils.Lib.LittleEndian
import Usbutils.Lsusb.Report

/-! The items of a report descriptor: a first byte with tag, type and size, and the data
behind it. `dump_report_desc` shows the items that the bytes are made of, one behind the
other, up to the first one that the descriptor has too few bytes for. -/
namespace Usbutils
open ByteProg

/-- An item with its tag and type bits and as many data bytes as a size field can say. -/
@[ext]
structure ShortItem where
  tag : Fin 64
  data : List UInt8
  short : data.length ∈ [0, 1, 2, 4]
  deriving DecidableEq

namespace ShortItem

variable (item : ShortItem)

def sizeCode : Nat := if item.data.length = 4 then 3 else item.data.length

def first : Nat := 4 * item.tag + item.sizeCode

def encode : List UInt8 := UInt8.ofNat item.first :: item.data

/-- The value of the data; `before` is left as it was by an item without data. -/
def value (before : Nat) : Nat :=
  if item.data = [] then before else Nat.ofDigits 256 (item.data.map UInt8.toNat)

/-- What is printed for the item, behind an item with data `before` and usage page `hut`. -/
def acts (env : Env) (m : Memory) (before hut : Nat) : List Effect :=
  .lookup (item.tag % 4) 4 ::
    .print "            Item(%-6s): %s, data="
      [.str (Report.types[item.tag.val % 4]?.join),
        text ((env.namesReporttag (4 * item.tag)).getD "Unknown")] ::
    ((if item.data = [] then [.print "none" []]
      else .print " [ " [] ::
        (item.data.map (fun byte => .print "0x%02x " [.num byte.toNat]) ++
          [.print "] %d" [.int (signed 32 (item.value before))]])) ++
    .print "\n" [] ::
      (Report.annotate env (4 * item.tag) (item.value before) item.data.length hut).acts m)

def page (before hut : Nat) : Nat := if item.tag.val = 1 then item.value before else hut

end ShortItem

def itemsActs (env : Env) (m : Memory) : List ShortItem → Nat → Nat → List Effect
  | [], _, _ => []
  | item :: rest, before, hut =>
      item.acts env m before hut ++
        itemsActs env m rest (item.value before) (item.page before hut)

/-- There are bytes left, but too few for the item that begins with them. -/
def Unfit (tail : List UInt8) : Prop :=
  ∀ first ∈ tail.head?, tail.length < 1 + Report.itemSize first.toNat

theorem unfit_nil : Unfit [] := fun _ h => nomatch h

def truncated (offset : Nat) (tail : List UInt8) : List Effect :=
  if tail = [] then [] else [.print "            ** TRUNCATED at offset %d **\n" [.num offset]]

section Bits

variable {item : ShortItem}

theorem itemSize_eq (first : Nat) : Report.itemSize first = if first % 4 = 3 then 4 else first % 4 := by
  have hand : first &&& 0x03 = first % 4 := Nat.and_two_pow_sub_one_eq_mod first 2
  rw [Report.itemSize, hand]

theorem ShortItem.first_mod (item : ShortItem) :
    item.first % 4 = item.sizeCode ∧ item.first / 4 = item.tag := by
  have hshort := item.short
  simp only [List.mem_cons, List.not_mem_nil, or_false] at hshort
  unfold first sizeCode
  split <;> omega

theorem ShortItem.first_lt (item : ShortItem) : item.first < 256 := by
  have hmod := item.first_mod
  omega

theorem ShortItem.itemSize_first (item : ShortItem) :
    Report.itemSize item.first = item.data.length := by
  have hshort := item.short
  simp only [List.mem_cons, List.not_mem_nil, or_false] at hshort
  rw [itemSize_eq, item.first_mod.1, sizeCode]
  split <;> split <;> omega

theorem ShortItem.toNat_first (item : ShortItem) : (UInt8.ofNat item.first).toNat = item.first := by
  rw [UInt8.toNat_ofNat']
  exact Nat.mod_eq_of_lt item.first_lt

theorem first_bits : ∀ first < 256,
    first &&& 0xfc = 4 * (first / 4) ∧ (first &&& 0x0c) >>> 2 = first / 4 % 4 := by
  decide +kernel

theorem exists_item (first : UInt8) {rest : List UInt8}
    (hfit : Report.itemSize first.toNat ≤ rest.length) :
    ∃ item : ShortItem, item.encode = first :: rest.take (Report.itemSize first.toNat) := by
  have hlength : (rest.take (Report.itemSize first.toNat)).length = Report.itemSize first.toNat :=
    List.length_take_of_le hfit
  have hlt := first.toNat_lt
  have hsize := itemSize_eq first.toNat
  have hshort : (rest.take (Report.itemSize first.toNat)).length ∈ [0, 1, 2, 4] := by
    rw [hlength, hsize]
    simp only [List.mem_cons, List.not_mem_nil, or_false]
    split <;> omega
  refine ⟨⟨⟨first.toNat / 4, by omega⟩, rest.take (Report.itemSize first.toNat), hshort⟩, ?_⟩
  have hcode : ShortItem.first ⟨⟨first.toNat / 4, by omega⟩,
      rest.take (Report.itemSize first.toNat), hshort⟩ = first.toNat := by
    rw [ShortItem.first, ShortItem.sizeCode]
    dsimp only
    rw [hlength, hsize]
    split <;> split <;> omega
  rw [ShortItem.encode, hcode, UInt8.ofNat_toNat]

end Bits

theorem acts_lookup {m : Memory} (table : StringTable) (i : Nat) :
    (lookup table i).acts m = [.lookup i table.length] := rfl

section Item

variable {env : Env} {m : Memory} {address : Nat} {bytes : List UInt8}

theorem acts_itemData (j data : Nat) (h : Holds m (address + j) bytes) :
    (Report.itemData address bytes.length j data).acts m =
      bytes.map fun byte => .print "0x%02x " [.num byte.toNat] := by
  induction bytes generalizing j data with
  | nil => rfl
  | cons byte rest ih =>
      obtain ⟨hbyte, hrest⟩ := (holds_cons ..).mp h
      rw [List.length_cons, Report.itemData, Prog.acts_bind_ok (Prog.result_byte ..),
        Prog.acts_bind_ok (result_print ..), ih (j + 1) _ hrest, hbyte]
      rfl

/-- The data bytes add up to their little-endian value: no item has more of them than an
`unsigned int`. -/
theorem result_itemData {j data : Nat} (h : Holds m (address + j) bytes) (hdata : data < 256 ^ j)
    (hfour : j + bytes.length ≤ 4) :
    (Report.itemData address bytes.length j data).result m =
      .ok (data + 256 ^ j * Nat.ofDigits 256 (bytes.map UInt8.toNat)) := by
  induction bytes generalizing j data with
  | nil => simp [Report.itemData]
  | cons byte rest ih =>
      obtain ⟨hbyte, hrest⟩ := (holds_cons ..).mp h
      have hshift : byte.toNat <<< (8 * j) = byte.toNat * 256 ^ j := by
        rw [Nat.shiftLeft_eq, Nat.pow_mul]
      have hnext : data + byte.toNat * 256 ^ j < 256 ^ (j + 1) := by
        have hlt := byte.toNat_lt
        have hmul : byte.toNat * 256 ^ j ≤ 255 * 256 ^ j := Nat.mul_le_mul_right _ (by omega)
        rw [Nat.pow_succ]
        omega
      have hbound : data + byte.toNat * 256 ^ j < 2 ^ 32 := by
        have hpow : 256 ^ (j + 1) ≤ 256 ^ 4 :=
          Nat.pow_le_pow_right (by decide) (by simp only [List.length_cons] at hfour; omega)
        omega
      have hmod : (data + (m (address + j)).toNat <<< (8 * j)) % 2 ^ 32 =
          data + byte.toNat * 256 ^ j := by
        rw [hbyte, hshift, Nat.mod_eq_of_lt hbound]
      rw [List.length_cons, Report.itemData]
      simp only [Prog.result_bind, Prog.result_byte, result_print, hmod]
      rw [ih hrest hnext (by simp only [List.length_cons] at hfour; omega)]
      simp only [List.map_cons, Nat.ofDigits_cons, Nat.pow_succ]
      congr 1
      ring

theorem result_annotate (btag data bsize hut : Nat) :
    (Report.annotate env btag data bsize hut).result m = .ok (if btag = 0x04 then data else hut) := by
  have hcollection : (Report.collection data).result m = .ok () := by
    unfold Report.collection
    split <;> simp
  unfold Report.annotate
  split <;> simp_all [Except.map]

theorem acts_printData (before : Nat) (h : Holds m address bytes) (hfour : bytes.length ≤ 4) :
    (Report.printData address bytes.length before).acts m =
      if bytes = [] then [.print "none" []]
      else .print " [ " [] ::
        (bytes.map (fun byte => .print "0x%02x " [.num byte.toNat]) ++
          [.print "] %d" [.int (signed 32 (Nat.ofDigits 256 (bytes.map UInt8.toNat)))]]) := by
  cases bytes with
  | nil => rfl
  | cons byte rest =>
      have hitems := @acts_itemData m address (byte :: rest) 0 0 h
      have hvalue := @result_itemData m address (byte :: rest) 0 0 h (by simp) (by omega)
      rw [Nat.zero_add, Nat.pow_zero, Nat.one_mul] at hvalue
      rw [Report.printData, if_pos (by simp), if_neg (by simp), Prog.acts_bind_ok (result_print ..),
        Prog.acts_bind_ok hvalue, hitems, Prog.acts_bind_ok (result_print ..)]
      simp

theorem result_printData (before : Nat) (h : Holds m address bytes) (hfour : bytes.length ≤ 4) :
    (Report.printData address bytes.length before).result m =
      .ok (if bytes = [] then before else Nat.ofDigits 256 (bytes.map UInt8.toNat)) := by
  cases bytes with
  | nil => rfl
  | cons byte rest =>
      have hvalue := @result_itemData m address (byte :: rest) 0 0 h (by simp) (by omega)
      rw [Nat.zero_add, Nat.pow_zero, Nat.one_mul] at hvalue
      rw [Report.printData, if_pos (by simp), if_neg (by simp)]
      simp only [Prog.result_bind, result_print, hvalue, Prog.result_pure]

end Item

section Items

variable {env : Env} {m : Memory} {b l : Nat}

theorem acts_dumpItems_item (item : ShortItem) {after : List UInt8} {fuel i : Nat} (data hut : Nat)
    (hrest : Holds m (b + i) (item.encode ++ after))
    (hlength : i + (item.encode ++ after).length = l) :
    (Report.dumpItems env b l (fuel + 1) i data hut).acts m =
      item.acts env m data hut ++ (Report.dumpItems env b l fuel (i + (1 + item.data.length))
        (item.value data) (item.page data hut)).acts m := by
  rw [ShortItem.encode, List.cons_append] at hrest hlength
  obtain ⟨hfirst, hdata⟩ := (holds_cons ..).mp hrest
  obtain ⟨hdata, -⟩ := (holds_append ..).mp hdata
  rw [Nat.add_assoc] at hdata
  simp only [List.length_cons, List.length_append] at hlength
  have hbits := first_bits item.first item.first_lt
  rw [item.first_mod.2] at hbits
  have hvalue : (if item.data = [] then data
      else Nat.ofDigits 256 (item.data.map UInt8.toNat)) = item.value data := rfl
  have hpage : (if 4 * item.tag.val = 0x04 then item.value data else hut) =
      item.page data hut := by
    unfold ShortItem.page
    congr 1
    exact propext (by omega)
  have hfour : item.data.length ≤ 4 := item.itemSize_first ▸ Report.itemSize_le _
  rw [Report.dumpItems, Prog.when, if_pos (by omega), Prog.acts_bind_ok (Prog.result_byte ..), hfirst,
    item.toNat_first]
  dsimp only
  rw [item.itemSize_first, if_neg (by omega), hbits.1, hbits.2]
  rw [Prog.acts_bind_ok (result_lookup ..), Prog.acts_bind_ok (result_print ..),
    Prog.acts_bind_ok (result_printData data hdata hfour),
    Prog.acts_bind_ok (result_print ..), Prog.acts_bind_ok (result_annotate ..),
    hvalue, hpage, acts_printData data hdata hfour]
  by_cases hempty : item.data = [] <;>
    simp [ShortItem.acts, ShortItem.value, acts_lookup, Report.types, hempty]

/-- The items from an offset on, and the bytes that are left behind them. -/
theorem acts_dumpItems {fuel i : Nat} (data hut : Nat) (hfuel : l ≤ i + fuel) {rest : List UInt8}
    (hrest : Holds m (b + i) rest) (hlength : i + rest.length = l) :
    ∃ items : List ShortItem, ∃ tail, rest = items.flatMap ShortItem.encode ++ tail ∧ Unfit tail ∧
      (Report.dumpItems env b l fuel i data hut).acts m =
        itemsActs env m items data hut ++ truncated (l - tail.length) tail := by
  induction fuel generalizing i data hut rest with
  | zero =>
      obtain rfl : rest = [] := List.eq_nil_of_length_eq_zero (by omega)
      refine ⟨[], [], rfl, unfit_nil, ?_⟩
      rw [Report.dumpItems, Prog.when, if_neg (by omega)]
      rfl
  | succ fuel ih =>
      cases rest with
      | nil =>
          refine ⟨[], [], rfl, unfit_nil, ?_⟩
          rw [Report.dumpItems, Prog.when, if_neg (by simp only [List.length_nil] at hlength; omega)]
          rfl
      | cons first rest =>
          by_cases hfit : Report.itemSize first.toNat ≤ rest.length
          case neg =>
            simp only [List.length_cons] at hlength
            refine ⟨[], first :: rest, rfl, fun byte hbyte => ?_, ?_⟩
            · rw [← Option.some.inj hbyte]
              simp only [List.length_cons]
              omega
            · rw [Report.dumpItems, Prog.when, if_pos (by omega),
                Prog.acts_bind_ok (Prog.result_byte ..), ((holds_cons ..).mp hrest).1]
              dsimp only
              rw [if_pos (by omega)]
              simp [truncated, itemsActs]
              omega
          case pos =>
            obtain ⟨item, hitem⟩ := exists_item first hfit
            obtain ⟨after, hsplit⟩ : ∃ after, first :: rest = item.encode ++ after :=
              ⟨rest.drop (Report.itemSize first.toNat), by
                rw [hitem, List.cons_append, List.take_append_drop]⟩
            rw [hsplit] at hrest hlength ⊢
            have hsize : item.encode.length = 1 + item.data.length := by
              rw [ShortItem.encode, List.length_cons, Nat.add_comm]
            have hafter := ((holds_append ..).mp hrest).2
            rw [hsize, Nat.add_assoc] at hafter
            have hstep := @acts_dumpItems_item env m b l item after fuel i data hut hrest hlength
            rw [List.length_append, hsize] at hlength
            obtain ⟨items, tail, rfl, hunfit, hacts⟩ :=
              ih (item.value data) (item.page data hut) (by omega) hafter (by omega)
            refine ⟨item :: items, tail, ?_, hunfit, ?_⟩
            · rw [List.flatMap_cons, List.append_assoc]
            · rw [hstep, hacts, itemsActs, List.append_assoc]

theorem items_unique {items items' : List ShortItem} {tail : List UInt8} (hunfit : Unfit tail)
    (h : items.flatMap ShortItem.encode ++ tail = items'.flatMap ShortItem.encode) :
    items = items' ∧ tail = [] := by
  induction items generalizing items' with
  | nil =>
      cases items' with
      | nil => exact ⟨rfl, h⟩
      | cons item rest =>
          rw [List.flatMap_nil, List.nil_append] at h
          have hhead := hunfit (UInt8.ofNat item.first) (by rw [h]; rfl)
          have hlength := congrArg List.length h
          rw [item.toNat_first, item.itemSize_first] at hhead
          simp only [List.flatMap_cons, ShortItem.encode, List.cons_append, List.length_cons,
            List.length_append] at hlength
          omega
  | cons item rest ih =>
      cases items' with
      | nil => simp [ShortItem.encode] at h
      | cons item' rest' =>
          simp only [List.flatMap_cons, ShortItem.encode, List.cons_append, List.append_assoc,
            List.cons.injEq] at h
          obtain ⟨hfirst, hdata⟩ := h
          have hcode := congrArg UInt8.toNat hfirst
          rw [item.toNat_first, item'.toNat_first] at hcode
          have hsize : item.data.length = item'.data.length := by
            rw [← item.itemSize_first, ← item'.itemSize_first, hcode]
          obtain ⟨hsame, hrest⟩ := List.append_inj hdata hsize
          obtain ⟨rfl, htail⟩ := ih hrest
          have htag : item.tag = item'.tag := by
            apply Fin.ext
            rw [← item.first_mod.2, ← item'.first_mod.2, hcode]
          have hitem : item = item' := ShortItem.ext htag hsame
          rw [hitem]
          exact ⟨rfl, htail⟩

/-- The dump returns, reads no byte behind the descriptor and shows the items that the bytes
are made of from the first one on, up to the end or to the offset where it warns that an
item is cut off. Bytes that are items one behind the other are shown as these items. -/
theorem dumpReportDesc_items (bytes : List UInt8) (h : Holds m b bytes) :
    (dumpReportDesc env b bytes.length).result m = .ok () ∧
    Prog.All (Within b (b + bytes.length)) (dumpReportDesc env b bytes.length) m ∧
    ∃ items : List ShortItem, ∃ tail, bytes = items.flatMap ShortItem.encode ++ tail ∧ Unfit tail ∧
      (dumpReportDesc env b bytes.length).acts m =
        .print "          Report Descriptor: (length is %d)\n" [.num bytes.length] ::
          (itemsActs env m items 0xffff 0xffff ++
            truncated (items.flatMap ShortItem.encode).length tail) ∧
      ∀ items' : List ShortItem, bytes = items'.flatMap ShortItem.encode → items = items' ∧ tail = [] := by
  refine ⟨result_dumpReportDesc .., dumpReportDesc_within b _, ?_⟩
  obtain ⟨items, tail, hbytes, hunfit, hacts⟩ := @acts_dumpItems env m b _ _ 0 0xffff 0xffff
    (Nat.le_add_left ..) _ h (Nat.zero_add _)
  refine ⟨items, tail, hbytes, hunfit, ?_, fun items' hitems => ?_⟩
  · have hlength := congrArg List.length hbytes
    rw [List.length_append] at hlength
    rw [dumpReportDesc, Prog.acts_bind_ok (result_print ..), hacts, hlength, Nat.add_sub_cancel]
    rfl
  · exact items_unique hunfit (hbytes.symm.trans hitems)

def cutReport : Memory := fun a => [0x05, 0x01, 0x09].getD a 0

theorem dumpReportDesc_cutReport : ∃ items : List ShortItem, ∃ tail,
    [0x05, 0x01, 0x09] = items.flatMap ShortItem.encode ++ tail ∧ Unfit tail ∧
      (dumpReportDesc default 0 3).acts cutReport =
        .print "          Report Descriptor: (length is %d)\n" [.num 3] ::
          (itemsActs default cutReport items 0xffff 0xffff ++
            truncated (items.flatMap ShortItem.encode).length tail) := by
  obtain ⟨-, -, items, tail, hbytes, hunfit, hacts, -⟩ :=
    @dumpReportDesc_items default cutReport 0 [0x05, 0x01, 0x09] (by decide)
  exact ⟨items, tail, hbytes, hunfit, hacts⟩

end Items

end Usbutils
