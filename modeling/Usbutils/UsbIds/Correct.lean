import Usbutils.UsbIds.Layout

/-! What `parse_usb_ids` makes of a text in the layout of the file. An interface line turns the
mode away from `Vendor`, so that the device lines behind it are not seen. -/
namespace Usbutils
open PyText

section Lines

variable (uni : Unicode) (st : ParseState)

theorem isHex_hexDigit : ∀ d : HexDigit,
    ((hexDigit d).isDigit || ['a', 'b', 'c', 'd', 'e', 'f'].contains (hexDigit d)) = true := by
  decide

theorem ishexdigit_hex (ds : List HexDigit) : ishexdigit uni (ds.map hexDigit) = true := by
  refine List.all_eq_true.mpr fun c hc => ?_
  obtain ⟨d, -, rfl⟩ := List.mem_map.mp hc
  rw [isdigit, if_pos (isAscii_hexDigit d)]
  exact isHex_hexDigit d

theorem newline_ne_hexDigit : ∀ d : HexDigit, '\n' ≠ hexDigit d := by
  decide

theorem hash_ne_hexDigit : ∀ d : HexDigit, hexDigit d ≠ '#' := by
  decide

theorem x_ne_hexDigit : ∀ d : HexDigit, hexDigit d ≠ 'x' := by
  decide

theorem xy_ne_hexDigits (c d : HexDigit) : [hexDigit c, hexDigit d] ≠ ['x', 'y'] :=
  fun heq => x_ne_hexDigit c (List.cons.inj heq).1

theorem parseLine_entry {c : Char} {rest : Str} (hnewline : '\n' ∉ c :: rest) (hhash : c ≠ '#') :
    parseLine uni st (c :: rest) =
      if ishexdigit uni (slice (c :: rest) 0 4) then do
        let vid ← intBase16 uni (slice (c :: rest) 0 4)
        some { st with
          mode := .vendor, vid, usbvendors := st.usbvendors.set vid ((c :: rest).drop 6) }
      else if c = '\t' ∧ ishexdigit uni (slice (c :: rest) 1 3) then do
        let did ← tabbedId uni (c :: rest)
        parseTabbed uni st (c :: rest) did
      else parseRest uni st (c :: rest) := by
  have hfirst (d : Char) : slice (c :: rest) 0 1 = [d] ↔ c = d := by simp [slice]
  rw [parseLine, if_neg (mt (hfirst '#').mp hhash), rstripNewline_eq hnewline,
    if_neg (List.cons_ne_nil c rest)]
  simp only [hfirst]

theorem parseLine_tabbed {a b : HexDigit} {rest : Str} (hnewline : '\n' ∉ rest) :
    parseLine uni st ('\t' :: hexDigit a :: hexDigit b :: rest) =
      (tabbedId uni ('\t' :: hexDigit a :: hexDigit b :: rest)).bind
        (parseTabbed uni st ('\t' :: hexDigit a :: hexDigit b :: rest)) := by
  have hline : '\n' ∉ '\t' :: hexDigit a :: hexDigit b :: rest := by
    simp [hnewline, newline_ne_hexDigit]
  rw [parseLine_entry uni st hline (by decide), if_neg (by exact Bool.false_ne_true),
    if_pos ⟨rfl, ishexdigit_hex uni [a, b]⟩]
  rfl

theorem parseLine_rest {c : Char} {rest : Str} (hnewline : '\n' ∉ c :: rest) (hhash : c ≠ '#')
    (hvendor : ishexdigit uni (slice (c :: rest) 0 4) = false)
    (htab : c = '\t' → ishexdigit uni (slice (c :: rest) 1 3) = false) :
    parseLine uni st (c :: rest) = parseRest uni st (c :: rest) := by
  rw [parseLine_entry uni st hnewline hhash, if_neg (by simp [hvendor]), if_neg]
  rintro ⟨hc, hhex⟩
  rw [htab hc] at hhex
  cases hhex

theorem parse_vendor (v : Vendor) : parseLine uni st v.line =
    some { st with
      mode := .vendor
      vid := Hex4.value v.id
      usbvendors := st.usbvendors.set (Hex4.value v.id) v.name.1 } := by
  obtain ⟨⟨⟨a, b⟩, c, d⟩, name, devices⟩ := v
  have hnewline : '\n' ∉ hexDigit a :: hexDigit b :: hexDigit c :: hexDigit d :: ' ' :: ' ' :: name.1 := by
    simp [name.2.1, newline_ne_hexDigit]
  have hid : intBase16 uni [hexDigit a, hexDigit b, hexDigit c, hexDigit d] =
      some (hexValue [a, b, c, d] : Int) := intBase16_hex uni (List.cons_ne_nil a [b, c, d]) 0
  refine (parseLine_entry uni st hnewline (hash_ne_hexDigit a)).trans ?_
  refine (if_pos (ishexdigit_hex uni [a, b, c, d])).trans ?_
  exact congrArg (Option.bind · _) hid

theorem intBase16_two (a b : HexDigit) :
    intBase16 uni [hexDigit a, hexDigit b] = some (hexValue [a, b] : Int) :=
  intBase16_hex uni (List.cons_ne_nil a [b]) 0

theorem tabbedId_device (d : Device) : tabbedId uni d.line = some d.id.value := by
  obtain ⟨id, name, interfaces⟩ := d
  cases id with
  | hhhh id =>
      obtain ⟨⟨a, b⟩, c, d⟩ := id
      exact (if_neg (xy_ne_hexDigits c d)).trans (intBase16_hex uni (List.cons_ne_nil a [b, c, d]) 0)
  | hhxy id =>
      obtain ⟨a, b⟩ := id
      exact congrArg (Option.map (· * 256)) (intBase16_two uni a b)

theorem parse_device (d : Device) :
    parseLine uni st d.line = parseTabbed uni st d.line d.id.value := by
  have hid := tabbedId_device uni d
  obtain ⟨id, name, interfaces⟩ := d
  cases id with
  | hhhh id =>
      obtain ⟨⟨a, b⟩, c, d⟩ := id
      have hnewline : '\n' ∉ hexDigit c :: hexDigit d :: ' ' :: ' ' :: name.1 := by
        simp [name.2.1, newline_ne_hexDigit]
      exact (parseLine_tabbed uni st hnewline).trans (congrArg (Option.bind · _) hid)
  | hhxy id =>
      obtain ⟨a, b⟩ := id
      have hnewline : '\n' ∉ 'x' :: 'y' :: ' ' :: ' ' :: name.1 := by simp [name.2.1]
      exact (parseLine_tabbed uni st hnewline).trans (congrArg (Option.bind · _) hid)

theorem drop_device (d : Device) : d.line.drop 7 = d.name.1 := by
  obtain ⟨id, name, interfaces⟩ := d
  cases id <;> rfl

theorem parse_device_vendor (d : Device) (hmode : st.mode = .vendor) :
    parseLine uni st d.line = some { st with
      did := d.id.value
      usbproducts := st.usbproducts.set (st.vid, d.id.value) d.name.1 } := by
  rw [parse_device, parseTabbed]
  simp only [hmode, drop_device]

theorem parseTabbed_misc (hmode : st.mode = .misc) (rest : Str) (did : Int) :
    parseTabbed uni st ('\t' :: rest) did = some { st with did } := by
  have hclass : slice ('\t' :: rest) 0 1 ≠ ['C'] := nofun
  rw [parseTabbed]
  simp only [hmode, parseRest, if_neg hclass]
  rw [if_neg (by simp)]

theorem parse_device_misc (d : Device) (hmode : st.mode = .misc) :
    parseLine uni st d.line = some { st with did := d.id.value } :=
  (parse_device uni st d).trans (parseTabbed_misc uni st hmode _ _)

theorem parse_interface (text : LineText) (hmode : st.mode ≠ .usbClass) :
    parseLine uni st (interfaceLine text) = some { st with mode := .misc } := by
  have hnewline : '\n' ∉ '\t' :: '\t' :: text.1 := by simp [text.2.1]
  refine (parseLine_rest uni st hnewline (by decide) rfl (fun _ => ?_)).trans ?_
  · cases text.1 <;> rfl
  · exact (if_neg (by exact nofun)).trans (if_neg fun h => hmode h.1)

theorem parse_usbClass (c : UsbClass) : parseLine uni st c.line =
    some { st with
      mode := .usbClass
      cid := Hex2.value c.id
      cstrg := c.name.1
      usbclasses := st.usbclasses.set (Hex2.value c.id, -1, -1) c.name.1 } := by
  obtain ⟨⟨a, b⟩, name, subclasses⟩ := c
  have hnewline : '\n' ∉ 'C' :: ' ' :: hexDigit a :: hexDigit b :: ' ' :: ' ' :: name.1 := by
    simp [name.2.1, newline_ne_hexDigit]
  refine (parseLine_rest uni st hnewline (by decide) rfl (by exact nofun)).trans ?_
  exact (if_pos rfl).trans (congrArg (Option.bind · _) (intBase16_two uni a b))

theorem parse_subclass (s : Subclass) (hmode : st.mode = .usbClass) :
    parseLine uni st s.line = some { st with
      did := Hex2.value s.id
      usbclasses := st.usbclasses.set (st.cid, Hex2.value s.id, -1)
        (st.cstrg ++ ':' :: s.shownName) } := by
  obtain ⟨⟨a, b⟩, name, protocols⟩ := s
  have hnewline : '\n' ∉ ' ' :: ' ' :: name.1 := by simp [name.2.1]
  have hid : tabbedId uni ('\t' :: hexDigit a :: hexDigit b :: ' ' :: ' ' :: name.1) =
      some (hexValue [a, b] : Int) := by
    refine (if_neg (by exact nofun)).trans ?_
    exact intBase16_hex uni (List.cons_ne_nil a [b]) 2
  refine (parseLine_tabbed uni st hnewline).trans ((congrArg (Option.bind · _) hid).trans ?_)
  rw [Option.bind_some, parseTabbed]
  simp only [hmode]
  have hname : ('\t' :: hexDigit a :: hexDigit b :: ' ' :: ' ' :: name.1).drop 5 = name.1 := rfl
  rw [hname, Subclass.shownName]
  by_cases hunused : name.1 = "Unused".toList
  · rw [if_neg (not_not.mpr hunused), if_pos hunused]
    rfl
  · rw [if_pos hunused, if_neg hunused]
    rfl

theorem parse_protocol (p : UsbProtocol) (hmode : st.mode = .usbClass) :
    parseLine uni st p.line = some { st with
      usbclasses := st.usbclasses.set (st.cid, st.did, Hex2.value p.id) p.name.1 } := by
  obtain ⟨⟨a, b⟩, name⟩ := p
  have hnewline : '\n' ∉ '\t' :: '\t' :: hexDigit a :: hexDigit b :: ' ' :: ' ' :: name.1 := by
    simp [name.2.1, newline_ne_hexDigit]
  refine (parseLine_rest uni st hnewline (by decide) rfl (fun _ => rfl)).trans ?_
  refine (if_neg (by exact nofun)).trans ?_
  refine (if_pos ⟨hmode, rfl, ishexdigit_hex uni [a, b]⟩).trans ?_
  exact congrArg (Option.bind · _) (intBase16_two uni a b)

theorem isUpper_facts {c : Char} (h : c.isUpper = true) :
    c ≠ '#' ∧ c ≠ '\t' ∧ c ≠ '\n' ∧ isdigit uni c = false ∧
      ['a', 'b', 'c', 'd', 'e', 'f'].contains c = false := by
  have hne {d : Char} (hd : d.isUpper = false) : c ≠ d := by
    rintro rfl
    rw [h] at hd
    cases hd
  have hrange : 65 ≤ c.toNat ∧ c.toNat ≤ 90 := by
    obtain ⟨hlow, hhigh⟩ : 'A'.val ≤ c.val ∧ c.val ≤ 'Z'.val := of_decide_eq_true h
    exact ⟨UInt32.le_iff_toNat_le.mp hlow, UInt32.le_iff_toNat_le.mp hhigh⟩
  refine ⟨hne rfl, hne rfl, hne rfl, ?_, ?_⟩
  · have hascii : isAscii c = true := decide_eq_true (by omega)
    rw [isdigit, if_pos hascii]
    simp only [Char.isDigit, UInt32.le_iff_toNat_le, Bool.and_eq_false_iff, decide_eq_false_iff_not]
    right
    have hval : c.val.toNat = c.toNat := rfl
    have hnine : '9'.val.toNat = 57 := rfl
    omega
  · simp [hne]

theorem parse_heading (o : OtherSection) :
    parseLine uni st o.line = some { st with mode := .misc } := by
  obtain ⟨⟨letters, hupper, hnonempty, hclass⟩, heading, entries⟩ := o
  cases letters with
  | nil => exact absurd rfl hnonempty
  | cons c letters =>
      obtain ⟨hhash, htab, hnewline, hdigit, hletter⟩ :=
        isUpper_facts uni (hupper c List.mem_cons_self)
      have hletters : '\n' ∉ letters := fun h =>
        (isUpper_facts uni (hupper '\n' (List.mem_cons_of_mem c h))).2.2.1 rfl
      have hline : '\n' ∉ c :: (letters ++ ' ' :: heading.1) := by
        simp [hnewline.symm, hletters, heading.2.1]
      have hhex : ishexdigit uni (slice (c :: (letters ++ ' ' :: heading.1)) 0 4) = false := by
        rw [slice, List.drop_zero, List.take_succ_cons, ishexdigit, List.all_cons, hdigit, hletter]
        rfl
      refine (parseLine_rest uni st hline hhash hhex (fun h => absurd h htab)).trans ?_
      have hfirst : c ≠ 'C' := fun h => hclass (congrArg some h)
      refine (if_neg ?_).trans (if_neg ?_)
      · exact fun h => hfirst (List.cons.inj h).1
      · exact fun h => htab (List.cons.inj h.2.1).1

theorem tabbedId_otherEntry (a b : HexDigit) (rest : List HexDigit) (name : Str) :
    ∃ did, tabbedId uni ('\t' :: hexDigit a :: hexDigit b :: (rest.map hexDigit ++ ' ' :: ' ' :: name)) =
      some did := by
  match rest with
  | [] =>
      exact ⟨_, (if_neg (by exact nofun)).trans (intBase16_hex uni (List.cons_ne_nil a [b]) 2)⟩
  | [c] =>
      have hxy : [hexDigit c, ' '] ≠ ['x', 'y'] := by simp
      exact ⟨_, (if_neg hxy).trans (intBase16_hex uni (List.cons_ne_nil a [b, c]) 1)⟩
  | c :: d :: rest =>
      exact ⟨_, (if_neg (xy_ne_hexDigits c d)).trans
        (intBase16_hex uni (List.cons_ne_nil a [b, c, d]) 0)⟩

theorem parse_otherEntry (entry : OtherEntry) (hmode : st.mode = .misc) :
    ∃ did, parseLine uni st entry.line = some { st with did } := by
  obtain ⟨id, hnonempty, name⟩ := entry
  match id, hnonempty with
  | [a], _ =>
      have hline : '\n' ∉ '\t' :: hexDigit a :: ' ' :: ' ' :: name.1 := by
        simp [name.2.1, newline_ne_hexDigit]
      have hhex : ishexdigit uni [hexDigit a, ' '] = false := Bool.and_false _
      refine ⟨st.did, ?_⟩
      refine (parseLine_rest uni st hline (by decide) rfl (fun _ => hhex)).trans ?_
      refine (if_neg (by exact nofun)).trans ((if_neg ?_).trans ?_)
      · exact fun h => by rw [hmode] at h; cases h.1
      · rw [hmode]
  | a :: b :: rest, hnonempty =>
      have hline : OtherEntry.line ⟨a :: b :: rest, hnonempty, name⟩ =
          '\t' :: hexDigit a :: hexDigit b :: (rest.map hexDigit ++ ' ' :: ' ' :: name.1) := by
        simp [OtherEntry.line, twoSpaces]
      have hnewline : '\n' ∉ rest.map hexDigit ++ ' ' :: ' ' :: name.1 := by
        simp [name.2.1, Ne.symm (newline_ne_hexDigit _)]
      obtain ⟨did, hid⟩ := tabbedId_otherEntry uni a b rest name.1
      refine ⟨did, ?_⟩
      rw [hline]
      refine (parseLine_tabbed uni st hnewline).trans ((congrArg (Option.bind · _) hid).trans ?_)
      exact parseTabbed_misc uni st hmode _ did

end Lines

section Tables

variable (uni : Unicode)

structure Stores (st st' : ParseState) (vendors : List (Int × Str))
    (products : List ((Int × Int) × Str)) (classes : List ((Int × Int × Int) × Str)) : Prop where
  vendors : st'.usbvendors = st.usbvendors.setAll vendors
  products : st'.usbproducts = st.usbproducts.setAll products
  classes : st'.usbclasses = st.usbclasses.setAll classes

theorem Stores.trans {st st' st'' : ParseState} {vs vs' : List (Int × Str)}
    {ps ps' : List ((Int × Int) × Str)} {cs cs' : List ((Int × Int × Int) × Str)}
    (h : Stores st st' vs ps cs) (h' : Stores st' st'' vs' ps' cs') :
    Stores st st'' (vs ++ vs') (ps ++ ps') (cs ++ cs') where
  vendors := by rw [h'.vendors, h.vendors, Dict.setAll_append]
  products := by rw [h'.products, h.products, Dict.setAll_append]
  classes := by rw [h'.classes, h.classes, Dict.setAll_append]

variable (st : ParseState)

def Reads (lines : List Str) (st st' : ParseState) : Prop :=
  lines.foldlM (parseLine uni) st = some st'

variable {uni} {st}

theorem Reads.cons {line : Str} {lines : List Str} {st' st'' : ParseState}
    (hline : parseLine uni st line = some st') (h : Reads uni lines st' st'') :
    Reads uni (line :: lines) st st'' := by
  rw [Reads, List.foldlM_cons, hline]
  exact h

theorem Reads.append {lines later : List Str} {st' st'' : ParseState}
    (h : Reads uni lines st st') (h' : Reads uni later st' st'') :
    Reads uni (lines ++ later) st st'' := by
  rw [Reads, List.foldlM_append, show List.foldlM (parseLine uni) st lines = some st' from h]
  exact h'

theorem reads_interfaces (texts : List LineText) (hmode : st.mode = .misc) :
    Reads uni (texts.map interfaceLine) st st := by
  induction texts with
  | nil => rfl
  | cons text rest ih =>
      have hline := parse_interface uni st text (by rw [hmode]; nofun)
      rw [show { st with mode := .misc } = st by rw [← hmode]] at hline
      exact Reads.cons hline ih

/-- After an interface line no device line is seen. -/
theorem reads_devices_misc (devices : List Device) (hmode : st.mode = .misc) :
    ∃ st', Reads uni (devices.flatMap Device.lines) st st' ∧ Stores st st' [] [] [] := by
  induction devices generalizing st with
  | nil => exact ⟨st, rfl, rfl, rfl, rfl⟩
  | cons d rest ih =>
      obtain ⟨st', hrest, hstores⟩ := @ih { st with did := d.id.value } hmode
      have hinterfaces : Reads uni (d.interfaces.map interfaceLine) { st with did := d.id.value }
          { st with did := d.id.value } := reads_interfaces d.interfaces hmode
      refine ⟨st', Reads.cons (parse_device_misc uni st d hmode) (hinterfaces.append hrest), ?_⟩
      exact ⟨hstores.vendors, hstores.products, hstores.classes⟩

theorem reads_devices (devices : List Device) (hmode : st.mode = .vendor) :
    ∃ st', Reads uni (devices.flatMap Device.lines) st st' ∧
      Stores st st' [] ((shownDevices devices).map fun d => ((st.vid, d.id.value), d.name.1)) [] := by
  induction devices generalizing st with
  | nil => exact ⟨st, rfl, rfl, rfl, rfl⟩
  | cons d rest ih =>
      have hline := parse_device_vendor uni st d hmode
      generalize hst₁ : { st with
        did := d.id.value
        usbproducts := st.usbproducts.set (st.vid, d.id.value) d.name.1 } = st₁ at hline
      have hmode₁ : st₁.mode = .vendor := by rw [← hst₁]; exact hmode
      rw [List.flatMap_cons, shownDevices, Device.lines]
      cases hinterfaces : d.interfaces with
      | nil =>
          obtain ⟨st', hrest, hstores⟩ := ih hmode₁
          refine ⟨st', Reads.cons hline hrest, ?_⟩
          subst hst₁
          exact ⟨hstores.vendors, hstores.products, hstores.classes⟩
      | cons text texts =>
          have hinterface := parse_interface uni st₁ text (by rw [hmode₁]; nofun)
          obtain ⟨st', hrest, hstores⟩ := @reads_devices_misc uni { st₁ with mode := .misc } rest rfl
          have hreads := (Reads.cons hinterface (reads_interfaces texts rfl)).append hrest
          refine ⟨st', Reads.cons hline hreads, ?_⟩
          subst hst₁
          exact ⟨hstores.vendors, hstores.products, hstores.classes⟩

theorem reads_protocols (protocols : List UsbProtocol) (hmode : st.mode = .usbClass) :
    Reads uni (protocols.map UsbProtocol.line) st { st with
      usbclasses := st.usbclasses.setAll
        (protocols.map fun p => ((st.cid, st.did, Hex2.value p.id), p.name.1)) } := by
  induction protocols generalizing st with
  | nil => rfl
  | cons p rest ih => exact Reads.cons (parse_protocol uni st p hmode) (ih hmode)

theorem reads_subclass (s : Subclass) (hmode : st.mode = .usbClass) :
    ∃ st', Reads uni s.lines st st' ∧
      st'.mode = .usbClass ∧ st'.cid = st.cid ∧ st'.cstrg = st.cstrg ∧
      Stores st st' [] [] (((st.cid, Hex2.value s.id, -1), st.cstrg ++ ':' :: s.shownName) ::
        s.protocols.map fun p => ((st.cid, Hex2.value s.id, Hex2.value p.id), p.name.1)) := by
  have hprotocols := @reads_protocols uni { st with
    did := Hex2.value s.id
    usbclasses := st.usbclasses.set (st.cid, Hex2.value s.id, -1)
      (st.cstrg ++ ':' :: s.shownName) } s.protocols hmode
  exact ⟨_, Reads.cons (parse_subclass uni st s hmode) hprotocols, hmode, rfl, rfl, rfl, rfl, rfl⟩

theorem reads_subclasses (subclasses : List Subclass) (hmode : st.mode = .usbClass) :
    ∃ st', Reads uni (subclasses.flatMap Subclass.lines) st st' ∧
      Stores st st' [] [] (subclasses.flatMap fun s =>
        ((st.cid, Hex2.value s.id, -1), st.cstrg ++ ':' :: s.shownName) ::
          s.protocols.map fun p => ((st.cid, Hex2.value s.id, Hex2.value p.id), p.name.1)) := by
  induction subclasses generalizing st with
  | nil => exact ⟨st, rfl, rfl, rfl, rfl⟩
  | cons s rest ih =>
      obtain ⟨st₁, hlines, hmode₁, hcid, hcstrg, hstores₁⟩ := @reads_subclass uni st s hmode
      obtain ⟨st', hrest, hstores⟩ := ih hmode₁
      rw [hcid, hcstrg] at hstores
      exact ⟨st', hlines.append hrest, hstores₁.trans hstores⟩

theorem reads_otherEntries (entries : List OtherEntry) (hmode : st.mode = .misc) :
    ∃ st', Reads uni (entries.map OtherEntry.line) st st' ∧ Stores st st' [] [] [] := by
  induction entries generalizing st with
  | nil => exact ⟨st, rfl, rfl, rfl, rfl⟩
  | cons entry rest ih =>
      obtain ⟨did, hline⟩ := parse_otherEntry uni st entry hmode
      obtain ⟨st', hrest, hstores⟩ := @ih { st with did } hmode
      exact ⟨st', Reads.cons hline hrest, hstores.vendors, hstores.products, hstores.classes⟩

theorem reads_part (part : Part) (st : ParseState) :
    ∃ st', Reads uni part.lines st st' ∧
      Stores st st' (part.vendors.map Vendor.entry)
        (part.vendors.flatMap fun v => (shownDevices v.devices).map v.product)
        (part.usbClasses.flatMap UsbClass.entries) := by
  cases part with
  | vendor v =>
      obtain ⟨st', hdevices, hstores⟩ := @reads_devices uni { st with
        mode := .vendor
        vid := Hex4.value v.id
        usbvendors := st.usbvendors.set (Hex4.value v.id) v.name.1 } v.devices rfl
      refine ⟨st', Reads.cons (parse_vendor uni st v) hdevices, ?_⟩
      have hproducts : [v].flatMap (fun v => (shownDevices v.devices).map v.product) =
          (shownDevices v.devices).map v.product := List.flatMap_singleton _ _
      exact ⟨hstores.vendors, hproducts ▸ hstores.products, hstores.classes⟩
  | usbClass c =>
      obtain ⟨st', hsubclasses, hstores⟩ := @reads_subclasses uni { st with
        mode := .usbClass
        cid := Hex2.value c.id
        cstrg := c.name.1
        usbclasses := st.usbclasses.set (Hex2.value c.id, -1, -1) c.name.1 } c.subclasses rfl
      refine ⟨st', Reads.cons (parse_usbClass uni st c) hsubclasses, ?_⟩
      have hclasses : [c].flatMap UsbClass.entries = c.entries := List.flatMap_singleton _ _
      exact ⟨hstores.vendors, hstores.products, hclasses ▸ hstores.classes⟩
  | other o =>
      obtain ⟨st', hentries, hstores⟩ :=
        @reads_otherEntries uni { st with mode := .misc } o.entries rfl
      refine ⟨st', Reads.cons (parse_heading uni st o) hentries, ?_⟩
      exact ⟨hstores.vendors, hstores.products, hstores.classes⟩

theorem reads_parts (parts : List Part) (st : ParseState) :
    ∃ st', Reads uni (parts.flatMap Part.lines) st st' ∧
      Stores st st' (vendorEntries parts) (shownProducts parts) (classEntries parts) := by
  induction parts generalizing st with
  | nil => exact ⟨st, rfl, rfl, rfl, rfl⟩
  | cons part rest ih =>
      obtain ⟨st₁, hpart, hstores₁⟩ := @reads_part uni part st
      obtain ⟨st', hrest, hstores⟩ := ih st₁
      refine ⟨st', hpart.append hrest, ?_⟩
      simpa only [vendorEntries, shownProducts, classEntries, List.flatMap_cons, List.map_append,
        List.flatMap_append] using hstores₁.trans hstores

theorem parseLine_skip {line : Str} (h : isEntry line = false) (st : ParseState) :
    parseLine uni st line = some st := by
  cases line with
  | nil => rfl
  | cons c rest =>
      have hhash : c = '#' := by simpa [isEntry] using h
      rw [hhash]
      rfl

theorem foldlM_filter (lines : List Str) (st : ParseState) :
    lines.foldlM (parseLine uni) st = (lines.filter isEntry).foldlM (parseLine uni) st := by
  induction lines generalizing st with
  | nil => rfl
  | cons line rest ih =>
      cases hline : isEntry line with
      | true =>
          rw [List.filter_cons_of_pos hline, List.foldlM_cons, List.foldlM_cons]
          exact congrArg _ (funext ih)
      | false =>
          rw [List.filter_cons_of_neg (by simp [hline]), List.foldlM_cons, parseLine_skip hline]
          exact ih st

theorem parseLine_newline (st : ParseState) (line : Str) (hline : '\n' ∉ line) :
    parseLine uni st (line ++ ['\n']) = parseLine uni st line := by
  unfold parseLine
  rw [rstripNewline_append hline, rstripNewline_eq hline]
  cases line with
  | nil => rfl
  | cons c rest => rfl

/-- The tables, where the products are those of the device lines that are seen. -/
theorem parseUsbIds_eq {text : Str} {parts : List Part} (h : IsUsbIds text parts) :
    parseUsbIds uni text = some { usbIds parts with
      usbproducts := Dict.ofList (shownProducts parts) } := by
  obtain ⟨lines, rfl, hlines, hentries⟩ := h
  obtain ⟨st', hreads, hvendors, hproducts, hclasses⟩ := @reads_parts uni parts {}
  have hreturn : '\r' ∉ ['\n'].intercalate lines :=
    notMem_intercalate (by decide) fun line hline => (hlines line hline).2
  rw [parseUsbIds, universalNewlines_eq hreturn,
    foldlM_readlines parseLine_newline (fun _ => rfl) (fun line hline => (hlines line hline).1),
    foldlM_filter, hentries, show List.foldlM (parseLine uni) {} _ = some st' from hreads,
    Option.bind_eq_bind, Option.bind_some, hvendors, hproducts, hclasses]
  rfl

/-- The last name that is given for a pair of a vendor and a device. -/
def lastName (entries : List ((Int × Int) × Str)) (pair : Int × Int) : Option Str :=
  (entries.reverse.find? (·.1 = pair)).map Prod.snd

theorem ofList_apply (entries : List ((Int × Int) × Str)) (pair : Int × Int) :
    Dict.ofList entries pair = lastName entries pair := by
  rw [Dict.ofList, Dict.setAll_apply, Option.or_none, lastName]

/-- All entries of the text, and nothing else, are in the tables exactly if the last name of each
pair is the last one of the device lines that no interface line of their vendor precedes. -/
theorem parseUsbIds_iff {text : Str} {parts : List Part} (h : IsUsbIds text parts) :
    parseUsbIds uni text = some (usbIds parts) ↔
      ∀ pair, lastName (productEntries parts) pair = lastName (shownProducts parts) pair := by
  rw [parseUsbIds_eq h, Option.some.injEq]
  constructor
  · intro heq pair
    have hproducts := congrFun (congrArg UsbIds.usbproducts heq) pair
    rw [← ofList_apply, ← ofList_apply]
    exact hproducts.symm
  · intro hlast
    have hproducts : Dict.ofList (shownProducts parts) = Dict.ofList (productEntries parts) := by
      funext pair
      rw [ofList_apply, ofList_apply, hlast]
    rw [hproducts]
    rfl

theorem shownDevices_sublist (devices : List Device) : (shownDevices devices).Sublist devices := by
  induction devices with
  | nil => exact List.Sublist.slnil
  | cons d rest ih =>
      rw [shownDevices]
      split
      · exact ih.cons_cons d
      · exact (List.nil_sublist rest).cons_cons d

theorem flatMap_sublist {α β : Type} {f g : α → List β} (h : ∀ a, (f a).Sublist (g a))
    (list : List α) : (list.flatMap f).Sublist (list.flatMap g) := by
  induction list with
  | nil => exact List.Sublist.slnil
  | cons a rest ih =>
      rw [List.flatMap_cons, List.flatMap_cons]
      exact (h a).append ih

theorem eq_of_flatMap_eq {α β : Type} {f g : α → List β} (h : ∀ a, (f a).Sublist (g a))
    {list : List α} (heq : list.flatMap f = list.flatMap g) : ∀ a ∈ list, f a = g a := by
  induction list with
  | nil => nofun
  | cons a rest ih =>
      rw [List.flatMap_cons, List.flatMap_cons] at heq
      have hlength := congrArg List.length heq
      rw [List.length_append, List.length_append] at hlength
      have hhead := (h a).length_le
      have htail := (flatMap_sublist h rest).length_le
      obtain ⟨ha, hrest⟩ := List.append_inj heq (by omega)
      exact List.forall_mem_cons.mpr ⟨ha, ih hrest⟩

theorem isSome_lastName (entries : List ((Int × Int) × Str)) (pair : Int × Int) :
    (lastName entries pair).isSome = true ↔ pair ∈ entries.map Prod.fst := by
  simp [lastName, List.find?_isSome]

/-- Where no pair is listed twice, no device line may stand behind an interface line of its
vendor. -/
theorem lastName_iff_of_nodup {parts : List Part}
    (hnodup : ((productEntries parts).map Prod.fst).Nodup) :
    (∀ pair, lastName (productEntries parts) pair = lastName (shownProducts parts) pair) ↔
      ∀ v ∈ parts.flatMap Part.vendors, shownDevices v.devices = v.devices := by
  have hsublist (v : Vendor) :
      ((shownDevices v.devices).map v.product).Sublist (v.devices.map v.product) :=
    (shownDevices_sublist v.devices).map v.product
  constructor
  · intro hlast v hv
    have hsubset : (productEntries parts).map Prod.fst ⊆ (shownProducts parts).map Prod.fst := by
      intro pair hpair
      rw [← isSome_lastName, ← hlast, isSome_lastName]
      exact hpair
    have hlength := hnodup.length_le_of_subset hsubset
    rw [List.length_map, List.length_map] at hlength
    have hall : shownProducts parts = productEntries parts :=
      (flatMap_sublist hsublist _).eq_of_length_le hlength
    have hmap := congrArg List.length (eq_of_flatMap_eq hsublist hall v hv)
    rw [List.length_map, List.length_map] at hmap
    exact (shownDevices_sublist v.devices).eq_of_length hmap
  · intro hshown pair
    have hall : shownProducts parts = productEntries parts :=
      List.flatMap_congr fun v hv => by rw [hshown v hv]
    rw [hall]

end Tables

section Example

def asciiOnly : Unicode where
  isdigit _ := false
  isspace _ := false
  decimal _ := none

def twoDevices (interfaces : List LineText) : List Part :=
  [.vendor {
    id := ((1, 2), 3, 4)
    name := ⟨['V'], by decide⟩
    devices := [
      { id := .hhhh ((0, 0), 0, 1), name := ⟨['A'], by decide⟩, interfaces },
      { id := .hhhh ((0, 0), 0, 2), name := ⟨['B'], by decide⟩, interfaces := [] }] }]

def plainText : Str := "1234  V\n\t0001  A\n\t0002  B".toList

theorem isUsbIds_plainText : IsUsbIds plainText (twoDevices []) :=
  ⟨["1234  V".toList, "\t0001  A".toList, "\t0002  B".toList], by decide +kernel, by simp,
    by decide +kernel⟩

theorem parseUsbIds_plainText :
    parseUsbIds asciiOnly plainText = some (usbIds (twoDevices [])) ↔
      ∀ pair, lastName (productEntries (twoDevices [])) pair =
        lastName (shownProducts (twoDevices [])) pair :=
  parseUsbIds_iff isUsbIds_plainText

def interfaceText : Str := "1234  V\n\t0001  A\n\t\t0003  I\n\t0002  B".toList

def withInterface : List Part := twoDevices [⟨['0', '0', '0', '3', ' ', ' ', 'I'], by decide⟩]

theorem parseUsbIds_interfaceText :
    IsUsbIds interfaceText withInterface ∧
      ((0x1234, 0x0002), ['B']) ∈ productEntries withInterface ∧
      (parseUsbIds asciiOnly interfaceText).map (·.usbproducts (0x1234, 0x0002)) = some none := by
  refine ⟨⟨["1234  V".toList, "\t0001  A".toList, "\t\t0003  I".toList, "\t0002  B".toList],
    by decide +kernel, by simp, by decide +kernel⟩, ?_, by decide +kernel⟩
  exact List.mem_cons_of_mem _ (List.mem_singleton_self _)

end Example

end Usbutils
