import Usbutils.LsusbPy.Tables
import Usbutils.LsusbPy.Display

/-! Every object that `lsusb.py` shows has one line, whatever the attributes of the devices hold. -/
namespace Usbutils.LsusbPy
open PyText Linked

/-- No name of a directory and no target of a link ends a line or has a space. -/
structure PlainNames (sys : Sysfs) : Prop where
  names : ∀ dir ents, sys.listdir dir = some ents → ∀ ent ∈ ents, OneLine ent ∧ ' ' ∉ ent
  links : ∀ path link, sys.readlink path = some link → OneLine link

section Fields

variable {py : Python} {sys : Sysfs} {g : Globals} {path name fname : Str} {level : Nat}

theorem oneLine_readAttr {value : Str} (h : readAttr py sys path name = some value) :
    OneLine value := by
  obtain ⟨line, -, hvalue⟩ := Option.bind_eq_some_iff.mp h
  obtain rfl := Option.some.inj hvalue
  rw [OneLine, List.mem_map]
  rintro ⟨c, -, hc⟩
  split at hc
  · rename_i hprintable
    subst hc
    rw [not_isprintable_newline] at hprintable
    exact absurd hprintable (by decide)
  · exact absurd hc (by decide)

theorem oneLine_getD {value : Option Str} (h : ∀ s, value = some s → OneLine s) {other : Str}
    (hother : OneLine other) : OneLine (value.getD other) := by
  cases value with
  | none => exact hother
  | some s => exact h s rfl

theorem oneLine_ite (p : Prop) [Decidable p] {s t : Str} (hs : OneLine s) (ht : OneLine t) :
    OneLine (if p then s else t) := by
  split
  · exact hs
  · exact ht

theorem oneLine_spaced {names : List Str} (h : ∀ name ∈ names, OneLine name) :
    OneLine (spaced names) :=
  oneLine_flatMap fun name hname => oneLine_append.mpr ⟨h name hname, by simp⟩

theorem PlainNames.oneLine (h : PlainNames sys) (dir : Str) :
    ∀ ent ∈ (sys.listdir dir).getD [], OneLine ent := by
  intro ent hent
  cases hents : sys.listdir dir with
  | none =>
      rw [hents] at hent
      exact absurd hent List.not_mem_nil
  | some ents =>
      rw [hents] at hent
      exact (h.names dir ents hents ent hent).1

theorem PlainNames.findStorage (h : PlainNames sys) {hostno names : Str}
    (hnames : findStorage sys hostno = some names) : OneLine names := by
  obtain ⟨ents, -, hfold⟩ := Option.bind_eq_some_iff.mp hnames
  apply foldlM_invariant hfold oneLine_nil
  intro res ent next hres hnext
  split at hnext
  · split at hnext
    · obtain rfl := Option.some.inj hnext
      exact oneLine_append.mpr ⟨hres, oneLine_spaced (h.oneLine _)⟩
    · exact Option.some.inj hnext ▸ hres
  · exact absurd hnext (by simp)

theorem oneLine_basename {s : Str} (h : OneLine s) : OneLine (basename s) :=
  h.of_subset fun _ hc => (List.rtakeWhile_suffix _ _).subset hc

theorem PlainNames.addDrv (h : PlainNames sys) (path drvnm : Str) :
    OneLine (addDrv sys path drvnm) := by
  have hres : OneLine (spaced
      (((sys.listdir (path ++ '/' :: drvnm)).getD []).filter (startswith · drvnm))) :=
    oneLine_spaced fun ent hent => h.oneLine _ ent (List.mem_of_mem_filter hent)
  unfold LsusbPy.addDrv
  dsimp only
  split
  · rename_i link hlink
    have hname := oneLine_basename (h.links _ link hlink)
    split
    · exact hres
    · simp [hres, hname]
  · exact hres

theorem PlainNames.addEntries (h : PlainNames sys) {prep : Str} (hprep : OneLine prep) (nm : Str)
    {ents : List Str} (hents : ∀ ent ∈ ents, OneLine ent) {res : Str} (hres : OneLine res) :
    OneLine (addEntries sys prep nm ents res) := by
  induction ents generalizing res with
  | nil => exact hres
  | cons ent ents ih =>
      obtain ⟨hent, hrest⟩ := List.forall_mem_cons.mp hents
      have hnext : OneLine (res ++ prep ++ ent ++ [' ']) := by simp [hres, hprep, hent]
      unfold LsusbPy.addEntries
      split
      · dsimp only
        split
        · split
          · rename_i names hnames
            have hnames : OneLine names.dropLast :=
              (h.findStorage hnames).of_subset (List.dropLast_subset names)
            exact ih hrest (by simp [hnames, hres, hprep, hent])
          · exact hnext
        · exact ih hrest hnext
      · exact ih hrest hres

theorem PlainNames.addKind (h : PlainNames sys) (usbname : Str) {res : Str} (hres : OneLine res)
    {nm : Str} (hnm : OneLine nm) : OneLine (addKind sys usbname res nm) := by
  unfold LsusbPy.addKind
  dsimp only
  split
  · apply h.addEntries _ _ (h.oneLine _) hres
    have hdir : OneLine (nm.takeWhile (· ≠ '/')) :=
      hnm.of_subset (List.takeWhile_sublist _).subset
    exact oneLine_append.mpr ⟨hdir, by simp⟩
  · exact h.addEntries oneLine_nil _ (h.oneLine _) hres

theorem PlainNames.hidNames (h : PlainNames sys) {names : Str}
    (hnames : hidNames sys path = some names) : OneLine names := by
  unfold LsusbPy.hidNames at hnames
  dsimp only at hnames
  split at hnames
  · obtain rfl := Option.some.inj hnames
    exact oneLine_append.mpr ⟨h.addDrv _ _, h.addDrv _ _⟩
  · obtain ⟨ents, -, hents⟩ := Option.bind_eq_some_iff.mp hnames
    obtain rfl := Option.some.inj hents
    exact oneLine_append.mpr ⟨h.addDrv _ _, oneLine_flatMap fun ent _ => h.addDrv _ _⟩

theorem PlainNames.findDev (h : PlainNames sys) {driver usbname names : Str}
    (hnames : findDev sys driver usbname = some names) : OneLine names := by
  have hkinds : ∀ nm ∈ devlst, OneLine nm := by decide
  have hres : OneLine (devlst.foldl (LsusbPy.addKind sys usbname) []) :=
    List.foldlRecOn devlst (LsusbPy.addKind sys usbname) oneLine_nil
      fun res hres nm hnm => h.addKind usbname hres (hkinds nm hnm)
  unfold LsusbPy.findDev at hnames
  dsimp only at hnames
  split at hnames
  · obtain ⟨ents, -, hents⟩ := Option.bind_eq_some_iff.mp hnames
    obtain ⟨found, hfound, hnames⟩ := Option.bind_eq_some_iff.mp hents
    obtain rfl := Option.some.inj hnames
    rw [← List.flatMap_id]
    refine oneLine_append.mpr ⟨hres, oneLine_flatMap fun names hmem => ?_⟩
    obtain ⟨ent, -, hent⟩ := exists_of_mem_mapM hfound hmem
    exact h.hidNames hent
  · exact Option.some.inj hnames ▸ hres

theorem PlainNames.readDriver (h : PlainNames sys) (path : Str) :
    OneLine (readDriver sys path).1 ∧ OneLine (readDriver sys path).2 := by
  unfold LsusbPy.readDriver
  split
  · exact ⟨oneLine_nil, oneLine_nil⟩
  · rename_i driver hdriver
    obtain ⟨link, hlink, rfl⟩ := Option.map_eq_some_iff.mp hdriver
    exact ⟨oneLine_basename (h.links _ link hlink),
      oneLine_getD (fun names hnames => h.findDev hnames) oneLine_nil⟩

theorem oneLine_nameOf {κ : Type} {names : Dict κ Str} (h : OneLineNames names) (k : κ) {name : Str}
    (hname : nameOf names k = some name) : OneLine name :=
  h k name (Option.filter_eq_some_iff.mp hname).1

theorem OneLineTables.findUsbProd {ids : UsbIds} (h : OneLineTables ids) (vid pid : Int) :
    OneLine (findUsbProd ids vid pid) := by
  unfold LsusbPy.findUsbProd
  split
  · exact oneLine_nil
  · have hvendor := oneLine_nameOf h.usbvendors vid ‹_›
    split
    · exact hvendor
    · exact oneLine_append.mpr
        ⟨hvendor, oneLine_cons.mpr ⟨by decide, oneLine_nameOf h.usbproducts (vid, pid) ‹_›⟩⟩

theorem OneLineTables.findUsbClass {ids : UsbIds} (h : OneLineTables ids) (cid sid pid : Int) :
    OneLine (findUsbClass ids cid sid pid) := by
  apply oneLine_getD _ oneLine_nil
  intro name hname
  simp only [Option.orElse_eq_orElse, Option.orElse_eq_or, Option.or_eq_some_iff] at hname
  rcases hname with hname | ⟨-, hname | ⟨-, hname⟩⟩
  all_goals exact oneLine_nameOf h.usbclasses _ hname

theorem oneLine_hostController {hcd : Str} (hname : OneLine name)
    (h : hostController name = some hcd) : OneLine hcd := by
  simp only [hostController, bind, Option.bind_eq_some_iff] at h
  obtain ⟨rest, hrest, group, hgroup, _, _, _, _, _, _, _, _, _, _, _, _, h⟩ := h
  split at h
  · obtain rfl := Option.some.inj h
    have hsuffix {s t pre : Str} (h : s.dropPrefix? pre = some t) : t ⊆ s := by
      rw [List.dropPrefix?_eq_some_iff] at h
      obtain ⟨front, rfl, -⟩ := h
      exact List.subset_append_right _ _
    apply hname.of_subset
    intro c hc
    have hmem := hsuffix hgroup (List.mem_of_mem_take hc)
    exact hsuffix hrest ((List.dropWhile_sublist _).subset hmem)
  · exact absurd h (by simp)

theorem oneLine_readName (hids : OneLineTables g.ids) (vid pid : Int) :
    OneLine (readName py sys g fname vid pid) := by
  have hprod := hids.findUsbProd vid pid
  have hown : ∀ own, (do
      let manufacturer ← readAttr py sys fname "manufacturer".toList
      let product ← readAttr py sys fname "product".toList
      some (manufacturer ++ ' ' :: product)) = some own → OneLine own := by
    intro own h
    obtain ⟨manufacturer, hmanufacturer, h⟩ := Option.bind_eq_some_iff.mp h
    obtain ⟨product, hproduct, h⟩ := Option.bind_eq_some_iff.mp h
    obtain rfl := Option.some.inj h
    simp [oneLine_readAttr hmanufacturer, oneLine_readAttr hproduct]
  have hname := oneLine_getD hown oneLine_nil
  have hhost := oneLine_getD (fun _ => oneLine_hostController hname) hname
  have hshown (own : Str) (hown : OneLine own) :
      OneLine (if own = [] then findUsbProd g.ids vid pid else own) := oneLine_ite _ hprod hown
  exact oneLine_ite _ (oneLine_ite _ (hshown _ hhost) hprod) (hshown _ hhost)

theorem oneLine_readSerial : OneLine (readSerial py sys fname) := by
  unfold readSerial
  split
  · exact oneLine_nil
  · split
    · exact oneLine_cons.mpr ⟨by decide, oneLine_readAttr ‹_›⟩
    · exact oneLine_nil

theorem oneLine_cols (usecols : Bool) (num : Fin 6) : OneLine (cols usecols num) := by
  cases usecols with
  | false => exact oneLine_nil
  | true =>
      revert num
      decide

theorem OneLine.colorize {text : Str} (h : OneLine text) (g : Globals) (num : Fin 6) :
    OneLine (colorize g num text) := by
  simp [LsusbPy.colorize, oneLine_cols, h]

theorem plural_ne (n : Int) : '\n' ≠ plural n := by
  unfold plural
  split <;> decide

theorem UsbInterface.oneLine_body {iface : UsbInterface} (hprotoname : OneLine iface.protoname)
    (hdriver : OneLine iface.driver) (hdevname : OneLine iface.devname) :
    OneLine (iface.body g) := by
  have hdriver := OneLine.colorize hdriver g 3
  have hdevname := OneLine.colorize hdevname g 4
  unfold UsbInterface.body
  simp +decide only [oneLine_append, oneLine_cons, oneLine_hexFormat, oneLine_decimalFormat, ne_eq,
    plural_ne, hprotoname, hdriver, hdevname]

theorem UsbInterface.oneLine_read (hplain : PlainNames sys) (hids : OneLineTables g.ids)
    {parent : Str} {iface : UsbInterface}
    (h : UsbInterface.read py sys g parent fname level = some iface) : OneLine (iface.body g) := by
  simp only [UsbInterface.read, bind, Option.bind_eq_some_iff, Option.some.injEq] at h
  obtain ⟨iclass, -, isclass, -, iproto, -, noep, -, eps, -, rfl⟩ := h
  obtain ⟨hdriver, hdevname⟩ := hplain.readDriver (parent ++ '/' :: fname)
  exact UsbInterface.oneLine_body (hids.findUsbClass _ _ _) hdriver hdevname

theorem UsbDevice.oneLine_body {dev : UsbDevice} (hname : OneLine dev.name)
    (husbver : OneLine dev.usbver) (hspeed : OneLine dev.speed) (hmaxpower : OneLine dev.maxpower)
    (hwakeup : OneLine dev.wakeup) : OneLine (dev.body py g) := by
  have hpower : OneLine (if dev.wakeup = [] then []
      else ",  power wakeup: ".toList ++ dev.wakeup) :=
    oneLine_ite _ oneLine_nil (oneLine_append.mpr ⟨by decide, hwakeup⟩)
  have hhub : OneLine (if dev.isHub then LsusbPy.colorize g 2 " hub".toList else []) :=
    oneLine_ite _ (OneLine.colorize (by decide) g 2) oneLine_nil
  have hid : OneLine (hexFormat 4 dev.vid ++ ':' :: hexFormat 4 dev.pid) := by simp
  have hid := OneLine.colorize hid g 1
  have hname := OneLine.colorize hname g (if dev.isHub then 2 else 1)
  have husbver := husbver.strip py.toUnicode
  have hspeed := hspeed.rjust 5
  have hmaxpower := hmaxpower.rjust 5
  unfold UsbDevice.body
  simp +decide only [oneLine_append, oneLine_cons, oneLine_hexFormat, oneLine_decimalFormat, ne_eq,
    plural_ne, hid, husbver, hspeed, hmaxpower, hpower, hname, hhub]

theorem UsbDevice.oneLine_read (hids : OneLineTables g.ids) {dev : UsbDevice}
    (h : UsbDevice.read py sys g fname level = some dev) : OneLine (dev.body py g) := by
  simp only [UsbDevice.read, bind, Option.bind_eq_some_iff, Option.some.injEq] at h
  obtain ⟨iclass, -, isclass, -, iproto, -, vid, -, pid, -, usbver, husbver, speed, hspeed,
    maxpower, hmaxpower, noports, -, rfl⟩ := h
  apply UsbDevice.oneLine_body _ (oneLine_readAttr husbver) (oneLine_readAttr hspeed)
    (oneLine_readAttr hmaxpower)
  · exact oneLine_ite _ (oneLine_getD (fun _ => oneLine_readAttr) (by decide)) oneLine_nil
  · exact oneLine_append.mpr ⟨oneLine_readName hids vid pid, oneLine_readSerial⟩

end Fields

end Usbutils.LsusbPy
