import Usbutils.Lib.LittleEndian
import Usbutils.Lsusb.DumpConfig

/-! The interfaces that `usbhid-dump` works with: `iface_list.c` and the parts of `iface.c`
that build one. The report descriptor length is looked up at the start of the extra bytes
only; `lsusb` goes through all of them. -/
namespace Usbutils
open ByteProg

def uhdMaxDescriptorSize : Nat := 4096

def libusbErrorNoMem : Int := -11

structure UhdDev where
  handle : Nat
  activeConfig : Except Int ConfigDescriptor

/-- A pointer to an interface is the number of those allocated before it. -/
structure UhdIface where
  pointer : Nat
  dev : Nat
  number : Nat
  intInEpAddr : Nat
  intInEpMaxp : Nat
  rdLen : Nat
  detached : Bool := false
  claimed : Bool := false
  submitted : Bool := false
  deriving DecidableEq, Repr

def uhdIfaceNew (malloc : Nat → Bool) (pointer dev number intInEpAddr intInEpMaxp rdLen : Nat) :
    Option UhdIface :=
  if malloc pointer then some { pointer, dev, number, intInEpAddr, intInEpMaxp, rdLen } else none

section New

variable (m : Memory)

/-- The loop over the entries of a HID descriptor that ends at `hidEnd`, in extra bytes that
end at `extraEnd`. -/
def reportLength (hidEnd extraEnd : Nat) : Nat → Nat → Nat
  | 0, _ => uhdMaxDescriptorSize
  | count + 1, entry =>
      if entry + 3 ≤ hidEnd ∧ entry + 3 ≤ extraEnd then
        if (m entry).toNat = libusbDtReport then leValue m (entry + 1) 2
        else reportLength hidEnd extraEnd count (entry + 3)
      else uhdMaxDescriptorSize

/-- Try to retrieve report descriptor length; the structure has 9 bytes with one entry. -/
def rdLen (extra : Extra) : Nat :=
  if 9 ≤ extra.extraLength then
    let hid := extra.extra
    if (m (hid + 1)).toNat = libusbDtHid then
      reportLength m (hid + (m hid).toNat) (extra.extra + extra.extraLength) (m (hid + 5)).toNat
        (hid + 6)
    else uhdMaxDescriptorSize
  else uhdMaxDescriptorSize

def EndpointDescriptor.isInterruptIn (ep : EndpointDescriptor) : Bool :=
  ep.bmAttributes &&& 0x03 == 0x03 && ep.bEndpointAddress &&& 0x80 == 0x80

def matching (lusbIface : Interface) : Option (InterfaceDescriptor × EndpointDescriptor) :=
  match lusbIface.altsetting with
  | [ifaceDesc] =>
      if ifaceDesc.bInterfaceClass ≠ libusbClassHid then none
      -- 0xff is the wildcard
      else if ifaceDesc.bInterfaceNumber = 0xff then none
      else (ifaceDesc.endpoint.find? EndpointDescriptor.isInterruptIn).map fun ep => (ifaceDesc, ep)
  | _ => none

variable (malloc : Nat → Bool)

def ifaceLoop (dev : Nat) : List Interface → List UhdIface → Except Int (List UhdIface)
  | [], list => .ok list
  | lusbIface :: rest, list =>
      match matching lusbIface with
      | none => ifaceLoop dev rest list
      | some (ifaceDesc, ep) =>
          match uhdIfaceNew malloc list.length dev ifaceDesc.bInterfaceNumber ep.bEndpointAddress
            ep.wMaxPacketSize (rdLen m ifaceDesc.extra) with
          | none => .error libusbErrorNoMem
          | some iface => ifaceLoop dev rest (iface :: list)

/-- The loop over the devices; the first error ends it, and the list is freed. -/
def devLoop : List UhdDev → List UhdIface → Except Int (List UhdIface)
  | [], list => .ok list
  | dev :: rest, list => do
      let config ← dev.activeConfig
      devLoop rest (← ifaceLoop m malloc dev.handle config.interface list)

def uhdIfaceListNew (devList : List UhdDev) : Except Int (List UhdIface) :=
  devLoop m malloc devList []

end New

/-- The loop of `uhd_iface_list_fltr_by_num`, with the interfaces up to `prev`. -/
def fltrLoop (number : Nat) : List UhdIface → List UhdIface → List UhdIface
  | kept, [] => kept
  | kept, iface :: next =>
      if iface.number = number then fltrLoop number (kept ++ [iface]) next
      else fltrLoop number kept next

def uhdIfaceListFltrByNum (list : List UhdIface) (number : Nat) : List UhdIface :=
  fltrLoop number [] list

section List

variable {m : Memory} {malloc : Nat → Bool}

def ifaceOf (m : Memory) (pointer dev : Nat) (found : InterfaceDescriptor × EndpointDescriptor) :
    UhdIface where
  pointer := pointer
  dev := dev
  number := found.1.bInterfaceNumber
  intInEpAddr := found.2.bEndpointAddress
  intInEpMaxp := found.2.wMaxPacketSize
  rdLen := rdLen m found.1.extra

/-- The pointers count up towards the front, and nothing has been done with an interface. -/
structure Built (list : List UhdIface) : Prop where
  numbered : list.map UhdIface.pointer = (List.range list.length).reverse
  fresh : ∀ iface ∈ list,
    iface.detached = false ∧ iface.claimed = false ∧ iface.submitted = false

theorem built_nil : Built [] := ⟨rfl, nofun⟩

theorem built_cons {list : List UhdIface} (h : Built list) (dev : Nat)
    (found : InterfaceDescriptor × EndpointDescriptor) :
    Built (ifaceOf m list.length dev found :: list) where
  numbered := by
    rw [List.map_cons, h.numbered, List.length_cons, List.range_succ, List.reverse_append]
    rfl
  fresh := List.forall_mem_cons.mpr ⟨⟨rfl, rfl, rfl⟩, h.fresh⟩

theorem Built.nodup {list : List UhdIface} (h : Built list) :
    (list.map UhdIface.pointer).Nodup := by
  rw [h.numbered]
  exact List.pairwise_reverse.mpr (List.nodup_range.imp Ne.symm)

theorem ifaceLoop_ok {dev : Nat} {ifaces : List Interface} {list result : List UhdIface}
    (h : ifaceLoop m malloc dev ifaces list = .ok result) (hlist : Built list) :
    Built result ∧ list <:+ result ∧ ∀ lusbIface ∈ ifaces, ∀ found ∈ matching lusbIface,
      ∃ iface ∈ result, iface = ifaceOf m iface.pointer dev found := by
  induction ifaces generalizing list with
  | nil =>
      cases h
      exact ⟨hlist, List.suffix_rfl, nofun⟩
  | cons lusbIface rest ih =>
      rw [ifaceLoop] at h
      split at h
      · next hskip =>
          obtain ⟨hbuilt, hsuffix, hadded⟩ := ih h hlist
          refine ⟨hbuilt, hsuffix, List.forall_mem_cons.mpr ⟨?_, hadded⟩⟩
          rw [hskip]
          nofun
      · next ifaceDesc ep hfound =>
          split at h
          · cases h
          · next iface hnew =>
              obtain rfl : ifaceOf m list.length dev (ifaceDesc, ep) = iface :=
                Option.some.inj (Option.ite_none_right_eq_some.mp hnew).2
              obtain ⟨hbuilt, hsuffix, hadded⟩ := ih h (built_cons hlist dev (ifaceDesc, ep))
              refine ⟨hbuilt, (List.suffix_cons _ list).trans hsuffix,
                List.forall_mem_cons.mpr ⟨?_, hadded⟩⟩
              intro found hmem
              obtain rfl := Option.some.inj (hfound.symm.trans hmem)
              exact ⟨_, hsuffix.subset List.mem_cons_self, rfl⟩

theorem exists_of_bind_ok {ε α β : Type} {x : Except ε α} {f : α → Except ε β} {b : β}
    (h : x >>= f = .ok b) : ∃ a, x = .ok a ∧ f a = .ok b := by
  cases x with
  | error e => cases h
  | ok a => exact ⟨a, rfl, h⟩

theorem devLoop_ok {devs : List UhdDev} {list result : List UhdIface}
    (h : devLoop m malloc devs list = .ok result) (hlist : Built list) :
    Built result ∧ list <:+ result ∧ ∀ dev ∈ devs, ∀ config, dev.activeConfig = .ok config →
      ∀ lusbIface ∈ config.interface, ∀ found ∈ matching lusbIface,
        ∃ iface ∈ result, iface = ifaceOf m iface.pointer dev.handle found := by
  induction devs generalizing list with
  | nil =>
      cases h
      exact ⟨hlist, List.suffix_rfl, nofun⟩
  | cons dev rest ih =>
      obtain ⟨config, hconfig, h⟩ := exists_of_bind_ok h
      obtain ⟨middle, hloop, h⟩ := exists_of_bind_ok h
      obtain ⟨hmiddle, hfirst, hadded⟩ := ifaceLoop_ok hloop hlist
      obtain ⟨hresult, hsecond, hrest⟩ := ih h hmiddle
      refine ⟨hresult, hfirst.trans hsecond, List.forall_mem_cons.mpr ⟨?_, hrest⟩⟩
      intro config' hconfig' lusbIface hiface found hfound
      obtain rfl := Except.ok.inj (hconfig.symm.trans hconfig')
      obtain ⟨iface, hmem, heq⟩ := hadded lusbIface hiface found hfound
      exact ⟨iface, hsecond.subset hmem, heq⟩

theorem mem_uhdIfaceListNew {devs : List UhdDev} {list : List UhdIface}
    (h : uhdIfaceListNew m malloc devs = .ok list) {dev : UhdDev} (hdev : dev ∈ devs)
    {config : ConfigDescriptor} (hconfig : dev.activeConfig = .ok config) {lusbIface : Interface}
    (hiface : lusbIface ∈ config.interface) {found : InterfaceDescriptor × EndpointDescriptor}
    (hfound : matching lusbIface = some found) :
    ∃ iface ∈ list, iface = ifaceOf m iface.pointer dev.handle found :=
  (devLoop_ok h built_nil).2.2 dev hdev config hconfig lusbIface hiface found hfound

theorem uhdIfaceListNew_built {devs : List UhdDev} {list : List UhdIface}
    (h : uhdIfaceListNew m malloc devs = .ok list) : Built list :=
  (devLoop_ok h built_nil).1

theorem uhdIfaceListFltrByNum_eq (list : List UhdIface) (number : Nat) :
    uhdIfaceListFltrByNum list number = list.filter fun iface => iface.number = number := by
  have hloop : ∀ kept, fltrLoop number kept list =
      kept ++ list.filter fun iface => iface.number = number := by
    induction list with
    | nil => simp [fltrLoop]
    | cons iface next ih =>
        intro kept
        rw [fltrLoop, List.filter_cons]
        split <;> simp_all
  exact hloop []

end List

end Usbutils
