import Usbutils.Tree.Devices

/-! `get_sysfs_name` of `sysfs.c` writes the name that `lsusb-t.c` takes apart. -/
namespace Usbutils

/-- What libusb tells of a device: its bus and the ports on the way to it, or `none` where
`libusb_get_port_numbers` has too little room for them. -/
structure LibusbDevice where
  busNumber : Nat
  portNumbers : Option (List Nat)

/-- `buf` after `snprintf(buf + len, size - len, "%s", text)`, for `len` characters in it. -/
def snprintfAt (size : Nat) (buf text : Name) : Name := buf ++ text.take (size - buf.length - 1)

def toInt (n : Nat) : Int := Int.bmod n (2 ^ 32)

/-- The loop over `pnums`, from index `i` on: `len` and the buffer. -/
def appendPorts (size i : Nat) (buf : Name) : List Nat → Int × Name
  | [] => (buf.length, buf)
  | p :: rest =>
      let text := if i ≠ 0 then '.' :: decimal p else decimal p
      if text.length ≥ toInt (size - buf.length) then (buf.length, snprintfAt size buf text)
      else appendPorts size (i + 1) (buf ++ text) rest

def getSysfsName (size : Nat) (dev : LibusbDevice) : Int × Name :=
  match dev.portNumbers with
  | none => (-1, [])
  | some [] =>
      let text := "usb".toList ++ decimal dev.busNumber
      (text.length, snprintfAt size [] text)
  | some ports =>
      let text := decimal dev.busNumber ++ ['-']
      if text.length ≥ size then (-1, snprintfAt size [] text) else appendPorts size 0 text ports

variable {size bus p : Nat} {ports : List Nat} {buf : Name}

def dottedPorts (ports : List Nat) : Name := ports.flatMap fun p => '.' :: decimal p

theorem portPath_eq (p : Nat) (rest : List Nat) :
    portPath (p :: rest) = decimal p ++ dottedPorts rest := by
  induction rest generalizing p with
  | nil => simp [portPath, dottedPorts]
  | cons q rest ih =>
      rw [portPath_cons (by simp), ih]
      simp [dottedPorts]

theorem toInt_eq {n : Nat} (h : n < 2 ^ 31) : toInt n = n := by
  apply Int.bmod_eq_of_le <;> omega

theorem appendPorts_dotted {i : Nat} (hi : i ≠ 0) (hsize : size < 2 ^ 31)
    (hroom : (buf ++ dottedPorts ports).length < size) :
    appendPorts size i buf ports =
      (((buf ++ dottedPorts ports).length : Int), buf ++ dottedPorts ports) := by
  induction ports generalizing i buf with
  | nil => simp [appendPorts, dottedPorts]
  | cons p rest ih =>
      have hsplit : buf ++ dottedPorts (p :: rest) =
          (buf ++ '.' :: decimal p) ++ dottedPorts rest := by
        simp [dottedPorts]
      rw [hsplit] at hroom ⊢
      have hfits : ¬(('.' :: decimal p).length : Int) ≥ toInt (size - buf.length) := by
        rw [toInt_eq (by omega)]
        simp only [List.length_append] at hroom
        omega
      rw [appendPorts, if_pos hi, if_neg hfits]
      exact ih (Nat.succ_ne_zero i) hroom

theorem getSysfsName_ports (hne : ports ≠ []) (hsize : size < 2 ^ 31)
    (hroom : (deviceName bus ports).length < size) :
    getSysfsName size ⟨bus, some ports⟩ =
      (((deviceName bus ports).length : Int), deviceName bus ports) := by
  obtain ⟨p, rest, rfl⟩ := List.exists_cons_of_ne_nil hne
  have hname : deviceName bus (p :: rest) =
      (decimal bus ++ ['-'] ++ decimal p) ++ dottedPorts rest := by
    simp [deviceName, portPath_eq]
  rw [hname] at hroom ⊢
  simp only [List.length_append, List.length_singleton] at hroom
  have hfits : ¬((decimal p).length : Int) ≥ toInt (size - (decimal bus ++ ['-']).length) := by
    rw [toInt_eq (by omega)]
    simp only [List.length_append, List.length_singleton]
    omega
  rw [getSysfsName]
  dsimp only
  have hfirst : (if 0 ≠ 0 then '.' :: decimal p else decimal p) = decimal p := if_neg (by simp)
  rw [if_neg (by simp; omega), appendPorts]
  simp only [hfirst]
  rw [if_neg hfits]
  apply appendPorts_dotted (by simp) hsize
  simp only [List.length_append, List.length_singleton]
  exact hroom

theorem getSysfsName_root (hroom : (SysfsEntry.rootHub bus).name.length < size) :
    (getSysfsName size ⟨bus, some []⟩).2 = (SysfsEntry.rootHub bus).name := by
  have htext : "usb".toList ++ decimal bus = (SysfsEntry.rootHub bus).name := rfl
  have hfits : (SysfsEntry.rootHub bus).name.take (size - 0 - 1) = (SysfsEntry.rootHub bus).name :=
    List.take_of_length_le (by omega)
  rw [getSysfsName, htext]
  exact hfits

theorem lastPorts_eq (hne : ports ≠ []) :
    lastPorts ports = (ports.dropLast.getLastD 0, ports.getLast hne) := by
  have hlast : ∀ ports, (lastPorts ports).2 = ports.getLastD 0 := by
    intro ports
    rcases List.eq_nil_or_concat' ports with rfl | ⟨init, p, rfl⟩
    · rfl
    · simp [lastPorts]
  obtain ⟨init, p, rfl⟩ := (List.eq_nil_or_concat' ports).resolve_left hne
  have hstep : lastPorts (init ++ [p]) = ((lastPorts init).2, p) := by simp [lastPorts]
  rw [hstep, hlast]
  simp

structure IsPortPath (ports : List Nat) : Prop where
  nonempty : ports ≠ []
  depth : ports.length ≤ 7
  ports : ∀ p ∈ ports, 1 ≤ p ∧ p ≤ 255

theorem decimal_length {n : Nat} (h : n ≤ 255) : (decimal n).length ≤ 3 :=
  (Nat.length_toDigits_le_iff (by decide) (by decide)).mpr (by omega)

theorem dottedPorts_length (h : ∀ p ∈ ports, p ≤ 255) :
    (dottedPorts ports).length ≤ 4 * ports.length := by
  induction ports with
  | nil => exact Nat.le_refl _
  | cons p rest ih =>
      have hp := decimal_length (h p (List.mem_cons_self ..))
      have hrest := ih fun q hq => h q (List.mem_cons_of_mem p hq)
      have hsplit : dottedPorts (p :: rest) = '.' :: (decimal p ++ dottedPorts rest) := by
        simp [dottedPorts]
      rw [hsplit]
      simp only [List.length_cons, List.length_append]
      omega

theorem deviceName_length (hbus : bus ≤ 255) (hports : IsPortPath ports) :
    (deviceName bus ports).length < 255 := by
  obtain ⟨hne, hdepth, hrange⟩ := hports
  obtain ⟨p, rest, rfl⟩ := List.exists_cons_of_ne_nil hne
  have hb := decimal_length hbus
  have hp := decimal_length (hrange p (List.mem_cons_self ..)).2
  have hrest := @dottedPorts_length rest fun q hq => (hrange q (List.mem_cons_of_mem p hq)).2
  simp only [deviceName, portPath_eq, List.length_append, List.length_cons] at hdepth ⊢
  omega

/-- What `get_sysfs_name` writes is read back: `add_usb_device` finds the bus and the last
two ports in it, cut at its last dot it is the name of the hub, no other device has it and
no root hub either. -/
theorem getSysfsName_readBack (env : SysfsEnv) (st : State) (hbus : bus ≤ 255)
    (hports : IsPortPath ports) (hsize : size < 2 ^ 31)
    (hroom : (deviceName bus ports).length < size) :
    (∃ d, addUsbDevice env (getSysfsName size ⟨bus, some ports⟩).2 st =
        some { st with devices := st.devices ++ [d] } ∧
      d.busnum = bus ∧ d.portnum = ports.getLast hports.nonempty ∧
        d.parentPortnum = ports.dropLast.getLastD 0) ∧
    (2 ≤ ports.length → beforeLast '.' (getSysfsName size ⟨bus, some ports⟩).2 =
      some (getSysfsName size ⟨bus, some ports.dropLast⟩).2) ∧
    (∀ bus' ports' size', bus' ≤ 255 → IsPortPath ports' → size' < 2 ^ 31 →
      (deviceName bus' ports').length < size' →
      (getSysfsName size ⟨bus, some ports⟩).2 = (getSysfsName size' ⟨bus', some ports'⟩).2 →
        bus = bus' ∧ ports = ports') ∧
    ∀ bus' size', (SysfsEntry.rootHub bus').name.length < size' →
      (getSysfsName size ⟨bus, some ports⟩).2 ≠ (getSysfsName size' ⟨bus', some []⟩).2 := by
  have hne := hports.nonempty
  have hname := getSysfsName_ports hne hsize hroom
  refine ⟨?_, ?_, ?_, ?_⟩
  · have hadd := @addUsbDevice_deviceName env st bus ports (deviceName_length hbus hports)
      (by omega) hne fun p hp => Nat.lt_of_le_of_lt (hports.ports p hp).2 (by decide)
    refine ⟨UsbDevice.read env (deviceName bus ports) bus (lastPorts ports).1 (lastPorts ports).2,
      ?_, ?_, ?_, ?_⟩
    · rw [hname, hadd]
      simp [State.add, busOf, deviceOf, interfaceOf]
    · exact Nat.mod_eq_of_lt (by omega)
    · simp [UsbDevice.read, lastPorts_eq hne]
    · simp [UsbDevice.read, lastPorts_eq hne]
  · intro htwo
    obtain ⟨init, p, rfl⟩ := (List.eq_nil_or_concat' ports).resolve_left hne
    have hinit : init ≠ [] := by
      rintro rfl
      simp at htwo
    have hhub : (deviceName bus init).length < size := by
      refine Nat.lt_of_le_of_lt ?_ hroom
      simp [deviceName, portPath_concat hinit]
    rw [hname, List.dropLast_concat, getSysfsName_ports hinit hsize hhub]
    exact beforeLast_deviceName bus hinit p
  · intro bus' ports' size' _ hports' hsize' hroom' heq
    rw [hname, getSysfsName_ports hports'.nonempty hsize' hroom'] at heq
    exact deviceName_inj hne hports'.nonempty heq
  · intro bus' size' hroom' heq
    rw [hname, getSysfsName_root hroom'] at heq
    obtain ⟨c, digits, hdecimal⟩ := List.exists_cons_of_ne_nil (decimal_ne_nil bus)
    have hc : c.isDigit = true := isDigit_of_mem_decimal (by rw [hdecimal]; simp)
    have hu : c = 'u' := by
      have hhead := congrArg List.head? heq
      rw [deviceName, hdecimal] at hhead
      exact Option.some.inj hhead
    rw [hu] at hc
    cases hc

theorem getSysfsName_readBack_hub : ∃ d,
    addUsbDevice default (getSysfsName 4096 ⟨1, some [2, 3]⟩).2 .initial =
      some { State.initial with devices := [d] } ∧
    d.busnum = 1 ∧ d.portnum = 3 ∧ d.parentPortnum = 2 :=
  (getSysfsName_readBack default .initial (by decide) ⟨by decide, by decide, by decide⟩ (by decide)
    (by decide)).1

end Usbutils
