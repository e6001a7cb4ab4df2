import Usbutils.Lsusb.DumpConfig

/-! Whether the extra descriptors of a configuration are all displayed. The comment at
each of the three loops promises to avoid `hiding descriptors for display`. -/
namespace Usbutils
open ByteProg

/-- The descriptors at these addresses are visited in this order, and each that is
not of the OTG type is shown by a line at least. -/
def Shows (m : Memory) (acts : List WalkEffect) (addresses : List Nat) : Prop :=
  (tally acts).map Prod.fst = addresses ∧
    ∀ entry ∈ tally acts, (m (entry.1 + 1)).toNat ≠ usbDtOtg → 0 < entry.2

def InterfaceDescriptor.WellFormed (m : Memory) (interface : InterfaceDescriptor) : Prop :=
  interface.extra.WellFormed m ∧ ∀ endpoint ∈ interface.endpoint, endpoint.extra.WellFormed m

def ConfigDescriptor.WellFormed (m : Memory) (config : ConfigDescriptor) : Prop :=
  config.extra.WellFormed m ∧
    ∀ interface ∈ config.interface, ∀ alt ∈ interface.altsetting, alt.WellFormed m

def EndpointShown (m : Memory) (interface : InterfaceDescriptor) (endpoint : EndpointDescriptor) :
    Prop :=
  ∀ a ∈ descriptors m endpoint.extra, ¬HiddenInEndpoint interface (m (a + 1)).toNat

def AltsettingShown (m : Memory) (interface : InterfaceDescriptor) : Prop :=
  (∀ a ∈ descriptors m interface.extra, ¬HiddenInAltsetting interface (m (a + 1)).toNat) ∧
    ∀ endpoint ∈ interface.endpoint, EndpointShown m interface endpoint

def ConfigShown (m : Memory) (config : ConfigDescriptor) : Prop :=
  ∀ interface ∈ config.interface, ∀ alt ∈ interface.altsetting, AltsettingShown m alt

variable {env : Env} {m : Memory} {interface : InterfaceDescriptor} {endpoint : EndpointDescriptor}
  {config : ConfigDescriptor} {speed : Nat}

/-- What a loop shows depends on the types that its decoders print nothing for. -/
theorem lines_pos_of {decoder : Decoder} {Hidden : Nat → Prop}
    (hnone : ∀ buf type, decoder buf type = none → type = usbDtOtg)
    (hsome : ∀ buf type dump, decoder buf type = some dump → (PrintsLine dump m ↔ ¬Hidden type))
    (hotg : ¬Hidden usbDtOtg) (a : Nat) :
    ((m (a + 1)).toNat ≠ usbDtOtg → 0 < decoder.lines m a) ↔ ¬Hidden (m (a + 1)).toNat := by
  rw [lines_pos_iff]
  cases hdump : decoder.at m a with
  | none =>
      have htype := hnone _ _ hdump
      simp [htype, hotg]
  | some dump =>
      simp only [Option.some.injEq, exists_eq_left', hsome _ _ dump hdump]
      constructor
      · intro h hidden
        refine h (fun htype => hotg ?_) hidden
        rwa [htype] at hidden
      · exact fun h _ => h

theorem tally_dumpEndpoint (h : endpoint.extra.WellFormed m) :
    tally ((dumpEndpoint env interface endpoint).acts m) =
      (descriptors m endpoint.extra).map fun a =>
        (a, (endpointDecoder env interface endpoint).lines m a) := by
  rw [acts_dumpEndpoint, tally_shown, tally_walkExtra endpointDecoder_returns h]

theorem closed_dumpEndpoint : Closed ((dumpEndpoint env interface endpoint).acts m) := by
  rw [acts_dumpEndpoint]
  exact (closed_shown _).append (closed_walkExtra endpointDecoder_returns)

theorem tally_dumpAltsetting (h : interface.extra.WellFormed m) :
    tally ((dumpAltsetting env interface).acts m) =
      ((descriptors m interface.extra).map fun a =>
          (a, (altsettingDecoder env interface).lines m a)) ++
        interface.endpoint.flatMap fun endpoint =>
          tally ((dumpEndpoint env interface endpoint).acts m) := by
  rw [acts_dumpAltsetting, tally_shown, closed_walkExtra altsettingDecoder_returns,
    tally_walkExtra altsettingDecoder_returns h, tally_flatMap _ fun _ => closed_dumpEndpoint]

theorem closed_dumpAltsetting : Closed ((dumpAltsetting env interface).acts m) := by
  rw [acts_dumpAltsetting]
  exact (closed_shown _).append <| (closed_walkExtra altsettingDecoder_returns).append <|
    closed_flatMap _ fun _ => closed_dumpEndpoint

theorem tally_dumpConfig (h : config.extra.WellFormed m) :
    tally ((dumpConfig env config speed).acts m) =
      ((descriptors m config.extra).map fun a => (a, (configDecoder env).lines m a)) ++
        config.interface.flatMap fun interface => interface.altsetting.flatMap fun alt =>
          tally ((dumpAltsetting env alt).acts m) := by
  have hinterface : ∀ interface : Interface, Closed ((dumpInterface env interface).acts m) := by
    intro interface
    rw [acts_dumpInterface]
    exact closed_flatMap _ fun _ => closed_dumpAltsetting
  rw [acts_dumpConfig, tally_shown, closed_walkExtra configDecoder_returns,
    tally_walkExtra configDecoder_returns h, tally_flatMap _ hinterface]
  simp only [acts_dumpInterface, tally_flatMap _ fun _ => closed_dumpAltsetting]

def AllLines (m : Memory) (acts : List WalkEffect) : Prop :=
  ∀ entry ∈ tally acts, (m (entry.1 + 1)).toNat ≠ usbDtOtg → 0 < entry.2

theorem dumpEndpoint_allLines_iff (h : endpoint.extra.WellFormed m) :
    AllLines m ((dumpEndpoint env interface endpoint).acts m) ↔
      EndpointShown m interface endpoint := by
  have hlines := @lines_pos_of m (endpointDecoder env interface endpoint)
    (HiddenInEndpoint interface) (fun _ _ h => endpointDecoder_eq_none.mp h)
    (fun _ _ _ h => endpointDecoder_printsLine_iff h) (fun h => absurd h.1 (by decide))
  simp only [AllLines, tally_dumpEndpoint h, List.forall_mem_map, hlines, EndpointShown]

theorem dumpAltsetting_allLines_iff (h : interface.WellFormed m) :
    AllLines m ((dumpAltsetting env interface).acts m) ↔ AltsettingShown m interface := by
  have hotg : ¬(usbDtOtg = usbDtCsDevice ∨ usbDtOtg = usbDtCsInterface) := by decide
  have hlines := @lines_pos_of m (altsettingDecoder env interface) (HiddenInAltsetting interface)
    (fun _ _ h => (altsettingDecoder_eq_none.mp h).1)
    (fun _ _ _ h => altsettingDecoder_printsLine_iff h) (fun h => hotg h.1)
  simp only [AllLines, tally_dumpAltsetting h.1, List.forall_mem_append, List.forall_mem_map,
    hlines, List.forall_mem_flatMap, AltsettingShown]
  refine and_congr_right fun _ => forall₂_congr fun endpoint hendpoint => ?_
  exact dumpEndpoint_allLines_iff (h.2 endpoint hendpoint)

theorem dumpConfig_allLines_iff (h : config.WellFormed m) :
    AllLines m ((dumpConfig env config speed).acts m) ↔ ConfigShown m config := by
  have hlines := @lines_pos_of m (configDecoder env) (fun _ => False)
    (fun _ _ h => configDecoder_eq_none.mp h)
    (fun _ _ _ h => iff_of_true (configDecoder_printsLine h) not_false) not_false
  simp only [AllLines, tally_dumpConfig h.1, List.forall_mem_append, List.forall_mem_map,
    hlines, List.forall_mem_flatMap, not_false_eq_true, implies_true, true_and, ConfigShown]
  refine forall₂_congr fun interface hinterface => forall₂_congr fun alt halt => ?_
  exact dumpAltsetting_allLines_iff (h.2 interface hinterface alt halt)

/-- The three functions show every descriptor of their strings exactly where no
class specific descriptor meets an interface that they print nothing for. -/
theorem extra_descriptors_shown_iff (env : Env) (m : Memory) :
    (∀ interface endpoint, endpoint.extra.WellFormed m →
      (Shows m ((dumpEndpoint env interface endpoint).acts m) (descriptors m endpoint.extra) ↔
        EndpointShown m interface endpoint)) ∧
    (∀ interface : InterfaceDescriptor, interface.WellFormed m →
      (Shows m ((dumpAltsetting env interface).acts m) (altsettingDescriptors m interface) ↔
        AltsettingShown m interface)) ∧
    ∀ config speed, config.WellFormed m →
      (Shows m ((dumpConfig env config speed).acts m) (configDescriptors m config) ↔
        ConfigShown m config) := by
  refine ⟨fun interface endpoint h => ?_, fun interface h => ?_, fun config speed h => ?_⟩
  · rw [Shows, tally_fst, visits_dumpEndpoint, eq_self, true_and]
    exact dumpEndpoint_allLines_iff h
  · rw [Shows, tally_fst, visits_dumpAltsetting, eq_self, true_and]
    exact dumpAltsetting_allLines_iff h
  · rw [Shows, tally_fst, visits_dumpConfig, eq_self, true_and]
    exact dumpConfig_allLines_iff h

def taggedBytes : Memory := fun a => ([0, 3, 0x24, 0] : List UInt8).getD a 0

def taggedEndpointBytes : Memory := fun a => ([0, 3, 0x25, 0] : List UInt8).getD a 0

def threeBytes : Extra := ⟨1, 3, by decide⟩

def printerWith (bInterfaceProtocol : Nat) : InterfaceDescriptor :=
  { (default : InterfaceDescriptor) with
    bInterfaceClass := libusbClassPrinter, bInterfaceProtocol, extra := threeBytes }

theorem printerWith_wellFormed (bInterfaceProtocol : Nat) :
    (printerWith bInterfaceProtocol).WellFormed taggedBytes := by
  have hextra : threeBytes.WellFormed taggedBytes :=
    ⟨[1], ⟨rfl, by decide, by decide, trivial⟩, by decide⟩
  exact ⟨hextra, fun _ h => nomatch h⟩

theorem ipp_printer_shown :
    Shows taggedBytes ((dumpAltsetting default (printerWith 4)).acts taggedBytes)
      (altsettingDescriptors taggedBytes (printerWith 4)) :=
  ((extra_descriptors_shown_iff default taggedBytes).2.1 (printerWith 4)
    (printerWith_wellFormed 4)).mpr ⟨by decide, fun _ h => nomatch h⟩

/-- A printer that is not IPP-over-USB has its descriptor hidden, and so has the
endpoint of an interface without class. -/
theorem extra_descriptors_hidden :
    (¬∀ (env : Env) (m : Memory) (interface : InterfaceDescriptor), interface.WellFormed m →
      Shows m ((dumpAltsetting env interface).acts m) (altsettingDescriptors m interface)) ∧
    ¬∀ (env : Env) (m : Memory) (interface : InterfaceDescriptor) (endpoint : EndpointDescriptor),
      endpoint.extra.WellFormed m →
      Shows m ((dumpEndpoint env interface endpoint).acts m) (descriptors m endpoint.extra) := by
  constructor
  · intro h
    have hshows := h default taggedBytes (printerWith 2) (printerWith_wellFormed 2)
    have hshown := (dumpAltsetting_allLines_iff (printerWith_wellFormed 2)).mp hshows.2
    exact hshown.1 1 (by decide) (by decide)
  · intro h
    have hwell : threeBytes.WellFormed taggedEndpointBytes :=
      ⟨[1], ⟨rfl, by decide, by decide, trivial⟩, by decide⟩
    have hshows := h default taggedEndpointBytes default
      { (default : EndpointDescriptor) with extra := threeBytes } hwell
    exact (dumpEndpoint_allLines_iff hwell).mp hshows.2 1 (by decide) (by decide)

end Usbutils
