import Usbutils.Lsusb.Otg

/-! The loops over extra bytes come to an end, visit what the bytes split into and
give each decoder no more than it may read. -/
namespace Usbutils
open ByteProg

variable {env : Env} {m : Memory} {interface : InterfaceDescriptor} {endpoint : EndpointDescriptor}
  {config : ConfigDescriptor} {extra : Extra}

theorem endpointHeader_within (lo hi : Nat) :
    Prog.All (Within lo hi) (endpointHeader endpoint) m := by
  have hfour : ∀ n, n &&& 3 < 4 := fun n => Nat.lt_succ_of_le Nat.and_le_right
  simp [endpointHeader, hfour]

theorem dumpEndpoint_within :
    Prog.All (WalkWithin endpoint.extra.extra (endpoint.extra.extra + endpoint.extra.extraLength))
      (dumpEndpoint env interface endpoint) m := by
  rw [dumpEndpoint, Prog.all_bind, display_within]
  refine ⟨endpointHeader_within _ _, fun _ _ => walkExtra_within fun buf dump h hdump => ?_⟩
  exact endpointDecoder_within h hdump

theorem configExtra_within {bad : String} :
    Prog.All (WalkWithin extra.extra (extra.extra + extra.extraLength))
      (walkExtra bad (configDecoder env) extra) m :=
  walkExtra_within fun _ _ h hdump => configDecoder_within h hdump

theorem altsettingExtra_within {bad : String}
    (hvideo : ∀ bDescriptorType, ¬IsVideoStreaming interface bDescriptorType) :
    Prog.All (WalkWithin extra.extra (extra.extra + extra.extraLength))
      (walkExtra bad (altsettingDecoder env interface) extra) m :=
  walkExtra_within fun _ _ h hdump => altsettingDecoder_within h (hvideo _) hdump

/-- The descriptors at these addresses are the longest row of them, one behind the
other, that the string begins with. -/
def IsMaximal (m : Memory) (extra : Extra) (addresses : List Nat) : Prop :=
  Frames.Leading m 2 extra.extra extra.extraLength addresses ∧
    ∀ others, Frames.Leading m 2 extra.extra extra.extraLength others → others <+: addresses

theorem descriptors_isMaximal (m : Memory) (extra : Extra) :
    IsMaximal m extra (descriptors m extra) :=
  (Frames.eq_frames_iff (by decide)).mp rfl

/-- Every decoder of a descriptor, VideoStreaming apart, reads that descriptor only. -/
def DecodersWithin (env : Env) (m : Memory) (interface : InterfaceDescriptor)
    (endpoint : EndpointDescriptor) (buf : Nat) : Prop :=
  ∀ bDescriptorType dump,
    (configDecoder env buf bDescriptorType = some dump ∨
      (altsettingDecoder env interface buf bDescriptorType = some dump ∧
        ¬IsVideoStreaming interface bDescriptorType) ∨
      endpointDecoder env interface endpoint buf bDescriptorType = some dump) →
    Prog.All (Within buf (buf + (m buf).toNat)) dump m

theorem decodersWithin {buf : Nat} (h : 2 ≤ (m buf).toNat) :
    DecodersWithin env m interface endpoint buf := by
  intro bDescriptorType dump hdump
  rcases hdump with hconfig | ⟨halt, hvideo⟩ | hendpoint
  · exact configDecoder_within h hconfig
  · exact altsettingDecoder_within h hvideo halt
  · exact endpointDecoder_within h hendpoint

theorem extra_walks_sound (env : Env) (m : Memory) :
    (∀ config speed, (dumpConfig env config speed).result m = .ok () ∧
      visits ((dumpConfig env config speed).acts m) = configDescriptors m config) ∧
    (∀ interface, (dumpAltsetting env interface).result m = .ok () ∧
      visits ((dumpAltsetting env interface).acts m) = altsettingDescriptors m interface) ∧
    (∀ interface endpoint, (dumpEndpoint env interface endpoint).result m = .ok () ∧
      visits ((dumpEndpoint env interface endpoint).acts m) = descriptors m endpoint.extra) ∧
    (∀ extra, IsMaximal m extra (descriptors m extra)) ∧
    (∀ extra : Extra,
      Prog.All (Within extra.extra (extra.extra + extra.extraLength)) (findOtg extra) m ∧
      ∃ found, (findOtg extra).result m = .ok found ∧ ∀ address ∈ found,
        extra.extra ≤ address ∧ address + 3 ≤ extra.extra + extra.extraLength) ∧
    (∀ interface endpoint buf, 2 ≤ (m buf).toNat →
      DecodersWithin env m interface endpoint buf) ∧
    (∀ bad extra, Prog.All (WalkWithin extra.extra (extra.extra + extra.extraLength))
      (walkExtra bad (configDecoder env) extra) m) ∧
    (∀ bad interface extra, (∀ bDescriptorType, ¬IsVideoStreaming interface bDescriptorType) →
      Prog.All (WalkWithin extra.extra (extra.extra + extra.extraLength))
        (walkExtra bad (altsettingDecoder env interface) extra) m) ∧
    ∀ interface endpoint, Prog.All
      (WalkWithin endpoint.extra.extra (endpoint.extra.extra + endpoint.extra.extraLength))
      (dumpEndpoint env interface endpoint) m :=
  ⟨fun _ _ => ⟨result_dumpConfig, visits_dumpConfig⟩,
    fun _ => ⟨result_dumpAltsetting, visits_dumpAltsetting⟩,
    fun _ _ => ⟨result_dumpEndpoint, visits_dumpEndpoint⟩,
    fun extra => descriptors_isMaximal m extra,
    fun extra => ⟨findOtg_within m extra, _, result_findOtg m extra, fun _ h =>
      findOtg_inside ((result_findOtg m extra).trans (congrArg _ h))⟩,
    fun _ _ _ h => decodersWithin h,
    fun _ _ => configExtra_within,
    fun _ _ _ hvideo => altsettingExtra_within hvideo,
    fun _ _ => dumpEndpoint_within⟩

def cdcHeader : Memory := fun a => ([0, 5, 0x24, 0, 0x10, 0x01] : List UInt8).getD a 0

theorem extra_walks_sound_cdc : DecodersWithin default cdcHeader default default 1 :=
  (extra_walks_sound default cdcHeader).2.2.2.2.2.1 default default 1 (by decide)

end Usbutils
