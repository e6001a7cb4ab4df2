import Usbutils.Lsusb.DumpConfig

/-! `find_otg` and `do_otg` of `lsusb.c`, which look for the OTG descriptor that the
loops over extra bytes pass over. -/
namespace Usbutils
open ByteProg

def findOtgFrom : Nat → Nat → Nat → Dump (Option Nat)
  | 0, _, _ => Prog.stop .endless
  | fuel + 1, buf, buflen =>
      if buflen ≥ 3 then do
        let bLength ← Prog.byte buf
        let found ← (if bLength = 3 then do return (← Prog.byte (buf + 1)) == usbDtOtg
          else pure false)
        (if found then pure (some buf)
        else if bLength < 2 ∨ bLength > buflen then pure none
        else findOtgFrom fuel (buf + bLength) (buflen - bLength))
      else pure none

def findOtg (extra : Extra) : Dump (Option Nat) :=
  if extra.extra = 0 then pure none
  else findOtgFrom (extra.extraLength + 1) extra.extra extra.extraLength

def findInConfig (config : ConfigDescriptor) : Dump (Option Nat) :=
  Prog.orTry (findOtg config.extra) <|
    Prog.firstSome (fun interface : Interface =>
      Prog.firstSome (fun alt : InterfaceDescriptor =>
        Prog.orTry (findOtg alt.extra) <|
          Prog.firstSome (fun endpoint : EndpointDescriptor => findOtg endpoint.extra)
            alt.endpoint)
        interface.altsetting)
      config.interface

def doOtg (config : ConfigDescriptor) : Dump Nat := do
  match ← findInConfig config with
  | none => return 0
  | some desc =>
      print "OTG Descriptor:\n" []
      print "  bLength               %3u\n" [← u8 desc]
      print "  bDescriptorType       %3u\n" [← u8 (desc + 1)]
      let bmAttributes ← Prog.byte (desc + 2)
      print "  bmAttributes         0x%02x\n" [.num bmAttributes]
      bitLines bmAttributes [(0x01, "    SRP (Session Request Protocol)\n"),
        (0x02, "    HNP (Host Negotiation Protocol)\n")]
      return 1

/-- An OTG descriptor of the length that `find_otg` asks for. -/
def isOtg (m : Memory) (address : Nat) : Bool :=
  (m address).toNat == 3 && (m (address + 1)).toNat == usbDtOtg

variable {env : Env} {m : Memory} {extra : Extra} {config : ConfigDescriptor} {speed : Nat}

/-- The search stops with three bytes left, but no shorter rest holds one. -/
theorem find_isOtg_short {start size : Nat} (h : size < 3) :
    (Frames.frames m 2 start size).find? (isOtg m) = none := by
  refine List.find?_eq_none.mpr fun a ha => ?_
  have := (Frames.leading_frames m 2 start size).bounds ha
  simp only [isOtg, Bool.and_eq_true, beq_iff_eq, not_and]
  omega

theorem result_findOtgFrom {fuel buf buflen : Nat} (h : buflen < fuel) :
    (findOtgFrom fuel buf buflen).result m =
      .ok ((Frames.frames m 2 buf buflen).find? (isOtg m)) := by
  induction fuel generalizing buf buflen with
  | zero => omega
  | succ fuel ih =>
      unfold findOtgFrom
      by_cases hlen : buflen ≥ 3
      case neg =>
        rw [if_neg hlen, find_isOtg_short (by omega)]
        rfl
      case pos =>
        have hfound : (if (m buf).toNat = 3 then do
              return (← Prog.byte (buf + 1)) == usbDtOtg
            else pure false : Dump Bool).result m = .ok (isOtg m buf) := by
          unfold isOtg
          by_cases hthree : (m buf).toNat = 3
          · rw [if_pos hthree, hthree]
            rfl
          · simp [hthree]
        rw [if_pos hlen, Prog.result_bind, Prog.result_byte]
        dsimp only
        rw [Prog.result_bind, hfound]
        dsimp only
        rw [Frames.frames_eq (by decide)]
        by_cases hotg : isOtg m buf = true
        · have hthree : (m buf).toNat = 3 := by
            simp only [isOtg, Bool.and_eq_true, beq_iff_eq] at hotg
            exact hotg.1
          rw [if_pos hotg, if_pos (by omega), List.find?_cons_of_pos hotg]
          rfl
        · rw [if_neg hotg]
          by_cases hbad : (m buf).toNat < 2 ∨ (m buf).toNat > buflen
          · rw [if_pos hbad, if_neg (by omega)]
            rfl
          · rw [if_neg hbad, if_pos (by omega), List.find?_cons_of_neg hotg, ih (by omega)]

theorem result_findOtg (m : Memory) (extra : Extra) :
    (findOtg extra).result m = .ok ((descriptors m extra).find? (isOtg m)) := by
  unfold findOtg
  split
  · next hnull =>
      rw [descriptors, find_isOtg_short (by rw [extra.present hnull]; decide)]
      rfl
  · exact result_findOtgFrom (Nat.lt_succ_self _)

theorem findOtg_inside {address : Nat} (h : (findOtg extra).result m = .ok (some address)) :
    extra.extra ≤ address ∧ address + 3 ≤ extra.extra + extra.extraLength := by
  rw [result_findOtg, Except.ok.injEq] at h
  have hotg := List.find?_some h
  have := (Frames.leading_frames ..).bounds (List.mem_of_find?_eq_some h)
  simp only [isOtg, Bool.and_eq_true, beq_iff_eq] at hotg
  omega

theorem findOtg_within (m : Memory) (extra : Extra) :
    Prog.All (Within extra.extra (extra.extra + extra.extraLength)) (findOtg extra) m := by
  have hfrom : ∀ fuel buf buflen,
      Prog.All (Within buf (buf + buflen)) (findOtgFrom fuel buf buflen) m := by
    intro fuel
    induction fuel with
    | zero => simp [findOtgFrom]
    | succ fuel ih =>
        intro buf buflen
        simp only [findOtgFrom, Prog.all_ite, Prog.all_bind, Prog.all_byte, within_read,
          Prog.result_byte, Except.ok.injEq, forall_eq', Prog.all_pure, implies_true, and_true,
          true_and]
        refine fun hlen => ⟨by omega, fun _ => by omega, fun _ _ _ hgood => ?_⟩
        exact (ih _ _).mono fun _ h => h.mono (by omega) (by omega)
  unfold findOtg
  split
  · simp
  · exact hfrom _ _ _

theorem result_findInConfig (m : Memory) (config : ConfigDescriptor) :
    (findInConfig config).result m = .ok ((configDescriptors m config).find? (isOtg m)) := by
  have halt : ∀ alt : InterfaceDescriptor,
      (Prog.orTry (findOtg alt.extra) <|
        Prog.firstSome (fun endpoint : EndpointDescriptor => findOtg endpoint.extra)
          alt.endpoint).result m =
        .ok ((altsettingDescriptors m alt).find? (isOtg m)) := by
    intro alt
    rw [Prog.result_orTry (result_findOtg m alt.extra)
      (Prog.result_firstSome alt.endpoint fun endpoint => result_findOtg m endpoint.extra),
      altsettingDescriptors, List.find?_append, List.find?_flatMap]
  have hinterface := fun interface : Interface =>
    Prog.result_firstSome (m := m) interface.altsetting halt
  rw [findInConfig, Prog.result_orTry (result_findOtg m config.extra)
    (Prog.result_firstSome config.interface hinterface), configDescriptors, List.find?_append,
    List.find?_flatMap]
  simp only [List.find?_flatMap]

theorem result_doOtg (m : Memory) (config : ConfigDescriptor) :
    (doOtg config).result m =
      .ok (if ∃ a ∈ configDescriptors m config, isOtg m a = true then 1 else 0) := by
  rw [doOtg, Prog.result_bind, result_findInConfig]
  cases hfind : (configDescriptors m config).find? (isOtg m) with
  | none =>
      rw [if_neg]
      · rfl
      · simpa using hfind
  | some desc =>
      rw [if_pos ⟨desc, List.mem_of_find?_eq_some hfind, List.find?_some hfind⟩]
      simp [Except.map]

theorem acts_doOtg (h : ∃ a ∈ configDescriptors m config, isOtg m a = true) :
    .print "OTG Descriptor:\n" [] ∈ (doOtg config).acts m := by
  rw [doOtg, Prog.acts_bind_ok (result_findInConfig m config)]
  cases hfind : (configDescriptors m config).find? (isOtg m) with
  | none =>
      obtain ⟨a, ha, hotg⟩ := h
      exact absurd hotg (List.find?_eq_none.mp hfind a ha)
  | some desc =>
      dsimp only
      rw [Prog.acts_bind_ok (result_print ..), acts_print]
      simp

def HoldsOtg (m : Memory) (extra : Extra) : Prop :=
  ∃ a ∈ descriptors m extra, (m (a + 1)).toNat = usbDtOtg

/-- Some OTG descriptor is left to `do_otg`. -/
def PassesOverOtg (m : Memory) (config : ConfigDescriptor) : Prop :=
  HoldsOtg m config.extra ∨
    ∃ interface ∈ config.interface, ∃ alt ∈ interface.altsetting,
      (¬TakesOtg alt ∧ HoldsOtg m alt.extra) ∨ ∃ endpoint ∈ alt.endpoint, HoldsOtg m endpoint.extra

def PrintsOtg (m : Memory) (config : ConfigDescriptor) : Prop :=
  (doOtg config).result m = .ok 1 ∧ .print "OTG Descriptor:\n" [] ∈ (doOtg config).acts m

variable {interface : InterfaceDescriptor} {endpoint : EndpointDescriptor}

theorem printsOtg_iff :
    PrintsOtg m config ↔ ∃ a ∈ configDescriptors m config, isOtg m a = true := by
  refine ⟨fun h => ?_, fun h => ⟨?_, acts_doOtg h⟩⟩
  · have hone := h.1
    rw [result_doOtg] at hone
    by_contra hnone
    rw [if_neg hnone] at hone
    cases hone
  · rw [result_doOtg, if_pos h]

theorem skips_walkExtra_ne_nil {bad : String} {decoder : Decoder} {P : Prop}
    (hreturns : decoder.Returns m)
    (hnone : ∀ buf type, decoder buf type = none ↔ type = usbDtOtg ∧ P) :
    skips ((walkExtra bad decoder extra).acts m) ≠ [] ↔ P ∧ HoldsOtg m extra := by
  rw [skips_walkExtra hreturns, ne_eq, List.filter_eq_nil_iff]
  simp only [Option.isNone_iff_eq_none, Decoder.at, hnone, HoldsOtg]
  grind

theorem skips_dumpEndpoint :
    skips ((dumpEndpoint env interface endpoint).acts m) ≠ [] ↔ HoldsOtg m endpoint.extra := by
  have hwalk := @skips_walkExtra_ne_nil m endpoint.extra
    "        ** Bad endpoint-extra bLength %u (%u left)\n" (endpointDecoder env interface endpoint)
    True endpointDecoder_returns (by simp [endpointDecoder_eq_none])
  rw [acts_dumpEndpoint, skips_append, skips_shown, List.nil_append, hwalk, true_and]

theorem skips_dumpAltsetting :
    skips ((dumpAltsetting env interface).acts m) ≠ [] ↔
      (¬TakesOtg interface ∧ HoldsOtg m interface.extra) ∨
        ∃ endpoint ∈ interface.endpoint, HoldsOtg m endpoint.extra := by
  have hwalk := @skips_walkExtra_ne_nil m interface.extra
    "      ** Bad interface-extra bLength %u (%u left)\n" (altsettingDecoder env interface)
    (¬TakesOtg interface) altsettingDecoder_returns fun _ _ => altsettingDecoder_eq_none
  rw [acts_dumpAltsetting, skips_append, skips_shown, List.nil_append, skips_append, ne_eq,
    List.append_eq_nil_iff, not_and_or, skips_flatMap, List.flatMap_eq_nil_iff]
  refine or_congr hwalk ?_
  simp only [← @skips_dumpEndpoint env m interface, not_forall, exists_prop, ne_eq]

theorem skips_dumpConfig :
    skips ((dumpConfig env config speed).acts m) ≠ [] ↔ PassesOverOtg m config := by
  have hwalk := @skips_walkExtra_ne_nil m config.extra
    "    ** Bad config-extra bLength %u (%d left)\n" (configDecoder env)
    True configDecoder_returns (by simp [configDecoder_eq_none])
  rw [true_and] at hwalk
  rw [acts_dumpConfig, skips_append, skips_shown, List.nil_append, skips_append, ne_eq,
    List.append_eq_nil_iff, not_and_or, skips_flatMap, List.flatMap_eq_nil_iff]
  refine or_congr hwalk ?_
  simp only [← @skips_dumpAltsetting env m, acts_dumpInterface, skips_flatMap,
    List.flatMap_eq_nil_iff, not_forall, exists_prop, ne_eq]

/-- `do_otg` prints what the loops pass over exactly if they pass over nothing or visit
an OTG descriptor of three bytes. -/
theorem skipped_otg_printed_iff (env : Env) (m : Memory) (config : ConfigDescriptor) (speed : Nat) :
    (skips ((dumpConfig env config speed).acts m) ≠ [] → PrintsOtg m config) ↔
      (PassesOverOtg m config → ∃ a ∈ configDescriptors m config, isOtg m a = true) := by
  rw [skips_dumpConfig, printsOtg_iff]

def otg2Bytes : Memory := fun a => ([0, 5, 9, 3, 0, 2] : List UInt8).getD a 0

theorem otg2_descriptor_not_printed :
    ¬∀ (env : Env) (m : Memory) (config : ConfigDescriptor) (speed : Nat),
      skips ((dumpConfig env config speed).acts m) ≠ [] → PrintsOtg m config := by
  intro h
  have hprints := h default otg2Bytes
    { (default : ConfigDescriptor) with extra := ⟨1, 5, by decide⟩ } 0
    (skips_dumpConfig.mpr (Or.inl ⟨1, by decide, by decide⟩))
  exact absurd (printsOtg_iff.mp hprints) (by decide)

end Usbutils
