import Usbutils.Lib.Runs
import Usbutils.Lsusb.Safety
import Usbutils.Lsusb.Hub
import Usbutils.Lsusb.Bos
import Usbutils.Lsusb.DumpDevice

/-! `dumpdev` of `lsusb.c`: what is shown of one device, whatever can be opened, read or parsed of
it. -/
namespace Usbutils
open ByteProg Runs

/-- What happens, with what it needs: a configuration is in use until it is freed, the device until
it is closed. -/
inductive DeviceEffect where
  | opened
  | closed
  | getConfig (index : Nat)
  | freeConfig (index : Nat)
  | message (effect : Effect)
  | inConfig (index : Nat) (effect : WalkEffect)
  | inDevice (effect : WalkEffect)
  deriving DecidableEq, Repr

/-- The answers of a device that is open, each with what its buffer holds then. -/
structure OpenDevice where
  bosDescStatic : Int × Memory
  /-- What `malloc` returns for the store. -/
  bosDesc : Option Nat
  bosAnswer : Int × Memory
  hub : HubReplies × Memory
  qualifier : Answer × Memory
  debug : Answer × Memory
  status : Answer × Memory

structure DumpedDevice where
  handle : Option OpenDevice
  descriptor : DeviceDescriptor
  speed : DeviceSpeed
  ports : LibusbDevice
  hwdb : Hwdb
  sysfs : String → SysfsFile
  /-- The configuration of an index, if it is found by a call. -/
  configDescriptor : (call : Nat) → (index : Nat) → Option (Memory × ConfigDescriptor)
  strerror : Nat → String

namespace DumpedDevice

variable (env : Env) (verblevel : Nat) (device : DumpedDevice)

def names : DeviceNames :=
  (readDeviceNames device.hwdb device.sysfs device.ports
    ⟨device.descriptor.idVendor, device.descriptor.idProduct⟩) |>.get
      (readDeviceNames_isSome ..)

def say (p : Dump Unit) : Prog DeviceEffect Stop Unit := Prog.relabel .message p

def showReply (buffer : Memory) (p : Dump Unit) : Prog DeviceEffect Stop Unit :=
  Prog.elsewhere buffer (Prog.relabel (fun effect => .inDevice (.shown effect)) p)

def otgConfig : Prog DeviceEffect Stop Nat :=
  match device.configDescriptor 0 0 with
  | none => do
      say (printError
        "Couldn't get configuration descriptor 0, some information will be missing\n" [])
      return 0
  | some (memory, config) => do
      Prog.emit (.getConfig 0)
      let otg ← Prog.elsewhere memory
        (Prog.relabel (fun effect => .inConfig 0 (.shown effect)) (doOtg config))
      Prog.emit (.freeConfig 0)
      return otg

def showConfig (i : Nat) : Prog DeviceEffect Stop Unit :=
  match device.configDescriptor (i + 1) i with
  | none => say (printError
      "Couldn't get configuration descriptor %d, some information will be missing\n" [.num i])
  | some (memory, config) => do
      Prog.emit (.getConfig i)
      Prog.elsewhere memory
        (Prog.relabel (.inConfig i) (dumpConfig env config device.descriptor.bcdUsb))
      Prog.emit (.freeConfig i)

/-- `dump_bos_descriptor`, also where there is no memory for the store. -/
def dumpBos (opened : OpenDevice) : Walk Unit :=
  match opened.bosDesc with
  | none => dumpBosHead opened.bosDescStatic (pure ())
  | some bosDesc => dumpBosDescriptor env (device.descriptor.bcdUsb ≥ 0x0210) opened.bosDescStatic
      bosDesc opened.bosAnswer.1

/-- `dump_bos_descriptor`, and `has_ssp` behind it. -/
def showBos (opened : OpenDevice) : Prog DeviceEffect Stop Bool :=
  Prog.relabel .inDevice <| Prog.elsewhere opened.bosAnswer.2 <| Prog.seen .hasSsp <|
    device.dumpBos env opened

def askDevice (opened : OpenDevice) (hasSsp otg : Bool) : Prog DeviceEffect Stop Unit := do
  let desc := device.descriptor
  Prog.when (desc.bDeviceClass = 9) do
    showReply opened.hub.2 (doHub opened.hub.1 desc.bDeviceProtocol desc.bcdUsb hasSsp)
  Prog.when (desc.bcdUsb = 0x0200) do
    showReply opened.qualifier.2 (doDualspeed env device.strerror verblevel opened.qualifier.1)
  showReply opened.debug.2 (doDebug device.strerror verblevel opened.debug.1)
  showReply opened.status.2
    (dumpDeviceStatus device.strerror opened.status.1 otg (desc.bcdUsb ≥ 0x0300))
  Prog.emit .closed

def dumpdev : Prog DeviceEffect Stop Unit := do
  let env := { env with dev := device.handle.isSome }
  (match device.handle with
  | none => say (printError "Couldn't open device, some information will be missing\n" [])
  | some _ => Prog.emit .opened)
  say (dumpDevice env device.names device.speed device.descriptor)
  let otg ← (if device.descriptor.bNumConfigurations ≠ 0 then device.otgConfig else pure 0)
  Prog.loop device.descriptor.bNumConfigurations (device.showConfig env)
  match device.handle with
  | none => pure ()
  | some opened => do
      let hasSsp ← (if device.descriptor.bcdUsb ≥ 0x0201 then device.showBos env opened
        else pure false)
      device.askDevice env verblevel opened hasSsp (otg ≠ 0)

end DumpedDevice

inductive HandleState where
  | unopened
  | opened
  | closed
  deriving DecidableEq, Repr

structure Held where
  device : HandleState := .unopened
  config : Option Nat := none
  deriving DecidableEq, Repr

/-- Nothing is used that is not held, and nothing is given back twice. A device that was closed is
not opened again. -/
def Held.step (s : Held) : DeviceEffect → Option Held
  | .opened => if s.device = .unopened then some { s with device := .opened } else none
  | .closed =>
      if s.device = .opened ∧ s.config = none then some { s with device := .closed } else none
  | .getConfig index => if s.config = none then some { s with config := some index } else none
  | .freeConfig index => if s.config = some index then some { s with config := none } else none
  | .message _ => some s
  | .inConfig index _ => if s.config = some index then some s else none
  | .inDevice _ => if s.device = .opened then some s else none

theorem Held.step_inConfig {s : Held} {index : Nat} (h : s.config = some index)
    (effect : WalkEffect) : s.step (.inConfig index effect) = some s :=
  if_pos h

theorem Held.step_inDevice {s : Held} (h : s.device = .opened) (effect : WalkEffect) :
    s.step (.inDevice effect) = some s :=
  if_pos h

def DeviceEffect.visited : DeviceEffect → Option (Option Nat × Nat)
  | .inConfig index (.visit address) => some (some index, address)
  | .inDevice (.visit address) => some (none, address)
  | _ => none

structure DumpPart {α : Type} (p : Prog DeviceEffect Stop α) (m : Memory) (s s' : Held) (a : α)
    (visited : List (Option Nat × Nat)) : Prop where
  returns : p.result m = .ok a
  held : steps Held.step s (p.acts m) = some s'
  places : (p.acts m).filterMap DeviceEffect.visited = visited

namespace DumpPart

variable {α β : Type} {p : Prog DeviceEffect Stop α} {f : α → Prog DeviceEffect Stop β} {m : Memory}
  {s s' s'' : Held} {a : α} {b : β} {front back : List (Option Nat × Nat)}

theorem ret (a : α) : DumpPart (pure a) m s s a [] := ⟨rfl, rfl, rfl⟩

theorem bind (hp : DumpPart p m s s' a front) (hf : DumpPart (f a) m s' s'' b back) :
    DumpPart (p >>= f) m s s'' b (front ++ back) where
  returns := by rw [Prog.result_bind, hp.returns]; exact hf.returns
  held := by
    rw [Prog.acts_bind_ok hp.returns]
    exact steps_append.mpr ⟨s', hp.held, hf.held⟩
  places := by rw [Prog.acts_bind_ok hp.returns, List.filterMap_append, hp.places, hf.places]

theorem emit {effect : DeviceEffect} (hstep : s.step effect = some s')
    (hnone : effect.visited = none) : DumpPart (Prog.emit effect) m s s' () [] where
  returns := rfl
  held := steps_cons.mpr ⟨s', hstep, rfl⟩
  places := by simp [hnone]

theorem steps_map {ε : Type} {label : ε → DeviceEffect} (h : ∀ e, s.step (label e) = some s)
    (effects : List ε) : steps Held.step s (effects.map label) = some s := by
  induction effects with
  | nil => rfl
  | cons e rest ih => exact steps_cons.mpr ⟨s, h e, ih⟩

theorem visited_map {place : Option Nat} {label : WalkEffect → DeviceEffect}
    (hvisit : ∀ address, (label (.visit address)).visited = some (place, address))
    (hother : ∀ e, (∀ address, e ≠ .visit address) → (label e).visited = none)
    (effects : List WalkEffect) : (effects.map label).filterMap DeviceEffect.visited =
      (visits effects).map (place, ·) := by
  induction effects with
  | nil => rfl
  | cons e rest ih =>
      cases e with
      | visit address => simp [hvisit, visits, ih]
      | _ => simp [hother, visits, ih]

theorem say {q : Dump Unit} (h : q.result m = .ok ()) : DumpPart (DumpedDevice.say q) m s s () [] where
  returns := h
  held := by
    rw [DumpedDevice.say, Prog.acts_relabel]
    exact steps_map (fun _ => rfl) _
  places := by
    rw [DumpedDevice.say, Prog.acts_relabel, List.filterMap_map]
    exact List.filterMap_eq_nil_iff.mpr fun _ _ => rfl

theorem showReply {buffer : Memory} {q : Dump Unit} (h : q.result buffer = .ok ())
    (hdevice : s.device = .opened) : DumpPart (DumpedDevice.showReply buffer q) m s s () [] where
  returns := h
  held := by
    rw [DumpedDevice.showReply, Prog.acts_elsewhere, Prog.acts_relabel]
    exact steps_map (fun _ => Held.step_inDevice hdevice _) _
  places := by
    rw [DumpedDevice.showReply, Prog.acts_elsewhere, Prog.acts_relabel, List.filterMap_map]
    exact List.filterMap_eq_nil_iff.mpr fun _ _ => rfl

theorem when {c : Prop} [Decidable c] {q : Prog DeviceEffect Stop Unit}
    (h : c → DumpPart q m s s () []) : DumpPart (Prog.when c q) m s s () [] := by
  rw [Prog.when]
  split
  · exact h ‹c›
  · exact ret ()

theorem loop {count : Nat} {body : Nat → Prog DeviceEffect Stop Unit}
    {visited : Nat → List (Option Nat × Nat)} (h : ∀ i, DumpPart (body i) m s s () (visited i)) :
    DumpPart (Prog.loop count body) m s s () ((List.range count).flatMap visited) where
  returns := Prog.result_loop count fun i => (h i).returns
  held := by
    rw [Prog.acts_loop count fun i => (h i).returns]
    induction List.range count with
    | nil => rfl
    | cons i rest ih => exact steps_append.mpr ⟨s, (h i).held, ih⟩
  places := by
    rw [Prog.acts_loop count fun i => (h i).returns, List.filterMap_flatMap]
    simp only [(h _).places]

end DumpPart

section Hub

variable {replies : HubReplies} {speed : Nat} {isExtStatus : Bool} {m : Memory}

theorem result_portLine (port : Nat) : (portLine speed port).result m = .ok () := by
  simp [portLine]

theorem result_extStatusLines : extStatusLines.result m = .ok () := by
  simp [extStatusLines]

theorem result_hubPortLoop (count port : Nat) :
    (hubPortLoop replies speed isExtStatus count port).result m = .ok () := by
  induction count generalizing port with
  | zero => rfl
  | succ count ih =>
      rw [hubPortLoop]
      split
      simp [result_portLine, result_extStatusLines, ih]

theorem result_dumpHub (pre : String) (p ttType : Nat) :
    (dumpHub pre p ttType).result m = .ok () := by
  simp [dumpHub, hubBitmaps, Prog.result_loop]

theorem result_doHub (ttType : Nat) (hasSsp : Bool) :
    (doHub replies ttType speed hasSsp).result m = .ok () := by
  simp [doHub, result_dumpHub, result_hubPortLoop]

theorem portLine_within (port : Nat) {n : Nat} (hn : 4 ≤ n) :
    Prog.All (Within 0 n) (portLine speed port) m := by
  simp [portLine]
  omega

theorem extStatusLines_within : Prog.All (Within 0 8) extStatusLines m := by
  simp [extStatusLines]

/-- The bytes behind the fourth are read for an extended status alone. -/
theorem portStatus_within (port : Nat) (isExtStatus : Bool) :
    Prog.All (Within 0 (if isExtStatus then 8 else 4))
      (portLine speed port >>= fun _ => Prog.when isExtStatus extStatusLines) m := by
  cases isExtStatus with
  | false => simp [portLine_within]
  | true => simp [portLine_within, extStatusLines_within]

theorem hubPortLoop_within {lo hi : Nat} (count port : Nat) :
    Prog.All (Within lo hi) (hubPortLoop replies speed isExtStatus count port) m := by
  have hport (status : Memory) (port : Nat) : ∀ e ∈ (portLine speed port >>= fun _ =>
      Prog.when isExtStatus extStatusLines).acts status, Within lo hi (.act e) := by
    intro e he
    have hin := portStatus_within port isExtStatus _ (Prog.mem_acts.mp he)
    cases e <;> exact hin
  induction count generalizing port with
  | zero => simp [hubPortLoop]
  | succ count ih =>
      rw [hubPortLoop]
      split
      next ret status hstatus =>
        refine (Prog.all_ite ..).mpr ⟨fun _ => by simp, fun _ => ?_⟩
        exact (Prog.all_bind ..).mpr ⟨(Prog.all_elsewhere ..).mpr (hport status port),
          fun _ _ => ih (port + 1)⟩

theorem doHub_within (ttType : Nat) (hasSsp : Bool) :
    Prog.All (Within 0 hubBufferSize) (doHub replies ttType speed hasSsp) m := by
  have hhub : Prog.All (Within 0 hubBufferSize) (dumpHub "" 0 ttType) m := by
    have hfits := (dumpHub_within m "" 0 ttType hubBufferSize).mpr
    rw [Nat.zero_add] at hfits
    apply hfits
    rw [bitmapLength, hubBufferSize, hubStatusBytelen]
    split <;> omega
  have hports : 2 < hubBufferSize := by decide
  simp [doHub, hubPortLoop_within, hhub, hports]

end Hub

namespace DumpedDevice

variable (env : Env) (verblevel : Nat) (device : DumpedDevice) (m : Memory)

def configPlaces (i : Nat) : List (Option Nat × Nat) :=
  (device.configDescriptor (i + 1) i).elim [] fun (memory, config) =>
    (configDescriptors memory config).map (some i, ·)

end DumpedDevice

instance (static : Int × Memory) (ret : Int) : Decidable (HasCapabilities static ret) :=
  inferInstanceAs (Decidable (_ ∧ _))

def OpenDevice.capabilities (opened : OpenDevice) : List Nat :=
  opened.bosDesc.elim [] fun bosDesc =>
    if HasCapabilities opened.bosDescStatic opened.bosAnswer.1 then
      Frames.frames opened.bosAnswer.2 3 (bosDesc + 5) (bosDescSize opened.bosDescStatic.2 - 5)
    else []

namespace DumpedDevice

variable (env : Env) (verblevel : Nat) (device : DumpedDevice) (m : Memory)

def capabilities (opened : OpenDevice) : List Nat :=
  if device.descriptor.bcdUsb ≥ 0x0201 then opened.capabilities else []

def hasSsp (opened : OpenDevice) : Bool :=
  (device.capabilities opened).any fun a =>
    (opened.bosAnswer.2 (a + 2)).toNat == usbDcSuperspeedplus

def hasOtg : Bool :=
  device.descriptor.bNumConfigurations ≠ 0 &&
    (device.configDescriptor 0 0).any fun (memory, config) =>
      (configDescriptors memory config).any (isOtg memory)

variable {env verblevel device m} {opened : OpenDevice} {s : Held}

theorem otgConfig_part (hs : s.config = none) :
    DumpPart device.otgConfig m s s (if (device.configDescriptor 0 0).any (fun (memory, config) =>
      (configDescriptors memory config).any (isOtg memory)) then 1 else 0) [] := by
  unfold otgConfig
  cases hconfig : device.configDescriptor 0 0 with
  | none => exact (DumpPart.say (by simp)).bind (DumpPart.ret 0)
  | some found =>
      obtain ⟨memory, config⟩ := found
      have hget : s.step (.getConfig 0) = some { s with config := some 0 } := if_pos hs
      have hfree : Held.step { s with config := some 0 } (.freeConfig 0) = some s := by
        rw [Held.step, if_pos rfl, ← hs]
      have hotg : DumpPart (Prog.elsewhere memory
          (Prog.relabel (fun effect => DeviceEffect.inConfig 0 (.shown effect)) (doOtg config))) m
          { s with config := some 0 } { s with config := some 0 }
          (if (configDescriptors memory config).any (isOtg memory) then 1 else 0) [] := by
        refine ⟨?_, ?_, ?_⟩
        · rw [Prog.result_elsewhere, Prog.result_relabel, result_doOtg]
          simp only [List.any_eq_true]
        · rw [Prog.acts_elsewhere, Prog.acts_relabel]
          exact DumpPart.steps_map (fun _ => Held.step_inConfig rfl _) _
        · rw [Prog.acts_elsewhere, Prog.acts_relabel, List.filterMap_map]
          exact List.filterMap_eq_nil_iff.mpr fun _ _ => rfl
      exact (DumpPart.emit hget rfl).bind (hotg.bind ((DumpPart.emit hfree rfl).bind (DumpPart.ret _)))

theorem showConfig_part (hs : s.config = none) (i : Nat) :
    DumpPart (device.showConfig env i) m s s () (device.configPlaces i) := by
  unfold showConfig configPlaces
  cases hconfig : device.configDescriptor (i + 1) i with
  | none => exact DumpPart.say (by simp)
  | some found =>
      obtain ⟨memory, config⟩ := found
      have hget : s.step (.getConfig i) = some { s with config := some i } := if_pos hs
      have hfree : Held.step { s with config := some i } (.freeConfig i) = some s := by
        rw [Held.step, if_pos rfl, ← hs]
      have hshow : DumpPart (Prog.elsewhere memory (Prog.relabel (DeviceEffect.inConfig i)
          (dumpConfig env config device.descriptor.bcdUsb))) m
          { s with config := some i } { s with config := some i } ()
          ((configDescriptors memory config).map (some i, ·)) := by
        refine ⟨?_, ?_, ?_⟩
        · rw [Prog.result_elsewhere, Prog.result_relabel, result_dumpConfig]
        · rw [Prog.acts_elsewhere, Prog.acts_relabel]
          exact DumpPart.steps_map (fun _ => Held.step_inConfig rfl _) _
        · rw [Prog.acts_elsewhere, Prog.acts_relabel, DumpPart.visited_map (fun _ => rfl),
            visits_dumpConfig]
          intro e he
          cases e with
          | visit address => exact absurd rfl (he address)
          | _ => rfl
      have hrest := hshow.bind (f := fun _ => Prog.emit (.freeConfig i)) (DumpPart.emit hfree rfl)
      rw [List.append_nil] at hrest
      exact (DumpPart.emit hget rfl).bind hrest

theorem acts_dumpBosHead {static : Int × Memory} {rest : Walk Unit} {m : Memory}
    (h : IsBos static → 5 < bosDescSize static.2 →
      ∃ lines : List Effect, rest.acts m = lines.map .shown) :
    ∃ lines : List Effect, (dumpBosHead static rest).acts m = lines.map .shown := by
  rw [dumpBosHead, Prog.when]
  split
  case isFalse => exact ⟨[], rfl⟩
  case isTrue hbos =>
    rw [acts_display_bind (result_bosHeader _)]
    split
    case isTrue => exact ⟨_, by rw [acts_display, ← List.map_append]⟩
    case isFalse hsize =>
      obtain ⟨lines, hlines⟩ := h hbos (by omega)
      exact ⟨_, by rw [hlines, ← List.map_append]⟩

/-- The loop over the capabilities is reached, or nothing but lines is shown. -/
theorem dumpBos_cases (env : Env) (device : DumpedDevice) (opened : OpenDevice) :
    (∃ bosDesc, opened.capabilities = Frames.frames opened.bosAnswer.2 3 (bosDesc + 5)
        (bosDescSize opened.bosDescStatic.2 - 5) ∧
      device.dumpBos env opened = (display (bosHeader opened.bosDescStatic.2) >>= fun _ =>
        capabilityLoop env (device.descriptor.bcdUsb ≥ 0x0210) (bosDesc + 5)
          (bosDescSize opened.bosDescStatic.2 - 5))) ∨
    (opened.capabilities = [] ∧ ∃ lines : List Effect,
      (device.dumpBos env opened).acts opened.bosAnswer.2 = lines.map .shown) := by
  rw [OpenDevice.capabilities, dumpBos]
  cases opened.bosDesc with
  | none => exact Or.inr ⟨rfl, acts_dumpBosHead fun _ _ => ⟨[], rfl⟩⟩
  | some bosDesc =>
      by_cases hhas : HasCapabilities opened.bosDescStatic opened.bosAnswer.1
      · exact Or.inl ⟨bosDesc, if_pos hhas, dumpBosDescriptor_of_has hhas⟩
      · refine Or.inr ⟨if_neg hhas, acts_dumpBosHead fun hbos hsize => ?_⟩
        have hret : opened.bosAnswer.1 < 0 := by
          by_contra hret
          exact hhas ⟨hbos, hsize, by omega⟩
        rw [if_pos hret]
        exact ⟨_, acts_display _⟩

theorem result_dumpBos :
    (device.dumpBos env opened).result opened.bosAnswer.2 = .ok () := by
  rw [dumpBos]
  cases opened.bosDesc <;>
    simp [dumpBosDescriptor, dumpBosHead, result_bosHeader, result_capabilityLoop]

theorem visits_dumpBos :
    visits ((device.dumpBos env opened).acts opened.bosAnswer.2) = opened.capabilities := by
  rcases dumpBos_cases env device opened with ⟨bosDesc, hcaps, hloop⟩ | ⟨hcaps, lines, hlines⟩
  · rw [hcaps, hloop, acts_display_bind (result_bosHeader _), visits_append, visits_shown,
      List.nil_append, visits_capabilityLoop]
  · rw [hcaps, hlines, visits_shown]

theorem hasSsp_dumpCapability {lpmRequired : Bool} {buf : Nat} {m : Memory} :
    .hasSsp ∈ (dumpCapability env lpmRequired buf).acts m ↔
      (m (buf + 2)).toNat = usbDcSuperspeedplus := by
  rw [dumpCapability, Prog.acts_bind_ok (Prog.result_emit ..),
    Prog.acts_bind_ok (Prog.result_byte ..), acts_display_bind (result_capabilityDump _), Prog.when]
  split <;> simp [*]

theorem hasSsp_dumpBos :
    .hasSsp ∈ (device.dumpBos env opened).acts opened.bosAnswer.2 ↔ ∃ a ∈ opened.capabilities,
      (opened.bosAnswer.2 (a + 2)).toNat = usbDcSuperspeedplus := by
  have hnone (lines : List Effect) : .hasSsp ∉ lines.map WalkEffect.shown := by simp
  rcases dumpBos_cases env device opened with ⟨bosDesc, hcaps, hloop⟩ | ⟨hcaps, lines, hlines⟩
  · have hacts : (capabilityLoop env (device.descriptor.bcdUsb ≥ 0x0210) (bosDesc + 5)
        (bosDescSize opened.bosDescStatic.2 - 5)).acts opened.bosAnswer.2 = _ :=
      Frames.acts_walk (by decide) (fun _ _ => rfl) fun _ => result_dumpCapability
    have hrest : ∀ b s rest, .hasSsp ∉ (Frames.atRest 3 (fun bLength size => display
        (print "  ** Bad device-capability bLength %u (%d left)\n" [.num bLength, .num size]))
        rest b s : Walk Unit).acts opened.bosAnswer.2 := by
      intro b s rest
      unfold Frames.atRest Prog.when
      split <;> simp
    rw [hcaps, hloop, acts_display_bind (result_bosHeader _), hacts]
    simp only [List.mem_append, hnone, false_or, List.mem_flatMap, hrest, or_false,
      hasSsp_dumpCapability]
  · rw [hcaps, hlines]
    simp

theorem showBos_part (hdevice : s.device = .opened) (hspeed : device.descriptor.bcdUsb ≥ 0x0201) :
    DumpPart (device.showBos env opened) m s s (device.hasSsp opened)
      ((device.capabilities opened).map (none, ·)) := by
  have hresult := @result_dumpBos env device opened
  refine ⟨?_, ?_, ?_⟩
  · rw [showBos, Prog.result_relabel, Prog.result_elsewhere, Prog.result_seen hresult]
    congr 1
    rw [hasSsp, capabilities, if_pos hspeed, Bool.eq_iff_iff, decide_eq_true_iff, hasSsp_dumpBos,
      List.any_eq_true]
    simp only [beq_iff_eq]
  · rw [showBos, Prog.acts_relabel]
    exact DumpPart.steps_map (fun _ => Held.step_inDevice hdevice _) _
  · rw [showBos, Prog.acts_relabel, Prog.acts_elsewhere, Prog.acts_seen,
      DumpPart.visited_map (fun _ => rfl), visits_dumpBos, capabilities, if_pos hspeed]
    intro e he
    cases e with
    | visit address => exact absurd rfl (he address)
    | _ => rfl

theorem askDevice_part (hdevice : s.device = .opened) (hconfig : s.config = none)
    (hasSsp otg : Bool) : DumpPart (device.askDevice env verblevel opened hasSsp otg) m s
      { s with device := .closed } () [] := by
  have hclosed : s.step .closed = some { s with device := .closed } := if_pos ⟨hdevice, hconfig⟩
  refine (DumpPart.when fun _ => .showReply (result_doHub _ _) hdevice).bind ?_
  refine (DumpPart.when fun _ => .showReply result_doDualspeed hdevice).bind ?_
  refine (DumpPart.showReply result_doDebug hdevice).bind ?_
  exact (DumpPart.showReply (result_dumpDeviceStatus _ _) hdevice).bind (DumpPart.emit hclosed rfl)

theorem capabilities_part (hdevice : s.device = .opened) :
    DumpPart (if device.descriptor.bcdUsb ≥ 0x0201 then device.showBos env opened else pure false) m s s
      (device.hasSsp opened) ((device.capabilities opened).map (none, ·)) := by
  split
  case isTrue hspeed => exact showBos_part hdevice hspeed
  case isFalse hspeed =>
    have hnone : device.capabilities opened = [] := if_neg hspeed
    rw [hasSsp, hnone]
    exact DumpPart.ret false

theorem otg_part (hconfig : s.config = none) :
    ∃ otg, DumpPart (if device.descriptor.bNumConfigurations ≠ 0 then device.otgConfig else pure 0) m
      s s otg [] ∧ decide (otg ≠ 0) = device.hasOtg := by
  rw [hasOtg]
  split
  case isTrue hsome =>
    refine ⟨_, otgConfig_part hconfig, ?_⟩
    split <;> simp [*]
  case isFalse hnone => exact ⟨0, DumpPart.ret 0, by simp [hnone]⟩

variable (env verblevel device m)

/-- The replies are read inside of their buffers. Of the first reply for the store only the five
bytes of `bos_desc_static` are used, and of a port without an extended status four bytes. -/
structure Bounded (opened : OpenDevice) : Prop where
  bosStatic : ∀ other : Memory, (∀ a < 5, other a = opened.bosDescStatic.2 a) →
    device.dumpBos env { opened with bosDescStatic := (opened.bosDescStatic.1, other) } =
      device.dumpBos env opened
  bos : ∀ bosDesc ∈ opened.bosDesc, Prog.All
    (WalkWithin bosDesc (bosDesc + bosDescSize opened.bosDescStatic.2))
    (device.dumpBos env opened) opened.bosAnswer.2
  hub : Prog.All (Within 0 hubBufferSize) (doHub opened.hub.1 device.descriptor.bDeviceProtocol
    device.descriptor.bcdUsb (device.hasSsp opened)) opened.hub.2
  ports : ∀ (isExtStatus : Bool) port, Prog.All (Within 0 (if isExtStatus then 8 else 4))
    (portLine device.descriptor.bcdUsb port >>= fun _ => Prog.when isExtStatus extStatusLines)
    (opened.hub.1.portStatus (if isExtStatus then 2 else 0) port).2
  qualifier : Prog.All (Within 0 10)
    (doDualspeed env device.strerror verblevel opened.qualifier.1) opened.qualifier.2
  debug : Prog.All (Within 0 4) (doDebug device.strerror verblevel opened.debug.1) opened.debug.2
  status : Prog.All (Within 0 2) (dumpDeviceStatus device.strerror opened.status.1 device.hasOtg
    (device.descriptor.bcdUsb ≥ 0x0300)) opened.status.2

theorem bounded (opened : OpenDevice) : Bounded env verblevel device opened where
  bosStatic other hother := by
    have hsize : bosDescSize other = bosDescSize opened.bosDescStatic.2 := by
      rw [bosDescSize, bosDescSize, hother 2 (by decide), hother 3 (by decide)]
    have hheader : bosHeader other = bosHeader opened.bosDescStatic.2 := by
      rw [bosHeader, bosHeader, hsize, hother 0 (by decide), hother 1 (by decide),
        hother 4 (by decide)]
    have hhead (rest : Walk Unit) : dumpBosHead (opened.bosDescStatic.1, other) rest =
        dumpBosHead opened.bosDescStatic rest := by
      have hisBos : IsBos (opened.bosDescStatic.1, other) ↔ IsBos opened.bosDescStatic := by
        simp only [IsBos, hother 0 (by decide), hother 1 (by decide)]
      refine if_congr hisBos ?_ rfl
      dsimp +instances only
      rw [hheader, hsize, hother 4 (by decide)]
    simp only [dumpBos, dumpBosDescriptor, hhead, hsize]
  bos bosDesc hbosDesc := by
    have hloop := @capabilityLoop_within env opened.bosAnswer.2 (bosDesc + 5)
      (bosDescSize opened.bosDescStatic.2 - 5) (device.descriptor.bcdUsb ≥ 0x0210)
    rw [dumpBos, hbosDesc]
    simp [dumpBosDescriptor, dumpBosHead, bosHeader]
    exact fun _ hsize _ => hloop.mono fun _ hin => hin.mono (by omega) (by omega)
  hub := doHub_within _ _
  ports isExtStatus port := portStatus_within port isExtStatus
  qualifier := doDualspeed_within
  debug := doDebug_within
  status := dumpDeviceStatus_within _ _

structure Shown : Prop where
  returns : (device.dumpdev env verblevel).result m = .ok ()
  released : steps Held.step {} ((device.dumpdev env verblevel).acts m) =
    some { device := if device.handle.isSome then .closed else .unopened }
  visited : ((device.dumpdev env verblevel).acts m).filterMap DeviceEffect.visited =
    (List.range device.descriptor.bNumConfigurations).flatMap device.configPlaces ++
      device.handle.elim [] fun opened => (device.capabilities opened).map (none, ·)
  answers : ∀ opened ∈ device.handle, ∃ before, (device.dumpdev env verblevel).acts m = before ++
    (device.askDevice { env with dev := true } verblevel opened (device.hasSsp opened)
      device.hasOtg).acts m
  bounded : ∀ opened ∈ device.handle, Bounded { env with dev := true } verblevel device opened

/-- Whatever fails, the run ends, each configuration that was found is used before it is freed and
freed once, a device that was opened is closed once, and the loops have gone through the descriptors
of all configurations and capabilities that were found. What the hub and the status are shown with
depends on the capabilities and on the first configuration. -/
theorem dumpdev_shown : Shown env verblevel device m := by
  have hconfigs (env : Env) (s : Held) (hconfig : s.config = none) :
      DumpPart (Prog.loop device.descriptor.bNumConfigurations (device.showConfig env)) m s s ()
        ((List.range device.descriptor.bNumConfigurations).flatMap device.configPlaces) :=
    DumpPart.loop (showConfig_part hconfig)
  have hnames (env : Env) (s : Held) :
      DumpPart (say (dumpDevice env device.names device.speed device.descriptor)) m s s () [] :=
    .say (result_dumpDevice _ _ _)
  cases hhandle : device.handle with
  | none =>
      have hmissing : DumpPart (say (printError
        "Couldn't open device, some information will be missing\n" [])) m {} {} () [] := .say rfl
      obtain ⟨otg, hotg, -⟩ := @otg_part device m {} rfl
      have hrun : DumpPart (device.dumpdev env verblevel) m {} {} ()
          ((List.range device.descriptor.bNumConfigurations).flatMap device.configPlaces ++
            []) := by
        rw [dumpdev, hhandle]
        exact hmissing.bind ((hnames _ _).bind (hotg.bind ((hconfigs _ _ rfl).bind (.ret ()))))
      refine ⟨hrun.returns, ?_, ?_, ?_, fun opened _ => bounded _ _ _ opened⟩
      · rw [hrun.held, hhandle]
        rfl
      · rw [hrun.places, hhandle]
        rfl
      · rw [hhandle]
        exact fun _ hnone => absurd hnone (by simp)
  | some opened =>
      have hopened : DumpPart (Prog.emit .opened) m {} { device := .opened } () [] := .emit rfl rfl
      obtain ⟨otg, hotg, hflag⟩ := @otg_part device m { device := .opened } rfl
      have hrest := hconfigs { env with dev := true } { device := .opened } rfl
      have hcaps : DumpPart (if device.descriptor.bcdUsb ≥ 0x0201 then
        device.showBos { env with dev := true } opened else pure false) m _ _ _ _ :=
        @capabilities_part { env with dev := true } device m opened { device := .opened } rfl
      have hask := @askDevice_part { env with dev := true } verblevel device m opened
        { device := .opened } rfl rfl (device.hasSsp opened) device.hasOtg
      have hrun : DumpPart (device.dumpdev env verblevel) m {} { device := .closed } ()
          ((List.range device.descriptor.bNumConfigurations).flatMap device.configPlaces ++
            ((device.capabilities opened).map (none, ·) ++ [])) := by
        rw [dumpdev, hhandle]
        refine hopened.bind ((hnames _ _).bind (hotg.bind (hrest.bind (hcaps.bind ?_))))
        rw [hflag]
        exact hask
      refine ⟨hrun.returns, ?_, ?_, ?_, fun opened _ => bounded _ _ _ opened⟩
      · rw [hrun.held, hhandle]
        rfl
      · rw [hrun.places, hhandle, List.append_nil]
        rfl
      · intro other hother
        rw [hhandle] at hother
        obtain rfl := Option.some.inj hother
        rw [dumpdev, hhandle]
        simp only [Option.isSome_some]
        rw [Prog.acts_bind_ok hopened.returns, Prog.acts_bind_ok (hnames _ {}).returns,
          Prog.acts_bind_ok hotg.returns, Prog.acts_bind_ok hrest.returns,
          Prog.acts_bind_ok hcaps.returns, hflag]
        simp only [← List.append_assoc]
        exact ⟨_, rfl⟩

end DumpedDevice

end Usbutils
