import Usbutils.HidDump.Run

/-! The devices that `usbhid-dump` opens: `dev_list.c` and `dev.c`. -/
namespace Usbutils
open Calls Calls.Proc

structure LusbDevice where
  busNumber : Nat
  deviceAddress : Nat
  idVendor : Nat
  idProduct : Nat

/-- A device, its handle and its `uhd_dev` are the index of the device in the list of libusb. -/
inductive DevCall where
  | getDeviceDescriptor (idx : Nat)
  | malloc (idx : Nat)
  | openDev (idx : Nat)
  | closeDev (idx : Nat)
  | free (idx : Nat)
  | freeDeviceList
  deriving DecidableEq, Repr

structure DevMask where
  busNum : Nat
  devAddr : Nat
  vid : Nat
  pid : Nat

def DevMask.skipsPlace (mask : DevMask) (dev : LusbDevice) : Bool :=
  (mask.busNum != 0 && dev.busNumber != mask.busNum) ||
    (mask.devAddr != 0 && dev.deviceAddress != mask.devAddr)

def DevMask.hasKind (mask : DevMask) : Bool := mask.vid != 0 || mask.pid != 0

def DevMask.skipsKind (mask : DevMask) (dev : LusbDevice) : Bool :=
  (mask.vid != 0 && mask.vid != dev.idVendor) || (mask.pid != 0 && mask.pid != dev.idProduct)

def uhdDevOpen (idx : Nat) : Proc DevCall (Except Int Nat) := do
  let dev ← ask (.malloc idx)
  (if dev = 0 then return .error libusbErrorNoMem
  else do
    let err ← ask (.openDev idx)
    (if err ≠ libusbSuccess then do
      tell (.free idx)
      return .error err
    else return .ok idx))

def uhdDevClose (dev : Nat) : Proc DevCall Unit := do
  tell (.closeDev dev)
  tell (.free dev)

def uhdDevListClose : List Nat → Proc DevCall Unit
  | [] => return ()
  | dev :: next => do
      uhdDevClose dev
      uhdDevListClose next

/-- The body of the loop for one device: an error, `continue`, or the open device. -/
def tryDevice (mask : DevMask) (idx : Nat) (lusbDev : LusbDevice) :
    Proc DevCall (Except Int (Option Nat)) :=
  if mask.skipsPlace lusbDev then return .ok none
  else do
    let err ← (if mask.hasKind then ask (.getDeviceDescriptor idx) else return libusbSuccess)
    (if err ≠ libusbSuccess then return .error err
    -- without a kind in the mask this skips nothing
    else if mask.skipsKind lusbDev then return .ok none
    else do
      let dev ← uhdDevOpen idx
      return dev.map some)

def openLoop (mask : DevMask) : Nat → List LusbDevice → List Nat →
    Proc DevCall (Option Int × List Nat)
  | _, [], list => return (none, list)
  | idx, lusbDev :: rest, list => do
      match ← tryDevice mask idx lusbDev with
      | .error err => return (some err, list)
      | .ok none => openLoop mask (idx + 1) rest list
      | .ok (some dev) => openLoop mask (idx + 1) rest (dev :: list)

abbrev Enumeration := Except {err : Int // err < 0} (List LusbDevice)

/-- The result, and the list that is written to `*plist`, if any; `plist` says whether this is
not null. -/
def uhdDevListOpen (enumeration : Enumeration) (mask : DevMask) (plist : Bool) :
    Proc DevCall (Int × Option (List Nat)) :=
  let num : Int := match enumeration with
    | .error err => err.val
    | .ok lusbList => lusbList.length
  let lusbList := match enumeration with
    | .error _ => []
    | .ok lusbList => lusbList
  if num = libusbErrorNoMem then do
    uhdDevListClose []
    return (num, none)
  else do
    let (failed, list) ← openLoop mask 0 lusbList []
    match failed with
    | some err => do
        uhdDevListClose list
        tell .freeDeviceList
        return (err, none)
    | none => do
        tell .freeDeviceList
        (if plist then return (libusbSuccess, some list)
        else do
          uhdDevListClose list
          return (libusbSuccess, none))

section Outcome

variable (answers : DevCall → Int) (mask : DevMask)

def DevMask.Matches (dev : LusbDevice) : Prop :=
  (mask.busNum = 0 ∨ dev.busNumber = mask.busNum) ∧
    (mask.devAddr = 0 ∨ dev.deviceAddress = mask.devAddr) ∧
    (mask.vid = 0 ∨ dev.idVendor = mask.vid) ∧ (mask.pid = 0 ∨ dev.idProduct = mask.pid)

instance (dev : LusbDevice) : Decidable (mask.Matches dev) :=
  inferInstanceAs (Decidable (_ ∧ _))

def failure (idx : Nat) (dev : LusbDevice) : Option Int :=
  if mask.skipsPlace dev then none
  else if mask.hasKind ∧ answers (.getDeviceDescriptor idx) ≠ libusbSuccess then
    some (answers (.getDeviceDescriptor idx))
  else if ¬mask.Matches dev then none
  else if answers (.malloc idx) = 0 then some libusbErrorNoMem
  else if answers (.openDev idx) ≠ libusbSuccess then some (answers (.openDev idx))
  else none

def firstFailure (idx : Nat) (devices : List LusbDevice) : Option Int :=
  (devices.zipIdx idx).findSome? fun dev => failure answers mask dev.2 dev.1

def matchingDevs (idx : Nat) (devices : List LusbDevice) : List Nat :=
  ((devices.zipIdx idx).filter fun dev => mask.Matches dev.1).map Prod.snd

/-- Success means that nothing failed, and gives the matching devices; otherwise there is the
error of the failing call and no list. What has been opened is in the list or closed once. -/
structure AllOrNothing (enumeration : Enumeration) (plist : Bool) (result : Int)
    (output : Option (List Nat)) (calls : Log DevCall) : Prop where
  success : result = libusbSuccess ↔
    ∃ devices, enumeration = .ok devices ∧ firstFailure answers mask 0 devices = none
  error : result ≠ libusbSuccess → (∀ err, enumeration = .error err → result = err) ∧
    ∀ devices, enumeration = .ok devices → firstFailure answers mask 0 devices = some result
  written : output.isSome = true ↔ result = libusbSuccess ∧ plist = true
  listed : ∀ list ∈ output, ∀ devices, enumeration = .ok devices →
    list.Perm (matchingDevs mask 0 devices) ∧ list.Nodup ∧ ∀ idx ∈ list, (.openDev idx, 0) ∈ calls
  closed : ∀ idx, (calls.map Prod.fst).count (.closeDev idx) =
    if (.openDev idx, 0) ∈ calls ∧ output = none then 1 else 0

end Outcome

section Makes

variable (answers : DevCall → Int) (mask : DevMask)

theorem skips_iff (dev : LusbDevice) :
    mask.Matches dev ↔ mask.skipsPlace dev = false ∧ mask.skipsKind dev = false := by
  unfold DevMask.Matches DevMask.skipsPlace DevMask.skipsKind
  grind

/-- A procedure for this device makes these calls about it: it is open behind them or not. -/
structure About (idx : Nat) (opened : Bool) (calls : Log DevCall) : Prop where
  opens : ∀ i, (.openDev i, 0) ∈ calls ↔ i = idx ∧ opened = true
  closes : ∀ i, .closeDev i ∉ calls.map Prod.fst

theorem uhdDevOpen_makes (idx : Nat) (log : Log DevCall) :
    ∃ calls, Makes (uhdDevOpen idx) (fun _ => answers) log
        (if answers (.malloc idx) = 0 then .error libusbErrorNoMem
        else if answers (.openDev idx) ≠ libusbSuccess then .error (answers (.openDev idx))
        else .ok idx) calls ∧
      About idx (answers (.malloc idx) ≠ 0 ∧ answers (.openDev idx) = libusbSuccess) calls := by
  have hmalloc := makes_ask (fun _ => answers) log (.malloc idx)
  by_cases hblock : answers (.malloc idx) = 0
  · refine ⟨[(.malloc idx, answers (.malloc idx))] ++ [], hmalloc.bind ?_, ?_, ?_⟩
    · rw [if_pos hblock, if_pos hblock]
      exact makes_pure _ _ _
    · simp [hblock]
    · simp
  · have hopen := makes_ask (fun _ => answers) (log ++ [(.malloc idx, answers (.malloc idx))])
      (.openDev idx)
    by_cases herr : answers (.openDev idx) ≠ libusbSuccess
    · refine ⟨[(.malloc idx, answers (.malloc idx))] ++
        ([(.openDev idx, answers (.openDev idx))] ++ ([(.free idx, 0)] ++ [])),
        hmalloc.bind ?_, ?_, ?_⟩
      · rw [if_neg hblock, if_neg hblock]
        apply hopen.bind
        rw [if_pos herr, if_pos herr]
        exact (makes_tell _ _ _).bind (makes_pure _ _ _)
      · have hne : answers (.openDev idx) ≠ 0 := herr
        simp [hne, Ne.symm hne, libusbSuccess]
      · simp
    · refine ⟨[(.malloc idx, answers (.malloc idx))] ++
        ([(.openDev idx, answers (.openDev idx))] ++ []), hmalloc.bind ?_, ?_, ?_⟩
      · rw [if_neg hblock, if_neg hblock]
        apply hopen.bind
        rw [if_neg herr, if_neg herr]
        exact makes_pure _ _ _
      · have heq : answers (.openDev idx) = 0 := Decidable.not_not.mp herr
        simp [hblock, heq, libusbSuccess]
      · simp

def outcome (idx : Nat) (dev : LusbDevice) : Except Int (Option Nat) :=
  match failure answers mask idx dev with
  | some err => .error err
  | none => .ok (if mask.Matches dev then some idx else none)

theorem getDeviceDescriptor_makes (idx : Nat) (log : Log DevCall) :
    ∃ err calls, Makes (if mask.hasKind then ask (.getDeviceDescriptor idx)
        else return libusbSuccess) (fun _ => answers) log err calls ∧
      (err ≠ libusbSuccess ↔
        mask.hasKind ∧ answers (.getDeviceDescriptor idx) ≠ libusbSuccess) ∧
      (err ≠ libusbSuccess → err = answers (.getDeviceDescriptor idx)) ∧ About idx false calls := by
  cases hkind : mask.hasKind with
  | true =>
      refine ⟨_, _, makes_ask _ _ _, by simp, fun _ => rfl, ?_, ?_⟩ <;> simp
  | false =>
      exact ⟨libusbSuccess, [], makes_pure _ _ _, by simp, fun h => absurd rfl h, by simp, by simp⟩

variable {answers mask}

theorem About.append {idx : Nat} {opened : Bool} {first second : Log DevCall}
    (hfirst : About idx false first) (hsecond : About idx opened second) :
    About idx opened (first ++ second) where
  opens i := by
    rw [List.mem_append, hfirst.opens, hsecond.opens]
    simp
  closes i := by
    rw [List.map_append, List.mem_append, not_or]
    exact ⟨hfirst.closes i, hsecond.closes i⟩

theorem about_nil (idx : Nat) : About idx false [] := ⟨by simp, by simp⟩

theorem outcome_opened {idx : Nat} {dev : LusbDevice} (hplace : mask.skipsPlace dev = false)
    (hmatch : mask.Matches dev)
    (hread : ¬(mask.hasKind ∧ answers (.getDeviceDescriptor idx) ≠ libusbSuccess)) :
    outcome answers mask idx dev = (if answers (.malloc idx) = 0 then .error libusbErrorNoMem
      else if answers (.openDev idx) ≠ libusbSuccess then .error (answers (.openDev idx))
      else .ok idx : Except Int Nat).map some := by
  unfold outcome failure
  rw [hplace, if_neg Bool.false_ne_true, if_neg hread, if_neg (not_not_intro hmatch),
    if_pos hmatch]
  by_cases hblock : answers (.malloc idx) = 0
  · rw [if_pos hblock, if_pos hblock]
    rfl
  · by_cases hdev : answers (.openDev idx) ≠ libusbSuccess
    · rw [if_neg hblock, if_neg hblock, if_pos hdev, if_pos hdev]
      rfl
    · rw [if_neg hblock, if_neg hblock, if_neg hdev, if_neg hdev]
      rfl

theorem opens_map (idx : Nat) :
    ((if answers (.malloc idx) = 0 then .error libusbErrorNoMem
      else if answers (.openDev idx) ≠ libusbSuccess then .error (answers (.openDev idx))
      else .ok idx : Except Int Nat).map some matches .ok (some _)) =
      decide (answers (.malloc idx) ≠ 0 ∧ answers (.openDev idx) = libusbSuccess) := by
  by_cases hblock : answers (.malloc idx) = 0
  · simp [hblock, Except.map]
  · by_cases hdev : answers (.openDev idx) = libusbSuccess <;> simp [hblock, hdev, Except.map]

variable (answers mask)

theorem tryDevice_makes (idx : Nat) (dev : LusbDevice) (log : Log DevCall) :
    ∃ calls, Makes (tryDevice mask idx dev) (fun _ => answers) log (outcome answers mask idx dev)
        calls ∧ About idx (outcome answers mask idx dev matches .ok (some _)) calls := by
  have hmatches := skips_iff mask dev
  unfold tryDevice
  cases hplace : mask.skipsPlace dev with
  | true =>
      have hout : outcome answers mask idx dev = .ok none := by
        simp [outcome, failure, hplace, hmatches]
      rw [hout]
      exact ⟨[], makes_pure _ _ _, about_nil idx⟩
  | false =>
      rw [if_neg Bool.false_ne_true]
      obtain ⟨err, calls, hrun, hfails, herr, habout⟩ :=
        getDeviceDescriptor_makes answers mask idx log
      by_cases hfailed : err ≠ libusbSuccess
      · have hout : outcome answers mask idx dev = .error err := by
          simp [outcome, failure, hplace, hfails.mp hfailed, herr hfailed]
        rw [hout]
        refine ⟨calls ++ [], hrun.bind ?_, habout.append (about_nil idx)⟩
        rw [if_pos hfailed]
        exact makes_pure _ _ _
      · have hread := mt hfails.mpr hfailed
        cases hkind : mask.skipsKind dev with
        | true =>
            have hout : outcome answers mask idx dev = .ok none := by
              simp [outcome, failure, hplace, hkind, hmatches, hread]
            rw [hout]
            refine ⟨calls ++ [], hrun.bind ?_, habout.append (about_nil idx)⟩
            rw [if_neg hfailed, if_pos rfl]
            exact makes_pure _ _ _
        | false =>
            obtain ⟨opening, hopen, habout'⟩ := uhdDevOpen_makes answers idx (log ++ calls)
            have hmatch : mask.Matches dev := hmatches.mpr ⟨hplace, hkind⟩
            rw [outcome_opened hplace hmatch hread, opens_map]
            refine ⟨calls ++ (opening ++ []), hrun.bind ?_, ?_⟩
            · rw [if_neg hfailed, if_neg Bool.false_ne_true]
              exact hopen.bind (makes_pure _ _ _)
            · rw [List.append_nil]
              exact habout.append habout'

structure Opened (idx : Nat) (opened : List Nat) (calls : Log DevCall) : Prop where
  opens : ∀ i, (.openDev i, 0) ∈ calls ↔ i ∈ opened
  closes : ∀ i, .closeDev i ∉ calls.map Prod.fst
  nodup : opened.Nodup
  behind : ∀ i ∈ opened, idx ≤ i

variable {answers mask}

theorem opened_none (idx : Nat) : Opened idx [] [] := ⟨by simp, by simp, List.nodup_nil, nofun⟩

theorem Opened.cons {idx : Nat} {isOpen : Bool} {opened : List Nat} {first calls : Log DevCall}
    (h : Opened (idx + 1) opened calls) (hfirst : About idx isOpen first) :
    Opened idx (opened ++ if isOpen then [idx] else []) (first ++ calls) where
  opens i := by
    rw [List.mem_append, List.mem_append, hfirst.opens, h.opens, or_comm]
    cases isOpen <;> simp
  closes i := by
    rw [List.map_append, List.mem_append, not_or]
    exact ⟨hfirst.closes i, h.closes i⟩
  nodup := by
    cases isOpen with
    | false => simpa using h.nodup
    | true =>
        rw [if_pos rfl, List.nodup_append]
        refine ⟨h.nodup, List.pairwise_singleton _ idx, fun i hi j hj => ?_⟩
        have hbehind := h.behind i hi
        rw [List.mem_singleton.mp hj]
        omega
  behind i hi := by
    rcases List.mem_append.mp hi with hi | hi
    · exact Nat.le_of_succ_le (h.behind i hi)
    · cases isOpen with
      | false => cases hi
      | true => exact Nat.le_of_eq (List.mem_singleton.mp hi).symm

variable (answers mask)

theorem openLoop_makes (idx : Nat) (devices : List LusbDevice) (list : List Nat)
    (log : Log DevCall) :
    ∃ opened calls, Makes (openLoop mask idx devices list) (fun _ => answers) log
        (firstFailure answers mask idx devices, opened ++ list) calls ∧
      Opened idx opened calls ∧ (firstFailure answers mask idx devices = none →
        opened = (matchingDevs mask idx devices).reverse) := by
  induction devices generalizing idx list log with
  | nil => exact ⟨[], [], makes_pure _ _ _, opened_none idx, fun _ => rfl⟩
  | cons dev rest ih =>
      obtain ⟨calls, hrun, habout⟩ := tryDevice_makes answers mask idx dev log
      have hfirst : firstFailure answers mask idx (dev :: rest) =
          (failure answers mask idx dev).or (firstFailure answers mask (idx + 1) rest) := by
        rw [firstFailure, List.zipIdx_cons, List.findSome?_cons]
        cases failure answers mask idx dev <;> rfl
      have hmatching : matchingDevs mask idx (dev :: rest) =
          (if mask.Matches dev then [idx] else []) ++ matchingDevs mask (idx + 1) rest := by
        rw [matchingDevs, List.zipIdx_cons, List.filter_cons]
        by_cases hmatch : mask.Matches dev <;> simp [hmatch, matchingDevs]
      unfold outcome at hrun habout
      cases hfailure : failure answers mask idx dev with
      | some err =>
          rw [hfailure] at hrun habout hfirst
          refine ⟨[], calls ++ [], hrun.bind ?_, (opened_none _).cons habout, ?_⟩
          · rw [hfirst]
            exact makes_pure _ _ _
          · intro hnone
            rw [hfirst] at hnone
            cases hnone
      | none =>
          rw [hfailure] at hrun habout hfirst
          by_cases hmatch : mask.Matches dev
          · rw [if_pos hmatch] at hrun habout hmatching
            obtain ⟨opened, calls', hrest, hopened, hall⟩ := ih (idx + 1) (idx :: list) (log ++ calls)
            refine ⟨opened ++ [idx], calls ++ calls', hrun.bind ?_, hopened.cons habout, ?_⟩
            · rw [hfirst, List.append_assoc]
              exact hrest
            · intro hnone
              rw [hfirst] at hnone
              rw [hmatching, hall hnone, List.reverse_append]
              rfl
          · rw [if_neg hmatch] at hrun habout hmatching
            obtain ⟨opened, calls', hrest, hopened, hall⟩ := ih (idx + 1) list (log ++ calls)
            have hopened' := hopened.cons habout
            rw [if_neg Bool.false_ne_true, List.append_nil] at hopened'
            refine ⟨opened, calls ++ calls', hrun.bind ?_, hopened', ?_⟩
            · rw [hfirst]
              exact hrest
            · intro hnone
              rw [hfirst] at hnone
              rw [hmatching, hall hnone]
              rfl

theorem uhdDevListClose_makes (env : Oracle DevCall) (list : List Nat) (log : Log DevCall) :
    ∃ calls, Makes (uhdDevListClose list) env log () calls ∧
      (∀ i, (calls.map Prod.fst).count (.closeDev i) = list.count i) ∧
      ∀ i, .openDev i ∉ calls.map Prod.fst := by
  induction list generalizing log with
  | nil => exact ⟨[], makes_pure _ _ _, by simp, by simp⟩
  | cons dev next ih =>
      obtain ⟨calls, hrest, hcloses, hopens⟩ := ih (log ++ ([(.closeDev dev, 0)] ++ [(.free dev, 0)]))
      refine ⟨[(.closeDev dev, 0)] ++ [(.free dev, 0)] ++ calls, ?_, fun i => ?_, fun i => ?_⟩
      · have hclose : Makes (uhdDevClose dev) env log () ([(.closeDev dev, 0)] ++ [(.free dev, 0)]) :=
          (makes_tell _ _ _).bind (makes_tell _ _ _)
        exact hclose.bind hrest
      · rw [List.map_append, List.count_append, hcloses, List.count_cons, Nat.add_comm]
        congr 1
        by_cases hi : dev = i <;> simp [hi]
      · rw [List.map_append, List.mem_append, not_or]
        exact ⟨by simp, hopens i⟩

theorem firstFailure_ne {idx : Nat} {devices : List LusbDevice} {err : Int}
    (h : firstFailure answers mask idx devices = some err) : err ≠ libusbSuccess := by
  obtain ⟨⟨dev, i⟩, -, hfailure⟩ := List.exists_of_findSome?_eq_some h
  unfold failure at hfailure
  grind [libusbSuccess, libusbErrorNoMem]

theorem count_of_opened {idx : Nat} {opened : List Nat} {first second : Log DevCall}
    (hopened : Opened idx opened first)
    (hcloses : ∀ i, (second.map Prod.fst).count (.closeDev i) = opened.count i)
    (hopens : ∀ i, .openDev i ∉ second.map Prod.fst) (i : Nat) :
    ((first ++ second).map Prod.fst).count (.closeDev i) =
      if (.openDev i, 0) ∈ first ++ second then 1 else 0 := by
  have hmem : (.openDev i, 0) ∈ first ++ second ↔ i ∈ opened := by
    rw [List.mem_append, hopened.opens, or_iff_left]
    exact fun h => hopens i (List.mem_map_of_mem h)
  rw [List.map_append, List.count_append, List.count_eq_zero.mpr (hopened.closes i), Nat.zero_add,
    hcloses, hopened.nodup.count]
  simp only [hmem]

theorem allOrNothing_noMem {err : {err : Int // err < 0}} (hmem : err.val = libusbErrorNoMem)
    (plist : Bool) : Makes (uhdDevListOpen (.error err) mask plist) (fun _ => answers) []
        (err.val, none) [] ∧
      AllOrNothing answers mask (.error err) plist err.val none [] := by
  have hne : err.val ≠ libusbSuccess := by
    rw [hmem]
    decide
  constructor
  · rw [uhdDevListOpen]
    dsimp only
    rw [if_pos hmem]
    exact makes_pure _ _ _
  · refine ⟨?_, ?_, ?_, nofun, fun idx => rfl⟩
    · exact iff_of_false hne (by rintro ⟨devices, heq, -⟩; cases heq)
    · exact fun _ => ⟨fun err' heq => by rw [Except.error.inj heq], fun devices heq => by cases heq⟩
    · exact iff_of_false Bool.false_ne_true fun h => hne h.1

theorem not_allOrNothing_swallowed {err : {err : Int // err < 0}}
    (hmem : err.val ≠ libusbErrorNoMem) (plist : Bool) :
    (uhdDevListOpen (.error err) mask plist (fun _ => answers) []).1.1 = libusbSuccess := by
  rw [uhdDevListOpen]
  dsimp only
  rw [if_neg hmem]
  cases plist <;> rfl

theorem uhdDevListOpen_makes {devices : List LusbDevice} {failed : Option Int} {opened : List Nat}
    {calls later : Log DevCall} {result : Int × Option (List Nat)} (plist : Bool)
    (hloop : Makes (openLoop mask 0 devices []) (fun _ => answers) [] (failed, opened) calls)
    (h : Makes (match failed with
      | some err => do
          uhdDevListClose opened
          tell .freeDeviceList
          return (err, none)
      | none => do
          tell .freeDeviceList
          (if plist then return (libusbSuccess, some opened)
          else do
            uhdDevListClose opened
            return (libusbSuccess, none))) (fun _ => answers) ([] ++ calls) result later) :
    Makes (uhdDevListOpen (.ok devices) mask plist) (fun _ => answers) [] result
      (calls ++ later) := by
  have hnum : ¬(devices.length : Int) = libusbErrorNoMem := by
    rw [libusbErrorNoMem]
    omega
  rw [uhdDevListOpen]
  dsimp only
  rw [if_neg hnum]
  exact hloop.bind h

section Results

variable {answers mask} {devices : List LusbDevice} {opened : List Nat} {calls later : Log DevCall}

theorem allOrNothing_failed {err : Int} (hfailure : firstFailure answers mask 0 devices = some err)
    (hopened : Opened 0 opened calls)
    (hcloses : ∀ i, (later.map Prod.fst).count (.closeDev i) = opened.count i)
    (hopens : ∀ i, .openDev i ∉ later.map Prod.fst) (plist : Bool) :
    AllOrNothing answers mask (.ok devices) plist err none (calls ++ later) := by
  have hne := firstFailure_ne answers mask hfailure
  refine ⟨?_, ?_, ?_, nofun, fun i => ?_⟩
  · apply iff_of_false hne
    rintro ⟨devices', heq, hnone⟩
    rw [← Except.ok.inj heq, hfailure] at hnone
    cases hnone
  · exact fun _ => ⟨nofun, fun devices' heq => Except.ok.inj heq ▸ hfailure⟩
  · exact iff_of_false Bool.false_ne_true fun h => hne h.1
  · simp only [count_of_opened hopened hcloses hopens i, and_true]

theorem success_iff (hfailure : firstFailure answers mask 0 devices = none) :
    libusbSuccess = libusbSuccess ↔ ∃ devices', (Except.ok devices : Enumeration) = .ok devices' ∧
      firstFailure answers mask 0 devices' = none :=
  iff_of_true rfl ⟨devices, rfl, hfailure⟩

theorem allOrNothing_handed (hfailure : firstFailure answers mask 0 devices = none)
    (hopened : Opened 0 opened calls) (hall : opened = (matchingDevs mask 0 devices).reverse)
    (hlater : later = [(.freeDeviceList, 0)]) :
    AllOrNothing answers mask (.ok devices) true libusbSuccess (some opened) (calls ++ later) := by
  subst hlater
  refine ⟨success_iff hfailure, fun hne => absurd rfl hne, ?_, ?_, ?_⟩
  · exact iff_of_true rfl ⟨rfl, rfl⟩
  · intro list hlist devices' heq
    obtain rfl := Option.some.inj hlist
    obtain rfl := Except.ok.inj heq
    refine ⟨?_, hopened.nodup, fun i hi => ?_⟩
    · rw [hall]
      exact List.reverse_perm _
    · exact List.mem_append_left _ ((hopened.opens i).mpr hi)
  · intro i
    rw [List.map_append, List.count_append, List.count_eq_zero.mpr (hopened.closes i)]
    simp

theorem allOrNothing_closed (hfailure : firstFailure answers mask 0 devices = none)
    (hopened : Opened 0 opened calls)
    (hcloses : ∀ i, (later.map Prod.fst).count (.closeDev i) = opened.count i)
    (hopens : ∀ i, .openDev i ∉ later.map Prod.fst) :
    AllOrNothing answers mask (.ok devices) false libusbSuccess none (calls ++ later) := by
  refine ⟨success_iff hfailure, fun hne => absurd rfl hne, ?_, nofun, fun i => ?_⟩
  · exact iff_of_false Bool.false_ne_true fun h => Bool.false_ne_true h.2
  · simp only [count_of_opened hopened hcloses hopens i, and_true]

end Results

theorem allOrNothing_devices (devices : List LusbDevice) (plist : Bool) :
    ∃ result output calls, Makes (uhdDevListOpen (.ok devices) mask plist) (fun _ => answers) []
        (result, output) calls ∧
      AllOrNothing answers mask (.ok devices) plist result output calls := by
  obtain ⟨opened, calls, hloop, hopened, hall⟩ := openLoop_makes answers mask 0 devices [] []
  rw [List.append_nil] at hloop
  cases hfailure : firstFailure answers mask 0 devices with
  | some err =>
      rw [hfailure] at hloop
      obtain ⟨closing, hclose, hcloses, hopens⟩ :=
        uhdDevListClose_makes (fun _ => answers) opened ([] ++ calls)
      refine ⟨err, none, _,
        uhdDevListOpen_makes answers mask plist hloop
          (hclose.bind ((makes_tell _ _ _).bind (makes_pure _ _ _))), ?_⟩
      exact allOrNothing_failed hfailure hopened (by simpa using hcloses) (by simpa using hopens) _
  | none =>
      rw [hfailure] at hloop
      cases plist with
      | true =>
          refine ⟨libusbSuccess, some opened, _,
            uhdDevListOpen_makes answers mask true hloop
              ((makes_tell _ _ _).bind (makes_pure _ _ _)), ?_⟩
          exact allOrNothing_handed hfailure hopened (hall hfailure) (List.append_nil _)
      | false =>
          obtain ⟨closing, hclose, hcloses, hopens⟩ := uhdDevListClose_makes (fun _ => answers)
            opened ([] ++ calls ++ [(.freeDeviceList, 0)])
          refine ⟨libusbSuccess, none, _,
            uhdDevListOpen_makes answers mask false hloop
              ((makes_tell _ _ _).bind (hclose.bind (makes_pure _ _ _))), ?_⟩
          exact allOrNothing_closed hfailure hopened (by simpa using hcloses) (by simpa using hopens)

end Makes

/-- A list of devices is opened as a whole or not at all, exactly if the error of the enumeration
is the one that is checked for, or there is none. -/
theorem uhdDevListOpen_allOrNothing_iff (enumeration : Enumeration) (answers : DevCall → Int)
    (mask : DevMask) (plist : Bool) :
    AllOrNothing answers mask enumeration plist
        (uhdDevListOpen enumeration mask plist (fun _ => answers) []).1.1
        (uhdDevListOpen enumeration mask plist (fun _ => answers) []).1.2
        (uhdDevListOpen enumeration mask plist (fun _ => answers) []).2 ↔
      ∀ err, enumeration = .error err → err.val = libusbErrorNoMem := by
  cases enumeration with
  | error err =>
      by_cases hmem : err.val = libusbErrorNoMem
      · have hrun := allOrNothing_noMem answers mask hmem plist
        rw [hrun.1]
        exact iff_of_true hrun.2 fun err' heq => Except.error.inj heq ▸ hmem
      · apply iff_of_false
        · intro h
          obtain ⟨devices, heq, -⟩ :=
            h.success.mp (not_allOrNothing_swallowed answers mask hmem plist)
          cases heq
        · exact fun h => hmem (h err rfl)
  | ok devices =>
      obtain ⟨result, output, calls, hrun, hall⟩ :=
        allOrNothing_devices answers mask devices plist
      rw [hrun]
      exact iff_of_true hall nofun

theorem uhdDevListOpen_swallowed :
    (uhdDevListOpen (.error ⟨-1, by decide⟩) ⟨0, 0, 0, 0⟩ true (fun _ _ => 0) []).1 =
        (libusbSuccess, some []) ∧
      ¬AllOrNothing (fun _ => 0) ⟨0, 0, 0, 0⟩ (.error ⟨-1, by decide⟩) true libusbSuccess (some [])
        (uhdDevListOpen (.error ⟨-1, by decide⟩) ⟨0, 0, 0, 0⟩ true (fun _ _ => 0) []).2 := by
  refine ⟨rfl, fun h => ?_⟩
  obtain ⟨devices, heq, -⟩ := h.success.mp rfl
  cases heq

end Usbutils
