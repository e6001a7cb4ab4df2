import Usbutils.Lsusb.Print

/-! `do_hub` and `dump_hub` of `lsusb.c`. The memory is the buffer of the hub descriptor, which
holds the reply to the request for it. -/
namespace Usbutils
open ByteProg

def hubStatusBytelen : Nat := 3

/-- 7 bytes for the base descriptor, and two bitmasks. -/
def hubBufferSize : Nat := 7 + 2 * hubStatusBytelen

def hubCharacteristic (pre : String) (ttType wHubChar : Nat) : Dump Unit := do
  print (match wHubChar &&& 0x03 with
    | 0 => "%s    Ganged power switching\n"
    | 1 => "%s    Per-port power switching\n"
    | _ => "%s    No power switching (usb 1.0)\n") [text pre]
  Prog.when (wHubChar &&& 0x04 ≠ 0) do
    print "%s    Compound device\n" [text pre]
  print (match wHubChar >>> 3 &&& 0x03 with
    | 0 => "%s    Ganged overcurrent protection\n"
    | 1 => "%s    Per-port overcurrent protection\n"
    | _ => "%s    No overcurrent protection\n") [text pre]
  Prog.when (1 ≤ ttType ∧ ttType < 3) do
    print "%s    TT think time %d FS bits\n"
      [text pre, .num (((wHubChar >>> 5 &&& 0x03) + 1) * 8)]
  Prog.when (ttType ≠ 3 ∧ wHubChar &&& 1 <<< 7 ≠ 0) do
    print "%s    Port indicators\n" [text pre]

def hubFields (pre : String) (p ttType : Nat) : Dump Unit := do
  let high ← Prog.byte (p + 4)
  let wHubChar := high <<< 8 ||| (← Prog.byte (p + 3))
  print "%sHub Descriptor:\n" [text pre]
  print "%s  bLength             %3u\n" [text pre, ← u8 p]
  print "%s  bDescriptorType     %3u\n" [text pre, ← u8 (p + 1)]
  print "%s  nNbrPorts           %3u\n" [text pre, ← u8 (p + 2)]
  print "%s  wHubCharacteristic 0x%04x\n" [text pre, .num wHubChar]
  hubCharacteristic pre ttType wHubChar
  print "%s  bPwrOn2PwrGood      %3u * 2 milli seconds\n" [text pre, ← u8 (p + 5)]
  if ttType = 3 then do
    print "%s  bHubContrCurrent   %4u milli Ampere\n" [text pre, .num ((← Prog.byte (p + 6)) * 4)]
    print "%s  bHubDecLat          0.%1u micro seconds\n" [text pre, ← u8 (p + 7)]
    print "%s  wHubDelay          %4u nano seconds\n" [text pre, ← le16 (p + 8)]
  else
    print "%s  bHubContrCurrent    %3u milli Ampere\n" [text pre, ← u8 (p + 6)]

def maskHeading (pre : String) : Effect := .print "\n%s  PortPwrCtrlMask   " [text pre]

def hubBitmaps (pre : String) (p ttType offset l : Nat) : Dump Unit := do
  print "%s  DeviceRemovable   " [text pre]
  Prog.loop l fun i => do
    print " 0x%02x" [← u8 (p + (offset + i))]
  Prog.when (ttType ≠ 3) do
    Prog.emit (maskHeading pre)
    Prog.loop l fun j => do
      print " 0x%02x" [← u8 (p + (offset + l + j))]
  print "\n" []

def dumpHub (pre : String) (p ttType : Nat) : Dump Unit := do
  hubFields pre p ttType
  let nNbrPorts ← Prog.byte (p + 2)
  hubBitmaps pre p ttType (if ttType = 3 then 10 else 7) (min (nNbrPorts >>> 3 + 1) hubStatusBytelen)

/-- The results of the requests: for the descriptor by its type, and for the status of a port by
the kind of status, with the bytes that it is in. -/
structure HubReplies where
  descriptor : Nat → Int
  portStatus : Nat → Nat → Int × Memory
  errno : Nat
  libusbErrorName : Int → String
  strerror : Nat → String

def ehostunreach : Nat := 113

def linkStateDescriptions : StringTable :=
  [some "U0", some "U1", some "U2", some "suspend", some "SS.disabled", some "Rx.Detect",
    some "SS.Inactive", some "Polling", some "Recovery", some "Hot Reset", some "Compliance",
    some "Loopback"]

def flags (value : Nat) (names : List (Nat × String)) : List Arg :=
  names.map fun (mask, name) => text (if value &&& mask ≠ 0 then name else "")

def portLine (speed port : Nat) : Dump Unit := do
  let status0 ← Prog.byte 0
  let status1 ← Prog.byte 1
  let status2 ← Prog.byte 2
  print "   Port %d: %02x%02x.%02x%02x"
    [.num port, ← u8 3, .num status2, .num status1, .num status0]
  if speed < 0x0300 then do
    print "%s%s%s%s%s" (flags status2 [(0x10, " C_RESET"), (0x08, " C_OC"), (0x04, " C_SUSPEND"),
      (0x02, " C_ENABLE"), (0x01, " C_CONNECT")])
    print "%s%s%s%s%s%s%s%s%s%s%s\n" (flags status1 [(0x10, " indicator"), (0x08, " test"),
        (0x04, " highspeed"), (0x02, " lowspeed"), (0x01, " power")] ++
      flags status0 [(0x20, " L1"), (0x10, " RESET"), (0x08, " oc"), (0x04, " suspend"),
        (0x02, " enable"), (0x01, " connect")])
  else do
    let linkState := (status0 &&& 0xe0) >>> 5 + (status1 &&& 0x1) <<< 3
    print "%s%s%s%s%s%s" (flags status2 [(0x80, " C_CONFIG_ERROR"), (0x40, " C_LINK_STATE"),
      (0x20, " C_BH_RESET"), (0x10, " C_RESET"), (0x08, " C_OC"), (0x01, " C_CONNECT")])
    print "%s%s" (text (if status1 &&& 0x1c = 0 then " 5Gbps" else " Unknown Speed") ::
      flags status1 [(0x02, " power")])
    Prog.when (linkState < linkStateDescriptions.length) do
      print " %s" [.str (← lookup linkStateDescriptions linkState)]
    print "%s%s%s%s\n" (flags status0 [(0x10, " RESET"), (0x08, " oc"), (0x02, " enable"),
      (0x01, " connect")])

def extStatusLines : Dump Unit := do
  let status0 ← Prog.byte 0
  Prog.when (status0 &&& 0x01 ≠ 0) do
    let status4 ← Prog.byte 4
    let status5 ← Prog.byte 5
    print "     Ext Status: %02x%02x.%02x%02x\n"
      [← u8 7, ← u8 6, .num status5, .num status4]
    print "       RX Speed Attribute ID: %d Lanes: %d\n"
      [.num (status4 &&& 0x0f), .num ((status5 &&& 0x0f) + 1)]
    print "       TX Speed Attribute ID: %d Lanes: %d\n"
      [.num (status4 >>> 4 &&& 0x0f), .num ((status5 >>> 4 &&& 0x0f) + 1)]

/-- The loop over the ports; the first failure ends it. -/
def hubPortLoop (replies : HubReplies) (speed : Nat) (isExtStatus : Bool) : Nat → Nat → Dump Unit
  | 0, _ => pure ()
  | count + 1, port =>
      match replies.portStatus (if isExtStatus then 2 else 0) port with
      | (ret, status) =>
          if ret < 0 then
            printError "cannot read port %d status, %s (%d)\n"
              [.num port, text (replies.strerror replies.errno), .num replies.errno]
          else do
            Prog.elsewhere status do
              portLine speed port
              Prog.when isExtStatus extStatusLines
            hubPortLoop replies speed isExtStatus count (port + 1)

def doHub (replies : HubReplies) (ttType speed : Nat) (hasSsp : Bool) : Dump Unit := do
  let isExtStatus := ttType = 3 ∧ speed ≥ 0x0310 ∧ hasSsp
  let ret := replies.descriptor (if speed ≥ 0x0300 then 0x2a else 0x29)
  if ret < 0 then
    -- Linux returns EHOSTUNREACH for suspended devices
    Prog.when (replies.errno ≠ ehostunreach) do
      printError "can't get hub descriptor, %s (%s)\n"
        [text (replies.libusbErrorName ret), text (replies.strerror replies.errno)]
  else if ret < 9 then printError "incomplete hub descriptor, %d bytes\n" [.int ret]
  else do
    dumpHub "" 0 ttType
    print " Hub Port Status:\n" []
    hubPortLoop replies speed isExtStatus (← Prog.byte 2) 1

def readsBehind (heading : Effect) (log : List (Entry Effect)) : List Nat :=
  (log.dropWhile (· ≠ .act heading)).filterMap fun
    | .read a => some a
    | .act _ => none

/-- All bytes that are shown are from the reply and from the buffer, and the second bitmap begins
behind the first one, which has a bit for the hub and for each port. -/
structure HubShown (m : Memory) (pre : String) (p ttType ret : Nat) : Prop where
  received : Prog.All (Within p (p + ret)) (dumpHub pre p ttType) m
  buffered : Prog.All (Within p (p + hubBufferSize)) (dumpHub pre p ttType) m
  mask : ttType ≠ 3 → (readsBehind (maskHeading pre) ((dumpHub pre p ttType).log m)).head? =
    some (p + 7 + ((m (p + 2)).toNat + 1 + 7) / 8)

section Shown

variable (m : Memory) (pre : String) (p ttType : Nat)

@[simp] theorem result_hubCharacteristic (wHubChar : Nat) :
    (hubCharacteristic pre ttType wHubChar).result m = .ok () := by
  simp [hubCharacteristic]

@[simp] theorem hubCharacteristic_within (wHubChar lo hi : Nat) :
    Prog.All (Within lo hi) (hubCharacteristic pre ttType wHubChar) m := by
  simp [hubCharacteristic]

@[simp] theorem result_hubFields : (hubFields pre p ttType).result m = .ok () := by
  simp [hubFields, le16]

theorem hubFields_within (n : Nat) : Prog.All (Within p (p + n)) (hubFields pre p ttType) m ↔
    if ttType = 3 then 10 ≤ n else 7 ≤ n := by
  by_cases hthree : ttType = 3
  · simp [hubFields, hthree, le16]
    omega
  · simp [hubFields, hthree]
    omega

theorem bytes_within (first n : Nat) {l : Nat} (hl : 0 < l) :
    Prog.All (Within p (p + n)) (Prog.loop l fun i => do print " 0x%02x" [← u8 (p + (first + i))])
      m ↔ first + l ≤ n := by
  rw [Prog.all_loop_iff l (by simp)]
  simp only [Prog.all_bind, all_u8, within_read, result_u8, Except.ok.injEq, forall_eq', all_print,
    within_print, and_true]
  constructor
  · intro h
    have hlast := h (l - 1) (by omega)
    omega
  · intro h i hi
    omega

theorem result_bytes (first l : Nat) :
    (Prog.loop l fun i => do print " 0x%02x" [← u8 (p + (first + i))] : Dump Unit).result m =
      .ok () :=
  Prog.result_loop l fun i => by simp

theorem hubBitmaps_within (offset n : Nat) {l : Nat} (hl : 0 < l) :
    Prog.All (Within p (p + n)) (hubBitmaps pre p ttType offset l) m ↔
      offset + (if ttType = 3 then l else 2 * l) ≤ n := by
  have hloop := bytes_within m p offset n hl
  have hmask := bytes_within m p (offset + l) n hl
  have hresult := result_bytes m p offset l
  have hresult' := result_bytes m p (offset + l) l
  by_cases hthree : ttType = 3
  · simp [hubBitmaps, hthree, maskHeading, hloop, hresult]
  · simp [hubBitmaps, hthree, maskHeading, hloop, hmask, hresult, hresult']
    omega

def bitmapLength : Nat := min ((m (p + 2)).toNat / 8 + 1) hubStatusBytelen

theorem bitmapLength_eq :
    min ((m (p + 2)).toNat >>> 3 + 1) hubStatusBytelen = bitmapLength m p := by
  rw [bitmapLength, Nat.shiftRight_eq_div_pow]

theorem bitmapLength_pos : 0 < bitmapLength m p := by
  rw [bitmapLength, hubStatusBytelen]
  omega

theorem dumpHub_within (n : Nat) : Prog.All (Within p (p + n)) (dumpHub pre p ttType) m ↔
    (if ttType = 3 then 10 + bitmapLength m p else 7 + 2 * bitmapLength m p) ≤ n := by
  have hfields := hubFields_within m pre p ttType n
  have hpos := bitmapLength_pos m p
  have hbitmaps (offset : Nat) := hubBitmaps_within m pre p ttType offset n hpos
  simp only [dumpHub, Prog.all_bind, hfields, result_hubFields, Except.ok.injEq, forall_eq',
    Prog.all_byte, within_read, Prog.result_byte, bitmapLength_eq, hbitmaps, forall_const]
  by_cases hthree : ttType = 3
  · simp only [hthree, if_true]
    omega
  · simp only [hthree, if_false]
    omega

theorem hubFields_heading :
    Prog.All (fun entry => entry ≠ .act (maskHeading pre)) (hubFields pre p ttType) m := by
  by_cases hthree : ttType = 3
  · simp [hubFields, hubCharacteristic, hthree, le16, maskHeading]
    constructor <;> split <;> decide
  · simp [hubFields, hubCharacteristic, hthree, maskHeading]
    constructor <;> split <;> decide

theorem readsBehind_append {heading : Effect} {front back : List (Entry Effect)}
    (h : ∀ entry ∈ front, entry ≠ .act heading) :
    readsBehind heading (front ++ back) = readsBehind heading back := by
  rw [readsBehind, readsBehind, List.dropWhile_append_of_pos]
  exact fun entry hentry => decide_eq_true (h entry hentry)

theorem bytes_heading (first l : Nat) :
    Prog.All (fun entry => entry ≠ .act (maskHeading pre))
      (Prog.loop l fun i => do print " 0x%02x" [← u8 (p + (first + i))]) m := by
  apply Prog.all_loop
  intro i _
  simp [maskHeading]

theorem readsBehind_bitmaps (htype : ttType ≠ 3) (offset : Nat) {l : Nat} (hl : 0 < l) :
    (readsBehind (maskHeading pre) ((hubBitmaps pre p ttType offset l).log m)).head? =
      some (p + (offset + l)) := by
  have hresult := result_bytes m p offset l
  have hresult' := result_bytes m p (offset + l) l
  have hfirst := bytes_heading m pre p offset l
  have hsecond : ∃ rest, (Prog.loop l fun j => do print " 0x%02x" [← u8 (p + (offset + l + j))] :
      Dump Unit).log m = .read (p + (offset + l)) :: rest := by
    obtain ⟨count, rfl⟩ := Nat.exists_eq_succ_of_ne_zero (Nat.pos_iff_ne_zero.mp hl)
    exact ⟨_, rfl⟩
  obtain ⟨rest, hrest⟩ := hsecond
  have hlog : (hubBitmaps pre p ttType offset l).log m =
      (.act (.print "%s  DeviceRemovable   " [text pre]) ::
        (Prog.loop l fun i => do print " 0x%02x" [← u8 (p + (offset + i))] : Dump Unit).log m) ++
      .act (maskHeading pre) :: .read (p + (offset + l)) :: (rest ++ [.act (.print "\n" [])]) := by
    have hprint (format : String) (args : List Arg) :
        (print format args).log m = [.act (.print format args)] := rfl
    simp only [hubBitmaps, Prog.log_bind, hprint, result_print, hresult, Prog.when, if_pos htype,
      Prog.result_bind, Prog.log_emit, Prog.result_emit, hresult', hrest]
    simp
  rw [hlog, readsBehind_append]
  · simp [readsBehind]
  · exact List.forall_mem_cons.mpr ⟨by simp [maskHeading], hfirst⟩

theorem readsBehind_dumpHub (htype : ttType ≠ 3) :
    (readsBehind (maskHeading pre) ((dumpHub pre p ttType).log m)).head? =
      some (p + (7 + bitmapLength m p)) := by
  have hread : readsBehind (maskHeading pre) ((dumpHub pre p ttType).log m) =
      readsBehind (maskHeading pre) ((hubBitmaps pre p ttType 7 (bitmapLength m p)).log m) := by
    rw [dumpHub, Prog.log_bind, result_hubFields]
    simp only [Prog.log_bind, Prog.log_byte, Prog.result_byte, bitmapLength_eq, htype, if_false]
    rw [readsBehind_append (hubFields_heading m pre p ttType), readsBehind_append (by simp)]
  rw [hread, readsBehind_bitmaps m pre p ttType htype 7 (bitmapLength_pos m p)]

end Shown

theorem doHub_log (replies : HubReplies) (ttType speed : Nat) (hasSsp : Bool) (m : Memory)
    (hret : 9 ≤ replies.descriptor (if speed ≥ 0x0300 then 0x2a else 0x29)) :
    (dumpHub "" 0 ttType).log m <+: (doHub replies ttType speed hasSsp).log m := by
  unfold doHub
  simp only
  rw [if_neg (by omega), if_neg (by omega), Prog.log_bind]
  exact List.prefix_append ..

/-- All that is shown is from the reply, and the bitmaps are where they should be, exactly if the
reply has the bytes of both bitmaps; the ones of a SuperSpeed hub are cut off at three bytes. -/
theorem dumpHub_shown_iff (m : Memory) (pre : String) (p ttType ret : Nat) :
    HubShown m pre p ttType ret ↔
      if ttType = 3 then 10 + min ((m (p + 2)).toNat / 8 + 1) 3 ≤ ret
      else (m (p + 2)).toNat ≤ 23 ∧ 7 + 2 * ((m (p + 2)).toNat / 8 + 1) ≤ ret := by
  have hreceived := dumpHub_within m pre p ttType ret
  have hbuffered := dumpHub_within m pre p ttType hubBufferSize
  have hmask := readsBehind_dumpHub m pre p ttType
  simp only [bitmapLength, hubBufferSize, hubStatusBytelen] at hreceived hbuffered hmask
  by_cases hthree : ttType = 3
  · rw [if_pos hthree] at hreceived hbuffered ⊢
    constructor
    · exact fun h => hreceived.mp h.received
    · exact fun h => ⟨hreceived.mpr h, hbuffered.mpr (by omega), fun hne => absurd hthree hne⟩
  · rw [if_neg hthree] at hreceived hbuffered ⊢
    have hstart := hmask hthree
    constructor
    · intro h
      have hlong := hreceived.mp h.received
      have hplace := Option.some.inj ((h.mask hthree).symm.trans hstart)
      omega
    · rintro ⟨hports, hlong⟩
      refine ⟨hreceived.mpr (by omega), hbuffered.mpr (by omega), fun _ => ?_⟩
      rw [hstart]
      congr 1
      omega

/-- A reply of 9 bytes for a hub with 8 ports: 11 bytes are shown. -/
theorem dumpHub_shown_short :
    ¬HubShown (fun a => if a = 2 then 8 else 0) "" 0 1 9 ∧
      .read 10 ∈ (dumpHub "" 0 1).log (fun a => if a = 2 then 8 else 0) := by
  constructor
  · intro h
    have hlong := (dumpHub_within _ "" 0 1 9).mp h.received
    exact absurd hlong (by decide)
  · decide

end Usbutils
