import Usbutils.Tree.Sort

/-! `print_tree` of `lsusb-t.c`, and what `lsusb -t` does from the directory to the tree. -/
namespace Usbutils
open Linked

def bDeviceClassToStr (dc : Nat) : String :=
  if dc = 9 then "root_hub"
  else
    let digits := Nat.toDigits 16 dc
    let padded := if digits.length < 2 then '0' :: digits else digits
    "'bDeviceClass 0x" ++ String.ofList padded ++ " not yet handled'"

def lanesToStr (tx rx : Nat) : String :=
  if tx = rx then if tx < 2 then "" else "/x" ++ toString tx
  else "/Tx" ++ toString tx ++ "+Rx" ++ toString rx

def strArg (s : String) : Arg := .str (some s)

def sysfsRoot : String := "/sys/bus/usb/devices"

section Lines

variable (env : SysfsEnv)

/-- `get_vendor_string` and `get_product_string` take 16 bits. -/
def idArgs (idVendor idProduct : Nat) : List Arg :=
  [.num idVendor, .num idProduct, strArg (env.getVendorString (idVendor % 2 ^ 16)),
    strArg (env.getProductString (idVendor % 2 ^ 16) (idProduct % 2 ^ 16))]

def nameArgs (name : Name) (busnum devnum : Nat) : List Arg :=
  [strArg sysfsRoot, nameArg name, .num busnum, .num devnum]

def printUsbbusnode (b : UsbBusnode) : List Effect :=
  .print "/:  Bus %03u.Port %03u: Dev %03u, Class=%s, Driver=%s/%up, %sM%s\n"
      [.num b.busnum, .num 1, .num b.devnum, strArg (bDeviceClassToStr b.bDeviceClass),
        nameArg b.driver, .num b.maxchild, strArg b.speed, strArg (lanesToStr b.txLanes b.rxLanes)] ::
    (if env.verblevel ≥ 1 then
      [.print "    ID %04x:%04x %s %s\n" (idArgs env b.idVendor b.idProduct)] else []) ++
    if env.verblevel ≥ 2 then
      [.print "    %s/%s  /dev/bus/usb/%03d/%03d\n" (nameArgs b.name b.busnum b.devnum)] else []

def deviceLine (d : UsbDevice) : Option UsbInterface → Effect
  | none => .print "Port %03u: Dev %03u, %sM%s\n"
      [.num d.portnum, .num d.devnum, strArg d.speed, strArg (lanesToStr d.txLanes d.rxLanes)]
  | some i =>
      -- `get_class_string` takes 8 bits
      let subcls := strArg (env.getClassString (i.bInterfaceClass % 2 ^ 8))
      if i.bInterfaceClass = 9 then
        .print "Port %03u: Dev %03u, If %u, Class=%s, Driver=%s/%up, %sM%s\n"
          [.num d.portnum, .num d.devnum, .num i.ifnum, subcls, nameArg i.driver, .num d.maxchild,
            strArg d.speed, strArg (lanesToStr d.txLanes d.rxLanes)]
      else
        .print "Port %03u: Dev %03u, If %u, Class=%s, Driver=%s, %sM%s\n"
          [.num d.portnum, .num d.devnum, .num i.ifnum, subcls, nameArg i.driver,
            strArg d.speed, strArg (lanesToStr d.txLanes d.rxLanes)]

def indentation (indent : Nat) (s : String) : Effect :=
  .print " %*s" [.num indent, strArg s]

def printString (format s : String) : List Effect :=
  if s.length > 0 then [.print format [strArg s]] else []

def printUsbdevice (indent : Nat) (d : UsbDevice) (i : Option UsbInterface) : List Effect :=
  deviceLine env d i ::
    (if env.verblevel ≥ 1 then
      [indentation indent "    ",
        .print "ID %04x:%04x %s %s\n" (idArgs env d.idVendor d.idProduct)] else []) ++
    (if env.verblevel ≥ 2 then
      [indentation indent "    ",
        .print "%s/%s  /dev/bus/usb/%03d/%03d\n" (nameArgs d.name d.busnum d.devnum)] else []) ++
    if env.verblevel ≥ 3 ∧ (d.manufacturer.length > 0 ∨ d.product.length > 0 ∨ d.serial.length > 0) then
      indentation indent "    " ::
        (printString "Manufacturer=%s " d.manufacturer ++ printString "Product=%s " d.product ++
          printString "Serial=%s" d.serial ++ [.print "\n" []])
    else []

end Lines

section Tree

variable (env : SysfsEnv) (st : State) (w : Wires)

def Wires.printInterfaces (w : Wires) (indent d : Nat) (i : Option Nat) : Option (List Effect) := do
  let line := indentation indent "|__ " ::
    printUsbdevice env indent (st.device d) (i.map st.interface)
  match i with
  | none => return line
  | some i =>
      match w.ifaces (.next i) with
      | none => return line
      | some i => return line ++ (← w |>.printInterfaces indent d (some i))
partial_fixpoint

def printTreeDevInterface (indent d : Nat) : Option (List Effect) :=
  w.printInterfaces env st (indent + 3) d (w.ifaces (.ofDevice d))

mutual

def Wires.printTreeDevChildren (w : Wires) (indent : Nat) (d : Option Nat) : Option (List Effect) :=
  w |>.printSiblings (indent + 4) d
partial_fixpoint

def Wires.printSiblings (w : Wires) (indent : Nat) (d : Option Nat) : Option (List Effect) := do
  match d with
  | none => return []
  | some d =>
      let own ← printTreeDevInterface env st w indent d
      let below ← w |>.printTreeDevChildren indent (w.devices (.child d))
      let behind ← w |>.printSiblings indent (w.devices (.next d))
      return own ++ (below ++ behind)
partial_fixpoint

end

def Wires.printTreeFrom (w : Wires) (busLinks : Links BusCell Nat) (b : Option Nat) :
    Option (List Effect) := do
  match b with
  | none => return []
  | some b =>
      let below ←
        (if w.devices (.root b) = none then return []
        else w.printTreeDevChildren env st 0 (w.devices (.root b)))
      let behind ← w |>.printTreeFrom busLinks (busLinks (.next b))
      return printUsbbusnode env (st.bus b) ++ (below ++ behind)
partial_fixpoint

def printTree (busLinks : Links BusCell Nat) : Option (List Effect) :=
  w.printTreeFrom env st busLinks (busLinks .usbbuslist)

end Tree

/-- What is printed for a directory with these names, in the order of `readdir`; `none` if the
program does not end. -/
def lsusbT (env : SysfsEnv) (names : List Name) : Option (List Effect) := do
  let st ← walkUsbDevices env names
  let w ← connectDevices st
  let w ← sortDevices st w
  let busLinks ← sortBusses st st.busLinks
  let tree ← printTree env st w busLinks
  return st.printed ++ tree

section Forest

variable {env : SysfsEnv} {st : State} {w : Wires} {cell : DeviceCell} {f : Forest Nat}

def devicePart (env : SysfsEnv) (st : State) (ifaces : List Nat) (indent d : Nat) : List Effect :=
  (if ifaces = [] then [none] else ifaces.map (some ∘ st.interface)).flatMap fun i =>
    indentation indent "|__ " :: printUsbdevice env indent (st.device d) i

def forestPart (env : SysfsEnv) (st : State) (lists : IfaceCell → List Nat) :
    Nat → Forest Nat → List Effect
  | _, .nil => []
  | indent, .cons d kids rest =>
      devicePart env st (lists (.ofDevice d)) (indent + 3) d ++
        (forestPart env st lists (indent + 4) kids ++ forestPart env st lists indent rest)

theorem printInterfaces_chain {i : Nat} {rest : List Nat}
    (h : Chain .next w.ifaces (.next i) rest) (indent d : Nat) :
    w.printInterfaces env st indent d (some i) = some (devicePart env st (i :: rest) indent d) := by
  induction rest generalizing i with
  | nil =>
      rw [Wires.printInterfaces]
      simp [chain_nil.mp h, devicePart]
  | cons j rest ih =>
      rw [Wires.printInterfaces]
      simp [h.1, ih h.2, devicePart]

theorem printTreeDevInterface_chain {d : Nat} {ifaces : List Nat}
    (h : Chain .next w.ifaces (.ofDevice d) ifaces) (indent : Nat) :
    printTreeDevInterface env st w indent d = some (devicePart env st ifaces (indent + 3) d) := by
  rw [printTreeDevInterface]
  cases ifaces with
  | nil =>
      rw [chain_nil.mp h, Wires.printInterfaces]
      simp [devicePart]
  | cons i rest =>
      rw [h.1]
      exact printInterfaces_chain h.2 _ d

theorem printSiblings_forest {lists : IfaceCell → List Nat} (h : Forest.Holds w.devices cell f)
    (hifaces : ∀ d, Chain .next w.ifaces (.ofDevice d) (lists (.ofDevice d))) (indent : Nat) :
    w.printSiblings env st indent (w.devices cell) = some (forestPart env st lists indent f) := by
  induction f generalizing cell indent with
  | nil =>
      rw [Forest.holds_nil.mp h, Wires.printSiblings]
      rfl
  | cons d kids rest ihkids ihrest =>
      obtain ⟨hcell, hkids, hrest⟩ := h
      have hown : printTreeDevInterface env st w indent d =
          some (devicePart env st (lists (.ofDevice d)) (indent + 3) d) :=
        printTreeDevInterface_chain (hifaces d) indent
      have hbelow := ihkids hkids (indent + 4)
      have hbehind := ihrest hrest indent
      rw [hcell, Wires.printSiblings]
      simp only [hown, Wires.printTreeDevChildren, hbelow, hbehind]
      rfl

theorem forestPart_row {lists : IfaceCell → List Nat} (below : Nat → Forest Nat) (indent : Nat)
    (siblings : List Nat) : forestPart env st lists indent (Forest.row below siblings) =
      siblings.flatMap fun d => devicePart env st (lists (.ofDevice d)) (indent + 3) d ++
        forestPart env st lists (indent + 4) (below d) := by
  induction siblings with
  | nil => rfl
  | cons d rest ih =>
      rw [Forest.row_cons, forestPart, ih, List.flatMap_cons, List.append_assoc]

theorem forestPart_congr {lists lists' : IfaceCell → List Nat}
    (h : ∀ d ∈ f.nodes, lists' (.ofDevice d) = lists (.ofDevice d)) (indent : Nat) :
    forestPart env st lists' indent f = forestPart env st lists indent f := by
  induction f generalizing indent with
  | nil => rfl
  | cons d kids rest ihkids ihrest =>
      have hkids := ihkids (fun i hi => h i (List.mem_cons_of_mem d (List.mem_append_left _ hi)))
        (indent + 4)
      have hrest := ihrest (fun i hi => h i (List.mem_cons_of_mem d (List.mem_append_right _ hi))) indent
      rw [forestPart, forestPart, h d List.mem_cons_self, hkids, hrest]

/-- The lines of all buses, each followed by those of the forest on it. -/
theorem printTreeFrom_chain {busLinks : Links BusCell Nat} {bus : BusCell} {buses : List Nat}
    {forests : Nat → Forest Nat} {lists : IfaceCell → List Nat}
    (hchain : Chain .next busLinks bus buses)
    (hforests : ∀ b ∈ buses, Forest.Holds w.devices (.root b) (forests b))
    (hifaces : ∀ d, Chain .next w.ifaces (.ofDevice d) (lists (.ofDevice d))) :
    w.printTreeFrom env st busLinks (busLinks bus) =
      some (buses.flatMap fun b =>
        printUsbbusnode env (st.bus b) ++ forestPart env st lists 4 (forests b)) := by
  induction buses generalizing bus with
  | nil =>
      rw [chain_nil.mp hchain, Wires.printTreeFrom]
      rfl
  | cons b rest ih =>
      obtain ⟨hb, hrest⟩ := List.forall_mem_cons.mp hforests
      have hbehind := ih hchain.2 hrest
      have hbelow : (if w.devices (.root b) = none then return []
          else w.printTreeDevChildren env st 0 (w.devices (.root b))) =
            some (forestPart env st lists 4 (forests b)) := by
        have hsiblings : w.printSiblings env st 4 (w.devices (.root b)) =
            some (forestPart env st lists 4 (forests b)) := printSiblings_forest hb hifaces 4
        split_ifs with hnone
        · rw [hnone, Wires.printSiblings] at hsiblings
          exact hsiblings
        · rw [Wires.printTreeDevChildren]
          exact hsiblings
      rw [hchain.1, Wires.printTreeFrom]
      simp only [hbelow, hbehind]
      simp

end Forest

end Usbutils
