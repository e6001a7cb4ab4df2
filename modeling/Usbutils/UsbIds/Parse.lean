import Usbutils.Lib.PyText

/-! `parse_usb_ids` of `lsusb.py`. A line that is none of its kinds turns the mode to `Misc`. -/
namespace Usbutils
open PyText

inductive Mode where
  | vendor
  | usbClass
  | misc
  deriving DecidableEq, Repr

structure ParseState where
  vid : Int := 0
  did : Int := 0
  /-- Not bound before the first class. -/
  cid : Int := 0
  mode : Mode := .vendor
  cstrg : Str := []
  usbvendors : Dict Int Str := fun _ => none
  usbproducts : Dict (Int × Int) Str := fun _ => none
  usbclasses : Dict (Int × Int × Int) Str := fun _ => none

section Parse

variable (uni : Unicode)

def ishexdigit (str : Str) : Bool :=
  str.all fun dg => isdigit uni dg || ['a', 'b', 'c', 'd', 'e', 'f'].contains dg

/-- The tests of the loop behind those for a vendor and for an id with a tab. -/
def parseRest (st : ParseState) (ln : Str) : Option ParseState :=
  if slice ln 0 1 = ['C'] then do
    let cid ← intBase16 uni (slice ln 2 4)
    let cstrg := ln.drop 6
    some { st with
      mode := .usbClass, cid, cstrg, usbclasses := st.usbclasses.set (cid, -1, -1) cstrg }
  else if st.mode = .usbClass ∧ slice ln 0 2 = ['\t', '\t'] ∧ ishexdigit uni (slice ln 2 4) then do
    let prid ← intBase16 uni (slice ln 2 4)
    some { st with usbclasses := st.usbclasses.set (st.cid, st.did, prid) (ln.drop 6) }
  else some { st with mode := .misc }

/-- The id of a line with a tab before it; usb.ids has a device id of 01xy. -/
def tabbedId (ln : Str) : Option Int :=
  if slice ln 3 5 = ['x', 'y'] then (intBase16 uni (slice ln 1 3)).map (· * 256)
  else intBase16 uni (slice ln 1 5)

def parseTabbed (st : ParseState) (ln : Str) (did : Int) : Option ParseState :=
  let st := { st with did }
  match st.mode with
  | .vendor => some { st with usbproducts := st.usbproducts.set (st.vid, did) (ln.drop 7) }
  | .usbClass =>
      let nm := ln.drop 5
      let strg := if nm ≠ "Unused".toList then st.cstrg ++ ':' :: nm else st.cstrg ++ [':']
      some { st with usbclasses := st.usbclasses.set (st.cid, did, -1) strg }
  | .misc => parseRest uni st ln

/-- The body of the loop; `none` where an exception is raised. -/
def parseLine (st : ParseState) (ln : Str) : Option ParseState :=
  if slice ln 0 1 = ['#'] then some st
  else
    let ln := rstripNewline ln
    if ln = [] then some st
    else if ishexdigit uni (slice ln 0 4) then do
      let vid ← intBase16 uni (slice ln 0 4)
      some { st with mode := .vendor, vid, usbvendors := st.usbvendors.set vid (ln.drop 6) }
    else if slice ln 0 1 = ['\t'] ∧ ishexdigit uni (slice ln 1 3) then do
      let did ← tabbedId uni ln
      parseTabbed uni st ln did
    else parseRest uni st ln

structure UsbIds where
  usbvendors : Dict Int Str
  usbproducts : Dict (Int × Int) Str
  usbclasses : Dict (Int × Int × Int) Str

def vendorSpecific : Str := "Vendor Specific".toList

def parseUsbIds (text : Str) : Option UsbIds := do
  let st ← (readlines (universalNewlines text)).foldlM (parseLine uni) {}
  some {
    usbvendors := st.usbvendors
    usbproducts := st.usbproducts
    usbclasses := st.usbclasses.set (0xff, 0xff, 0xff) vendorSpecific }

end Parse

end Usbutils
