import Mathlib.Algebra.Group.Nat.Defs
import Usbutils.Effect

/-! `desc-dump.c`: dumping a descriptor by a definition array. `buf` is an
address, `bufLen` the byte length behind it and `desc` the definition. -/
namespace Usbutils
open ByteProg

def descBufLenFromBuf : Nat := 0xffffffff

def descBmcontrolFrom (bmcontrols : Nat) (strings : StringTable) (twoBits : Bool)
    (indent : Nat) : Nat → Nat → Dump Unit
  | 0, _ => Prog.stop .endless
  | fuel + 1, count => do
      match ← lookup strings count with
      | none => pure ()
      | some string => do
          Prog.when (string ≠ "") do
            if twoBits then
              let control := (bmcontrols >>> (count * 2)) &&& 0x3
              Prog.when (control ≠ 0) do
                let setting ← lookup
                  [some "read-only", some "ILLEGAL VALUE (0b10)", some "read/write"] (control - 1)
                print "%*s%s Control (%s)\n"
                  [.num (indent * 2), .str "", .str string, .str setting]
            else
              Prog.when ((bmcontrols >>> count) &&& 0x1 ≠ 0) do
                print "%*s%s Control\n" [.num (indent * 2), .str "", .str string]
          descBmcontrolFrom bmcontrols strings twoBits indent fuel (count + 1)

/-- The table ends at its null pointer, so one step more than it has entries is enough. -/
def descBmcontrolDump (bmcontrols : Nat) (strings : StringTable) (twoBits : Bool)
    (indent : Nat) : Dump Unit :=
  descBmcontrolFrom bmcontrols strings twoBits indent (strings.length + 1) 0

/-- The fall-through switch of `get_n_bytes_as_ull`, from the highest byte down. -/
def nBytesAt (address : Nat) : Nat → Dump Nat
  | 0 => pure 0
  | n + 1 => do
      let high ← Prog.byte (address + n)
      let low ← nBytesAt address n
      return high <<< (8 * n) ||| low

def getNBytesAsUll (buf offset bytes : Nat) : Dump Nat :=
  nBytesAt (buf + offset) (min bytes 8)

section Lookup

variable (buf bufLen : Nat) (desc : List Desc)

/-- The body of `get_entry_size`; `valueOf` is `get_value_from_field`. -/
def entrySizeBy (valueOf : String → Dump Nat) (entry : Desc) : Dump Nat :=
  match entry.sizeField with
  | some field => do return (← valueOf field) % 2 ^ 32
  | none =>
      if entry.size = 0 then do
        printError "Bad descriptor definition; '%s' field has zero size.\n" [.str entry.field]
        Prog.stop .exit
      else pure entry.size

/-- The search loop of `get_value_from_field`: the field and the offset the
search has accumulated when it finds it. -/
def fieldSearch (sizeOf : Desc → Dump Nat) (field : String) :
    List Desc → Nat → Dump (Option (Desc × Nat))
  | [], _ => pure none
  | current :: rest, offset =>
      if current.field = field then pure (some (current, offset))
      else do
        let size ← sizeOf current
        fieldSearch sizeOf field rest (offset + size)

/-- `get_value_from_field` and `get_entry_size` call each other; `depth` bounds
how deep. -/
def valueAtDepth : Nat → String → Dump Nat
  | 0, _ => Prog.stop .endless
  | depth + 1, field => do
      match ← fieldSearch (entrySizeBy (valueAtDepth depth)) field desc 0 with
      | none => pure 0
      | some (current, offset) =>
          if offset + current.size ≤ bufLen then getNBytesAsUll buf offset current.size
          else pure 0

/-- No chain of look-ups that ends visits a field twice, so it is at most this deep. -/
def lookupDepth : Nat := desc.length + 1

def getValueFromField (field : String) : Dump Nat :=
  valueAtDepth buf bufLen desc (lookupDepth desc) field

def getEntrySize (entry : Desc) : Dump Nat :=
  entrySizeBy (getValueFromField buf bufLen desc) entry

def fieldOffset (field : String) : Dump (Option (Desc × Nat)) :=
  fieldSearch (entrySizeBy (valueAtDepth buf bufLen desc desc.length)) field desc 0

def explicitCount (array : DescArray) (lengthField1 : String) : Dump Nat := do
  let entries := (← getValueFromField buf bufLen desc lengthField1) % 2 ^ 32
  let entries ← (match array.lengthField2 with
    | some lengthField2 => do
        return entries * (← getValueFromField buf bufLen desc lengthField2) % 2 ^ 32
    | none => pure entries)
  return if array.bits then entries / 8 + (if entries &&& 0x7 ≠ 0 then 1 else 0) else entries

/-- The bytes a field other than the array itself takes up; `none` for a second
array of inferred length. -/
def otherFieldSize (current : Desc) : Dump (Option Nat) :=
  if current.array.array then
    match current.array.lengthField1 with
    | none => pure none
    | some lengthField1 => do
        let count ← explicitCount buf bufLen desc current.array lengthField1
        if count = 0xffffffff then do
          printError "Bad descriptor definition; multiple inferred-length arrays.\n" []
          Prog.stop .exit
        else do
          return some ((← getEntrySize buf bufLen desc current) * count % 2 ^ 32)
  else do
    return some (← getEntrySize buf bufLen desc current)

/-- The loop that subtracts the other fields' sizes; `.error` is a value
returned from inside it. Field names are distinct, so comparing them compares
the pointers `current` and `array_entry`. -/
def remainingSize (arrayEntry : Desc) : List Desc → Nat → Dump (Except Nat Nat)
  | [], size => pure (.ok size)
  | current :: rest, size =>
      if current.field = arrayEntry.field then remainingSize arrayEntry rest size
      else do
        match ← otherFieldSize buf bufLen desc current with
        | none => pure (.error 0xffffffff)
        | some fieldSize =>
            if fieldSize > size then pure (.error 0)
            else remainingSize arrayEntry rest (size - fieldSize)

def getArrayEntryCount (arrayEntry : Desc) : Dump Nat :=
  match arrayEntry.array.lengthField1 with
  | some lengthField1 => explicitCount buf bufLen desc arrayEntry.array lengthField1
  | none => do
      match ← remainingSize buf bufLen desc arrayEntry desc bufLen with
      | .error entries => pure entries
      | .ok size => do
          let fieldSize ← getEntrySize buf bufLen desc arrayEntry
          return if fieldSize ≠ 0 then size / fieldSize else 0

end Lookup

def hexRenderer (buf width offset bytes : Nat) : Dump Unit := do
  let align := if width ≥ bytes * 2 then width - bytes * 2 else 0
  print " %*s0x%0*llx"
    [.num align, .str "", .num (bytes * 2), .num (← getNBytesAsUll buf offset bytes)]

def numberRenderer (buf width offset bytes : Nat) : Dump Unit :=
  if bytes = 1 then do
    print "   %*u" [.num width, ← u8 (buf + offset)]
  else hexRenderer buf width offset bytes

def descSnowflakeDumpUac2ClkSrcBmattr (value : Nat) : Dump Unit := do
  let clock ← lookup uac2ClkSrcBmattr (value &&& 0x3)
  let sync ← (if value &&& 0x4 ≠ 0 then lookup uac3ClkSrcBmattr 3 else pure (some ""))
  print " %s clock %s\n" [.str clock, .str sync]

def descSnowflakeDumpUac3ClkSrcBmattr (value : Nat) : Dump Unit := do
  let clock ← lookup uac3ClkSrcBmattr (value &&& 0x1)
  let sync ← lookup uac3ClkSrcBmattr (0x2 ||| ((value &&& 0x2) >>> 1))
  print " %s clock %s\n" [.str clock, .str sync]

def descSnowflakeDumpUac1AsInterfaceWformattag (value : Nat) : Dump Unit := do
  let formatString ←
    (if value < (0x0 <<< 12) + audioDataFormatTypeI.length then
      lookup audioDataFormatTypeI value
    else if value ≥ 0x1 <<< 12 ∧ value < (0x1 <<< 12) + audioDataFormatTypeIi.length then
      lookup audioDataFormatTypeIi (value &&& 0xfff)
    else if value ≥ 0x2 <<< 12 ∧ value < (0x2 <<< 12) + audioDataFormatTypeIii.length then
      lookup audioDataFormatTypeIii (value &&& 0xfff)
    else pure (some "undefined"))
  print " %s\n" [.str formatString]

def descSnowflakeDumpUac2AsInterfaceBmformats (value indent : Nat) : Dump Unit := do
  print "\n" []
  Prog.loop 5 fun i =>
    Prog.when ((value >>> i) &&& 0x1 ≠ 0) do
      print "%*s%s\n"
        [.num (indent * 2), .str "", .str (← lookup audioDataFormatTypeI (i + 1))]

def descSnowflakeMidiSourcePair (value : Nat) : Dump Unit :=
  print " (ID %u, Pin %u)\n" [.num (value &&& 0xff), .num ((value >>> 8) % 2 ^ 32)]

def Snowflake.dump : Snowflake → Nat → Nat → Dump Unit
  | .uac2ClkSrcBmattr, value, _ => descSnowflakeDumpUac2ClkSrcBmattr value
  | .uac3ClkSrcBmattr, value, _ => descSnowflakeDumpUac3ClkSrcBmattr value
  | .uac1AsInterfaceWformattag, value, _ => descSnowflakeDumpUac1AsInterfaceWformattag value
  | .uac2AsInterfaceBmformats, value, indent => descSnowflakeDumpUac2AsInterfaceBmformats value indent
  | .midiSourcePair, value, _ => descSnowflakeMidiSourcePair value

def numberStringsFrom (strings : StringTable) (value : Nat) : Nat → Nat → Dump Unit
  | 0, _ => Prog.stop .endless
  | fuel + 1, i =>
      Prog.when (i ≤ value) do
        match ← lookup strings i with
        | none => pure ()
        | some string => do
            Prog.when (value = i) do
              print " %s" [.str string]
            numberStringsFrom strings value fuel (i + 1)

/-- `desc_dump` is `nested`: it is called for the data of an extension. -/
def valueRenderer (env : Env) (nested : DescId → Nat → Nat → Dump Unit) (current : Desc)
    (currentSize buf bufLen : Nat) (desc : List Desc) (indent offset : Nat) : Dump Unit :=
  let sizeChars := 4
  match current.type with
  | .number | .constant => do
      numberRenderer buf sizeChars offset currentSize
      print "\n" []
  | .numberPostfix text => do
      numberRenderer buf sizeChars offset currentSize
      print "%s\n" [.str text]
  | .numberStrings strings => do
      let value ← getNBytesAsUll buf offset currentSize
      numberRenderer buf sizeChars offset currentSize
      numberStringsFrom strings value (strings.length + 1) 0
      print "\n" []
  | .bcd => do
      print "  %2x" [← u8 (buf + (offset + currentSize - 1))]
      Prog.loop (currentSize - 1) fun i => do
        print ".%02x" [← u8 (buf + (offset + currentSize - 1 - (i + 1)))]
      print "\n" []
  | .bitmap => do
      hexRenderer buf sizeChars offset currentSize
      print "\n" []
  | .bmcontrol1 strings => do
      hexRenderer buf sizeChars offset currentSize
      print "\n" []
      descBmcontrolDump (← getNBytesAsUll buf offset currentSize) strings false (indent + 1)
  | .bmcontrol2 strings => do
      hexRenderer buf sizeChars offset currentSize
      print "\n" []
      descBmcontrolDump (← getNBytesAsUll buf offset currentSize) strings true (indent + 1)
  | .bitmapStrings strings count => do
      let value ← getNBytesAsUll buf offset currentSize
      hexRenderer buf sizeChars offset currentSize
      print "\n" []
      Prog.loop count fun i => do
        match ← lookup strings i with
        | none => pure ()
        | some string =>
            Prog.when ((value >>> i) &&& 0x1 ≠ 0) do
              print "%*s%s\n" [.num ((indent + 1) * 2), .str "", .str string]
  | .strDescIndex => do
      numberRenderer buf sizeChars offset currentSize
      match env.getDevString (← Prog.byte (buf + offset)) with
      | some string => print " %s\n" [.str string]
      | none => print "\n" []
  | .csStrDescId => do
      numberRenderer buf sizeChars offset currentSize
      print "\n" []
  | .terminalStr => do
      numberRenderer buf sizeChars offset currentSize
      let termName := env.namesAudioterminal ((← getNBytesAsUll buf offset currentSize) % 2 ^ 16)
      print " %s\n" [.str (termName.getD "(unknown)")]
  | .extension typeField d => do
      let type := (← getValueFromField buf bufLen desc typeField) % 2 ^ 32
      match d.find? fun ext => ext.1 = type with
      | some ext => nested ext.2 (buf + offset) (bufLen - offset)
      | none => nested .undefined (buf + offset) (bufLen - offset)
  | .snowflake snowflake => do
      numberRenderer buf sizeChars offset currentSize
      snowflake.dump (← getNBytesAsUll buf offset currentSize) (indent + 1)

def getCharCountForArrayIndex (arrayEntries : Nat) : Nat :=
  if arrayEntries > 100 then 5 else if arrayEntries > 10 then 4 else 3

/-- An unsigned subtraction that is logged; the model's value is the code's
where it does not wrap. -/
def minus (a b : Nat) : Dump Nat := do
  Prog.emit (.subtract a b)
  return a - b

def fieldRender (entry entries fieldLen : Nat) (current : Desc) (indent : Nat) : Dump Unit :=
  if current.array.array then do
    let neededChars ←
      minus (← minus fieldLen (getCharCountForArrayIndex entries)) current.field.length
    print "%*s%s(%u)%*s"
      [.num (indent * 2), .str "", .str current.field, .num entry, .num neededChars, .str ""]
  else
    print "%*s%-*s" [.num (indent * 2), .str "", .num fieldLen, .str current.field]

def trailingBytes (buf bufLen offset : Nat) : Dump Unit :=
  Prog.loop (bufLen - offset) fun i => do
    let byte ← Prog.byte (buf + (offset + i))
    Prog.emit (.trailing (buf + (offset + i)))
    print "%02x " [.num byte]

def columnWidth (buf bufLen : Nat) (desc : List Desc) : List Desc → Nat → Dump Nat
  | [], fieldLen => pure fieldLen
  | current :: rest, fieldLen => do
      let neededChars ← (if current.array.array then do
          return getCharCountForArrayIndex (← getArrayEntryCount buf bufLen desc current)
        else pure 0)
      columnWidth buf bufLen desc rest
        (if current.field.length + neededChars > fieldLen then current.field.length + neededChars
         else fieldLen)

section Fields

variable (env : Env) (nested : DescId → Nat → Nat → Dump Unit) (desc : DescId)
  (buf bufLen indent fieldLen : Nat)

def dumpEntry (current : Desc) (entries currentSize entry offset : Nat) : Dump Unit := do
  Prog.when (current.type.isExtension = false) do
    fieldRender entry entries fieldLen current indent
  Prog.emit (.field desc current entry (buf + offset) currentSize)
  valueRenderer env nested current currentSize buf bufLen desc.fields indent offset

/-- The loop over the entries of a field; `none` is the return from inside it. -/
def dumpEntries (current : Desc) (entries currentSize : Nat) :
    Nat → Nat → Nat → Dump (Option Nat)
  | 0, _, offset => pure (some offset)
  | remaining + 1, entry, offset =>
      if offset + currentSize > bufLen then do
        print "%*sWarning: Length insufficient for descriptor type.\n"
          [.num ((indent - 1) * 2), .str ""]
        trailingBytes buf bufLen offset
        print "\n" []
        return none
      else do
        dumpEntry env nested desc buf bufLen indent fieldLen current entries currentSize entry offset
        -- an extension consumes all remaining bytes
        dumpEntries current entries currentSize remaining (entry + 1)
          (if current.type.isExtension then bufLen else offset + currentSize)

def dumpFields : List Desc → Nat → Dump (Option Nat)
  | [], offset => pure (some offset)
  | current :: rest, offset => do
      let entries ← (if current.array.array then getArrayEntryCount buf bufLen desc.fields current
        else pure 1)
      let currentSize ← getEntrySize buf bufLen desc.fields current
      match ← dumpEntries env nested desc buf bufLen indent fieldLen current entries currentSize
          entries 0 offset with
      | none => return none
      | some offset => dumpFields rest offset

end Fields

def bufferLength (desc : DescId) (buf bufLen : Nat) : Dump Nat :=
  if bufLen = descBufLenFromBuf then do
    return (← getNBytesAsUll buf 0 (desc.fields.head?.elim 0 Desc.size)) % 2 ^ 32
  else pure bufLen

/-- `desc_dump` calls itself for an extension; `depth` bounds how often. -/
def descDumpAtDepth (env : Env) (indent : Nat) : Nat → DescId → Nat → Nat → Dump Unit
  | 0, _, _, _ => Prog.stop .endless
  | depth + 1, desc, buf, bufLen => do
      let bufLen ← bufferLength desc buf bufLen
      Prog.emit (.dump desc buf bufLen)
      let fieldLen ← columnWidth buf bufLen desc.fields desc.fields 18
      match ← dumpFields env (descDumpAtDepth env indent depth) desc buf bufLen indent fieldLen
          desc.fields 0 with
      | none => pure ()
      | some offset =>
          Prog.when (offset < bufLen) do
            print "%*sWarning: Junk at end of descriptor (%zu bytes):\n"
              [.num ((indent - 1) * 2), .str "", .num (bufLen - offset)]
            print "%*s" [.num (indent * 2), .str ""]
            trailingBytes buf bufLen offset
            print "\n" []

/-- Extension data is dumped by definitions that have no extension themselves. -/
def descDump (env : Env) (desc : DescId) (buf bufLen indent : Nat) : Dump Unit :=
  descDumpAtDepth env indent 2 desc buf bufLen

end Usbutils
