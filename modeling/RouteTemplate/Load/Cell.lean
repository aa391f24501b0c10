import RouteTemplate.Decimal.Reader
import RouteTemplate.Load.Error
import RouteTemplate.Load.Target
import RouteTemplate.Text.Utf8

/-!
# RouteTemplate.Load.Cell — loading a single text
-/

namespace RouteTemplate.Load

/-- Reads a number of a type of whole numbers. -/
def readInt? (type : IntType) (cs : List Char) : Option Int :=
  let n? := if type.isSigned then integer? cs else (unsigned? cs).map Int.ofNat
  n?.filter fun n => decide (type.Holds n)

/-- Reads `true` or `false`. -/
def readBool? (cs : List Char) : Option Bool :=
  if cs = "true".toList then some true
  else if cs = "false".toList then some false
  else none

/-- Reads a text of one character. -/
def readChar? : List Char → Option Char
  | [c] => some c
  | _ => none

/-- The value that was read, or the refusal of the text. -/
def orInvalid (cs : List Char) (expected : String) : Option Loaded → Except LoadError Loaded
  | some l => .ok l
  | none => .error (.invalidValue cs expected)

/-- The description of a number of eight bits other than zero. -/
def nonZeroName : String := "a nonzero u8"

/-- Reads a number of eight bits other than zero. -/
def readNonZero (cs : List Char) : Except LoadError Loaded :=
  match readInt? .u8 cs with
  | none => .error (.invalidValue cs nonZeroName)
  | some n => if n = 0 then .error (.zero nonZeroName) else .ok (.int n)

/-- The bytes of a text that holds no zero byte. -/
def readCString (cs : List Char) : Except LoadError Loaded :=
  let bs := Utf8.bytes cs
  match bs.findIdx? (· == 0) with
  | some i => .error (.zeroByte i)
  | none => .ok (.bytes bs)

/-- The variant that a name spells, with its place. -/
def Enumeration.find? (e : Enumeration) (name : List Char) : Option (Nat × Variant) :=
  (e.variants.zipIdx.find? fun v => v.1.spellings.contains name).map fun v => (v.2, v.1)

/-- The variant that a name spells, which must carry nothing. -/
def Enumeration.read (e : Enumeration) (name : List Char) : Except LoadError Loaded :=
  match e.find? name with
  | some (i, v) =>
    match v.payload with
    | .nothing => .ok (.variant i v.label)
    | .one => .error (.bareVariant "newtype variant")
    | .several => .error (.bareVariant "tuple variant")
    | .fields => .error (.bareVariant "struct variant")
  | none =>
    match e.other with
    | some label => .ok (.variant e.variants.length label)
    | none => .error (.unknownVariant name (e.variants.flatMap Variant.spellings))

/-- Loads a single text. -/
def Cell.load (cs : List Char) : Cell → Except LoadError Loaded
  | .int type => orInvalid cs type.name ((readInt? type cs).map .int)
  | .unsupported name => .error (.unsupported name)
  | .float type => orInvalid cs type.name ((FloatText.read? type.format cs).map (.float type))
  | .bool => orInvalid cs "a boolean" ((readBool? cs).map .bool)
  | .char => orInvalid cs "a character" ((readChar? cs).map .char)
  | .text => .ok (.text cs)
  | .bytes => .ok (.bytes (Utf8.bytes cs))
  | .cString => readCString cs
  | .nonZero => readNonZero cs
  | .ignored => .ok .ignored
  | .enumeration e => e.read cs
  | .option c => (c.load cs).map .present
  | .wrapped c => (c.load cs).map .wrapped
  | .structured expected => .error (.invalidType cs expected)

/-- The value of a cell for which there is no text, if it has one. -/
def Cell.whenMissing : Cell → Option Loaded
  | .option _ => some .absent
  | _ => none

end RouteTemplate.Load
