import RouteTemplate.Decimal.Notation
import RouteTemplate.IntType

/-!
# RouteTemplate.Value — values of parameters

A path is built from arguments of many types, each of which becomes one of five kinds of value.
Every value has a text, which is what stands in the path.  An argument may be optional, and an
optional argument without content is absent at every depth.
-/

namespace RouteTemplate

/-- A value for a parameter.  Numbers are held with their widest type. -/
inductive ParamValue where
  | str (text : List Char)
  | int (n : Int64)
  | uint (n : UInt64)
  /-- A double-precision bit pattern. -/
  | float (bits : UInt64)
  | bool (b : Bool)
deriving DecidableEq

namespace ParamValue

/-- The decimal text of a whole number. -/
def intText (n : Int) : List Char :=
  if n < 0 then '-' :: Nat.toDigits 10 n.natAbs else Nat.toDigits 10 n.natAbs

/-- The text of a value. -/
def text : ParamValue → List Char
  | .str t => t
  | .int n => intText n.toInt
  | .uint n => intText n.toNat
  | .float bits => FloatText.render bits.toNat
  | .bool b => if b then "true".toList else "false".toList

/-- Whether the value is a text already, so that reading its text copies nothing. -/
def isText : ParamValue → Bool
  | .str _ => true
  | _ => false

/-- Equality of floating-point numbers: no NaN equals anything, and the two zeros are equal. -/
def sameFloat (a b : UInt64) : Bool :=
  match BinaryFormat.double.datum a.toNat, BinaryFormat.double.datum b.toNat with
  | .nan, _ => false
  | _, .nan => false
  | .finite s m, .finite s' m' => m == m' && (s == s' || m == 0)
  | x, y => x == y

/-- Equality of values: of one kind and with equal content. -/
def same : ParamValue → ParamValue → Bool
  | .str a, .str b => a == b
  | .int a, .int b => a == b
  | .uint a, .uint b => a == b
  | .float a, .float b => sameFloat a b
  | .bool a, .bool b => a == b
  | _, _ => false

/-- Equality of values that may be absent. -/
def sameOption : Option ParamValue → Option ParamValue → Bool
  | some a, some b => a.same b
  | none, none => true
  | _, _ => false

end ParamValue

/-- A value of one of the types that parameters are given in. -/
inductive Scalar where
  | int (type : IntType) (n : Int) (holds : type.Holds n)
  /-- A double-precision bit pattern. -/
  | double (bits : UInt64)
  /-- A single-precision bit pattern. -/
  | single (bits : UInt32)
  | bool (b : Bool)
  | char (c : Char)
  | text (t : List Char)

/-- The value of a scalar.  Signed and unsigned numbers stay apart, and a single-precision number is
widened without change. -/
def Scalar.value : Scalar → ParamValue
  | .int type n _ =>
    if type.isSigned then .int (Int64.ofInt n) else .uint (UInt64.ofNat n.toNat)
  | .double bits => .float bits
  | .single bits => .float (UInt64.ofNat (widen bits.toNat))
  | .bool b => .bool b
  | .char c => .str [c]
  | .text t => .str t

/-- What a parameter can be given: a scalar, a value, or either of them optionally. -/
inductive Argument where
  | scalar (s : Scalar)
  | value (v : ParamValue)
  | absent
  | present (a : Argument)

/-- The value of an argument, unless it is absent at some depth. -/
def Argument.value? : Argument → Option ParamValue
  | .scalar s => some s.value
  | .value v => some v
  | .absent => none
  | .present a => a.value?

/-- The value that an argument can be turned into at once: an optional argument has none, even if it
is present. -/
def Argument.converted? : Argument → Option ParamValue
  | .scalar s => some s.value
  | .value v => some v
  | .absent | .present _ => none

@[simp] theorem Argument.value?_scalar (s : Scalar) :
    (Argument.scalar s).value? = some s.value := rfl

@[simp] theorem Argument.value?_value (v : ParamValue) : (Argument.value v).value? = some v := rfl

@[simp] theorem Argument.value?_absent : Argument.absent.value? = none := rfl

@[simp] theorem Argument.value?_present (a : Argument) : (Argument.present a).value? = a.value? := rfl

end RouteTemplate
