import RouteTemplate.Text.Utf8

/-!
# RouteTemplate.Text.Percent — percent escapes

A value stands in a path as its unreserved characters, with every other byte of its UTF-8 encoding
written as `%` and two upper-case hexadecimal digits.  Reading is lenient: a percent sign that two
hexadecimal digits (of either case) follow is an escape, and every other character stands for
itself.  What the escapes spell has to be UTF-8.
-/

namespace RouteTemplate.Percent

/-! ### Digits -/

/-- The value of a hexadecimal digit of either case. -/
def hexValue? (c : Char) : Option Nat :=
  if '0' ≤ c ∧ c ≤ '9' then some (c.toNat - '0'.toNat)
  else if 'a' ≤ c ∧ c ≤ 'f' then some (c.toNat - 'a'.toNat + 10)
  else if 'A' ≤ c ∧ c ≤ 'F' then some (c.toNat - 'A'.toNat + 10)
  else none

/-- The upper-case hexadecimal digit of a number below sixteen. -/
def hexDigit (n : Nat) : Char :=
  if n < 10 then Char.ofNat ('0'.toNat + n) else Char.ofNat ('A'.toNat + (n - 10))

/-! ### Writing -/

/-- Characters that stand for themselves in a path. -/
def isUnreserved (c : Char) : Bool :=
  c.isAlphanum || c ∈ ['-', '_', '.', '!', '~', '*', '\'', '(', ')']

/-- The escape of one byte. -/
def escape (b : UInt8) : List Char :=
  ['%', hexDigit (b.toNat / 16), hexDigit (b.toNat % 16)]

/-- One character of a value as it stands in a path. -/
def encodeChar (c : Char) : List Char :=
  if isUnreserved c then [c] else (String.utf8EncodeChar c).flatMap escape

/-- A value as it stands in a path. -/
def encode (value : List Char) : List Char := value.flatMap encodeChar

@[simp] theorem encode_nil : encode [] = [] := rfl

@[simp] theorem encode_cons (c : Char) (cs : List Char) :
    encode (c :: cs) = encodeChar c ++ encode cs := rfl

@[simp] theorem encode_append (s t : List Char) : encode (s ++ t) = encode s ++ encode t := by
  simp [encode]

/-! ### Reading -/

/-- A unit of raw text: an escape with its two digits, or a character that stands for itself. -/
inductive Token where
  | escape (high low : Char)
  | literal (c : Char)
deriving DecidableEq, Repr

/-- The units of raw text from left to right. -/
def tokens : List Char → List Token
  | [] => []
  | '%' :: high :: low :: rest =>
    if (hexValue? high).isSome && (hexValue? low).isSome then
      .escape high low :: tokens rest
    else
      .literal '%' :: tokens (high :: low :: rest)
  | c :: rest => .literal c :: tokens rest

/-- The bytes that a unit stands for. -/
def Token.bytes : Token → List UInt8
  | .escape high low =>
    [UInt8.ofNat ((hexValue? high).getD 0 * 16 + (hexValue? low).getD 0)]
  | .literal c => String.utf8EncodeChar c

/-- The characters that a unit is written with. -/
def Token.text : Token → List Char
  | .escape high low => ['%', high, low]
  | .literal c => [c]

/-- The bytes that raw text stands for. -/
def bytes (raw : List Char) : List UInt8 := (tokens raw).flatMap Token.bytes

/-- The text that raw text stands for, if its bytes are UTF-8. -/
def decode (raw : List Char) : Except Utf8.Fault (List Char) := Utf8.decode (bytes raw)

/-- The units hold all of the raw text. -/
theorem flatMap_text_tokens (raw : List Char) : (tokens raw).flatMap Token.text = raw := by
  fun_induction tokens raw with
  | case1 => rfl
  | case2 high low rest h ih => simp [Token.text, ih]
  | case3 high low rest h ih => simpa [Token.text] using ih
  | case4 c rest h ih => simpa [Token.text] using ih

end RouteTemplate.Percent
