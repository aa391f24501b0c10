/-!
# RouteTemplate.IntType — whole numbers of fixed width

The types of whole numbers that a value can come from and be loaded into.  The word-sized types have
64 bits.
-/

namespace RouteTemplate

/-- A type of whole numbers. -/
inductive IntType where
  | i8 | i16 | i32 | i64 | isize
  | u8 | u16 | u32 | u64 | usize
deriving DecidableEq, Repr

namespace IntType

/-- Whether the type has negative numbers. -/
def isSigned : IntType → Bool
  | .i8 | .i16 | .i32 | .i64 | .isize => true
  | .u8 | .u16 | .u32 | .u64 | .usize => false

/-- How many numbers the type has. -/
def size : IntType → Int
  | .i8 | .u8 => 256
  | .i16 | .u16 => 65536
  | .i32 | .u32 => 4294967296
  | .i64 | .u64 | .isize | .usize => 18446744073709551616

/-- The least number of the type. -/
def least (t : IntType) : Int := if t.isSigned then -(t.size / 2) else 0

/-- The greatest number of the type. -/
def greatest (t : IntType) : Int := if t.isSigned then t.size / 2 - 1 else t.size - 1

/-- Whether a number belongs to the type. -/
def Holds (t : IntType) (n : Int) : Prop := t.least ≤ n ∧ n ≤ t.greatest

instance (t : IntType) (n : Int) : Decidable (t.Holds n) := by
  unfold Holds; infer_instance

/-- All types. -/
def all : List IntType := [.i8, .i16, .i32, .i64, .isize, .u8, .u16, .u32, .u64, .usize]

/-- The name of a type. -/
def name : IntType → String
  | .i8 => "i8" | .i16 => "i16" | .i32 => "i32" | .i64 => "i64" | .isize => "isize"
  | .u8 => "u8" | .u16 => "u16" | .u32 => "u32" | .u64 => "u64" | .usize => "usize"

/-- The type with a name. -/
def ofName? (s : String) : Option IntType := all.find? fun t => t.name == s

/-- A number of a signed type fits in 64 bits. -/
theorem Holds.signed {t : IntType} {n : Int} (h : t.Holds n) (hs : t.isSigned = true) :
    -9223372036854775808 ≤ n ∧ n < 9223372036854775808 := by
  cases t <;> simp [Holds, least, greatest, isSigned, size] at h hs ⊢ <;> omega

/-- A number of an unsigned type fits in 64 bits. -/
theorem Holds.unsigned {t : IntType} {n : Int} (h : t.Holds n) (hs : t.isSigned = false) :
    0 ≤ n ∧ n < 18446744073709551616 := by
  cases t <;> simp [Holds, least, greatest, isSigned, size] at h hs ⊢ <;> omega

end IntType

end RouteTemplate
