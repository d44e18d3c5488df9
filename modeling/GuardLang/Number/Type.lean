import GuardLang.Binary64.Written
import GuardLang.Number.Reading

/-!
# Number types

The number types a guard can be declared for.  An integer type is given by its
width and its sign and holds the integers between its limits; a floating point
type is given by the greatest magnitude of its finite numbers.  Numbers of
either floating point type are doubles, also those of the narrower one: only
their magnitude is checked.
-/

namespace GuardLang

/-- A number. -/
inductive Number where
  | integer (value : Int)
  | float (value : Binary64)
  deriving DecidableEq, Repr

/-- A type that number literals are read as: its name, and the numbers that
texts stand for. -/
structure LiteralType (α : Type) where
  name : String
  read : Text → Except NumberFault α

namespace LiteralType

/-- Change the numbers that are read. -/
def map {α β : Type} (f : α → β) (type : LiteralType α) : LiteralType β :=
  ⟨type.name, fun text => (type.read text).map f⟩

end LiteralType

/-- The integer types. -/
inductive IntegerType where
  | i8 | i16 | i32 | i64 | i128 | isize
  | u8 | u16 | u32 | u64 | u128 | usize
  deriving DecidableEq, Repr

namespace IntegerType

/-- All integer types, in the order in which messages list them. -/
def all : List IntegerType :=
  [i8, i16, i32, i64, i128, isize, u8, u16, u32, u64, u128, usize]

/-- The name of an integer type. -/
def name : IntegerType → String
  | i8 => "i8"
  | i16 => "i16"
  | i32 => "i32"
  | i64 => "i64"
  | i128 => "i128"
  | isize => "isize"
  | u8 => "u8"
  | u16 => "u16"
  | u32 => "u32"
  | u64 => "u64"
  | u128 => "u128"
  | usize => "usize"

/-- The number of bits of an integer type. -/
def bits : IntegerType → Nat
  | i8 | u8 => 8
  | i16 | u16 => 16
  | i32 | u32 => 32
  | i64 | isize | u64 | usize => 64
  | i128 | u128 => 128

/-- Whether an integer type holds negative numbers. -/
def isSigned : IntegerType → Bool
  | i8 | i16 | i32 | i64 | i128 | isize => true
  | u8 | u16 | u32 | u64 | u128 | usize => false

/-- The least number of an integer type. -/
def minimum (type : IntegerType) : Int :=
  if type.isSigned then -(Nat.pow 2 (type.bits - 1) : Int) else 0

/-- The greatest number of an integer type. -/
def maximum (type : IntegerType) : Int :=
  if type.isSigned then (Nat.pow 2 (type.bits - 1) : Int) - 1 else (Nat.pow 2 type.bits : Int) - 1

/-- Read a number of an integer type. -/
def read (type : IntegerType) (text : Text) : Except NumberFault Int := do
  let value ← Number.readInteger text
  if value < type.minimum then throw (.belowMinimum value)
  if type.maximum < value then throw (.aboveMaximum value)
  return value

/-- An integer type as a type of literals. -/
def literals (type : IntegerType) : LiteralType Int := ⟨type.name, type.read⟩

end IntegerType

/-- The floating point types. -/
inductive FloatType where
  | f32 | f64
  deriving DecidableEq, Repr

namespace FloatType

/-- All floating point types, in the order in which messages list them. -/
def all : List FloatType := [f32, f64]

/-- The name of a floating point type. -/
def name : FloatType → String
  | f32 => "f32"
  | f64 => "f64"

/-- The greatest finite magnitude of a floating point type, in units: all binary
places set at the greatest exponent. -/
def maximumUnits : FloatType → Nat
  | f32 => (Nat.pow 2 24 - 1) * Nat.pow 2 (104 + 1074)
  | f64 => (Nat.pow 2 53 - 1) * Nat.pow 2 (971 + 1074)

/-- The greatest finite number of a floating point type. -/
def maximum (type : FloatType) : Binary64 := .finite false type.maximumUnits

/-- Read a number of a floating point type.  What is no number is not too
large either. -/
def read (type : FloatType) (text : Text) : Except NumberFault Binary64 := do
  let value ← Number.readDouble text
  if value.exceeds type.maximumUnits then throw (.overflow text)
  return value

/-- A floating point type as a type of literals. -/
def literals (type : FloatType) : LiteralType Binary64 := ⟨type.name, type.read⟩

end FloatType

/-- The number types. -/
inductive NumberType where
  | integer (type : IntegerType)
  | float (type : FloatType)
  deriving DecidableEq, Repr

namespace NumberType

/-- All number types, in the order in which messages list them. -/
def all : List NumberType := IntegerType.all.map integer ++ FloatType.all.map float

/-- The name of a number type. -/
def name : NumberType → String
  | integer type => type.name
  | float type => type.name

/-- The number type with a given name. -/
def ofName? (name : String) : Option NumberType := all.find? fun type => type.name == name

/-- The least number of a type that is not symmetric. -/
def minimum? : NumberType → Option Number
  | integer type => some (.integer type.minimum)
  | float _ => none

/-- The greatest number of a type. -/
def maximum : NumberType → Number
  | integer type => .integer type.maximum
  | float type => .float type.maximum

/-- A number type as a type of literals. -/
def literals : NumberType → LiteralType Number
  | integer type => type.literals.map .integer
  | float type => type.literals.map .float

end NumberType

end GuardLang
