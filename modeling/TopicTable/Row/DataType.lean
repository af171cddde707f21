import TopicTable.Text.Quoted

/-!
# Data types

The types of columns and the fields of rows. A row type is its list of fields.

Nothing looks into half floats, times, durations, intervals, views, large or fixed-size lists and
binaries, wide decimals, dictionaries, unions or run-end encoded values. They are one constructor,
with what counts of them: their text and how their arrays keep nulls.
-/

namespace TopicTable

inductive ScalarType where
  | null
  | boolean
  | int8
  | int16
  | int32
  | int64
  | uint8
  | uint16
  | uint32
  | uint64
  | float32
  | float64
  | utf8
  | largeUtf8
  | binary
  | largeBinary
  | date32
  | date64
deriving DecidableEq, Repr

inductive TimeUnit where
  | second
  | millisecond
  | microsecond
  | nanosecond
deriving DecidableEq, Repr

/-- A type that is not looked into. Arrays keep their nulls in a buffer of their own, but for
unions and run-end encoded values; and the numbers that end the runs of such values bound how many
nulls an array can hold. -/
structure OtherType where
  text : String
  nullBuffer : Bool := true
  maxNulls? : Option Nat := none
deriving DecidableEq, Repr

mutual
inductive DataType where
  | scalar (type : ScalarType)
  | decimal (precision : Nat) (scale : Int)
  | timestamp (unit : TimeUnit) (zone : Option String)
  | struct (fields : List Field)
  | list (element : Field)
  | map (entries : Field) (sorted : Bool)
  | other (type : OtherType)

structure Field where
  name : String
  type : DataType
  nullable : Bool
end

abbrev RowType := List Field

namespace DataType

abbrev null : DataType := .scalar .null
abbrev boolean : DataType := .scalar .boolean
abbrev int32 : DataType := .scalar .int32
abbrev int64 : DataType := .scalar .int64
abbrev float64 : DataType := .scalar .float64
abbrev utf8 : DataType := .scalar .utf8
abbrev binary : DataType := .scalar .binary

instance : Inhabited DataType := ⟨null⟩

mutual
def decEq : (a b : DataType) → Decidable (a = b)
  | .scalar s, .scalar t => decidable_of_iff (s = t) (by simp)
  | .decimal p s, .decimal q t => decidable_of_iff (p = q ∧ s = t) (by simp)
  | .timestamp u z, .timestamp v w => decidable_of_iff (u = v ∧ z = w) (by simp)
  | .struct fs, .struct gs =>
    have := decEqFields fs gs
    decidable_of_iff (fs = gs) (by simp)
  | .list f, .list g =>
    have := decEqField f g
    decidable_of_iff (f = g) (by simp)
  | .map f s, .map g t =>
    have := decEqField f g
    decidable_of_iff (f = g ∧ s = t) (by simp)
  | .other s, .other t => decidable_of_iff (s = t) (by simp)
  | .scalar _, .decimal .. | .scalar _, .timestamp .. | .scalar _, .struct _ | .scalar _, .list _
  | .scalar _, .map .. | .scalar _, .other _ | .decimal .., .scalar _ | .decimal .., .timestamp ..
  | .decimal .., .struct _ | .decimal .., .list _ | .decimal .., .map .. | .decimal .., .other _
  | .timestamp .., .scalar _ | .timestamp .., .decimal .. | .timestamp .., .struct _
  | .timestamp .., .list _ | .timestamp .., .map .. | .timestamp .., .other _
  | .struct _, .scalar _ | .struct _, .decimal .. | .struct _, .timestamp .. | .struct _, .list _
  | .struct _, .map .. | .struct _, .other _ | .list _, .scalar _ | .list _, .decimal ..
  | .list _, .timestamp .. | .list _, .struct _ | .list _, .map .. | .list _, .other _
  | .map .., .scalar _ | .map .., .decimal .. | .map .., .timestamp .. | .map .., .struct _
  | .map .., .list _ | .map .., .other _ | .other _, .scalar _ | .other _, .decimal ..
  | .other _, .timestamp .. | .other _, .struct _ | .other _, .list _ | .other _, .map .. =>
    isFalse (by simp)

def decEqField : (f g : Field) → Decidable (f = g)
  | ⟨n, t, b⟩, ⟨m, u, c⟩ =>
    have := decEq t u
    decidable_of_iff (n = m ∧ t = u ∧ b = c) (by simp)

def decEqFields : (fs gs : List Field) → Decidable (fs = gs)
  | [], [] => isTrue rfl
  | [], _ :: _ => isFalse (by simp)
  | _ :: _, [] => isFalse (by simp)
  | f :: fs, g :: gs =>
    have := decEqField f g
    have := decEqFields fs gs
    decidable_of_iff (f = g ∧ fs = gs) (by simp)
end

instance : DecidableEq DataType := decEq

/-- The fields of a row type; other types have none. -/
def rowFields : DataType → RowType
  | struct fields => fields
  | _ => []

/-- Whether arrays of a type keep their nulls in a buffer. Without one no cell counts as null. -/
def nullBuffer : DataType → Bool
  | scalar s => s != .null
  | other o => o.nullBuffer
  | _ => true

mutual
/-- Whether there is an array of a type with so many nulls. The fields of a null struct are null
as well; below a null list or map there is nothing. -/
def holdsNulls (count : Nat) : DataType → Bool
  | struct fields => fieldsHoldNulls count fields
  | other o => o.maxNulls?.all (count ≤ ·)
  | scalar _ => true
  | decimal .. => true
  | timestamp .. => true
  | list _ => true
  | map .. => true

def fieldsHoldNulls (count : Nat) : List Field → Bool
  | [] => true
  | ⟨_, type, _⟩ :: fs => holdsNulls count type && fieldsHoldNulls count fs
end

end DataType

instance : DecidableEq Field := DataType.decEqField

/-- The fields at given positions, in the order of the positions. Positions beyond the row are
left out. -/
def RowType.project (row : RowType) (positions : List Nat) : RowType :=
  positions.filterMap fun i => row[i]?

def ScalarType.text : ScalarType → String
  | null => "Null"
  | boolean => "Boolean"
  | int8 => "Int8"
  | int16 => "Int16"
  | int32 => "Int32"
  | int64 => "Int64"
  | uint8 => "UInt8"
  | uint16 => "UInt16"
  | uint32 => "UInt32"
  | uint64 => "UInt64"
  | float32 => "Float32"
  | float64 => "Float64"
  | utf8 => "Utf8"
  | largeUtf8 => "LargeUtf8"
  | binary => "Binary"
  | largeBinary => "LargeBinary"
  | date32 => "Date32"
  | date64 => "Date64"

def TimeUnit.text : TimeUnit → String
  | second => "Second"
  | millisecond => "Millisecond"
  | microsecond => "Microsecond"
  | nanosecond => "Nanosecond"

mutual
def DataType.text : DataType → String
  | .scalar s => s.text
  | .decimal p s => "Decimal128(" ++ toString p ++ ", " ++ toString s ++ ")"
  | .timestamp u z => "Timestamp(" ++ u.text ++ ", " ++ Text.quoteOption z ++ ")"
  | .struct fs => "Struct([" ++ ", ".intercalate (fieldTexts fs) ++ "])"
  | .list f => "List(" ++ fieldText f ++ ")"
  | .map f sorted => "Map(" ++ fieldText f ++ ", " ++ toString sorted ++ ")"
  | .other o => o.text

def fieldText : Field → String
  | ⟨n, t, nullable⟩ =>
    "Field \x7b name: " ++ Text.quote n ++ ", data_type: " ++ t.text ++ ", nullable: " ++
      toString nullable ++ ", dict_id: 0, dict_is_ordered: false, metadata: \x7b\x7d \x7d"

def fieldTexts : List Field → List String
  | [] => []
  | f :: fs => fieldText f :: fieldTexts fs
end

end TopicTable
