import TopicTable.Row.DataType

/-!
# Batches

A batch holds rows column by column. Records are the byte sequences that rows are written as.
-/

namespace TopicTable

abbrev Record := ByteArray

/-- A value of a column; `foreign` stands for any value of a type without a text form. -/
inductive Cell where
  | null
  | text (value : String)
  | int32 (value : Int32)
  | int64 (value : Int64)
  | boolean (value : Bool)
  | foreign
deriving DecidableEq, Repr

structure BatchColumn where
  field : Field
  cells : List Cell
deriving DecidableEq

structure Batch where
  rows : Nat
  columns : List BatchColumn
deriving DecidableEq

namespace Batch

def schema (b : Batch) : RowType := b.columns.map (·.field)

def Fits (type : DataType) : Cell → Prop
  | .null => True
  | .text _ => type = .utf8
  | .int32 _ => type = .int32
  | .int64 _ => type = .int64
  | .boolean _ => type = .boolean
  | .foreign => type ≠ .utf8 ∧ type ≠ .int32 ∧ type ≠ .int64 ∧ type ≠ .boolean ∧ type ≠ .null

instance (type : DataType) : (cell : Cell) → Decidable (Fits type cell)
  | .null => isTrue trivial
  | .text _ => inferInstanceAs (Decidable (type = .utf8))
  | .int32 _ => inferInstanceAs (Decidable (type = .int32))
  | .int64 _ => inferInstanceAs (Decidable (type = .int64))
  | .boolean _ => inferInstanceAs (Decidable (type = .boolean))
  | .foreign => inferInstanceAs (Decidable
    (type ≠ .utf8 ∧ type ≠ .int32 ∧ type ≠ .int64 ∧ type ≠ .boolean ∧ type ≠ .null))

/-- Columns are as long as the batch, hold values of their type, and nulls only where these are
allowed. A column without a buffer for them counts as holding none. -/
structure WellFormed (b : Batch) : Prop where
  length : ∀ c ∈ b.columns, c.cells.length = b.rows
  fits : ∀ c ∈ b.columns, ∀ cell ∈ c.cells, Fits c.field.type cell
  notNull : ∀ c ∈ b.columns, c.field.nullable = false → c.field.type.nullBuffer = true →
    Cell.null ∉ c.cells

/-- The first column with a null that its field does not allow. -/
def nullViolation? (b : Batch) : Option String :=
  (b.columns.find? fun c =>
    !c.field.nullable && c.field.type.nullBuffer && c.cells.contains .null).map (·.field.name)

end Batch

end TopicTable
