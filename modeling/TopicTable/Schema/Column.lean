import TopicTable.Row.DataType

/-!
# Columns

A table has physical columns, computed columns and columns that stand for metadata of records.
-/

namespace TopicTable

inductive Column where
  | physical (name : String) (type : DataType) (nullable : Bool)
  | computed (name : String) (type : DataType) (expression : String)
  | metadata (name : String) (type : DataType) (key : Option String) (isVirtual : Bool)
deriving DecidableEq

namespace Column

def name : Column → String
  | physical name .. => name
  | computed name .. => name
  | metadata name .. => name

def type : Column → DataType
  | physical _ type _ => type
  | computed _ type _ => type
  | metadata _ type .. => type

def isPhysical : Column → Bool
  | physical .. => true
  | _ => false

def isMetadata : Column → Bool
  | metadata .. => true
  | _ => false

/-- The metadata key of a metadata column, its name unless another is given. -/
def metadataKey? : Column → Option String
  | metadata name _ key _ => some (key.getD name)
  | _ => none

/-- Whether a sink stores the column. -/
def isPersisted : Column → Bool
  | physical .. => true
  | computed .. => false
  | metadata _ _ _ isVirtual => !isVirtual

/-- The field of the column in a row; only physical columns can refuse nulls. -/
def field : Column → Field
  | physical name type nullable => ⟨name, type, nullable⟩
  | computed name type _ => ⟨name, type, true⟩
  | metadata name type .. => ⟨name, type, true⟩

end Column

end TopicTable
