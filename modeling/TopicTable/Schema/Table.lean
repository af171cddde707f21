import TopicTable.Options.Map
import TopicTable.Schema.Column

/-!
# Table definitions

A table definition is a name, a schema and an option map.
-/

namespace TopicTable

structure PrimaryKey where
  name : String
  columns : List String
deriving DecidableEq, Repr

structure Watermark where
  column : String
  expression : String
deriving DecidableEq, Repr

/-- Columns in declared order, with an optional primary key and watermark. -/
structure Schema where
  columns : List Column
  primaryKey? : Option PrimaryKey := none
  watermark? : Option Watermark := none
deriving DecidableEq

namespace Schema

def physicalColumns (s : Schema) : List Column := s.columns.filter (·.isPhysical)

def metadataColumns (s : Schema) : List Column := s.columns.filter (·.isMetadata)

def physicalNames (s : Schema) : List String := s.physicalColumns.map (·.name)

def physicalRow (s : Schema) : RowType := s.physicalColumns.map (·.field)

/-- The row of the physical columns followed by metadata columns. -/
def rowWith (s : Schema) (metadata : List Column) : RowType :=
  (s.physicalColumns ++ metadata).map (·.field)

end Schema

structure TableName where
  catalog : String
  database : String
  object : String
deriving DecidableEq, Repr

def TableName.text (name : TableName) : String :=
  name.catalog ++ "." ++ name.database ++ "." ++ name.object

structure TableDefinition where
  name : TableName
  schema : Schema
  options : OptionMap

end TopicTable
