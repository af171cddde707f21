import TopicTable.Format.Provider
import TopicTable.Options.Catalogue
import TopicTable.Schema.Table

/-!
# Metadata of records

A metadata column stands for a property of the record itself or for metadata of the value format,
whose keys have the prefix `value.`. Sources read both; sinks write the headers, the timestamp and
what the value format takes.
-/

namespace TopicTable

/-- Names to byte strings. -/
def headersType : DataType :=
  .map ⟨"entries", .struct [⟨"key", .utf8, false⟩, ⟨"value", .binary, true⟩], false⟩ false

def recordTimestampType : DataType := .timestamp .millisecond (some "UTC")

/-- Properties of a record that a source can read. -/
inductive ReadableMetadata where
  | topic
  | partition
  | headers
  | leaderEpoch
  | offset
  | timestamp
  | timestampType
deriving DecidableEq, Repr

namespace ReadableMetadata

def all : List ReadableMetadata :=
  [topic, partition, headers, leaderEpoch, offset, timestamp, timestampType]

def key : ReadableMetadata → String
  | topic => "topic"
  | partition => "partition"
  | headers => "headers"
  | leaderEpoch => "leader-epoch"
  | offset => "offset"
  | timestamp => "timestamp"
  | timestampType => "timestamp-type"

def type : ReadableMetadata → DataType
  | topic => .utf8
  | partition => .int32
  | headers => headersType
  | leaderEpoch => .int32
  | offset => .int64
  | timestamp => recordTimestampType
  | timestampType => .utf8

def ofKey? (key : String) : Option ReadableMetadata := all.find? (·.key = key)

end ReadableMetadata

/-- Properties of a record that a sink can write. -/
inductive WritableMetadata where
  | headers
  | timestamp
deriving DecidableEq, Repr

namespace WritableMetadata

def all : List WritableMetadata := [headers, timestamp]

def key : WritableMetadata → String
  | headers => "headers"
  | timestamp => "timestamp"

def type : WritableMetadata → DataType
  | headers => headersType
  | timestamp => recordTimestampType

def ofKey? (key : String) : Option WritableMetadata := all.find? (·.key = key)

end WritableMetadata

inductive MetadataAccess where
  | read
  | write
deriving DecidableEq, Repr

namespace MetadataAccess

def text : MetadataAccess → String
  | read => "reading"
  | write => "writing"

/-- The properties of a record itself, with their types. -/
def connectorKeys : MetadataAccess → List (String × DataType)
  | read => ReadableMetadata.all.map fun m => (m.key, m.type)
  | write => WritableMetadata.all.map fun m => (m.key, m.type)

def isConnectorKey (access : MetadataAccess) (key : String) : Bool :=
  match access with
  | read => (ReadableMetadata.ofKey? key).isSome
  | write => (WritableMetadata.ofKey? key).isSome

/-- Every key there is: those of the value format, then those of the record. -/
def supported (access : MetadataAccess) (declared : MetadataTypes) : List (String × DataType) :=
  (declared.entries.map fun e => (valuePrefix ++ e.1, e.2)) ++ access.connectorKeys

/-- The metadata columns of a schema that the access has to do with. -/
def columns (access : MetadataAccess) (schema : Schema) : List Column :=
  match access with
  | read => schema.metadataColumns
  | write => schema.metadataColumns.filter (·.isPersisted)

end MetadataAccess

inductive MetadataOwner where
  | format (key : String)
  | connector (key : String)
deriving DecidableEq, Repr

/-- The metadata of a table: the keys of the record and of the value format, each once and in the
order of the columns, and the columns. -/
structure MetadataKeys where
  connector : List String
  format : List String
  columns : List Column
deriving DecidableEq

namespace MetadataKeys

/-- Adds a key at the end unless it is there. -/
def addDistinct (keys : List String) (key : String) : List String :=
  if key ∈ keys then keys else keys ++ [key]

/-- Finds who provides a key. A declared key of the value format comes first. -/
def owner? (access : MetadataAccess) (declared : MetadataTypes) (key : String) :
    Option MetadataOwner :=
  match (Text.stripPrefix? valuePrefix key).filter declared.contains with
  | some formatKey => some (.format formatKey)
  | none => if access.isConnectorKey key then some (.connector key) else none

def unsupportedKey (access : MetadataAccess) (name : TableName) (declared : MetadataTypes)
    (key column : String) : TableError :=
  .schemaMismatch ("Invalid metadata key '" ++ key ++ "' in column '" ++ column ++
    "' of table '" ++ name.text ++
    "'. The Kafka table supports the following metadata keys for " ++ access.text ++ ":\n" ++
    "\n".intercalate ((access.supported declared).map (·.1)))

/-- Adds a column with its key; other columns than metadata columns have none. -/
def addColumn (access : MetadataAccess) (name : TableName) (declared : MetadataTypes)
    (keys : MetadataKeys) (column : Column) : Except TableError MetadataKeys :=
  match column.metadataKey? with
  | none => .ok keys
  | some key =>
    match owner? access declared key with
    | some (.format formatKey) =>
      .ok ⟨keys.connector, addDistinct keys.format formatKey, keys.columns ++ [column]⟩
    | some (.connector key) =>
      .ok ⟨addDistinct keys.connector key, keys.format, keys.columns ++ [column]⟩
    | none => .error (unsupportedKey access name declared key column.name)

def ofSchema (access : MetadataAccess) (name : TableName) (schema : Schema)
    (declared : MetadataTypes) : Except TableError MetadataKeys :=
  (access.columns schema).foldlM (addColumn access name declared) ⟨[], [], []⟩

end MetadataKeys

end TopicTable
