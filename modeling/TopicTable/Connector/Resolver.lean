import TopicTable.Connector.Sink
import TopicTable.Connector.Source
import TopicTable.Format.Subject

/-!
# Resolving tables

A resolver turns a table definition into a source or a sink, with the library that compiles its
topic patterns and the formats and partitioners that are registered with it. The first rule that
is broken ends the resolution.
-/

namespace TopicTable

/-- The formats of the key, if there is one, and of the value. -/
structure TableFormats where
  key? : Option DiscoveredFormat
  value : DiscoveredFormat

/-- The two ways to use a table. -/
inductive Direction where
  | scan
  | sink
deriving DecidableEq, Repr

def Direction.text : Direction → String
  | scan => "scan"
  | sink => "sink"

structure Resolver where
  compile : PatternCompiler
  formats : FormatRegistry := .empty
  partitioners : PartitionerRegistry := .empty

namespace Resolver

def wrongConnector (connector : String) : TableError :=
  .invalidValue Catalogue.connector.key
    ("Option 'connector' must be 'kafka' but is '" ++ connector ++ "'.")

/-- The table is for this connector and says where its brokers are. -/
def checkConnector (options : OptionMap) : Except TableError Unit := do
  let connector ← options.require Catalogue.connector.key
  if connector ≠ connectorIdentifier then .error (wrongConnector connector)
  else
    let _ ← options.require Catalogue.bootstrapServers.key
    return ()

/-- Every option is consumed or handed to the client. -/
def checkConsumed (options : OptionMap) (consumed : List String) : Except TableError Unit :=
  match options.unconsumedKeys consumed [propertiesPrefix] with
  | [] => .ok ()
  | unsupported => .error (.unsupportedOptions connectorIdentifier unsupported)

def primaryKeyRefused (name : TableName) (format : String) : TableError :=
  .unsupportedCombination ("The Kafka table '" ++ name.text ++ "' with '" ++ format ++
    "' format doesn't support defining PRIMARY KEY constraint on the table, because it can't " ++
    "guarantee the semantic of primary key.")

/-- A primary key needs a format that carries more than inserts. -/
def checkPrimaryKey (table : TableDefinition) (value : DiscoveredFormat) :
    Except TableError Unit :=
  if table.schema.primaryKey?.isSome ∧ value.changelogMode.containsOnlyInserts then
    .error (primaryKeyRefused table.name value.identifier)
  else .ok ()

def missingValueFormat (direction : Direction) : TableError :=
  .missing [Catalogue.format.key, Catalogue.valueFormat.key]
    ("Could not find required " ++ direction.text ++ " format 'value.format'.")

/-- The value format and the keys consumed so far. -/
def valueFormat (formats : FormatRegistry) (options : OptionMap) (direction : Direction)
    (consumed : List String) : Except TableError (DiscoveredFormat × List String) := do
  match ← DiscoveredFormat.find? formats options .shared consumed with
  | (some format, consumed) => return (format, consumed)
  | (none, consumed) =>
    match ← DiscoveredFormat.find? formats options .ofValue consumed with
    | (some format, consumed) => return (format, consumed)
    | (none, _) => .error (missingValueFormat direction)

/-- The formats of a table and the keys consumed with them. -/
def tableFormats (formats : FormatRegistry) (options : OptionMap) (direction : Direction)
    (consumed : List String) : Except TableError (TableFormats × List String) := do
  if options.contains Catalogue.format.key ∧ options.contains Catalogue.valueFormat.key then
    .error (.exclusive Catalogue.format.key Catalogue.valueFormat.key)
  else
    let (value, consumed) ← valueFormat formats options direction consumed
    let (key?, consumed) ← DiscoveredFormat.find? formats options .ofKey consumed
    return (⟨key?, value⟩, consumed)

/-- The formats of a table none of whose options is left over. -/
def checkedFormats (r : Resolver) (options : OptionMap) (direction : Direction) :
    Except TableError TableFormats := do
  let (found, consumed) ← tableFormats r.formats options direction Catalogue.keys
  checkConsumed options consumed
  return found

/-- What both directions make of the schema: where columns go, and what the codecs see. -/
structure ResolvedRows where
  layout : RecordLayout
  keyPrefix? : Option String
  metadata : MetadataKeys
  keyFormat? : Option FormatHandle
  valueFormat : FormatHandle

/-- Lays out the columns of a table and fits its formats to them. -/
def resolveRows (table : TableDefinition) (options : OptionMap) (found : TableFormats)
    (access : MetadataAccess) : Except TableError ResolvedRows := do
  let declared :=
    match access with
    | .read => found.value.readableMetadata
    | .write => found.value.writableMetadata
  let layout ← RecordLayout.ofOptions options table.schema
  let keyPrefix? ← RecordLayout.keyPrefix? options
  let metadata ← MetadataKeys.ofSchema access table.name table.schema declared
  let physical := table.schema.physicalRow
  return {
    layout := layout
    keyPrefix? := keyPrefix?
    metadata := metadata
    keyFormat? := found.key?.map fun format =>
      .ofFormat format ∅ [] (layout.keyRow physical keyPrefix?)
    valueFormat := .ofFormat found.value declared metadata.format (layout.valueRow physical)
  }

/-- The client property with the interval of partition discovery. -/
def partitionDiscoveryProperty : String := "partition.discovery.interval.ms"

/-- The client properties of a source; the discovery option comes before a property. -/
def sourceProperties (options : OptionMap) : Except TableError OptionMap := do
  let properties := options.withPrefix propertiesPrefix
  match ← options.read? Catalogue.partitionDiscovery with
  | none => return properties
  | some interval =>
    return properties.insert partitionDiscoveryProperty (toString interval.millis)

/-- Resolves a table for reading. -/
def source (r : Resolver) (table : TableDefinition) : Except TableError SourceSpec := do
  let options := table.options
  checkConnector options
  let topics ← TopicSelection.ofOptions r.compile options
  let found ← r.checkedFormats options .scan
  let startup ← StartupPosition.ofOptions options topics
  checkPrimaryKey table found.value
  let rows ← resolveRows table options found .read
  let properties ← sourceProperties options
  return {
    physical := table.schema.physicalRow
    produced := table.schema.rowWith rows.metadata.columns
    keyFormat? := rows.keyFormat?
    valueFormat := rows.valueFormat
    layout := rows.layout
    keyPrefix? := rows.keyPrefix?
    topics := topics
    properties := properties
    startup := startup
    metadataKeys := rows.metadata.connector
    watermark? := table.schema.watermark?
  }

/-- Resolves a table for writing. Subjects that are left out are filled in first. -/
def sink (r : Resolver) (table : TableDefinition) : Except TableError SinkSpec := do
  checkConnector table.options
  let topics ← TopicSelection.ofOptions r.compile table.options
  let topic ← topics.sinkTopic
  let options := table.options.withSubjects topic
  let found ← r.checkedFormats options .sink
  let guarantee ← DeliveryGuarantee.ofOptions options
  let transactionalIdPrefix? ← transactionalIdPrefix options guarantee
  let partitioner ← SinkPartitioner.ofOptions options r.partitioners
  let parallelism? ← options.read? Catalogue.parallelism
  let buffer ← SinkBuffer.ofOptions options
  checkPrimaryKey table found.value
  let rows ← resolveRows table options found .write
  return {
    physical := table.schema.physicalRow
    consumed := table.schema.rowWith rows.metadata.columns
    keyFormat? := rows.keyFormat?
    valueFormat := rows.valueFormat
    layout := rows.layout
    keyPrefix? := rows.keyPrefix?
    topic := topic
    properties := options.withPrefix propertiesPrefix
    partitioner := partitioner
    guarantee := guarantee
    transactionalIdPrefix? := transactionalIdPrefix?
    parallelism? := parallelism?
    buffer := buffer
    metadataKeys := rows.metadata.connector
  }

end Resolver

end TopicTable
