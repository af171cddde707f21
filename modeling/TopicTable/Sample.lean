import TopicTable.Connector.Resolver
import TopicTable.Format.Delimited
import TopicTable.Sample.Words

/-!
# Sample tables

Small definitions to try the library with.
-/

namespace TopicTable.Sample

/-- Delimited text under its own identifier and under four others. -/
def registry : FormatRegistry :=
  .ofList (Delimited.strict ::
    ["avro-confluent", "debezium-avro-confluent", "csv", "json"].map Delimited.named)

def tableName : TableName := ⟨"default", "default", "t1"⟩

/-- Three physical columns and a computed one. -/
def schema : Schema where
  columns := [
    .physical "name" .utf8 true,
    .physical "count" (.decimal 38 18) true,
    .physical "time" (.timestamp .millisecond none) true,
    .computed "computed-column" (.timestamp .millisecond none) "time + INTERVAL '5' SECOND"]
  watermark? := some ⟨"time", "time"⟩

/-- Two physical columns, one column for the timestamp of records and one for metadata of the
value format. -/
def schemaWithMetadata : Schema where
  columns := [
    .physical "name" .utf8 true,
    .physical "count" (.decimal 38 18) true,
    .metadata "time" recordTimestampType (some "timestamp") false,
    .metadata "metadata" .utf8 (some "value.metadata_2") false]

/-- Metadata of a value format under the name of a property of the record itself. -/
def topicMetadata : MetadataTypes := .ofList [("topic", .utf8)]

/-- Metadata columns that share their keys, with both of that name among them. -/
def sharedMetadata : Schema where
  columns := [
    .metadata "origin" .utf8 (some "value.topic") false,
    .metadata "sent" recordTimestampType (some "timestamp") false,
    .physical "name" .utf8 true,
    .metadata "relayed" .utf8 (some "value.topic") true,
    .metadata "topic" .utf8 none false,
    .metadata "stored" recordTimestampType (some "timestamp") false]

def sourceOptions : OptionMap := .ofList [
  ("connector", "kafka"),
  ("topic", "myTopic"),
  ("properties.group.id", "dummy"),
  ("properties.bootstrap.servers", "dummy"),
  ("scan.startup.mode", "specific-offsets"),
  ("scan.startup.specific-offsets", "partition:0,offset:100;partition:1,offset:123"),
  ("scan.topic-partition-discovery.interval", "1000 ms"),
  ("format", "test-format"),
  ("test-format.delimiter", ","),
  ("test-format.fail-on-missing", "true")]

def sinkOptions : OptionMap := .ofList [
  ("connector", "kafka"),
  ("topic", "myTopic"),
  ("properties.group.id", "dummy"),
  ("properties.bootstrap.servers", "dummy"),
  ("sink.partitioner", "fixed"),
  ("sink.delivery-guarantee", "exactly-once"),
  ("sink.transactional-id-prefix", "kafka-sink"),
  ("format", "test-format"),
  ("test-format.delimiter", ",")]

/-- The column `name` is the key and not in the value. -/
def keyValueOptions : OptionMap := .ofList [
  ("connector", "kafka"),
  ("topic", "myTopic"),
  ("properties.group.id", "dummy"),
  ("properties.bootstrap.servers", "dummy"),
  ("scan.topic-partition-discovery.interval", "1000 ms"),
  ("key.format", "test-format"),
  ("key.test-format.delimiter", "#"),
  ("key.fields", "name"),
  ("value.format", "test-format"),
  ("value.test-format.delimiter", "|"),
  ("value.fields-include", "EXCEPT_KEY"),
  ("sink.partitioner", "fixed"),
  ("sink.delivery-guarantee", "exactly-once"),
  ("sink.transactional-id-prefix", "kafka-sink")]

/-- Two key columns under a prefix, declared against the order of the schema, with a computed
column in between. -/
def prefixedKeys : TableDefinition where
  name := tableName
  schema := {
    columns := [
      .physical "k_id" .int64 false,
      .computed "twice" .int64 "k_id * 2",
      .physical "name" .utf8 true,
      .physical "k_region" .utf8 true,
      .physical "active" .boolean true] }
  options := .ofList [
    ("connector", "kafka"),
    ("topic", "orders"),
    ("properties.bootstrap.servers", "dummy"),
    ("key.format", "csv"),
    ("key.csv.delimiter", "#"),
    ("key.fields", "k_region;k_id"),
    ("key.fields-prefix", "k_"),
    ("value.format", "csv"),
    ("value.fields-include", "EXCEPT_KEY")]

/-- Two rows for that table; the key delimiter stands in a text of the value. -/
def prefixedRows : Batch where
  rows := 2
  columns := [
    ⟨⟨"k_id", .int64, false⟩, [.int64 7, .int64 (-12)]⟩,
    ⟨⟨"name", .utf8, true⟩, [.text "a#b", .null]⟩,
    ⟨⟨"k_region", .utf8, true⟩, [.null, .text "north"]⟩,
    ⟨⟨"active", .boolean, true⟩, [.null, .boolean true]⟩]

/-- The same table with one option misspelt. -/
def misspelt : TableDefinition :=
  { prefixedKeys with options := prefixedKeys.options.insert "key.csv.delimeter" "#" }

/-- A resolver that knows delimited text as `csv` alone. -/
def delimitedOnly : Resolver where
  compile := Words.compile
  formats := .ofList [Delimited.named "csv"]

/-- The same table with a change that there is none of in its key. -/
def unknownChange : TableDefinition :=
  { prefixedKeys with options := prefixedKeys.options.insert "key.csv.changelog-mode" "X" }

/-- A resolver whose only format has a schema registry and takes no options. -/
def optionless : Resolver where
  compile := Words.compile
  formats := .ofList [{ Delimited.named "avro-confluent" with optionalOptions := [] }]

/-- A table in that format. -/
def withoutSubject : TableDefinition where
  name := tableName
  schema := schema
  options := .ofList [
    ("connector", "kafka"),
    ("topic", "orders"),
    ("properties.bootstrap.servers", "dummy"),
    ("format", "avro-confluent")]

/-- The same table with an option that the format does not take. -/
def withCodec : TableDefinition :=
  { withoutSubject with
    options := withoutSubject.options.insert "avro-confluent.codec" "zstd" }

/-- A table with a schema registry for both sides of its records. Only the key has its subject. -/
def keySubject : TableDefinition where
  name := tableName
  schema := schema
  options := .ofList [
    ("connector", "kafka"),
    ("topic", "orders"),
    ("properties.bootstrap.servers", "dummy"),
    ("format", "avro-confluent"),
    ("avro-confluent.url", "http://registry:8081"),
    ("key.format", "debezium-avro-confluent"),
    ("key.debezium-avro-confluent.subject", "people"),
    ("key.fields", "name")]

/-- Its options with another subject for the key. -/
def otherKeySubject : OptionMap :=
  keySubject.options.insert "key.debezium-avro-confluent.subject" "persons"

/-- The formats of the registry, and a partitioner under a name of its own. -/
def ringed : Resolver where
  compile := Words.compile
  formats := registry
  partitioners := PartitionerRegistry.empty.register "hash-ring" (.constant (some 0))

/-- A table with a primary key whose sink promises to write exactly once. The key format has a
schema registry, and the source reads metadata that the sink does not write. -/
def exactlyOnce : TableDefinition where
  name := tableName
  schema := {
    columns := [
      .physical "k_id" .int64 false,
      .metadata "sent" recordTimestampType (some "timestamp") false,
      .physical "name" .utf8 true,
      .metadata "note" .utf8 (some "value.note") false,
      .metadata "sequence" .int64 (some "value.sequence") true]
    primaryKey? := some ⟨"pk", ["k_id"]⟩ }
  options := .ofList [
    ("connector", "kafka"),
    ("topic", " orders ;"),
    ("properties.bootstrap.servers", "dummy"),
    ("properties.acks", "all"),
    ("scan.topic-partition-discovery.interval", "5 s"),
    ("key.format", "avro-confluent"),
    ("key.fields", "k_id"),
    ("key.fields-prefix", "k_"),
    ("value.format", "json"),
    ("value.json.changelog-mode", "I;UA;UB;D"),
    ("value.json.readable-metadata", "note:STRING, sequence:BIGINT"),
    ("value.json.writable-metadata", "note:STRING"),
    ("value.fields-include", "EXCEPT_KEY"),
    ("sink.partitioner", " hash-ring "),
    ("sink.delivery-guarantee", "EXACTLY_ONCE"),
    ("sink.transactional-id-prefix", "orders-"),
    ("sink.parallelism", "4"),
    ("sink.buffer-flush.max-rows", "100"),
    ("sink.buffer-flush.interval", "1 s")]

/-- Its options with values that no sink takes, and none that its source reads. -/
def malformedForSink : OptionMap :=
  (exactlyOnce.options.insert "sink.parallelism" "many").insert
    "scan.startup.timestamp-millis" "soon"

/-- Its options with values that no source takes, and none that its sink reads. -/
def malformedForSource : OptionMap :=
  (exactlyOnce.options.insert "scan.startup.mode" "sometime").insert "sink.semantic" "mostly"

/-- Its columns with the metadata columns before the physical ones and computed columns around
them. -/
def metadataFirst : Schema :=
  { exactlyOnce.schema with columns := [
      .computed "day" .int64 "sent / 86400000",
      .metadata "sent" recordTimestampType (some "timestamp") false,
      .metadata "note" .utf8 (some "value.note") false,
      .physical "k_id" .int64 false,
      .metadata "sequence" .int64 (some "value.sequence") true,
      .computed "label" .utf8 "UPPER(name)",
      .physical "name" .utf8 true] }

/-- Its columns with another virtual one, which no source can read. -/
def unreadableVirtual : Schema :=
  { exactlyOnce.schema with columns := [
      .metadata "lag" .int64 none true,
      .physical "k_id" .int64 false,
      .metadata "sent" recordTimestampType (some "timestamp") false,
      .computed "label" .utf8 "UPPER(name)",
      .physical "name" .utf8 true,
      .metadata "note" .utf8 (some "value.note") false] }

/-- A resolver whose only format reports no kind of change. -/
def unchanging : Resolver where
  compile := Words.compile
  formats := .ofList [{ Delimited.named "silent" with changelogMode := fun _ => .ok (.ofKinds []) }]

/-- A table in that format with a primary key. -/
def keyedSilent : TableDefinition where
  name := tableName
  schema := { schema with primaryKey? := some ⟨"pk", ["name"]⟩ }
  options := .ofList [
    ("connector", "kafka"),
    ("topic", "orders"),
    ("properties.bootstrap.servers", "dummy"),
    ("format", "silent")]

/-- A table to be read from given offsets, where one partition is listed twice. -/
def replayed : TableDefinition where
  name := tableName
  schema := schema
  options := (sourceOptions.insert "scan.startup.mode" "Specific_Offsets").insert
    "scan.startup.specific-offsets"
    "partition:1,offset:7; partition: 0 , offset:-2;;partition:1,offset:300"

/-- A table that looks for new partitions after more milliseconds than a word holds, and tells its
client another interval. -/
def seldomDiscovering : TableDefinition where
  name := tableName
  schema := schema
  options := (sourceOptions.insert "scan.topic-partition-discovery.interval"
    " 213503982334601 Days").insert "properties.partition.discovery.interval.ms" "7"

/-- A count and a name, with a note of the format behind them. -/
def countedNames : RowType :=
  [⟨"count", .int32, true⟩, ⟨"name", .utf8, true⟩, ⟨"note", .utf8, true⟩]

/-- Three such rows; the name is missing in the last one. -/
def countedRows : Batch where
  rows := 3
  columns := [
    ⟨⟨"count", .int32, true⟩, [.int32 7, .null, .int32 (-4)]⟩,
    ⟨⟨"name", .utf8, true⟩, [.text "ada", .text "bob", .null]⟩,
    ⟨⟨"note", .utf8, true⟩, [.null, .null, .null]⟩]

/-- Values in a union have no buffer for nulls. -/
def union : DataType := .other {
  text := "Union([(0, Field \x7b name: \"count\", data_type: Int32, nullable: true, " ++
    "dict_id: 0, dict_is_ordered: false, metadata: \x7b\x7d \x7d)], Sparse)"
  nullBuffer := false }

/-- Names with a union behind them. -/
def namedUnions : RowType := [⟨"name", .utf8, true⟩, ⟨"either", union, true⟩]

def nameAndUnion : Batch where
  rows := 1
  columns := [
    ⟨⟨"name", .utf8, true⟩, [.text "ada"]⟩,
    ⟨⟨"either", union, true⟩, [.null]⟩]

/-- Runs whose ends are numbers of 16 bits. -/
def shortRuns : DataType := .other {
  text := "RunEndEncoded(Field \x7b name: \"run_ends\", data_type: Int16, nullable: false, " ++
    "dict_id: 0, dict_is_ordered: false, metadata: \x7b\x7d \x7d, Field \x7b name: \"values\", " ++
    "data_type: Utf8, nullable: true, dict_id: 0, dict_is_ordered: false, " ++
    "metadata: \x7b\x7d \x7d)"
  nullBuffer := false
  maxNulls? := some 32767 }

/-- Names with runs behind them. -/
def namedRuns : RowType := [⟨"name", .utf8, true⟩, ⟨"run", shortRuns, true⟩]

def nameAndRun : Batch where
  rows := 1
  columns := [
    ⟨⟨"name", .utf8, true⟩, [.text "ada"]⟩,
    ⟨⟨"run", shortRuns, true⟩, [.null]⟩]

/-- A digit between the fields. -/
def zeroDelimited : FormatOptions := .ofList [("delimiter", "0")]

end TopicTable.Sample
