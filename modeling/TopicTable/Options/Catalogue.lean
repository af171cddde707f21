import TopicTable.Connector.Guarantee
import TopicTable.Options.Declared
import TopicTable.Row.ValueFields
import TopicTable.Topic.Pattern
import TopicTable.Topic.StartupMode

/-!
# The option catalogue

Every option of the connector, declared once.
-/

namespace TopicTable

def connectorIdentifier : String := "kafka"

/-- Options under this prefix are handed to the client without it. -/
def propertiesPrefix : String := "properties."

/-- The prefix of the options of a value format declared for the value alone. -/
def valuePrefix : String := "value."

def keyPrefix : String := "key."

namespace Catalogue

def connector : DeclaredOption String where
  key := "connector"
  description := "Connector identifier, must be 'kafka'"

def topic : DeclaredOption (List String) where
  key := "topic"
  description := "Topic names from which the table is read, or the single topic written to"

def topicPattern : DeclaredOption TopicPattern where
  key := "topic-pattern"
  description := "Regular expression of topic names to read from; exclusive with 'topic'"

def bootstrapServers : DeclaredOption String where
  key := "properties.bootstrap.servers"
  description := "Comma-separated list of Kafka brokers"

def groupId : DeclaredOption String where
  key := "properties.group.id"
  description := "Consumer group id; enables committing offsets on checkpoint"

def format : DeclaredOption String where
  key := "format"
  description := "Format of the record value; exclusive with 'value.format'"

def valueFormat : DeclaredOption String where
  key := "value.format"
  description := "Format of the record value"

def keyFormat : DeclaredOption String where
  key := "key.format"
  description := "Format of the record key"

def keyFields : DeclaredOption (List String) where
  key := "key.fields"
  description := "Semicolon-separated physical columns stored in the record key"

def keyFieldsPrefix : DeclaredOption String where
  key := "key.fields-prefix"
  description := "Prefix of key field names, stripped before the key format sees them"

def valueFieldsInclude : DeclaredOption ValueFields where
  key := "value.fields-include"
  description := "Whether the value includes all physical columns or all except key columns"
  default? := some "ALL"

def startupMode : DeclaredOption StartupMode where
  key := "scan.startup.mode"
  description := "Startup mode for the Kafka consumer"
  default? := some "group-offsets"

def specificOffsets : DeclaredOption String where
  key := "scan.startup.specific-offsets"
  description := "Offsets per partition, e.g. 'partition:0,offset:42;partition:1,offset:300'"

def timestampMillis : DeclaredOption Int64 where
  key := "scan.startup.timestamp-millis"
  description := "Epoch milliseconds to start from in 'timestamp' mode"

def partitionDiscovery : DeclaredOption Duration where
  key := "scan.topic-partition-discovery.interval"
  description := "Interval for the consumer to discover new partitions"

def partitioner : DeclaredOption String where
  key := "sink.partitioner"
  description := "'default', 'fixed', 'round-robin' or the name of a registered partitioner"
  default? := some "default"
  refusal? := fun value =>
    if Text.trim value = "" then
      some "Option 'sink.partitioner' should be a non-empty string."
    else none

def deliveryGuarantee : DeclaredOption DeliveryGuarantee where
  key := "sink.delivery-guarantee"
  description := "'at-least-once', 'exactly-once' or 'none'"

def semantic : DeclaredOption DeliveryGuarantee where
  key := "sink.semantic"
  description := "Deprecated, use 'sink.delivery-guarantee'"
  default? := some "at-least-once"

def transactionalIdPrefix : DeclaredOption String where
  key := "sink.transactional-id-prefix"
  description := "Prefix of producer transactional ids, required for exactly-once"

def parallelism : DeclaredOption UInt32 where
  key := "sink.parallelism"
  description := "Parallelism of the sink operator"
  refusal? := fun value =>
    if value = 0 then
      some "Invalid value for option 'sink.parallelism': parallelism must be greater than 0"
    else none

def bufferFlushMaxRows : DeclaredOption UInt64 where
  key := "sink.buffer-flush.max-rows"
  description := "Maximum number of buffered rows before flushing, 0 disables buffering"
  default? := some "0"

def bufferFlushInterval : DeclaredOption Duration where
  key := "sink.buffer-flush.interval"
  description := "Flush interval of buffered rows, 0 disables buffering"
  default? := some "0 ms"

def specs : List OptionSpec := [
  connector.spec true, topic.spec false, topicPattern.spec false, bootstrapServers.spec true,
  groupId.spec false, format.spec false, valueFormat.spec false, keyFormat.spec false,
  keyFields.spec false, keyFieldsPrefix.spec false, valueFieldsInclude.spec false,
  startupMode.spec false, specificOffsets.spec false, timestampMillis.spec false,
  partitionDiscovery.spec false, partitioner.spec false, deliveryGuarantee.spec false,
  semantic.spec false, transactionalIdPrefix.spec false, parallelism.spec false,
  bufferFlushMaxRows.spec false, bufferFlushInterval.spec false]

def keys : List String := specs.map (·.key)

end Catalogue

end TopicTable
