import TopicTable.Connector.Delivery
import TopicTable.Format.Handle
import TopicTable.Partition.Selection
import TopicTable.Row.Layout
import TopicTable.Row.Metadata

/-!
# Sinks

Everything a writer of a table has to know.
-/

namespace TopicTable

structure SinkSpec where
  /-- The row of the physical columns. -/
  physical : RowType
  /-- The row that the sink is given: physical columns, then stored metadata columns. -/
  consumed : RowType
  keyFormat? : Option FormatHandle
  valueFormat : FormatHandle
  layout : RecordLayout
  keyPrefix? : Option String
  topic : String
  properties : OptionMap
  partitioner : SinkPartitioner
  guarantee : DeliveryGuarantee
  transactionalIdPrefix? : Option String
  parallelism? : Option UInt32
  buffer : SinkBuffer
  metadataKeys : List String
deriving BEq

structure SinkEncoders where
  key? : Option Encoder
  value : Encoder

def SinkEncoders.debugText (e : SinkEncoders) : String :=
  "SinkEncoders \x7b has_key: " ++ toString e.key?.isSome ++ ", .. \x7d"

namespace SinkSpec

def writable (s : SinkSpec) : List (String × DataType) :=
  MetadataAccess.write.supported s.valueFormat.writableMetadata

def encoders (s : SinkSpec) : Except TableError SinkEncoders := do
  let key? ← s.keyFormat?.mapM (·.encoder)
  let value ← s.valueFormat.encoder
  return ⟨key?, value⟩

end SinkSpec

end TopicTable
