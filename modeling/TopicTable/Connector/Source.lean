import TopicTable.Format.Handle
import TopicTable.Row.Layout
import TopicTable.Row.Metadata
import TopicTable.Topic.Startup

/-!
# Sources

Everything a reader of a table has to know.
-/

namespace TopicTable

structure SourceSpec where
  /-- The row of the physical columns. -/
  physical : RowType
  /-- The row that the source yields: physical columns, then metadata columns. -/
  produced : RowType
  keyFormat? : Option FormatHandle
  valueFormat : FormatHandle
  layout : RecordLayout
  keyPrefix? : Option String
  topics : TopicSelection
  properties : OptionMap
  startup : StartupPosition
  metadataKeys : List String
  watermark? : Option Watermark
deriving BEq

structure SourceDecoders where
  key? : Option Decoder
  value : Decoder

def SourceDecoders.debugText (d : SourceDecoders) : String :=
  "SourceDecoders \x7b has_key: " ++ toString d.key?.isSome ++ ", .. \x7d"

namespace SourceSpec

/-- Offsets are committed on checkpoints if the client has a group. -/
def commitsOffsets (s : SourceSpec) : Bool := s.properties.contains "group.id"

def readable (s : SourceSpec) : List (String × DataType) :=
  MetadataAccess.read.supported s.valueFormat.readableMetadata

def decoders (s : SourceSpec) : Except TableError SourceDecoders := do
  let key? ← s.keyFormat?.mapM (·.decoder)
  let value ← s.valueFormat.decoder
  return ⟨key?, value⟩

end SourceSpec

end TopicTable
