import TopicTable.Format.Handle

/-!
# Schema registry subjects

Formats with a schema registry look their schema up under a subject. A sink names the subjects
that its table leaves out after its topic.
-/

namespace TopicTable

/-- The formats with a schema registry. -/
inductive SchemaRegistryFormat where
  | avroConfluent
  | debeziumAvroConfluent
deriving DecidableEq, Repr

namespace SchemaRegistryFormat

def identifier : SchemaRegistryFormat → String
  | avroConfluent => "avro-confluent"
  | debeziumAvroConfluent => "debezium-avro-confluent"

def parse (raw : String) : Except String SchemaRegistryFormat :=
  match raw with
  | "avro-confluent" => .ok avroConfluent
  | "debezium-avro-confluent" => .ok debeziumAvroConfluent
  | other => .error ("'" ++ other ++ "' is not a schema registry format")

end SchemaRegistryFormat

namespace OptionMap

/-- Sets the subject of the format that a slot names, if that format has a schema registry and
its subject is not set. -/
def fillSubject (options : OptionMap) (slot : FormatSlot) (subject : String) : OptionMap :=
  match (options.get? slot.key).bind fun raw => (SchemaRegistryFormat.parse raw).toOption with
  | none => options
  | some format =>
    let key := slot.scope format.identifier ++ "subject"
    if options.contains key then options else options.insert key subject

def valueSlot? (options : OptionMap) : Option FormatSlot :=
  [FormatSlot.shared, FormatSlot.ofValue].find? fun slot => options.contains slot.key

/-- The options with the subjects filled in that a sink to a topic uses. -/
def withSubjects (options : OptionMap) (topic : String) : OptionMap :=
  let filled :=
    match options.valueSlot? with
    | none => options
    | some slot => options.fillSubject slot (topic ++ "-value")
  filled.fillSubject .ofKey (topic ++ "-key")

end OptionMap

end TopicTable
