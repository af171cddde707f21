import TopicTable.Topic.Selection

/-!
# Startup positions

The startup position of a source is its mode with the offsets or the timestamp that the mode
needs. Options of other modes are not looked at.
-/

namespace TopicTable

structure TopicPartition where
  topic : String
  partition : Int32
deriving DecidableEq, Repr

namespace TopicPartition

def text (p : TopicPartition) : String := p.topic ++ "-" ++ toString p.partition.toInt

/-- Partitions are in the order of their topics, then of their numbers. -/
instance : Ord TopicPartition where
  compare := compareLex (compareOn topic) (compareOn partition)

instance : Std.TransOrd TopicPartition :=
  inferInstanceAs (Std.TransCmp (compareLex (compareOn topic) (compareOn partition)))

instance : Std.LawfulEqOrd TopicPartition where
  compare_self := Std.ReflCmp.compare_self
  eq_of_compare {a b} h := by
    have h : (compare a.topic b.topic).then (compare a.partition b.partition) = .eq := h
    rw [Ordering.then_eq_eq] at h
    cases a
    cases b
    exact TopicPartition.mk.injEq .. ▸
      ⟨Std.LawfulEqOrd.eq_of_compare h.1, Std.LawfulEqOrd.eq_of_compare h.2⟩

end TopicPartition

/-- The offsets to start from, by partition number. -/
abbrev PartitionOffsets := OrderedMap Int32 Int64

namespace PartitionOffsets

def malformed (raw : String) : TableError :=
  .invalidValue Catalogue.specificOffsets.key
    ("Invalid properties 'scan.startup.specific-offsets' should follow the format " ++
      "'partition:0,offset:42;partition:1,offset:300', but is '" ++ raw ++ "'.")

/-- Reads what follows a label. -/
def readLabelled? {α : Type} (label : String) (read : String → Except Text.IntegerFault α)
    (s : String) : Option α :=
  (Text.stripPrefix? label (Text.trim s)).bind fun rest => (read (Text.trim rest)).toOption

/-- Reads the partition and the offset of an entry. -/
def readEntry? (entry : String) : Option (Int32 × Int64) := do
  let (partition, offset) ← Text.splitOnce? ',' entry
  let p ← readLabelled? "partition:" Text.parseInt32 partition
  let o ← readLabelled? "offset:" Text.parseInt64 offset
  return (p, o)

/-- Reads entries with semicolons between them; the last entry of a partition counts. -/
def parse (raw : String) : Except TableError PartitionOffsets :=
  let entries := (Text.splitAt (· = ';') raw).filter fun entry => !Text.isBlank entry
  match entries.mapM readEntry? with
  | some (e :: es) => .ok (.ofList (e :: es))
  | _ => .error (malformed raw)

end PartitionOffsets

inductive StartupPosition where
  | earliest
  | latest
  | groupOffsets
  | specificOffsets (offsets : OrderedMap TopicPartition Int64)
  | timestamp (millis : Int64)
deriving DecidableEq

namespace StartupPosition

def mode : StartupPosition → StartupMode
  | earliest => .earliestOffset
  | latest => .latestOffset
  | groupOffsets => .groupOffsets
  | specificOffsets _ => .specificOffsets
  | timestamp _ => .timestamp

def missingForMode (key : String) (mode : StartupMode) : TableError :=
  .missing [key] ("'" ++ key ++ "' is required in '" ++ mode.text ++ "' startup mode but missing.")

def severalTopics : TableError :=
  .unsupportedCombination
    "Currently Kafka source only supports specific offset for single topic."

/-- The offsets of a topic's partitions. -/
def ofTopic (topic : String) (offsets : PartitionOffsets) : OrderedMap TopicPartition Int64 :=
  .ofList (offsets.entries.map fun e => (⟨topic, e.1⟩, e.2))

def ofOptions (options : OptionMap) (topics : TopicSelection) :
    Except TableError StartupPosition := do
  let mode := (← options.readOrDefault? Catalogue.startupMode).getD .groupOffsets
  match mode with
  | .earliestOffset => return earliest
  | .latestOffset => return latest
  | .groupOffsets => return groupOffsets
  | .timestamp =>
    match ← options.read? Catalogue.timestampMillis with
    | some millis => return timestamp millis
    | none => .error (missingForMode Catalogue.timestampMillis.key mode)
  | .specificOffsets =>
    match options.get? Catalogue.specificOffsets.key, topics.single? with
    | none, _ => .error (missingForMode Catalogue.specificOffsets.key mode)
    | some _, none => .error severalTopics
    | some raw, some topic =>
      let offsets ← PartitionOffsets.parse raw
      return specificOffsets (ofTopic topic offsets)

end StartupPosition

end TopicTable
