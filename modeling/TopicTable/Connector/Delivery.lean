import TopicTable.Options.Catalogue

/-!
# Delivery settings of sinks

The delivery guarantee with its transactional ids, and the buffer of a sink.
-/

namespace TopicTable

/-- The guarantee of a sink, where the older option counts only without the newer one. -/
def DeliveryGuarantee.ofOptions (options : OptionMap) :
    Except TableError DeliveryGuarantee := do
  match ← options.read? Catalogue.deliveryGuarantee with
  | some guarantee => return guarantee
  | none => return (← options.readOrDefault? Catalogue.semantic).getD .atLeastOnce

def missingTransactionalId : TableError :=
  .missing [Catalogue.transactionalIdPrefix.key]
    ("sink.transactional-id-prefix must be specified when using " ++
      "DeliveryGuarantee.EXACTLY_ONCE.")

/-- The prefix of transactional ids, without which nothing is delivered exactly once. A blank one
is none. -/
def transactionalIdPrefix (options : OptionMap) (guarantee : DeliveryGuarantee) :
    Except TableError (Option String) := do
  let start? := (← options.read? Catalogue.transactionalIdPrefix).filter fun p => !Text.isBlank p
  if guarantee = .exactlyOnce ∧ start? = none then .error missingTransactionalId
  else return start?

/-- A sink keeps rows until there are enough of them or the interval is over. -/
structure SinkBuffer where
  rows : UInt64
  interval : Duration
deriving DecidableEq, Repr

namespace SinkBuffer

def disabled : SinkBuffer := ⟨0, .zero⟩

def isEnabled (b : SinkBuffer) : Bool := 0 < b.rows && b.interval != .zero

def halfSet : TableError :=
  .conflict [Catalogue.bufferFlushMaxRows.key, Catalogue.bufferFlushInterval.key]
    ("'sink.buffer-flush.max-rows' and 'sink.buffer-flush.interval' must be set to be greater " ++
      "than zero together to enable sink buffer flushing.")

/-- Either both settings are positive or both are zero. -/
def ofOptions (options : OptionMap) : Except TableError SinkBuffer := do
  let rows := (← options.readOrDefault? Catalogue.bufferFlushMaxRows).getD 0
  let interval := (← options.readOrDefault? Catalogue.bufferFlushInterval).getD .zero
  let buffer : SinkBuffer := ⟨rows, interval⟩
  if buffer.isEnabled ∨ buffer = disabled then return buffer else .error halfSet

end SinkBuffer

end TopicTable
