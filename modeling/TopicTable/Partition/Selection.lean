import TopicTable.Options.Catalogue
import TopicTable.Partition.Partitioner

/-!
# Selection of partitioners

A sink names a partitioner of the library or a registered one.
-/

namespace TopicTable

/-- The partitioner that a sink asks for. -/
inductive PartitionerChoice where
  | default
  | fixed
  | roundRobin
  | custom (name : String)
deriving DecidableEq, Repr

namespace PartitionerChoice

def text : PartitionerChoice → String
  | default => "default"
  | fixed => "fixed"
  | roundRobin => "round-robin"
  | custom name => name

def debugText : PartitionerChoice → String
  | default => "Default"
  | fixed => "Fixed"
  | roundRobin => "RoundRobin"
  | custom name => "Custom(" ++ Text.quote name ++ ")"

def parse (raw : String) : Except String PartitionerChoice :=
  match Text.trim raw with
  | "" => .error "partitioner name must not be empty"
  | "default" => .ok default
  | "fixed" => .ok fixed
  | "round-robin" => .ok roundRobin
  | name => .ok (custom name)

end PartitionerChoice

/-- Fresh partitioners by name. -/
structure PartitionerRegistry where
  partitioners : OrderedMap String Partitioner := ∅

namespace PartitionerRegistry

def empty : PartitionerRegistry := {}

def register (r : PartitionerRegistry) (name : String) (p : Partitioner) : PartitionerRegistry :=
  ⟨r.partitioners.insert name p⟩

def get? (r : PartitionerRegistry) (name : String) : Option Partitioner := r.partitioners.get? name

/-- The registered names, in order. -/
def names (r : PartitionerRegistry) : List String := r.partitioners.keys

def debugText (r : PartitionerRegistry) : String :=
  "PartitionerRegistry \x7b partitioners: " ++ Text.quoteList r.names ++ " \x7d"

end PartitionerRegistry

/-- The partitioner of a sink: what was asked for, and a fresh partitioner. -/
structure SinkPartitioner where
  choice : PartitionerChoice
  fresh : Partitioner

namespace SinkPartitioner

/-- Sink partitioners are compared by what was asked for. -/
instance : BEq SinkPartitioner := ⟨fun a b => a.choice == b.choice⟩

def debugText (p : SinkPartitioner) : String :=
  "SinkPartitioner \x7b spec: " ++ p.choice.debugText ++ ", .. \x7d"

def roundRobinWithKey : TableError :=
  .unsupportedCombination ("Currently 'round-robin' partitioner only works when option " ++
    "'key.fields' is not specified.")

def unknownName (name : String) : TableError :=
  .notInstantiable name ("Could not find and instantiate partitioner class '" ++ name ++ "'")

def ofOptions (options : OptionMap) (registry : PartitionerRegistry) :
    Except TableError SinkPartitioner := do
  let raw := (← options.readOrDefault? Catalogue.partitioner).getD ""
  match PartitionerChoice.parse raw with
  | .error reason => .error (.invalidValue Catalogue.partitioner.key reason)
  | .ok .default => return ⟨.default, .keyHash⟩
  | .ok .fixed => return ⟨.fixed, .fixed 0⟩
  | .ok .roundRobin =>
    if options.contains Catalogue.keyFields.key then .error roundRobinWithKey
    else return ⟨.roundRobin, .roundRobin 0⟩
  | .ok (.custom name) =>
    match registry.get? name with
    | some p => return ⟨.custom name, p⟩
    | none => .error (unknownName name)

end SinkPartitioner

end TopicTable
