import TopicTable.Options.Catalogue

/-!
# Topic selection

A table reads a list of topics or every topic whose name a pattern matches. A sink writes to one
topic.
-/

namespace TopicTable

inductive TopicSelection where
  | topics (names : List String)
  | pattern (p : TopicPattern)
deriving BEq

namespace TopicSelection

def readPattern? (compile : PatternCompiler) (options : OptionMap) :
    Except TableError (Option TopicPattern) :=
  letI := TopicPattern.optionValue compile
  options.read? Catalogue.topicPattern

/-- Reads the selection. Both options are read before they are found to exclude each other. -/
def ofOptions (compile : PatternCompiler) (options : OptionMap) :
    Except TableError TopicSelection := do
  let names ← options.read? Catalogue.topic
  let pattern ← readPattern? compile options
  match names, pattern with
  | some _, some _ => .error (.exclusive Catalogue.topic.key Catalogue.topicPattern.key)
  | some (name :: names), none => .ok (.topics (name :: names))
  | none, some p => .ok (.pattern p)
  | _, _ =>
    .error (.missing [Catalogue.topic.key, Catalogue.topicPattern.key]
      "Either 'topic' or 'topic-pattern' must be set.")

/-- The topic of a selection of exactly one. -/
def single? : TopicSelection → Option String
  | topics [name] => some name
  | _ => none

def listText (names : List String) : String := "[" ++ ", ".intercalate names ++ "]"

def text : TopicSelection → String
  | topics names => listText names
  | pattern p => "pattern '" ++ p.source ++ "'"

/-- More topics than a sink can write to. -/
def tooMany (option got : String) : TableError :=
  .cardinality option ("Flink Kafka sink currently only supports single topic, but got '" ++
    option ++ "': " ++ got ++ ".")

def sinkTopic (selection : TopicSelection) : Except TableError String :=
  match selection with
  | topics [name] => .ok name
  | topics names => .error (tooMany Catalogue.topic.key (listText names))
  | pattern p => .error (tooMany Catalogue.topicPattern.key p.source)

/-- Whether records of a topic belong to the selection. -/
def includes (selection : TopicSelection) (topic : String) : Bool :=
  match selection with
  | topics names => names.contains topic
  | pattern p => p.isMatch topic

end TopicSelection

end TopicTable
