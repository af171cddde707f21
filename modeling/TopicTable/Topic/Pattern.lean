import TopicTable.Options.Value

/-!
# Topic patterns

A topic pattern is a regular expression for whole topic names. The library of regular expressions
is a parameter: it says which texts are expressions and where these are found.
-/

namespace TopicTable

/-- What a library of regular expressions makes of a text: a test whether the expression is found
anywhere in another text, or the message why there is no such expression. -/
abbrev PatternCompiler := String → Except String (String → Bool)

/-- A pattern as written, and the test of the expression it became. -/
structure TopicPattern where
  source : String
  found : String → Bool

namespace TopicPattern

/-- Patterns are compared as written. -/
instance : BEq TopicPattern := ⟨fun p q => p.source == q.source⟩

/-- The text whose expression matches the whole names of a pattern. -/
def anchored (source : String) : String := "^(?:" ++ source ++ ")$"

/-- The reason for refusing a source, with the message of the library. -/
def refusal (source message : String) : String :=
  "invalid topic pattern '" ++ source ++ "': " ++ message

def parse (compile : PatternCompiler) (source : String) : Except String TopicPattern :=
  match compile (anchored source) with
  | .ok found => .ok ⟨source, found⟩
  | .error message => .error (refusal source message)

def isMatch (p : TopicPattern) (topic : String) : Bool := p.found topic

/-- Option texts are read as patterns by a compiler. -/
abbrev optionValue (compile : PatternCompiler) : OptionValue TopicPattern := ⟨parse compile⟩

end TopicPattern

end TopicTable
