import TopicTable.Options.Map
import TopicTable.Options.Value
import TopicTable.Text.Quoted

/-!
# Declared options

An option is declared once with its key, its description, its default and a check of its values.
Typed reads go through the declaration.
-/

namespace TopicTable

structure OptionSpec where
  key : String
  description : String
  required : Bool
  default? : Option String
deriving DecidableEq, Repr

/-- A declared option with values of type `α`. The default is written as the option would be, and
the check returns the message for a value it refuses. -/
structure DeclaredOption (α : Type) where
  key : String
  description : String
  default? : Option String := none
  refusal? : α → Option String := fun _ => none

namespace DeclaredOption

variable {α : Type}

def spec (option : DeclaredOption α) (required : Bool) : OptionSpec :=
  ⟨option.key, option.description, required, option.default?⟩

/-- Reads and checks the text of an option. -/
def parse [OptionValue α] (option : DeclaredOption α) (raw : String) : Except TableError α :=
  match OptionValue.parse raw with
  | .error reason =>
    .error (.invalidValue option.key
      ("Invalid value for option '" ++ option.key ++ "': " ++ reason))
  | .ok value =>
    match option.refusal? value with
    | some message => .error (.invalidValue option.key message)
    | none => .ok value

/-- A short text for diagnostics. -/
def debugText (option : DeclaredOption α) : String :=
  "ConfigOption \x7b key: " ++ Text.quote option.key ++ ", default: " ++
    Text.quoteOption option.default? ++ ", .. \x7d"

end DeclaredOption

namespace OptionMap

variable {α : Type} [OptionValue α]

def read? (options : OptionMap) (option : DeclaredOption α) : Except TableError (Option α) :=
  match options.get? option.key with
  | some raw => (option.parse raw).map some
  | none => .ok none

/-- The value of an option, or of its default; none for an unset option without one. -/
def readOrDefault? (options : OptionMap) (option : DeclaredOption α) :
    Except TableError (Option α) :=
  match (options.get? option.key).or option.default? with
  | some raw => (option.parse raw).map some
  | none => .ok none

end OptionMap

end TopicTable
