/-!
# Errors

`TableError` says which rule a table definition breaks; `CodecError` is raised where records meet
a format. Their messages are shown to users as they are.
-/

namespace TopicTable

inductive TableError where
  /-- Options that exclude each other are set. -/
  | conflict (options : List String) (message : String)
  /-- Options that the definition needs are not set. -/
  | missing (options : List String) (message : String)
  /-- The value of an option cannot be read or is refused. -/
  | invalidValue (option message : String)
  /-- Settings are valid alone but not together. -/
  | unsupportedCombination (message : String)
  /-- A named class cannot be made. -/
  | notInstantiable (className message : String)
  /-- A sink has more than one topic, or a pattern of topics. -/
  | cardinality (option message : String)
  /-- The schema is not what the options refer to. -/
  | schemaMismatch (message : String)
  /-- No format has the requested identifier. -/
  | unknownFormat (identifier option available : String)
  /-- Options that no part of the definition reads. -/
  | unsupportedOptions (connector : String) (unsupported : List String)
deriving DecidableEq, Repr

namespace TableError

def message : TableError → String
  | conflict _ message => message
  | missing _ message => message
  | invalidValue _ message => message
  | unsupportedCombination message => message
  | notInstantiable _ message => message
  | cardinality _ message => message
  | schemaMismatch message => message
  | unknownFormat identifier option available =>
    "Could not find any format factory for identifier '" ++ identifier ++
      "' (requested via option '" ++ option ++ "'). Available factory identifiers are: [" ++
      available ++ "]"
  | unsupportedOptions connector unsupported =>
    "Unsupported options found for '" ++ connector ++ "'.\n\nUnsupported options:\n\n" ++
      "\n".intercalate unsupported

/-- The option keys that an error refers to. -/
def optionKeys : TableError → List String
  | conflict options _ => options
  | missing options _ => options
  | invalidValue option _ => [option]
  | cardinality option _ => [option]
  | unknownFormat _ option _ => [option]
  | unsupportedOptions _ unsupported => unsupported
  | unsupportedCombination _ => []
  | notInstantiable _ _ => []
  | schemaMismatch _ => []

/-- Required options that are not set. -/
def missingRequired (keys : List String) : TableError :=
  .missing keys ("One or more required options are missing.\n\n" ++
    "Missing required options are:\n\n" ++ "\n".intercalate keys)

/-- Two options of which at most one may be set. -/
def exclusive (a b : String) : TableError :=
  .conflict [a, b] ("Option '" ++ a ++ "' and '" ++ b ++ "' shouldn't be set together.")

end TableError

/-- Why records cannot be decoded or encoded. -/
inductive CodecError where
  | malformedInput (message : String)
  | typeConversion (field expected message : String)
  | columns (message : String)
  /-- The decoder stops without an answer: a type has no array of so many nulls. -/
  | tooManyNulls (type : String) (count : Nat)
deriving DecidableEq, Repr

def CodecError.message : CodecError → String
  | malformedInput message => "malformed input: " ++ message
  | typeConversion field expected message =>
    "type conversion error: field '" ++ field ++ "', expected " ++ expected ++ ": " ++ message
  | columns message => "arrow error: " ++ message
  | tooManyNulls type count =>
    "no array of " ++ type ++ " holds " ++ toString count ++ " nulls"

end TopicTable
