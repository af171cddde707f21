import TopicTable.Options.Value

/-!
# Fields of record values
-/

namespace TopicTable

/-- Which physical columns stand in the value of a record. -/
inductive ValueFields where
  | all
  | exceptKey
deriving DecidableEq, Repr

namespace ValueFields

def text : ValueFields → String
  | all => "ALL"
  | exceptKey => "EXCEPT_KEY"

/-- Reads a choice; case does not matter and dashes stand for underscores. -/
def parse (raw : String) : Except String ValueFields :=
  match Text.replaceChar '-' '_' (Unicode.lower raw) with
  | "all" => .ok all
  | "except_key" => .ok exceptKey
  | other => .error ("unknown value fields strategy: '" ++ other ++
      "' (expected 'ALL' or 'EXCEPT_KEY')")

end ValueFields

instance : OptionValue ValueFields := ⟨ValueFields.parse⟩

end TopicTable
