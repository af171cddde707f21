import TopicTable.Options.Value

/-!
# Delivery guarantees
-/

namespace TopicTable

/-- What a sink promises about the records it was given. -/
inductive DeliveryGuarantee where
  | atLeastOnce
  | exactlyOnce
  | bestEffort
deriving DecidableEq, Repr

namespace DeliveryGuarantee

def text : DeliveryGuarantee → String
  | atLeastOnce => "at-least-once"
  | exactlyOnce => "exactly-once"
  | bestEffort => "none"

/-- Reads a guarantee; case does not matter and underscores stand for dashes. -/
def parse (raw : String) : Except String DeliveryGuarantee :=
  match Text.replaceChar '_' '-' (Unicode.lower raw) with
  | "at-least-once" | "atleastonce" => .ok atLeastOnce
  | "exactly-once" | "exactlyonce" => .ok exactlyOnce
  | "none" => .ok bestEffort
  | other => .error ("unknown delivery guarantee: '" ++ other ++
      "' (expected 'at-least-once', 'exactly-once' or 'none')")

end DeliveryGuarantee

instance : OptionValue DeliveryGuarantee := ⟨DeliveryGuarantee.parse⟩

end TopicTable
