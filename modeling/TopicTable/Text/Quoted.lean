import TopicTable.Unicode.Property

/-!
# Quoted text

Text between double quotes for diagnostics: quotes, backslashes and common controls have short
escapes, other characters that would not show have their hexadecimal code point.
-/

namespace TopicTable.Text

/-- A code point escape: hexadecimal digits in braces. -/
def escapeCodePoint (c : Char) : String :=
  "\\u\x7b" ++ String.ofList (Nat.toDigits 16 c.toNat) ++ "\x7d"

def escapeChar (c : Char) : String :=
  if c = '"' then "\\\""
  else if c = '\\' then "\\\\"
  else if c = '\n' then "\\n"
  else if c = '\r' then "\\r"
  else if c = '\t' then "\\t"
  else if c.toNat = 0 then "\\0"
  else if !Unicode.isShown c then escapeCodePoint c
  else String.ofList [c]

def quote (s : String) : String :=
  "\"" ++ String.join (s.toList.map escapeChar) ++ "\""

/-- Quoted texts in brackets. -/
def quoteList (items : List String) : String :=
  "[" ++ ", ".intercalate (items.map quote) ++ "]"

def quoteOption : Option String → String
  | none => "None"
  | some s => "Some(" ++ quote s ++ ")"

end TopicTable.Text
