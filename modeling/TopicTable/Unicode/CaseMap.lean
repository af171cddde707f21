import TopicTable.Unicode.CaseTable
import TopicTable.Unicode.Property

/-!
# Case mappings

Full lower- and upper-casing of text, where one character may become several. ASCII letters are
mapped without a look at the tables.
-/

namespace TopicTable.Unicode

namespace CaseRun

/-- The image of a code point of the run. -/
def image? (r : CaseRun) (n : Nat) : Option Nat :=
  if r.first ≤ n ∧ n ≤ r.last ∧ (n - r.first) % r.step = 0 then some ((n : Int) + r.offset).toNat
  else none

end CaseRun

/-- The image under a table of runs and a table of expansions; other characters stay. -/
def mapCase (runs : List CaseRun) (expansions : List (Nat × List Nat)) (c : Char) : List Char :=
  match expansions.find? fun e => e.1 = c.toNat with
  | some e => e.2.map Char.ofNat
  | none => [Char.ofNat ((runs.findSome? (·.image? c.toNat)).getD c.toNat)]

def lowerChar (c : Char) : List Char :=
  if c.toNat < 128 then [c.toLower] else mapCase CaseTable.lowerRuns CaseTable.lowerExpansions c

def upperChar (c : Char) : List Char :=
  if c.toNat < 128 then [c.toUpper] else mapCase CaseTable.upperRuns CaseTable.upperExpansions c

/-- Whether a text goes on with a cased character, case-ignorable ones apart. -/
def startsCased (cs : List Char) : Bool :=
  match cs.dropWhile isCaseIgnorable with
  | [] => false
  | c :: _ => isCased c

/-- Lower case of a text whose reversed beginning is `before`. A capital sigma that ends a word
becomes the final form. -/
def lowerFrom (before : List Char) : List Char → List Char
  | [] => []
  | c :: rest =>
    let image :=
      if c = 'Σ' then
        if startsCased before && !startsCased rest then ['ς'] else ['σ']
      else lowerChar c
    image ++ lowerFrom (c :: before) rest

def lower (s : String) : String := String.ofList (lowerFrom [] s.toList)

def upper (s : String) : String := String.ofList (s.toList.flatMap upperChar)

end TopicTable.Unicode
