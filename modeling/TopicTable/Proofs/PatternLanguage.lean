import TopicTable.Topic.Pattern

/-! What a library of regular expressions documents, as far as pasting a text between anchors
depends on it. The library stays a parameter: `PatternLanguage` names what its documentation speaks
of, and `Documented` is what it promises about these things. -/

namespace TopicTable

/-- The expressions of a library: which texts are expressions, which of these keep within the limits
of size and nesting, how the groups of an expression are named, and from where to where it matches
a text. -/
structure PatternLanguage where
  WellFormed : String → Prop
  Fits : String → Prop
  names : String → List String
  Spans : String → String → Nat → Nat → Prop

namespace PatternLanguage

/-- An expression by itself. -/
structure Valid (L : PatternLanguage) (source : String) : Prop where
  wellFormed : L.WellFormed source
  fits : L.Fits source

/-- An expression that ends outside of comments: a parenthesis behind it closes no group. -/
structure Closed (L : PatternLanguage) (source : String) : Prop where
  wellFormed : L.WellFormed source
  unopened : ¬ L.WellFormed (source ++ ")")

/-- The whole of a text belongs to the language of an expression. -/
def Denotes (L : PatternLanguage) (source text : String) : Prop :=
  L.Spans source text 0 text.length

end PatternLanguage

/-- What means the same in front of and behind anything else: an anchor, or a closed group. -/
inductive Piece where
  | start
  | stop
  | group (body : String)
  | capture (body : String)

namespace Piece

def text : Piece → String
  | start => "^"
  | stop => "$"
  | group body => "(?:" ++ body ++ ")"
  | capture body => "(" ++ body ++ ")"

/-- The text of pieces in a row. -/
def row : List Piece → String
  | [] => ""
  | p :: ps => p.text ++ row ps

/-- The text of alternatives. -/
def alternatives (ps : List Piece) : List (List Piece) → String
  | [] => row ps
  | qs :: more => row ps ++ "|" ++ alternatives qs more

variable (L : PatternLanguage)

def Whole : Piece → Prop
  | start | stop => True
  | group body | capture body => L.Closed body

def names : Piece → List String
  | start | stop => []
  | group body | capture body => L.names body

def Spans : Piece → String → Nat → Nat → Prop
  | start, _, i, j => i = 0 ∧ j = 0
  | stop, text, i, j => i = text.length ∧ j = text.length
  | group body, text, i, j | capture body, text, i, j => L.Spans body text i j

def RowSpans : List Piece → String → Nat → Nat → Prop
  | [], text, i, j => i = j ∧ j ≤ text.length
  | p :: ps, text, i, j => ∃ k, p.Spans L text i k ∧ RowSpans ps text k j

end Piece

/-- What the documentation of a library says about its compiler and its expressions. -/
structure Documented (compile : PatternCompiler) (L : PatternLanguage) : Prop where
  /-- Compiling fails for a text that is no expression, and for one that exceeds a limit. -/
  compiles_iff : ∀ source, (∃ found, compile source = .ok found) ↔ L.Valid source
  /-- An expression is looked for anywhere in a text. -/
  found_iff : ∀ source found, compile source = .ok found → ∀ text,
    found text = true ↔ ∃ i j, L.Spans source text i j
  /-- No two groups of an expression have one name. -/
  names_nodup : ∀ source, L.WellFormed source → (L.names source).Nodup
  /-- The syntax of anchors, groups, concatenation and alternatives, and what these match. Flags
  that an expression sets end with the group around it. -/
  composed : ∀ ps more, (∀ qs ∈ ps :: more, ∀ q ∈ qs, q.Whole L) →
    ((ps :: more).flatMap fun qs => qs.flatMap (Piece.names L)).Nodup →
    L.WellFormed (Piece.alternatives ps more) ∧
      ∀ text i j, L.Spans (Piece.alternatives ps more) text i j ↔
        ∃ qs ∈ ps :: more, Piece.RowSpans L qs text i j
  /-- A group has to be opened before it is closed, whatever comes behind. -/
  unopened : ∀ body rest, L.Closed body → ¬ L.WellFormed (body ++ ")" ++ rest)
  /-- A group that opens has to be closed, behind an expression. -/
  group_body : ∀ ps rest, (∀ p ∈ ps, p.Whole L) → L.WellFormed (Piece.row ps ++ "(?:" ++ rest) →
    ∃ body after, rest = body ++ ")" ++ after ∧ L.Closed body
  /-- The limits that pieces in a row keep, each of their groups keeps. -/
  body_fits : ∀ ps body, (∀ p ∈ ps, p.Whole L) → L.Valid (Piece.row ps) →
    Piece.group body ∈ ps → L.Fits body

end TopicTable
