import TopicTable.Text.Basic
import TopicTable.Unicode.CaseMap

/-!
# Changelog modes

The kinds of changes that rows of a format can stand for.
-/

namespace TopicTable

inductive ChangeKind where
  | insert
  | updateBefore
  | updateAfter
  | delete
deriving DecidableEq, Repr

namespace ChangeKind

def all : List ChangeKind := [insert, updateBefore, updateAfter, delete]

def text : ChangeKind → String
  | insert => "I"
  | updateBefore => "UB"
  | updateAfter => "UA"
  | delete => "D"

/-- Reads a kind in its short or its signed form; case does not matter. -/
def parse (raw : String) : Except String ChangeKind :=
  match Unicode.upper (Text.trim raw) with
  | "I" | "+I" => .ok insert
  | "UB" | "-U" => .ok updateBefore
  | "UA" | "+U" => .ok updateAfter
  | "D" | "-D" => .ok delete
  | other => .error ("unknown change kind: '" ++ other ++ "'")

end ChangeKind

structure ChangelogMode where
  insert : Bool
  updateBefore : Bool
  updateAfter : Bool
  delete : Bool
deriving DecidableEq, Repr

namespace ChangelogMode

def ofKinds (kinds : List ChangeKind) : ChangelogMode where
  insert := kinds.contains .insert
  updateBefore := kinds.contains .updateBefore
  updateAfter := kinds.contains .updateAfter
  delete := kinds.contains .delete

def insertOnly : ChangelogMode := ofKinds [.insert]

def all : ChangelogMode := ofKinds ChangeKind.all

instance : Inhabited ChangelogMode := ⟨insertOnly⟩

def contains (mode : ChangelogMode) : ChangeKind → Bool
  | .insert => mode.insert
  | .updateBefore => mode.updateBefore
  | .updateAfter => mode.updateAfter
  | .delete => mode.delete

def kinds (mode : ChangelogMode) : List ChangeKind := ChangeKind.all.filter mode.contains

def containsOnlyInserts (mode : ChangelogMode) : Bool := mode.kinds == [.insert]

/-- Reads a list of kinds; blank entries do not count, but one kind has to be there. -/
def parse (raw : String) : Except String ChangelogMode := do
  let entries := (Text.splitAt Text.isListSeparator raw).filter fun entry => !Text.isBlank entry
  let kinds ← entries.mapM ChangeKind.parse
  if kinds = [] then .error "changelog mode must contain at least one change kind"
  else .ok (ofKinds kinds)

def text (mode : ChangelogMode) : String :=
  "[" ++ ", ".intercalate (mode.kinds.map ChangeKind.text) ++ "]"

end ChangelogMode

end TopicTable
