import TopicTable.Topic.Pattern

/-!
# Patterns of words

A small library of regular expressions to try topic patterns with. It knows plain characters,
groups, alternatives, the two anchors, and verbose mode with its comments; other signs of regular
expressions are refused.
-/

namespace TopicTable.Words

inductive Expr where
  | empty
  | char (c : Char)
  | start
  | stop
  | seq (a b : Expr)
  | alt (a b : Expr)
deriving DecidableEq, Repr

/-- Whether an expression matches a text from one position to another. -/
def Expr.spans (text : List Char) : Expr → Nat → Nat → Bool
  | empty, i, j => i = j && j ≤ text.length
  | char c, i, j => text[i]? = some c && j = i + 1
  | start, i, j => i = 0 && j = 0
  | stop, i, j => i = text.length && j = text.length
  | seq a b, i, j =>
    (List.range (text.length + 1)).any fun k => a.spans text i k && b.spans text k j
  | alt a b, i, j => a.spans text i j || b.spans text i j

def Expr.found (e : Expr) (text : String) : Bool :=
  let positions := List.range (text.toList.length + 1)
  positions.any fun i => positions.any fun j => e.spans text.toList i j

/-- What the next character belongs to: the text of an expression, the beginning of a group, its
flags, or a comment. -/
inductive Mode where
  | text
  | opened
  | asked
  | flagged
  | comment
deriving DecidableEq, Repr

/-- A group that is being read: the alternatives before the one at hand, and that one. -/
structure Frame where
  before? : Option Expr := none
  branch : Expr := .empty
  verbose : Bool := false
deriving DecidableEq, Repr

namespace Frame

def push (f : Frame) (e : Expr) : Frame := { f with branch := .seq f.branch e }

def expr (f : Frame) : Expr :=
  match f.before? with
  | none => f.branch
  | some before => .alt before f.branch

def cut (f : Frame) : Frame := { f with before? := some f.expr, branch := .empty }

end Frame

/-- The innermost group that is open, and those around it. -/
structure State where
  mode : Mode := .text
  frame : Frame := {}
  outer : List Frame := []
deriving DecidableEq, Repr

/-- The signs of regular expressions that this library has nothing for. -/
def unsupported : List Char := ['?', '*', '+', '.', '\\', '[', ']', '\x7b', '\x7d']

namespace State

/-- Opens a group in the mode of the one around it. -/
def open' (st : State) : State :=
  ⟨.text, { verbose := st.frame.verbose }, st.frame :: st.outer⟩

def close (st : State) : Except String State :=
  match st.outer with
  | [] => .error "unopened group"
  | f :: outer => .ok ⟨.text, f.push st.frame.expr, outer⟩

def readText (st : State) (c : Char) : Except String State :=
  if st.frame.verbose ∧ (c = ' ' ∨ c = '\n') then .ok st
  else if st.frame.verbose ∧ c = '#' then .ok { st with mode := .comment }
  else if c = '(' then .ok { st with mode := .opened }
  else if c = ')' then st.close
  else if c = '|' then .ok { st with frame := st.frame.cut }
  else if c = '^' then .ok { st with frame := st.frame.push .start }
  else if c = '$' then .ok { st with frame := st.frame.push .stop }
  else if c ∈ unsupported then .error "unsupported sign"
  else .ok { st with frame := st.frame.push (.char c) }

def step (st : State) (c : Char) : Except String State :=
  match st.mode with
  | .text => st.readText c
  | .opened => if c = '?' then .ok { st with mode := .asked } else st.open'.readText c
  | .asked =>
    if c = ':' then .ok st.open'
    else if c = 'x' then .ok { st with mode := .flagged }
    else .error "unsupported flag"
  | .flagged =>
    if c = ')' then .ok { st with mode := .text, frame := { st.frame with verbose := true } }
    else .error "unsupported flag"
  | .comment => if c = '\n' then .ok { st with mode := .text } else .ok st

def run (st : State) (cs : List Char) : Except String State := cs.foldlM step st

def finish (st : State) : Except String Expr :=
  if (st.mode = .text ∨ st.mode = .comment) ∧ st.outer = [] then .ok st.frame.expr
  else .error "unclosed group"

end State

def read (cs : List Char) : Except String Expr := State.run {} cs >>= State.finish

/-- The library of these expressions. -/
def compile : PatternCompiler := fun source => (read source.toList).map Expr.found

end TopicTable.Words
