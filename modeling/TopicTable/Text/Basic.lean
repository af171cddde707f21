import TopicTable.Unicode.Property

/-!
# Text operations

Trimming, prefixes and splitting, each defined on characters and wrapped for strings.
-/

namespace TopicTable.Text

def trimChars (cs : List Char) : List Char :=
  ((cs.dropWhile Unicode.isWhiteSpace).reverse.dropWhile Unicode.isWhiteSpace).reverse

def trim (s : String) : String := String.ofList (trimChars s.toList)

def isBlank (s : String) : Bool := s.toList.all Unicode.isWhiteSpace

/-- The rest of a text after a given beginning, which it must have. -/
def stripChars? : List Char → List Char → Option (List Char)
  | [], s => some s
  | _ :: _, [] => none
  | a :: start, b :: s => if a = b then stripChars? start s else none

theorem stripChars?_eq_some_iff {start s rest : List Char} :
    stripChars? start s = some rest ↔ s = start ++ rest := by
  induction start generalizing s with
  | nil => simp [stripChars?]
  | cons a start ih =>
    cases s with
    | nil => simp [stripChars?]
    | cons b s =>
      by_cases h : a = b
      · simp [stripChars?, h, ih]
      · simp [stripChars?, h, Ne.symm h]

def stripPrefix? (start s : String) : Option String :=
  (stripChars? start.toList s.toList).map String.ofList

def hasPrefix (start s : String) : Bool := (stripChars? start.toList s.toList).isSome

/-- Splits at every separator character; a text without one is a single piece. -/
def splitAt (separator : Char → Bool) (s : String) : List String :=
  (s.toList.splitOnP separator).map String.ofList

/-- Splits at the first separator character, which must occur. -/
def splitOnceChars? (separator : Char) : List Char → Option (List Char × List Char)
  | [] => none
  | c :: rest =>
    if c = separator then some ([], rest)
    else (splitOnceChars? separator rest).map fun p => (c :: p.1, p.2)

def splitOnce? (separator : Char) (s : String) : Option (String × String) :=
  (splitOnceChars? separator s.toList).map fun p => (String.ofList p.1, String.ofList p.2)

/-- Entries are separated by semicolons or commas. -/
def isListSeparator (c : Char) : Bool := c = ';' || c = ','

/-- The entries of a list option: separated, trimmed, blank ones left out. -/
def listEntries (s : String) : List String :=
  ((splitAt isListSeparator s).map trim).filter fun entry => entry ≠ ""

def replaceChar (old new : Char) (s : String) : String :=
  String.ofList (s.toList.map fun c => if c = old then new else c)

/-- Splits at every occurrence of a delimiter `d :: ds`, from the left. -/
def fieldsBy (d : Char) (ds : List Char) (s : List Char) : List (List Char) :=
  match _h : stripChars? (d :: ds) s with
  | some rest => [] :: fieldsBy d ds rest
  | none =>
    match s with
    | [] => [[]]
    | c :: rest => (fieldsBy d ds rest).modifyHead (c :: ·)
termination_by s.length
decreasing_by
  · rw [stripChars?_eq_some_iff.1 _h, List.cons_append, List.length_cons, List.length_append]
    omega
  · simp

/-- The fields of a text. The empty delimiter stands before, between and after all
characters. -/
def splitFields (delimiter s : String) : List String :=
  match delimiter.toList with
  | [] => "" :: s.toList.map (fun c => String.ofList [c]) ++ [""]
  | d :: ds => (fieldsBy d ds s.toList).map String.ofList

end TopicTable.Text
