import TopicTable.Unicode.PropertyTable

/-!
# Character properties

The classes of characters that trimming, case mapping and quoting go by.
-/

namespace TopicTable.Unicode

def isCased (c : Char) : Bool := PropertyTable.cased.contains c

def isCaseIgnorable (c : Char) : Bool := PropertyTable.caseIgnorable.contains c

/-- White space; the class has no character beyond the basic plane. -/
def isWhiteSpace (c : Char) : Bool :=
  let n := c.toNat
  (9 ≤ n && n ≤ 13) || n = 0x20 || n = 0x85 || n = 0xa0 || n = 0x1680 ||
    (0x2000 ≤ n && n ≤ 0x200a) || n = 0x2028 || n = 0x2029 || n = 0x202f || n = 0x205f ||
    n = 0x3000

/-- Characters that quoted text shows as themselves. -/
def isShown (c : Char) : Bool := !PropertyTable.unshown.contains c

end TopicTable.Unicode
