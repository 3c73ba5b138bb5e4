/-!
# White space

White space is the Unicode property `White_Space`.  Settings, cluster
identifiers and host names are judged and trimmed by it, so a no-break space
counts as blank and a zero-width space does not.
-/

namespace ProbeLifecycle.Text

def whiteSpaceCodePoints : List Nat :=
  [0x09, 0x0A, 0x0B, 0x0C, 0x0D, 0x20, 0x85, 0xA0, 0x1680,
   0x2000, 0x2001, 0x2002, 0x2003, 0x2004, 0x2005, 0x2006, 0x2007, 0x2008,
   0x2009, 0x200A, 0x2028, 0x2029, 0x202F, 0x205F, 0x3000]

/-- Whether a character has the Unicode property `White_Space`. -/
def isWhiteSpace (char : Char) : Bool :=
  whiteSpaceCodePoints.contains char.toNat

def stripEnds (drop : Char → Bool) (chars : List Char) : List Char :=
  ((chars.dropWhile drop).reverse.dropWhile drop).reverse

def stripEnd (drop : Char → Bool) (chars : List Char) : List Char :=
  (chars.reverse.dropWhile drop).reverse

def trim (text : String) : String :=
  .ofList (stripEnds isWhiteSpace text.toList)

def isBlank (text : String) : Bool :=
  text.toList.all isWhiteSpace

example : trim "\u00a0 id \u3000" = "id" := by decide

end ProbeLifecycle.Text
