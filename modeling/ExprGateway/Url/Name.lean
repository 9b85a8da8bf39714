import ExprGateway.Text.Composition
import ExprGateway.Url.Direction
import ExprGateway.Url.Folding
import ExprGateway.Url.Joining
import ExprGateway.Url.Punycode

/-!
# Names of hosts

A name is folded and cut at its dots.  A label that starts with `xn--` stands for the characters that it
writes, which must be folded already, and not all of them ASCII.  `Name.labels?` gives the labels of
a name if every one of them is sound and all show their direction.
-/

namespace ExprGateway.Url

/-- Text cut at a character. -/
def splitAt (separator : Char) (cs : List Char) : List (List Char) :=
  cs.foldr (fun c parts =>
    if c = separator then [] :: parts
    else match parts with
      | [] => [[c]]
      | part :: rest => (c :: part) :: rest) [[]]

namespace Name

/-- Whether a character is one of ASCII. -/
def isAscii (c : Char) : Bool := c.toNat < 0x80

/-- How many characters a label with others than ASCII may have. -/
def maxWideLength : Nat := 1000

/-- How many characters may follow `xn--`. -/
def maxWrittenLength : Nat := 2000

/-- A text, folded and composed; nothing if a character in it is in no name. -/
def folded? (cs : List Char) : Option (List Char) :=
  (cs.mapM fold?).map fun texts => compose texts.flatten

/-- The characters that a text behind `xn--` writes. -/
def written? (cs : List Char) : Option (List Char) := do
  if !cs.all isAscii ∨ maxWrittenLength < cs.length then none
  let label ← Punycode.decode? cs
  if !label.all isAscii ∧ folded? label = some label then some label else none

/-- The characters that a label stands for. -/
def meaning? : List Char → Option (List Char)
  | 'x' :: 'n' :: '-' :: '-' :: rest => written? rest
  | label => if label.all isAscii || label.length ≤ maxWideLength then some label else none

/-- The ASCII characters that are in no name. -/
def isDenied (c : Char) : Bool :=
  c.toNat ≤ 0x20 || c.toNat == 0x7f || "%#/:<>?@[\\]^|".toList.contains c

/-- Whether the characters of a label can be a part of a name. -/
def isSound (label : List Char) : Bool :=
  !label.any isDenied && !label.head?.any combining.contains && areJoinersPlaced [] label

/-- The labels of a name, folded. -/
def labels? (name : List Char) : Option (List (List Char)) := do
  let labels := splitAt '.' (← folded? name)
  let meanings ← labels.mapM meaning?
  if meanings.all isSound && showDirections meanings then some labels else none

end Name

end ExprGateway.Url
