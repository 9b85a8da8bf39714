/-!
# Blank characters

The characters with the property White_Space.  They are dropped from expressions, and cut from the
ends of replies, directives and settings.
-/

namespace ExprGateway

/-- Whether a character is white space, in any script. -/
def isBlank (c : Char) : Bool :=
  let n := c.toNat
  (9 ≤ n && n ≤ 13) || n == 0x20 || n == 0x85 || n == 0xa0 || n == 0x1680 ||
    (0x2000 ≤ n && n ≤ 0x200a) || n == 0x2028 || n == 0x2029 || n == 0x202f || n == 0x205f ||
    n == 0x3000

/-- Blanks cut from both ends. -/
def trimBlanks (cs : List Char) : List Char :=
  ((cs.dropWhile isBlank).reverse.dropWhile isBlank).reverse

/-- Blanks cut from both ends of a string. -/
def trim (s : String) : String := String.ofList (trimBlanks s.toList)

end ExprGateway
