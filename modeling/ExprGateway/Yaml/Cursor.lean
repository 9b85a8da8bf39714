import ExprGateway.Text.Utf8
import ExprGateway.Yaml.Fault

/-!
# A place in a text and what follows it

The cursor is all that the readers of YAML see of a text: what is left, and where that is.
-/

namespace ExprGateway.Yaml

/-- What is left of a text, and where. -/
structure Cursor where
  rest : List Char
  mark : Mark := {}
  /-- How many characters are left. -/
  left : Nat := rest.length
  left_eq : left = rest.length := by rfl

/-- The end of a line. -/
def isBreak (c : Char) : Bool :=
  c == '\n' || c == '\r' || c == '\u0085' || c == '\u2028' || c == '\u2029'

/-- A blank inside a line. -/
def isSpace (c : Char) : Bool := c == ' ' || c == '\t'

namespace Cursor

/-- Whether the next character is a given one. -/
def at? (k : Cursor) (c : Char) : Bool := k.rest.head? == some c

/-- Whether the character at a distance is a given one. -/
def isAt (k : Cursor) (c : Char) (n : Nat) : Bool := k.rest[n]? == some c

/-- Whether at a distance there is a blank, the end of a line or the end of the text. -/
def isGapAt (k : Cursor) (n : Nat) : Bool := k.rest[n]?.all fun c => isSpace c || isBreak c

/-- Whether the end of the line or of the text is next. -/
def isLineEnd (k : Cursor) : Bool := k.rest.head?.all isBreak

def isBreakNext (k : Cursor) : Bool := k.rest.head?.any isBreak

def isSpaceNext (k : Cursor) : Bool := k.rest.head?.any isSpace

/-- Goes on by characters that end no line. -/
def skip (k : Cursor) (n : Nat := 1) : Cursor :=
  { rest := k.rest.drop n
    left := k.left - n
    left_eq := by simp [k.left_eq]
    mark := { k.mark with
      index := k.mark.index + Utf8.size (k.rest.take n)
      column := k.mark.column + n } }

/-- Takes characters as long as they satisfy a condition that no line end satisfies. -/
def takeWhile (k : Cursor) (p : Char → Bool) : List Char × Cursor :=
  let taken := k.rest.takeWhile p
  (taken, k.skip taken.length)

/-- Goes to the end of the line. -/
def toLineEnd (k : Cursor) : Cursor := (k.takeWhile fun c => !isBreak c).2

/-- Takes the end of a line, as a line feed unless it is one of the separators that have no other
form. -/
def takeBreak (k : Cursor) : List Char × Cursor :=
  let behind (n : Nat) : Cursor :=
    let next := k.skip n
    { next with mark := { next.mark with line := k.mark.line + 1, column := 0 } }
  match k.rest with
  | '\r' :: '\n' :: _ => (['\n'], behind 2)
  | '\u2028' :: _ => (['\u2028'], behind 1)
  | '\u2029' :: _ => (['\u2029'], behind 1)
  | c :: _ => if isBreak c then (['\n'], behind 1) else ([], k)
  | [] => ([], k)

/-- Whether a mark between documents is next, at the start of a line. -/
def isDocumentMark (k : Cursor) : Bool :=
  k.mark.column == 0 && k.isGapAt 3 &&
    match k.rest with
    | '-' :: '-' :: '-' :: _ => true
    | '.' :: '.' :: '.' :: _ => true
    | _ => false

end Cursor

end ExprGateway.Yaml
