import ExprGateway.Expression.Malformed
import ExprGateway.Number.Literal
import ExprGateway.Number.Style
import ExprGateway.Text.Blank

/-!
# Tokens

An expression is read in three moves: blanks are dropped, wherever they stand; what is left is cut
at the six symbols, each a piece of its own; and every piece is a symbol or a finite number, or else
the first that is neither is the defect.  There is no sign in front of a number: `-` is always the
operator.
-/

namespace ExprGateway

/-- A unit of an expression. -/
inductive Token where
  | number (value : Float)
  | operator (o : Operator)
  | leftParen
  | rightParen
deriving DecidableEq

namespace Token

/-- The text of a token; numbers are written out, never with an exponent. -/
def text : Token → String
  | number value => Style.plain.write value
  | operator o => o.symbol.toString
  | leftParen => "("
  | rightParen => ")"

/-- The token that a symbol writes. -/
def ofSymbol? : Char → Option Token
  | '(' => some leftParen
  | ')' => some rightParen
  | c => (Operator.ofSymbol? c).map operator

/-- Whether a character is a piece by itself. -/
def isSymbol (c : Char) : Bool := (ofSymbol? c).isSome

/-! ## Pieces -/

/-- Puts a character in front of pieces: into the first one, unless either is a symbol. -/
def consPiece (c : Char) : List (List Char) → List (List Char)
  | [] => [[c]]
  | p :: ps => if isSymbol c || p.head?.any isSymbol then [c] :: p :: ps else (c :: p) :: ps

/-- The symbols of a text and the runs of other characters between them. -/
def pieces (cs : List Char) : List (List Char) := cs.foldr consPiece []

/-- The token that a piece writes. -/
def ofPiece? : List Char → Option Token
  | [c] => (ofSymbol? c).or ((readFinite? [c]).map number)
  | p => (readFinite? p).map number

/-- The token of the piece at a place. -/
def ofPieceAt (p : List Char × Nat) : Except Malformed Token :=
  match ofPiece? p.1 with
  | some t => .ok t
  | none => .error (.invalidToken (String.ofList p.1) p.2)

end Token

open Token in
/-- The tokens of an expression, or its first piece that is no token. -/
def tokenize (expression : String) : Except Malformed (List Token) :=
  (pieces (expression.toList.filter fun c => !isBlank c)).zipIdx.mapM ofPieceAt

end ExprGateway
