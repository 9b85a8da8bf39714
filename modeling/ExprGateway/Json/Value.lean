import ExprGateway.Number.Style

/-!
# JSON values and their texts

`Json.compact` writes a value on one line, `Json.pretty` one field or element a line.  Both escape
strings in the same way: only what must be escaped is, and control characters without a letter of
their own get four hexadecimal digits.  A number that is not finite is written as `null`.
-/

namespace ExprGateway

/-- A JSON value.  Whole numbers are kept apart from those with a point or an exponent; the fields of
an object are in the order in which they are written. -/
inductive Json where
  | null
  | bool (value : Bool)
  | whole (value : Int)
  | number (value : Float)
  | string (value : String)
  | array (elements : List Json)
  | object (fields : List (String × Json))
deriving Inhabited

namespace Json

/-! ## Strings -/

/-- The hexadecimal digits of a number below 256. -/
def hexByte (n : Nat) : List Char := [Nat.digitChar (n / 16), Nat.digitChar (n % 16)]

/-- A character inside a string. -/
def escape (c : Char) : List Char :=
  match c with
  | '"' => ['\\', '"']
  | '\\' => ['\\', '\\']
  | '\n' => ['\\', 'n']
  | '\r' => ['\\', 'r']
  | '\t' => ['\\', 't']
  | '\x08' => ['\\', 'b']
  | '\x0c' => ['\\', 'f']
  | c => if c.toNat < 0x20 then '\\' :: 'u' :: '0' :: '0' :: hexByte c.toNat else [c]

/-- A string in quotes. -/
def quote (s : String) : List Char := '"' :: s.toList.flatMap escape ++ ['"']

/-! ## Values -/

/-- A value that has no parts, or one whose parts are left out. -/
def atom : Json → List Char
  | null => "null".toList
  | bool true => "true".toList
  | bool false => "false".toList
  | whole n => (toString n).toList
  | number x => Style.json.chars x
  | string s => quote s
  | array _ => ['[', ']']
  | object _ => ['\x7b', '\x7d']

/-- Texts in a row, with something between them. -/
def separate (between : List Char) (parts : List (List Char)) : List Char :=
  between.intercalate parts

mutual

/-- The text of a value, on one line and without blanks. -/
def compactChars : Json → List Char
  | array elements => '[' :: separate [','] (compactElements elements) ++ [']']
  | object fields => '\x7b' :: separate [','] (compactFields fields) ++ ['\x7d']
  | v => atom v

def compactElements : List Json → List (List Char)
  | [] => []
  | v :: rest => compactChars v :: compactElements rest

def compactFields : List (String × Json) → List (List Char)
  | [] => []
  | (name, v) :: rest => (quote name ++ ':' :: compactChars v) :: compactFields rest

end

def compact (v : Json) : String := String.ofList v.compactChars

/-- A new line at a depth. -/
def newLine (depth : Nat) : List Char := '\n' :: List.replicate (2 * depth) ' '

/-- Parts one below the other, in brackets that stand at a depth. -/
def stack (opening closing : Char) (depth : Nat) : List (List Char) → List Char
  | [] => [opening, closing]
  | parts =>
    opening :: newLine (depth + 1) ++ separate (',' :: newLine (depth + 1)) parts ++
      newLine depth ++ [closing]

mutual

/-- The text of a value at a depth, with a line for each of its parts. -/
def prettyChars (depth : Nat) : Json → List Char
  | array elements => stack '[' ']' depth (prettyElements (depth + 1) elements)
  | object fields => stack '\x7b' '\x7d' depth (prettyFields (depth + 1) fields)
  | v => atom v

def prettyElements (depth : Nat) : List Json → List (List Char)
  | [] => []
  | v :: rest => prettyChars depth v :: prettyElements depth rest

def prettyFields (depth : Nat) : List (String × Json) → List (List Char)
  | [] => []
  | (name, v) :: rest =>
    (quote name ++ ':' :: ' ' :: prettyChars depth v) :: prettyFields depth rest

end

def pretty (v : Json) : String := String.ofList (v.prettyChars 0)

end Json

end ExprGateway
