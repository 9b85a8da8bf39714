import ExprGateway.Config.Value
import ExprGateway.Number.Digits
import ExprGateway.Number.Literal
import ExprGateway.Text.Blank
import ExprGateway.Text.Utf8

/-!
# Settings written on one line

The value of an environment variable is a setting on one line: `true` and `false`, numbers, lists in
brackets, tables in braces with `name=value`, texts in double quotes, single characters in single
quotes.  Anything else is a text as it stands; so is a line that starts as one of these and does not
end as it, and that text keeps its blanks.
-/

namespace ExprGateway.Written

/-- Blanks between the parts. -/
def isGap (c : Char) : Bool :=
  c == ' ' || c == '\t' || c == '\n' || c == '\r' || c == '\x0c'

def skipGap (cs : List Char) : List Char := cs.dropWhile isGap

/-- The characters that end a text without quotes. -/
def isSeparator (c : Char) : Bool :=
  c == ',' || c == '\x7b' || c == '\x7d' || c == '[' || c == ']'

/-- The characters of a name without quotes. -/
def isNameChar (c : Char) : Bool := c.isAlphanum || c == '_' || c == '-'

/-! ## Texts -/

/-- The character of a code point. -/
def ofCode? (n : Nat) : Option Char :=
  if n < 0xd800 ∨ (0xdfff < n ∧ n < 0x110000) then some (Char.ofNat n) else none

/-- The character of an escape with a letter. -/
def unescape? : Char → Option Char
  | '"' => some '"'
  | '\\' => some '\\'
  | 'b' => some '\x08'
  | 'f' => some '\x0c'
  | 'n' => some '\n'
  | 'r' => some '\r'
  | 't' => some '\t'
  | _ => none

/-- Whether a character may stand in quotes. -/
def isPlain (c : Char) : Bool := c == '\t' || (0x20 ≤ c.toNat && c.toNat != 0x7f)

/-- Reads a text from an escape on; `done` is what was read, the last character first. -/
def readEscaped? (done : List Char) : List Char → Option (String × List Char)
  | [] => none
  | '"' :: rest => some (String.ofList done.reverse, rest)
  | '\\' :: 'u' :: a :: b :: c :: d :: rest =>
    match (Digits.number? 16 [a, b, c, d]).bind ofCode? with
    | some x => readEscaped? (x :: done) rest
    | none => none
  | '\\' :: 'U' :: a :: b :: c :: d :: e :: f :: g :: h :: rest =>
    match (Digits.number? 16 [a, b, c, d, e, f, g, h]).bind ofCode? with
    | some x => readEscaped? (x :: done) rest
    | none => none
  | '\\' :: c :: rest =>
    match unescape? c with
    | some x => readEscaped? (x :: done) rest
    | none => none
  | c :: rest => if isPlain c then readEscaped? (c :: done) rest else none
termination_by cs => cs.length

/-- Reads a text behind its opening quote.  If there is an escape in it, then of what stands before the
first one only as many bytes are kept as there are characters. -/
def readText? (cs : List Char) : Option (String × List Char) :=
  let (run, rest) := cs.span fun c => c != '"' && c != '\\' && isPlain c
  match rest with
  | '"' :: rest => some (String.ofList run, rest)
  | '\\' :: _ => readEscaped? (Utf8.takeBytes run.length run).reverse rest
  | _ => none

/-! ## Bare values -/

/-- A whole number with a minus sign that fits into 64 bits. -/
def signed? : List Char → Option Int
  | '-' :: digits =>
    if digits.all Char.isDigit && !digits.isEmpty && Literal.digitsValue digits ≤ 1 <<< 63 then
      some (-(Literal.digitsValue digits : Int))
    else none
  | _ => none

/-- What a text without quotes stands for. -/
def bare (cs : List Char) : Setting :=
  let cs := trimBlanks cs
  match if cs.contains '.' then readNumber? cs else none with
  | some x => .number x
  | none =>
    match Digits.word? cs, signed? cs with
    | some n, _ => .unsigned n
    | none, some n => .signed n
    | none, none => .text (String.ofList cs)

/-! ## Values -/

/-- Reads the name of an entry. -/
def readName? (cs : List Char) : Option (String × List Char) :=
  match cs with
  | '"' :: rest => readText? rest
  | cs =>
    let (name, rest) := cs.span isNameChar
    if name.isEmpty then none else some (String.ofList name, rest)

mutual

/-- Reads a value and the blanks around it. -/
def readValue? (fuel : Nat) (cs : List Char) : Option (Setting × List Char) :=
  match fuel with
  | 0 => none
  | fuel + 1 =>
    let found : Option (Setting × List Char) := match skipGap cs with
      | 't' :: 'r' :: 'u' :: 'e' :: rest => some (.flag true, rest)
      | 'f' :: 'a' :: 'l' :: 's' :: 'e' :: rest => some (.flag false, rest)
      | '\x7b' :: rest => readEntries? fuel [] rest
      | '[' :: rest => readElements? fuel [] rest
      | '"' :: rest => (readText? rest).map fun (s, rest) => (.text s, rest)
      | '\'' :: c :: '\'' :: rest => some (.char c, rest)
      | '\'' :: _ => none
      | cs =>
        let (text, rest) := cs.span fun c => !isSeparator c
        some (bare text, rest)
    found.map fun (v, rest) => (v, skipGap rest)

/-- Reads the elements of a list up to its end; `done` holds those before, the last one first. -/
def readElements? (fuel : Nat) (done : List Setting) (cs : List Char) :
    Option (Setting × List Char) :=
  match fuel, cs with
  | 0, _ => none
  | _, ']' :: rest => some (.list done.reverse, rest)
  | fuel + 1, cs =>
    match readValue? fuel cs with
    | some (v, ',' :: rest) => readElements? fuel (v :: done) rest
    | some (v, ']' :: rest) => some (.list (v :: done).reverse, rest)
    | _ => none

/-- Reads the entries of a table up to its end. -/
def readEntries? (fuel : Nat) (done : List (String × Setting)) (cs : List Char) :
    Option (Setting × List Char) :=
  match fuel, cs with
  | 0, _ => none
  | _, '\x7d' :: rest => some (.ofEntries done.reverse, rest)
  | fuel + 1, cs =>
    match readName? (skipGap cs) with
    | none => none
    | some (name, rest) =>
      match skipGap rest with
      | '=' :: rest =>
        match readValue? fuel rest with
        | some (v, ',' :: rest) => readEntries? fuel ((name, v) :: done) rest
        | some (v, '\x7d' :: rest) => some (.ofEntries ((name, v) :: done).reverse, rest)
        | _ => none
      | _ => none

end

/-- The setting that a line stands for. -/
def read (line : String) : Setting :=
  let cs := line.toList
  match readValue? (2 * cs.length + 2) cs with
  | some (v, []) => v
  | _ => .text line

end ExprGateway.Written
