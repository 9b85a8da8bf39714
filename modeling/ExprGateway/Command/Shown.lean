/-!
# What is shown of a word

Messages about the command line repeat its words without what would control a terminal: control
characters that are no blanks, and sequences that start with an escape character.
-/

namespace ExprGateway.Command

/-- What the characters of a word are part of. -/
inductive WordPart where
  | text
  /-- What follows an escape character. -/
  | escape
  /-- A sequence with a bracket, up to a letter. -/
  | control
  /-- A title, up to a bell. -/
  | title
  /-- A message to the terminal, up to the next sequence. -/
  | hidden
deriving DecidableEq, Repr

namespace WordPart

/-- Whether a control character is shown. -/
def isShownControl (c : Char) : Bool := c == '\t' || c == '\n' || c == '\x0c' || c == '\r'

/-- The part that a character behind an escape character goes on with. -/
def afterEscape (c : Char) : WordPart :=
  if c = '[' then control
  else if c = ']' then title
  else if c = 'P' ∨ c = 'X' ∨ c = '^' ∨ c = '_' then hidden
  else if 0x30 ≤ c.toNat ∧ c.toNat ≤ 0x7e then text
  else escape

/-- Goes on by a character; the result says whether it is shown. -/
def step (p : WordPart) (c : Char) : WordPart × Bool :=
  if c = '\x1b' then (escape, false)
  else if c = '\x18' ∨ c = '\x1a' then (text, false)
  else match p with
    | text => (text, isShownControl c || (0x20 ≤ c.toNat && c.toNat != 0x7f))
    | escape => if isShownControl c then (text, true) else (afterEscape c, false)
    | control =>
      if isShownControl c then (text, true)
      else (if 0x40 ≤ c.toNat ∧ c.toNat ≤ 0x7e then text else control, false)
    | title => (if c = '\x07' then text else title, false)
    | hidden => (hidden, false)

end WordPart

/-- The characters that are shown, where a word goes on as a given part. -/
def shownChars (p : WordPart) : List Char → List Char
  | [] => []
  | c :: rest =>
    let (next, isShown) := p.step c
    if isShown then c :: shownChars next rest else shownChars next rest

/-- A word as it is shown. -/
def shown (word : String) : String := String.ofList (shownChars .text word.toList)

end ExprGateway.Command
