import ExprGateway.Number.Digits
import ExprGateway.Text.Alphanumeric
import ExprGateway.Text.Blank

/-!
# Patterns

A directive may ask for a value of a field by a pattern, a regular expression.  Values of fields decide
on spans only, so all that counts here is whether a text is a pattern at all; `Pattern.fault?` says why
it is none.

Patterns are those of texts in any script, but the classes of such characters and the forms that
differ in capitals only are not known; a pattern that needs them is none.
-/

namespace ExprGateway.Log

/-- Why a text is no pattern. -/
inductive PatternFault where
  | badForm
  /-- A border of words in any script; such borders cannot be looked for. -/
  | wordBorder
deriving DecidableEq, Repr

/-- The text of a fault. -/
def PatternFault.message : PatternFault → String
  | badForm => "error building NFA"
  | wordBorder => "unsupported regex feature for DFAs: cannot build DFAs for regexes with Unicode word " ++
      "boundaries; switch to ASCII word boundaries, or heuristically enable Unicode word boundaries " ++
      "or use a different regex engine"

namespace Pattern

/-- How a part of a pattern is read. -/
structure Mode where
  /-- Whether capitals and small letters are the same. -/
  ignoresCase : Bool := false
  /-- Whether characters are those of any script, not bytes. -/
  isWide : Bool := true
  /-- Whether blanks and comments do not count. -/
  isSpaced : Bool := false

/-- Goes on behind blanks and comments. -/
def skipSpace : Nat → List Char → List Char
  | 0, cs => cs
  | fuel + 1, cs =>
    match cs.dropWhile isBlank with
    | '#' :: rest => skipSpace fuel (rest.dropWhile (· != '\n'))
    | cs => cs

/-- The rest of a pattern, from where it counts. -/
def next (m : Mode) (cs : List Char) : List Char :=
  if m.isSpaced then skipSpace (cs.length + 1) cs else cs

/-! ## Single characters -/

/-- What a backslash and what follows it stand for. -/
inductive Escape where
  | literal (c : Char) (isByte : Bool)
  | position
  | border
  | class (isNegated : Bool)

/-- How many digits the code of a character has behind a letter. -/
def codeWidth? : Char → Option Nat
  | 'x' => some 2
  | 'u' => some 4
  | 'U' => some 8
  | _ => none

/-- Reads digits, between which blanks may not count. -/
def readCode? (m : Mode) : Nat → Nat → List Char → Option (Nat × List Char)
  | 0, code, cs => some (code, cs)
  | _ + 1, _, [] => none
  | width + 1, code, c :: rest =>
    match Digits.value? 16 c with
    | some d => readCode? m width (16 * code + d) (next m rest)
    | none => none

/-- The character of a letter behind a backslash. -/
def control? : Char → Option Char
  | 'a' => some '\x07'
  | 'f' => some '\x0c'
  | 't' => some '\t'
  | 'n' => some '\n'
  | 'r' => some '\r'
  | 'v' => some '\x0b'
  | _ => none

/-- Reads what follows a backslash. -/
def readEscape? (m : Mode) : List Char → Option (Escape × List Char)
  | [] => none
  | c :: rest =>
    match codeWidth? c, control? c with
    | some width, _ => do
      let (code, rest) ← readCode? m width 0 (next m rest)
      if code < 0xd800 ∨ (0xdfff < code ∧ code < 0x110000) then
        some (.literal (Char.ofNat code) (width == 2), rest)
      else none
    | none, some control => some (.literal control false, rest)
    | none, none =>
      if "dsw".toList.contains c then some (.class false, rest)
      else if "DSW".toList.contains c then some (.class true, rest)
      else if c = 'A' ∨ c = 'z' then some (.position, rest)
      else if c = 'B' ∨ c = 'b' ∨ c = '<' ∨ c = '>' then some (.border, rest)
      else if c.toNat < 0x80 ∧ !c.isAlphanum then some (.literal c false, rest)
      else none

/-- Whether a character may stand for itself. -/
def allows (m : Mode) (c : Char) (isByte : Bool) : Bool :=
  if m.isWide then !m.ignoresCase else !(isByte && 0x7f < c.toNat)

/-! ## Classes in brackets -/

/-- The names of classes of ASCII characters. -/
def asciiClasses : List String :=
  ["alnum", "alpha", "ascii", "blank", "cntrl", "digit", "graph", "lower", "print", "punct", "space",
    "upper", "word", "xdigit"]

/-- What follows the name of a class, from behind the opening bracket. -/
def skipAsciiClass? : List Char → Option (List Char)
  | ':' :: rest =>
    let (name, tail) := (if rest.head? = some '^' then rest.drop 1 else rest).span (· != ':')
    match tail with
    | ':' :: ']' :: tail => if String.ofList name ∈ asciiClasses then some tail else none
    | _ => none
  | _ => none

/-- Reads a character of a class, which is nothing if it stands for several. -/
def readMember? (m : Mode) : List Char → Option (Option Char × List Char)
  | [] => none
  | '\\' :: rest =>
    match readEscape? m rest with
    | some (.literal c isByte, rest) =>
      if m.isWide || isByte || c.toNat < 0x80 then some (some c, rest) else none
    | some (.class _, rest) => if m.isWide then none else some (none, rest)
    | _ => none
  | c :: rest => if m.isWide || c.toNat < 0x80 then some (some c, rest) else none

/-- Reads a character of a class, or a range of characters. -/
def readMembers? (m : Mode) (cs : List Char) : Option (List Char) := do
  let (first, rest) ← readMember? m cs
  match next m rest with
  | '-' :: tail =>
    let tail := next m tail
    if tail.head? = some ']' ∨ tail.head? = some '-' then some ('-' :: tail)
    else
      let (last, rest) ← readMember? m tail
      match first, last with
      | some a, some b => if a ≤ b then some rest else none
      | _, _ => none
  | rest => some rest

/-- Reads the start of a class behind its bracket. -/
def openClass? (m : Mode) (cs : List Char) : Option (List Char) :=
  let (isNegated, cs) := match next m cs with
    | '^' :: rest => (true, next m rest)
    | cs => (false, cs)
  if isNegated && !m.isWide then none
  else
    let afterHyphens := cs.dropWhile (· == '-')
    if afterHyphens.length = cs.length ∧ cs.head? = some ']' then some (cs.drop 1)
    else some afterHyphens

/-- Reads classes inside one another up to the end of the outermost one. -/
def readClass? (m : Mode) : Nat → (depth : Nat) → List Char → Option (List Char)
  | 0, _, _ => none
  | fuel + 1, depth, cs =>
    match next m cs with
    | [] => none
    | '[' :: rest =>
      match skipAsciiClass? rest with
      | some tail => readClass? m fuel depth tail
      | none => do readClass? m fuel (depth + 1) (← openClass? m rest)
    | ']' :: rest => if depth ≤ 1 then some rest else readClass? m fuel (depth - 1) rest
    | '&' :: '&' :: rest | '-' :: '-' :: rest | '~' :: '~' :: rest => readClass? m fuel depth rest
    | cs => do readClass? m fuel depth (← readMembers? m cs)

/-! ## Groups -/

/-- Reads the letters that change a mode, up to the character that ends them. -/
def readSwitches? (seen : List Char) : List Char → Option (List Char × Char × List Char)
  | [] => none
  | c :: rest =>
    if c = ':' ∨ c = ')' then
      if seen.head? = some '-' then none else some (seen.reverse, c, rest)
    else if seen.contains c ∨ !"-imsUuRx".toList.contains c then none
    else readSwitches? (c :: seen) rest

/-- A mode with switches; those behind a hyphen are turned off. -/
def Mode.switch (m : Mode) (switches : List Char) : Mode :=
  let (on, off) := switches.span (· != '-')
  let set (letter : Char) (was : Bool) : Bool := on.contains letter || (was && !off.contains letter)
  ⟨set 'i' m.ignoresCase, set 'u' m.isWide, set 'x' m.isSpaced⟩

/-- Reads the name of a group. -/
def readGroupName? (cs : List Char) : Option (String × List Char) :=
  let (name, rest) := cs.span (· != '>')
  let mayStart (c : Char) : Bool := c == '_' || isAlphabetic c
  let mayFollow (c : Char) : Bool := "_.[]".toList.contains c || isAlphanumeric c
  if !rest.isEmpty && name.head?.any mayStart && name.all mayFollow then
    some (String.ofList name, rest.drop 1)
  else none

/-! ## Patterns -/

/-- A pattern that is being read. -/
structure Reader where
  rest : List Char
  mode : Mode := {}
  /-- The modes around the groups that are open. -/
  outer : List Mode := []
  names : List String := []
  /-- Whether what was read last can be repeated. -/
  isRepeatable : Bool := false
  /-- Whether it asks for borders of words in any script. -/
  hasBorder : Bool := false

namespace Reader

/-- Goes on behind something that can be repeated. -/
def behind (r : Reader) (rest : List Char) : Reader := { r with rest, isRepeatable := true }

/-- Opens a group. -/
def enter (r : Reader) (rest : List Char) : Reader :=
  { r with rest, outer := r.mode :: r.outer, isRepeatable := false }

/-- Opens a group with a name. -/
def enterNamed? (r : Reader) (cs : List Char) : Option Reader := do
  let (name, rest) ← readGroupName? cs
  if name ∈ r.names then none else some { r.enter rest with names := name :: r.names }

/-- Reads what follows an opening parenthesis. -/
def openGroup? (r : Reader) (cs : List Char) : Option Reader :=
  match next r.mode cs with
  | '?' :: 'P' :: '<' :: rest => r.enterNamed? rest
  | '?' :: '<' :: rest => r.enterNamed? rest
  | '?' :: rest => do
    let (switches, ending, rest) ← readSwitches? [] rest
    let mode := r.mode.switch switches
    if ending = ':' then some { r.enter rest with mode }
    else if switches.isEmpty then none
    else some { r with rest, mode, isRepeatable := false }
  | cs => some (r.enter cs)

/-- Reads the next part of a pattern, which starts with a given character. -/
def part? (r : Reader) (c : Char) (rest : List Char) : Option Reader :=
  match c with
  | '(' => r.openGroup? rest
  | ')' =>
    match r.outer with
    | [] => none
    | mode :: outer => some { r.behind rest with mode, outer }
  | '|' => some { r with rest, isRepeatable := false }
  | '[' => do
    if r.mode.isWide && r.mode.ignoresCase then none
    let start ← openClass? r.mode rest
    return r.behind (← readClass? r.mode (rest.length + 1) 1 start)
  | '?' | '*' | '+' =>
    if r.isRepeatable then some (r.behind (if rest.head? = some '?' then rest.drop 1 else rest))
    else none
  | '\x7b' => none
  | '.' => if r.mode.isWide then some (r.behind rest) else none
  | '^' | '$' => some (r.behind rest)
  | '\\' => do
    let (escape, rest) ← readEscape? r.mode rest
    match escape with
    | .literal c isByte => if allows r.mode c isByte then some (r.behind rest) else none
    | .position => some (r.behind rest)
    | .border => some { r.behind rest with hasBorder := r.hasBorder || r.mode.isWide }
    | .class isNegated => if r.mode.isWide || isNegated then none else some (r.behind rest)
  | c => if allows r.mode c false then some (r.behind rest) else none

/-- Reads all parts of a pattern. -/
def run? : Nat → Reader → Option Reader
  | 0, _ => none
  | fuel + 1, r =>
    match next r.mode r.rest with
    | [] => if r.outer.isEmpty then some r else none
    | c :: rest => do run? fuel (← r.part? c rest)

end Reader

/-- Why a text is no pattern, if it is none.  A number of repetitions needs a brace at its end, which no
text of a directive can have, so an opening brace is never right. -/
def fault? (text : List Char) : Option PatternFault :=
  match Reader.run? (text.length + 1) { rest := text } with
  | none => some .badForm
  | some r => if r.hasBorder then some .wordBorder else none

end Pattern

end ExprGateway.Log
