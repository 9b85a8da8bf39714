import ExprGateway.Number.Digits
import ExprGateway.Text.Utf8
import ExprGateway.Yaml.Cursor

/-!
# Tags and directives

A tag is written in angle brackets as it is, or as a handle and a suffix.  What a handle stands for is
said by a directive before the document; another directive says which version of YAML it is written in.

The escapes of a tag write bytes, which need not be a text.
-/

namespace ExprGateway.Yaml

/-- A character of a name. -/
def isNameChar (c : Char) : Bool := c.isAlphanum || c == '-' || c == '_'

/-- A character of a tag, except in its escapes. -/
def isTagChar (c : Char) : Bool := isNameChar c || ";/?:@&=+$.!~*'()".toList.contains c

/-- A character that only tags in angle brackets and meanings of handles may have. -/
def isBracketTagChar (c : Char) : Bool := c == ',' || c == '[' || c == ']'

/-- A tag as it is written.  In angle brackets it has no handle. -/
structure Tag where
  handle : String
  suffix : List UInt8
deriving DecidableEq, Repr

/-- A directive before a document. -/
inductive Directive where
  | version (major minor : Nat)
  | handle (name : String) (meaning : List UInt8)
deriving DecidableEq, Repr

/-! ## Texts of tags -/

/-- How many bytes a character has by its first one. -/
def octetCount? (n : Nat) : Option Nat :=
  if n < 0x80 then some 1
  else if n < 0xc0 then none
  else if n < 0xe0 then some 2
  else if n < 0xf0 then some 3
  else if n < 0xf8 then some 4
  else none

/-- Reads one escaped byte. -/
def readOctet (context : Activity × Mark) (k : Cursor) : Except Fault (Nat × Cursor) :=
  match k.rest with
  | '%' :: a :: b :: _ =>
    match Digits.number? 16 [a, b] with
    | some n => .ok (n, k.skip 3)
    | none => .error ⟨.noOctet, k.mark, some context⟩
  | _ => .error ⟨.noOctet, k.mark, some context⟩

/-- Reads the escaped bytes of a character behind its first one. -/
def readTrailing (context : Activity × Mark) : Nat → Cursor → Except Fault (List UInt8 × Cursor)
  | 0, k => .ok ([], k)
  | n + 1, k => do
    let (octet, next) ← readOctet context k
    if octet < 0x80 || 0xc0 ≤ octet then throw ⟨.badTrailingOctet, k.mark, some context⟩
    let (rest, next) ← readTrailing context n next
    return (UInt8.ofNat octet :: rest, next)

/-- Reads the escaped bytes of a character. -/
def readEscaped (context : Activity × Mark) (k : Cursor) : Except Fault (List UInt8 × Cursor) := do
  let (octet, next) ← readOctet context k
  match octetCount? octet with
  | none => throw ⟨.badLeadingOctet, k.mark, some context⟩
  | some n =>
    let (rest, next) ← readTrailing context (n - 1) next
    return (UInt8.ofNat octet :: rest, next)

/-- The bytes of characters of which each is one byte. -/
def asciiBytes (cs : List Char) : List UInt8 := cs.map fun c => UInt8.ofNat c.toNat

/-- Reads the characters of a tag. -/
def readTagChars (context : Activity × Mark) (bracketed : Bool) :
    Nat → List UInt8 → Cursor → Except Fault (List UInt8 × Cursor)
  | 0, text, k => .ok (text, k)
  | fuel + 1, text, k => do
    let (run, k) := k.takeWhile fun c => isTagChar c || (bracketed && isBracketTagChar c)
    let text := text ++ asciiBytes run
    if k.at? '%' then
      let (bytes, k) ← readEscaped context k
      readTagChars context bracketed fuel (text ++ bytes) k
    else return (text, k)

/-- Reads the text of a tag behind what was read of it `before`; together they are not empty. -/
def readTagText (context : Activity × Mark) (bracketed : Bool) (before : List Char) (k : Cursor) :
    Except Fault (List UInt8 × Cursor) := do
  let (text, k) ← readTagChars context bracketed (k.left + 1) [] k
  if before.isEmpty && text.isEmpty then throw ⟨.noTagText, k.mark, some context⟩
  return (asciiBytes (before.drop 1) ++ text, k)

/-! ## Tags -/

/-- Takes an exclamation mark, the name behind it, and another mark if there is one. -/
def takeHandle (k : Cursor) : List Char × Cursor :=
  let (name, k) := k.skip.takeWhile isNameChar
  if k.at? '!' then ('!' :: name ++ ['!'], k.skip) else ('!' :: name, k)

/-- Reads a tag. -/
def readTag (inFlow : Bool) (k : Cursor) : Except Fault (Tag × Cursor) := do
  let start := k.mark
  let (tag, k) ←
    if k.isAt '<' 1 then do
      let (text, k) ← readTagText (.tagText, start) true [] (k.skip 2)
      if k.at? '>' then pure (⟨"", text⟩, k.skip) else throw ⟨.noTagEnd, k.mark, some (.tag, start)⟩
    else do
      let (handle, k) := takeHandle k
      if 1 < handle.length ∧ handle.getLast? = some '!' then
        let (suffix, k) ← readTagText (.tagText, start) false [] k
        pure (⟨String.ofList handle, suffix⟩, k)
      else
        let (suffix, k) ← readTagText (.tagText, start) false handle k
        pure (if suffix.isEmpty then ⟨"", asciiBytes ['!']⟩ else ⟨"!", suffix⟩, k)
  if k.isGapAt 0 || (inFlow && k.at? ',') then return (tag, k)
  else throw ⟨.noBlank, k.mark, some (.tag, start)⟩

/-- A type that YAML itself has a tag for. -/
inductive CoreType where
  | bool
  | int
  | float
  | null
deriving DecidableEq, Repr

/-- What the tag of a node says. -/
inductive NodeTag where
  /-- A name of the document's own, behind an exclamation mark; the mark alone is a name as well. -/
  | own (name : String)
  | core (type : CoreType)
  /-- A tag that says that the node is none of these. -/
  | foreign
deriving DecidableEq, Repr

/-- What a tag says by its whole text.  An own name that is no text says nothing. -/
def NodeTag.ofBytes? (bytes : List UInt8) : Option NodeTag :=
  match bytes with
  | [0x21] => some (.own "!")
  | 0x21 :: name => (String.fromUTF8? ⟨name.toArray⟩).map .own
  | bytes => match Utf8.decode bytes with
    | "tag:yaml.org,2002:bool" => some (.core .bool)
    | "tag:yaml.org,2002:int" => some (.core .int)
    | "tag:yaml.org,2002:float" => some (.core .float)
    | "tag:yaml.org,2002:null" => some (.core .null)
    | _ => some .foreign

/-! ## Directives -/

/-- Goes on to a character that is no blank. -/
def skipSpaces (k : Cursor) : Cursor := (k.takeWhile isSpace).2

/-- How many digits the number of a version may have. -/
def maxVersionDigits : Nat := 9

/-- Reads a number of a version. -/
def readVersionNumber (start : Mark) (k : Cursor) : Except Fault (Nat × Cursor) :=
  let (digits, next) := k.takeWhile Char.isDigit
  if digits.isEmpty then .error ⟨.noVersion, k.mark, some (.versionDirective, start)⟩
  else if maxVersionDigits < digits.length then
    .error ⟨.longVersion, (k.skip maxVersionDigits).mark, some (.versionDirective, start)⟩
  else .ok ((Digits.number? 10 digits).getD 0, next)

/-- Reads a version. -/
def readVersion (start : Mark) (k : Cursor) : Except Fault (Directive × Cursor) := do
  let (major, k) ← readVersionNumber start (skipSpaces k)
  if !k.at? '.' then throw ⟨.noVersionPoint, k.mark, some (.versionDirective, start)⟩
  let (minor, k) ← readVersionNumber start k.skip
  return (.version major minor, k)

/-- Reads a handle and what it stands for. -/
def readHandle (start : Mark) (k : Cursor) : Except Fault (Directive × Cursor) := do
  let k := skipSpaces k
  if !k.at? '!' then throw ⟨.noTagStart, k.mark, some (.tagDirectiveStart, start)⟩
  let (handle, k) := takeHandle k
  if handle.getLast? != some '!' then
    throw ⟨.noTagStart, k.mark, some (.tagDirectiveHandle, start)⟩
  if !k.isSpaceNext then throw ⟨.noSpace, k.mark, some (.tagDirective, start)⟩
  let (meaning, k) ← readTagText (.tagDirectiveText, start) true [] (skipSpaces k)
  if !k.isGapAt 0 then throw ⟨.noBlank, k.mark, some (.tagDirective, start)⟩
  return (.handle (String.ofList handle) meaning, k)

/-- Reads a directive to the end of its line. -/
def readDirective (k : Cursor) : Except Fault (Directive × Cursor) := do
  let start := k.mark
  let (name, k) := k.skip.takeWhile isNameChar
  if name.isEmpty then throw ⟨.noDirectiveName, k.mark, some (.directive, start)⟩
  if !k.isGapAt 0 then throw ⟨.badDirectiveName, k.mark, some (.directive, start)⟩
  let (d, k) ← match String.ofList name with
    | "YAML" => readVersion start k
    | "TAG" => readHandle start k
    | _ => throw ⟨.unknownDirective, k.mark, some (.directive, start)⟩
  let k := skipSpaces k
  let k := if k.at? '#' then k.toLineEnd else k
  if k.isLineEnd then return (d, k.takeBreak.2)
  else throw ⟨.noLineEnd, k.mark, some (.directive, start)⟩

end ExprGateway.Yaml
