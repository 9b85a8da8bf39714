import ExprGateway.Yaml.Scalar
import ExprGateway.Yaml.Tag

/-!
# Tokens of YAML

`tokens` cuts a text into tokens.  Blocks have no written brackets: where a line is indented more than
the block around it a block starts, and where one is indented less, blocks end.

A colon makes a key of what stands before it on the line, so the start of every possible key is kept
until the colon, or the line, or the bracket around it is over.  A key that opens a block mapping must
get its colon.
-/

namespace ExprGateway.Yaml

/-- How a scalar was written. -/
inductive ScalarStyle where
  | plain
  | quoted
deriving DecidableEq, Repr

/-- A token without its place. -/
inductive TokenKind where
  | directive (d : Directive)
  | documentStart
  | documentEnd
  | blockSequenceStart
  | blockMappingStart
  | blockEnd
  | flowSequenceStart
  | flowSequenceEnd
  | flowMappingStart
  | flowMappingEnd
  | blockEntry
  | flowEntry
  | key
  | value
  | reference (name : String)
  | anchor (name : String)
  | tag (tag : Tag)
  | scalar (style : ScalarStyle) (text : String)
  | streamEnd
deriving DecidableEq, Repr

/-- A token and where it starts. -/
structure YamlToken where
  kind : TokenKind
  mark : Mark
deriving DecidableEq, Repr

/-- The start of what may turn out to be a key. -/
structure PossibleKey where
  /-- Whether it must turn out so. -/
  isRequired : Bool
  /-- The place among the tokens. -/
  number : Nat
  mark : Mark

/-- The state between two tokens. -/
structure Scanner where
  cursor : Cursor
  /-- The tokens so far, the last one first. -/
  done : List YamlToken := []
  /-- How many they are. -/
  count : Nat := 0
  /-- The indentation of the block. -/
  indent : Int := -1
  /-- The indentations of the blocks around it. -/
  outer : List Int := []
  /-- Whether a key may start here. -/
  keyAllowed : Bool := true
  /-- The key that may have started in this bracket. -/
  key : Option PossibleKey := none
  /-- The keys that may have started in the brackets around it. -/
  outerKeys : List (Option PossibleKey) := []
  /-- Whether the end of the text has become a token. -/
  isOver : Bool := false

namespace Scanner

def inFlow (s : Scanner) : Bool := !s.outerKeys.isEmpty

def mark (s : Scanner) : Mark := s.cursor.mark

def push (s : Scanner) (kind : TokenKind) (m : Mark) : Scanner :=
  { s with done := ⟨kind, m⟩ :: s.done, count := s.count + 1 }

/-- Puts a token at a place, before those that are there. -/
def insertAt (s : Scanner) (n : Nat) (kind : TokenKind) (m : Mark) : Scanner :=
  { s with done := s.done.insertIdx (s.count - n) ⟨kind, m⟩, count := s.count + 1 }

/-- A token of some characters. -/
def punctuate (s : Scanner) (kind : TokenKind) (n : Nat := 1) : Scanner :=
  { s.push kind s.mark with cursor := s.cursor.skip n }

def fail {α : Type} (s : Scanner) (p : Problem) (context : Option (Activity × Mark) := none) :
    Except Fault α :=
  .error ⟨p, s.mark, context⟩

/-! ## Indentation -/

/-- Ends the blocks that are indented more than a column. -/
def unroll (column : Int) : Nat → Scanner → Scanner
  | 0, s => s
  | fuel + 1, s =>
    if !s.inFlow && column < s.indent then
      match s.outer with
      | [] => s
      | indent :: outer =>
        unroll column fuel ({ s with indent, outer }.push .blockEnd s.mark)
    else s

/-- Ends blocks, of which there are not more than characters before. -/
def unrollTo (s : Scanner) (column : Int) : Scanner := unroll column s.outer.length s

/-- Starts a block if a column is indented more than the block around it. -/
def roll (s : Scanner) (column : Nat) (number : Option Nat) (kind : TokenKind) (m : Mark) : Scanner :=
  if !s.inFlow && s.indent < column then
    let s := { s with indent := column, outer := s.indent :: s.outer }
    match number with
    | some n => s.insertAt n kind m
    | none => s.push kind m
  else s

/-! ## Possible keys -/

/-- Gives a possible key up; one that is required may not be. -/
def dropKey (s : Scanner) : Except Fault Scanner :=
  match s.key with
  | some k => if k.isRequired then s.fail .noColon (some (.simpleKey, k.mark))
    else .ok { s with key := none }
  | none => .ok s

/-- Notes that a key may start here. -/
def saveKey (s : Scanner) : Except Fault Scanner :=
  if s.keyAllowed then do
    let isRequired := !s.inFlow && s.indent == s.mark.column
    let s ← s.dropKey
    return { s with key := some ⟨isRequired, s.count, s.mark⟩ }
  else .ok s

/-- How long a key may be. -/
def maxKeyLength : Nat := 1024

/-- A possible key, unless its line is over or it is too long. -/
def fresh (s : Scanner) : Option PossibleKey → Except Fault (Option PossibleKey)
  | none => .ok none
  | some k =>
    if k.mark.line < s.mark.line ∨ k.mark.index + maxKeyLength < s.mark.index then
      if k.isRequired then s.fail .noColon (some (.simpleKey, k.mark)) else .ok none
    else .ok (some k)

/-- Gives up the keys whose time is over. -/
def dropStaleKeys (s : Scanner) : Except Fault Scanner := do
  let outerKeys ← s.outerKeys.mapM s.fresh
  let key ← s.fresh s.key
  return { s with key, outerKeys }

/-! ## Blanks and comments -/

/-- Goes to the next token.  A byte order mark at the start of a line is a blank. -/
def toNextToken : Nat → Scanner → Scanner
  | 0, s => s
  | fuel + 1, s =>
    let k := if s.mark.column = 0 ∧ s.cursor.at? '\ufeff' then s.cursor.skip else s.cursor
    let k := (k.takeWhile fun c => c == ' ' || (c == '\t' && (s.inFlow || !s.keyAllowed))).2
    let k := if k.at? '#' then k.toLineEnd else k
    if k.isBreakNext then
      toNextToken fuel { s with cursor := k.takeBreak.2, keyAllowed := s.keyAllowed || !s.inFlow }
    else { s with cursor := k }

/-! ## Tokens -/

def openFlow (s : Scanner) (kind : TokenKind) : Except Fault Scanner := do
  let s ← s.saveKey
  let s := { s with outerKeys := s.key :: s.outerKeys, key := none, keyAllowed := true }
  return s.punctuate kind

def closeFlow (s : Scanner) (kind : TokenKind) : Except Fault Scanner := do
  let s ← s.dropKey
  let s := match s.outerKeys with
    | [] => s
    | key :: outerKeys => { s with key, outerKeys }
  return { s with keyAllowed := false }.punctuate kind

def flowEntry (s : Scanner) : Except Fault Scanner := do
  let s ← s.dropKey
  return { s with keyAllowed := true }.punctuate .flowEntry

def blockEntry (s : Scanner) : Except Fault Scanner := do
  if !s.inFlow && !s.keyAllowed then s.fail .entryNotAllowed
  let s := s.roll s.mark.column none .blockSequenceStart s.mark
  let s ← s.dropKey
  return { s with keyAllowed := true }.punctuate .blockEntry

def explicitKey (s : Scanner) : Except Fault Scanner := do
  if !s.inFlow && !s.keyAllowed then s.fail .keyNotAllowed
  let s := s.roll s.mark.column none .blockMappingStart s.mark
  let s ← s.dropKey
  return { s with keyAllowed := !s.inFlow }.punctuate .key

def value (s : Scanner) : Except Fault Scanner := do
  match s.key with
  | some k =>
    let s := s.insertAt k.number .key k.mark
    let s := s.roll k.mark.column (some k.number) .blockMappingStart k.mark
    return { s with key := none, keyAllowed := false }.punctuate .value
  | none =>
    if !s.inFlow && !s.keyAllowed then s.fail .valueNotAllowed
    let s := s.roll s.mark.column none .blockMappingStart s.mark
    return { s with keyAllowed := !s.inFlow }.punctuate .value

/-- The mark between two documents, or the end of one. -/
def documentMark (s : Scanner) : Except Fault Scanner := do
  let s ← (s.unrollTo (-1)).dropKey
  let kind := if s.cursor.at? '-' then TokenKind.documentStart else .documentEnd
  return { s with keyAllowed := false }.punctuate kind 3

/-- An anchor, or an alias: a reference to one. -/
def named (s : Scanner) (activity : Activity) (kind : String → TokenKind) :
    Except Fault Scanner := do
  let s ← s.saveKey
  let start := s.mark
  let (name, k) := s.cursor.skip.takeWhile isNameChar
  let s := { s with keyAllowed := false, cursor := k }
  if name.isEmpty || !(k.isGapAt 0 || k.rest.head?.any "?:,]\x7d%@`".toList.contains) then
    s.fail .noAnchorName (some (activity, start))
  return s.push (kind (String.ofList name)) start

/-- A tag before a node. -/
def tag (s : Scanner) : Except Fault Scanner := do
  let s ← s.saveKey
  let (t, k) ← readTag s.inFlow s.cursor
  return { s with keyAllowed := false, cursor := k }.push (.tag t) s.mark

/-- A directive before a document. -/
def directive (s : Scanner) : Except Fault Scanner := do
  let s ← (s.unrollTo (-1)).dropKey
  let (d, k) ← readDirective s.cursor
  return { s with keyAllowed := false, cursor := k }.push (.directive d) s.mark

def blockScalar (s : Scanner) (literal : Bool) : Except Fault Scanner := do
  let s ← s.dropKey
  let start := s.mark
  let (text, k) ← readBlock literal s.indent s.cursor
  return { s with keyAllowed := true, cursor := k }.push (.scalar .quoted (String.ofList text)) start

def quotedScalar (s : Scanner) (quote : Char) : Except Fault Scanner := do
  let s ← s.saveKey
  let start := s.mark
  let (text, k) ← readQuoted quote s.cursor
  return { s with keyAllowed := false, cursor := k }.push (.scalar .quoted (String.ofList text)) start

def plainScalar (s : Scanner) : Except Fault Scanner := do
  let s ← s.saveKey
  let start := s.mark
  let (text, endsLine, k) ← readPlain s.inFlow (s.indent + 1) s.cursor
  return { s with keyAllowed := endsLine, cursor := k }.push (.scalar .plain (String.ofList text)) start

/-- Whether a plain scalar can start here. -/
def startsPlain (s : Scanner) : Bool :=
  match s.cursor.rest with
  | [] => false
  | '-' :: _ => !(s.cursor.rest[1]?.any isSpace)
  | '?' :: _ | ':' :: _ => !s.inFlow && !s.cursor.isGapAt 1
  | c :: _ => !(isSpace c || ",[]\x7b\x7d#&*!|>'\"%@`".toList.contains c)

/-- Reads the next token, which is not the end of the text. -/
def next (s : Scanner) : Except Fault Scanner :=
  let k := s.cursor
  let isIndicator (c : Char) : Bool := k.at? c && (s.inFlow || k.isGapAt 1)
  if k.mark.column = 0 ∧ k.at? '%' then s.directive
  else if k.isDocumentMark then s.documentMark
  else if k.at? '[' then s.openFlow .flowSequenceStart
  else if k.at? '\x7b' then s.openFlow .flowMappingStart
  else if k.at? ']' then s.closeFlow .flowSequenceEnd
  else if k.at? '\x7d' then s.closeFlow .flowMappingEnd
  else if k.at? ',' then s.flowEntry
  else if k.at? '-' ∧ k.isGapAt 1 then s.blockEntry
  else if isIndicator '?' then s.explicitKey
  else if isIndicator ':' then s.value
  else if k.at? '*' then s.named .reference .reference
  else if k.at? '&' then s.named .anchor .anchor
  else if k.at? '!' then s.tag
  else if k.at? '|' ∧ !s.inFlow then s.blockScalar true
  else if k.at? '>' ∧ !s.inFlow then s.blockScalar false
  else if k.at? '\'' then s.quotedScalar '\''
  else if k.at? '"' then s.quotedScalar '"'
  else if s.startsPlain then s.plainScalar
  else s.fail .noToken (some (.nextToken, s.mark))

/-- Ends the text. -/
def finish (s : Scanner) : Except Fault Scanner := do
  let m := s.mark
  let m := if m.column = 0 then m else { m with line := m.line + 1, column := 0 }
  let s := { s with cursor := { s.cursor with mark := m } }
  let s ← (s.unrollTo (-1)).dropKey
  return { s.push .streamEnd m with isOver := true }

/-- The place of the first key that may have started.  Whether a token from there on has a key before it
is not known yet. -/
def firstKey? (s : Scanner) : Option Nat :=
  ((s.key :: s.outerKeys).filterMap fun k => k.map PossibleKey.number).min?

/-- How many tokens are known for good. -/
def settled (s : Scanner) : Nat := s.firstKey?.getD s.count

/-- The first of the tokens. -/
def first (s : Scanner) (n : Nat) : List YamlToken := (s.done.drop (s.count - n)).reverse

/-- Goes to the next token, and ends the keys and blocks that end on the way. -/
def advance (s : Scanner) : Except Fault Scanner := do
  let s ← (toNextToken (s.cursor.left + 1) s).dropStaleKeys
  return s.unrollTo s.mark.column

/-- Goes to the next token and reads it. -/
def fetch (s : Scanner) : Except Fault Scanner := do
  let s ← s.advance
  if s.cursor.rest.isEmpty then s.finish else s.next

/-- Reads token after token, up to the end or a fault.  A fault leaves the tokens that were known before
the token in which it is met, of which there are `known`. -/
def run : Nat → (known : Nat) → Scanner → List YamlToken × Option Fault
  | 0, _, s => (s.done.reverse, none)
  | fuel + 1, known, s =>
    match s.dropStaleKeys with
    | .error e => (s.first known, some e)
    | .ok s =>
      if s.isOver then (s.done.reverse, none)
      else match s.fetch with
        | .error e => (s.first s.settled, some e)
        | .ok further => run fuel s.settled further

end Scanner

/-- The tokens of a text, and the fault that ends them if there is one. -/
def tokens (text : List Char) : List YamlToken × Option Fault :=
  Scanner.run (text.length + 2) 0 { cursor := { rest := text } }

end ExprGateway.Yaml
