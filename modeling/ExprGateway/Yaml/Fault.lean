/-!
# Places and faults in YAML texts

A fault is a problem at a place, perhaps met while something was read that started at another place.
Places are counted from zero and written from one; the very start of a text is not written at all.
-/

namespace ExprGateway.Yaml

/-- A place in a text; the index counts bytes, the column counts characters. -/
structure Mark where
  index : Nat := 0
  line : Nat := 0
  column : Nat := 0
deriving DecidableEq, Repr, Inhabited

namespace Mark

/-- Whether a place is the start of the text. -/
def isStart (m : Mark) : Bool := m.line == 0 && m.column == 0

/-- Where something is, behind a message about it. -/
def suffix (m : Mark) : String :=
  if m.isStart then "" else s!" at line {m.line + 1} column {m.column + 1}"

end Mark

/-- What can be wrong with a text. -/
inductive Problem where
  | noToken
  | noColon
  | entryNotAllowed
  | keyNotAllowed
  | valueNotAllowed
  | noAnchorName
  | noBlank
  | noSpace
  | noTagStart
  | noTagEnd
  | noTagText
  | noOctet
  | badLeadingOctet
  | badTrailingOctet
  | zeroIndentation
  | noLineEnd
  | tabForIndentation
  | tabInPlainScalar
  | documentIndicator
  | endOfStream
  | unknownEscape
  | noHexNumber
  | noCharacter
  | colon
  | noDirectiveName
  | badDirectiveName
  | unknownDirective
  | noVersion
  | longVersion
  | noVersionPoint
  | repeatedVersion
  | otherVersion
  | repeatedHandle
  | noDocumentStart
  | noContent
  | noEntry
  | noKey
  | noSequenceEnd
  | noMappingEnd
  | unknownHandle
  | unknownAnchor
deriving DecidableEq, Repr

/-- The text of a problem. -/
def Problem.message : Problem → String
  | noToken => "found character that cannot start any token"
  | noColon => "could not find expected ':'"
  | entryNotAllowed => "block sequence entries are not allowed in this context"
  | keyNotAllowed => "mapping keys are not allowed in this context"
  | valueNotAllowed => "mapping values are not allowed in this context"
  | noAnchorName => "did not find expected alphabetic or numeric character"
  | noBlank => "did not find expected whitespace or line break"
  | noSpace => "did not find expected whitespace"
  | noTagStart => "did not find expected '!'"
  | noTagEnd => "did not find the expected '>'"
  | noTagText => "did not find expected tag URI"
  | noOctet => "did not find URI escaped octet"
  | badLeadingOctet => "found an incorrect leading UTF-8 octet"
  | badTrailingOctet => "found an incorrect trailing UTF-8 octet"
  | zeroIndentation => "found an indentation indicator equal to 0"
  | noLineEnd => "did not find expected comment or line break"
  | tabForIndentation => "found a tab character where an indentation space is expected"
  | tabInPlainScalar => "found a tab character that violates indentation"
  | documentIndicator => "found unexpected document indicator"
  | endOfStream => "found unexpected end of stream"
  | unknownEscape => "found unknown escape character"
  | noHexNumber => "did not find expected hexadecimal number"
  | noCharacter => "found invalid Unicode character escape code"
  | colon => "found unexpected ':'"
  | noDirectiveName => "could not find expected directive name"
  | badDirectiveName => "found unexpected non-alphabetical character"
  | unknownDirective => "found unknown directive name"
  | noVersion => "did not find expected version number"
  | longVersion => "found extremely long version number"
  | noVersionPoint => "did not find expected digit or '.' character"
  | repeatedVersion => "found duplicate %YAML directive"
  | otherVersion => "found incompatible YAML document"
  | repeatedHandle => "found duplicate %TAG directive"
  | noDocumentStart => "did not find expected <document start>"
  | noContent => "did not find expected node content"
  | noEntry => "did not find expected '-' indicator"
  | noKey => "did not find expected key"
  | noSequenceEnd => "did not find expected ',' or ']'"
  | noMappingEnd => "did not find expected ',' or '\x7d'"
  | unknownHandle => "found undefined tag handle"
  | unknownAnchor => "unknown anchor"

/-- What was being read. -/
inductive Activity where
  | nextToken
  | simpleKey
  | anchor
  | reference
  | tag
  | tagText
  | directive
  | versionDirective
  | tagDirective
  | tagDirectiveStart
  | tagDirectiveHandle
  | tagDirectiveText
  | blockScalar
  | quotedScalar
  | escape
  | plainScalar
  | node
  | blockNode
  | flowNode
  | blockCollection
  | blockMapping
  | flowSequence
  | flowMapping
deriving DecidableEq, Repr

/-- The text of an activity. -/
def Activity.message : Activity → String
  | nextToken => "while scanning for the next token"
  | simpleKey => "while scanning a simple key"
  | anchor => "while scanning an anchor"
  | reference => "while scanning an alias"
  | tag => "while scanning a tag"
  | tagText => "while parsing a tag"
  | directive => "while scanning a directive"
  | versionDirective => "while scanning a %YAML directive"
  | tagDirective => "while scanning a %TAG directive"
  | tagDirectiveStart => "while scanning a tag directive"
  | tagDirectiveHandle => "while parsing a tag directive"
  | tagDirectiveText => "while parsing a %TAG directive"
  | blockScalar => "while scanning a block scalar"
  | quotedScalar => "while scanning a quoted scalar"
  | escape => "while parsing a quoted scalar"
  | plainScalar => "while scanning a plain scalar"
  | node => "while parsing a node"
  | blockNode => "while parsing a block node"
  | flowNode => "while parsing a flow node"
  | blockCollection => "while parsing a block collection"
  | blockMapping => "while parsing a block mapping"
  | flowSequence => "while parsing a flow sequence"
  | flowMapping => "while parsing a flow mapping"

/-- A problem, its place, and what was being read from where on. -/
structure Fault where
  problem : Problem
  mark : Mark
  context : Option (Activity × Mark) := none
deriving DecidableEq, Repr

/-- The text of a fault.  A start that is the place of the problem is not written again. -/
def Fault.message (f : Fault) : String :=
  f.problem.message ++ f.mark.suffix ++
    match f.context with
    | none => ""
    | some (activity, start) =>
      ", " ++ activity.message ++
        if start.line = f.mark.line ∧ start.column = f.mark.column then "" else start.suffix

end ExprGateway.Yaml
