import ExprGateway.Config.Fault
import ExprGateway.Number.Literal
import ExprGateway.Yaml.Node

/-!
# Settings from YAML

`Yaml.read` reads a text that is one document, a mapping.  Plain scalars stand for nothing, truth values
and numbers where they are written as such; a number has no zeros in front of other digits.  Every
other scalar is a text.  Keys are texts, however they are written.  Of two entries with one key the
later one counts.  A value behind a tag with an own name is the choice of that name: a table with this one entry.
-/

namespace ExprGateway.Yaml

/-! ## Scalars -/

/-- Digits behind a zero, which are no number. -/
def isPaddedNumber (cs : List Char) : Bool :=
  let digits := match cs with
    | '-' :: rest | '+' :: rest => rest
    | cs => cs
  match digits with
  | '0' :: rest => !rest.isEmpty && rest.all Char.isDigit
  | _ => false

/-- Digits in a base as a number. -/
def digitsIn? (base : Nat) (cs : List Char) : Option Nat :=
  if cs.isEmpty then none else Digits.number? base cs

/-- A whole number without a sign: hexadecimal, octal or binary behind a mark, or decimal. -/
def unsigned? (cs : List Char) : Option Nat :=
  match cs with
  | '0' :: 'x' :: rest => digitsIn? 16 rest
  | '0' :: 'o' :: rest => digitsIn? 8 rest
  | '0' :: 'b' :: rest => digitsIn? 2 rest
  | cs => if isPaddedNumber cs then none else digitsIn? 10 cs

/-- A whole number that fits into the larger of two sizes. -/
def whole? (cs : List Char) : Option Setting :=
  match cs with
  | '-' :: rest =>
    (unsigned? rest).bind fun n => if n ≤ 1 <<< 127 then some (.signed (-(n : Int))) else none
  | _ =>
    let digits := match cs with
      | '+' :: rest => rest
      | cs => cs
    (unsigned? digits).bind fun n => if n < 1 <<< 128 then some (.unsigned n) else none

/-- A number with a point or an exponent, or a name for one. -/
def number? (cs : List Char) : Option Float :=
  match String.ofList cs with
  | ".inf" | ".Inf" | ".INF" | "+.inf" | "+.Inf" | "+.INF" =>
    some (Binary64.ofRank false Binary64.infinityRank)
  | "-.inf" | "-.Inf" | "-.INF" => some (Binary64.ofRank true Binary64.infinityRank)
  | ".nan" | ".NaN" | ".NAN" => some (Float.ofBits 0x7ff8000000000000)
  | _ => readFinite? cs

/-- A truth value. -/
def truth? : String → Option Bool
  | "true" | "True" | "TRUE" => some true
  | "false" | "False" | "FALSE" => some false
  | _ => none

/-- Whether a scalar says that there is nothing. -/
def isNothing : String → Bool
  | "~" | "null" | "Null" | "NULL" => true
  | _ => false

/-- What a plain scalar stands for. -/
def plain (s : String) : Setting :=
  if s.isEmpty || isNothing s then .unit
  else match truth? s with
    | some b => .flag b
    | none =>
      let cs := s.toList
      match whole? cs with
      | some v => v
      | none =>
        match if isPaddedNumber cs then none else number? cs with
        | some x => .number x
        | none => .text s

/-- What a scalar stands for, or what its tag says that it should be. -/
def scalar (tag : Option NodeTag) (style : ScalarStyle) (s : String) : Except String Setting :=
  let wanted (name : String) (v : Option Setting) : Except String Setting :=
    match v with
    | some v => .ok v
    | none => .error name
  match tag with
  | some (.core .bool) => wanted "a boolean" ((truth? s).map .flag)
  | some (.core .int) => wanted "an integer" (whole? s.toList)
  | some (.core .float) => wanted "a float" ((number? s.toList).map .number)
  | some (.core .null) => wanted "null" (if isNothing s then some .unit else none)
  | some .foreign => .ok (.text s)
  | some (.own _) | none => .ok (if style = .plain then plain s else .text s)

/-- A setting behind an own name, which is the only entry of a table. -/
def named (tag : Option NodeTag) (v : Setting) : Setting :=
  match tag with
  | some (.own name) => .table [(name, v)]
  | _ => v

/-! ## Faults -/

/-- Why a text is no document of settings.  A place in the document is the names that lead to it, where
the root has no name. -/
inductive ReadFault where
  | badSyntax (fault : Fault)
  /-- A control character, by its place in bytes. -/
  | control (offset : Nat)
  | wrongKey (found : Setting) (place : Option String) (mark : Mark)
  | wrongRoot (found : Setting) (mark : Mark)
  /-- A scalar that is not what its tag says. -/
  | wrongScalar (text expected : String) (place : Option String) (mark : Mark)
  | tooDeep (mark : Mark)
  | tooOften
  | severalDocuments

/-- What a setting is, in the wording for documents. -/
def describe : Setting → String
  | .unit => "unit value"
  | .unsigned n =>
    "integer " ++ ticked (toString n) ++ (if n ≤ Setting.maxUnsigned then "" else " as u128")
  | .signed n => "integer " ++ ticked (toString n) ++ (if Setting.minSigned ≤ n then "" else " as i128")
  | .number x =>
    let text := Style.plain.write x
    "floating point " ++ ticked (if text.contains '.' || !x.isFinite then text else text ++ ".0")
  | v => v.asJson

/-- A place in front of a message about it. -/
def placed (place : Option String) (message : String) : String :=
  match place with
  | some p => s!"{p}: {message}"
  | none => message

/-- The text of a fault. -/
def ReadFault.message : ReadFault → String
  | badSyntax fault => fault.message
  | control offset =>
    "control characters are not allowed" ++ if offset = 0 then "" else s!" at position {offset}"
  | wrongKey found place m =>
    placed place s!"invalid type: {describe found}, expected a string" ++ m.suffix
  | wrongRoot found m => s!"invalid type: {describe found}, expected a map{m.suffix}"
  | wrongScalar text expected place m =>
    placed place s!"invalid value: string {quoted text}, expected {expected}" ++ m.suffix
  | tooDeep m => "recursion limit exceeded" ++ m.suffix
  | tooOften => "repetition limit exceeded"
  | severalDocuments => "deserializing from YAML containing more than one document is not supported"

/-! ## Nodes -/

/-- What is known of a document while its nodes are turned into settings. -/
structure Walk where
  anchored : List (Nat × Node)
  /-- How many aliases may be followed. -/
  limit : Nat

/-- How deep collections may be inside one another. -/
def maxDepth : Nat := 128

/-- How many aliases may be followed for each event of a document. -/
def aliasesPerEvent : Nat := 100

/-- A computation that counts the aliases that it follows. -/
abbrev Counted := StateT Nat (Except ReadFault)

/-- A node, or the one that it is an alias for. -/
def Walk.target (w : Walk) : Node → Counted Node
  | .reference n => do
    let count ← get
    set (count + 1)
    if w.limit < count + 1 then throw .tooOften
    return (w.anchored.lookup n).getD (.blank {})
  | n => return n

/-- A place one level further in. -/
def inside (place : Option String) (name : String) : Option String :=
  match place with
  | some p => some s!"{p}.{name}"
  | none => some name

/-- The place of an element. -/
def elementPlace (place : Option String) (n : Nat) : Option String :=
  some (place.getD "." ++ s!"[{n}]")

/-- The place of the value with a key; only a scalar that is written there gives it a name. -/
def valuePlace (place : Option String) : Node → Option String
  | .scalar _ _ text _ => inside place text
  | _ => inside place "?"

/-- The name that a key is. -/
def keyName (w : Walk) (place : Option String) (key : Node) : Counted String := do
  match ← w.target key with
  | .scalar _ _ text _ => return text
  | .sequence _ _ m => throw (.wrongKey (.list []) place m)
  | .mapping _ _ m => throw (.wrongKey (.table []) place m)
  | .unread e => throw (.badSyntax e)
  | .reference _ => return ""

/-- What a scalar at a place stands for. -/
def scalarAt (tag : Option NodeTag) (style : ScalarStyle) (text : String) (place : Option String)
    (m : Mark) : Counted Setting :=
  match scalar tag style text with
  | .ok v => return v
  | .error expected => throw (.wrongScalar text expected place m)

/-- The setting that a node is; collections in it may be `depth` deep. -/
def setting (w : Walk) (depth : Nat) (place : Option String) (n : Node) : Counted Setting := do
  match ← w.target n with
  | .scalar tag style text m => return named tag (← scalarAt tag style text place m)
  | .sequence tag elements m =>
    match depth with
    | 0 => throw (.tooDeep m)
    | depth + 1 =>
      return named tag (.list (← elements.zipIdx.mapM fun (e, i) => setting w depth (elementPlace place i) e))
  | .mapping tag entries m =>
    match depth with
    | 0 => throw (.tooDeep m)
    | depth + 1 =>
      return named tag (.ofEntries (← entries.mapM fun (key, v) => do
        let name ← keyName w place key
        return (name, ← setting w depth (valuePlace place key) v)))
  | .unread e => throw (.badSyntax e)
  | .reference _ => return .unit

/-- The settings of a document's root, whose tag does not matter. -/
def rootSettings (w : Walk) (root : Node) : Counted Setting :=
  match root with
  | .mapping _ entries m => setting w maxDepth none (.mapping none entries m)
  | .scalar _ .plain "" _ => return .table []
  | .scalar tag style text m => do throw (.wrongRoot (← scalarAt tag style text none m) m)
  | .sequence _ _ m => throw (.wrongRoot (.list []) m)
  | .unread e => throw (.badSyntax e)
  | .reference _ => return .unit

/-! ## Texts -/

/-- Whether a character may stand in a text. -/
def isAllowed (c : Char) : Bool :=
  let n := c.toNat
  n == 9 || n == 10 || n == 13 || (0x20 ≤ n && n ≤ 0x7e) || n == 0x85 ||
    (0xa0 ≤ n && n ≤ 0xfffd) || 0x10000 ≤ n

/-- The settings of a document. -/
def Document.settings (d : Document) : Except ReadFault Setting := do
  let v ← match d.root with
    | none => pure (.table [])
    | some root =>
      let w : Walk := ⟨d.anchored, aliasesPerEvent * root.events⟩
      (rootSettings w root).run' 0
  if let some e := d.fault then throw (.badSyntax e)
  if d.isFollowed then throw .severalDocuments
  return v

/-- The settings of a text. -/
def read (text : String) : Except ReadFault Setting := do
  let cs := text.toList
  if let some n := cs.findIdx? (fun c => !isAllowed c) then
    throw (.control (String.ofList (cs.take n)).utf8ByteSize)
  let (found, fault) := tokens cs
  (readDocument { rest := found, fault }).settings

end ExprGateway.Yaml
