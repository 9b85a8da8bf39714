import ExprGateway.Log.Pattern
import ExprGateway.Log.Threshold
import ExprGateway.Number.Literal
import ExprGateway.Text.Quoted
import ExprGateway.Text.Utf8

/-!
# Filters

A filter is a list of directives with commas between them.  A directive is a threshold for everything,
or `target`, `target=threshold`, perhaps with brackets before the equals sign in which a span is named
and, in braces, a field.  Of an event, the directive decides that names most of it: the longest target
that its own target starts with, then a field that it has.  Of two directives that name the same the
later one counts.  An event that no directive is for is not logged.

Directives with a span or with the value of a field are for what happens inside of such a span; no event
that is logged at the start or at the end of the program does, and `Filter` has no use for them.
-/

namespace ExprGateway.Log

/-- What a directive asks of the fields of an event. -/
structure FieldTest where
  name : String
  /-- Whether it asks for a value as well. -/
  hasValue : Bool := false
deriving DecidableEq, Repr

/-- What is logged of a target. -/
structure Directive where
  /-- What the targets start with; nothing means every target. -/
  target : Option String := none
  /-- Whether it is for events in a span only. -/
  inSpan : Bool := false
  field : Option FieldTest := none
  threshold : Threshold := .upTo .trace
deriving DecidableEq, Repr

/-- Why a text is no directive. -/
inductive DirectiveFault where
  | badForm
  | badThreshold
  | badPattern (fault : PatternFault)
deriving DecidableEq, Repr

/-- The text of a fault. -/
def DirectiveFault.message : DirectiveFault → String
  | badForm => "invalid filter directive"
  | badThreshold =>
    "error parsing level filter: expected one of \"off\", \"error\", \"warn\", \"info\", \"debug\", " ++
      "\"trace\", or a number 0-5"
  | badPattern fault => "invalid field filter: " ++ fault.message

/-! ## Directives -/

namespace Directive

/-- Whether a directive may start with a character. -/
def mayStart (c : Char) : Bool := c == '-' || c == ':' || c == '_' || isAlphanumeric c

/-- The threshold behind an equals sign; nothing means everything. -/
def thresholdOf (cs : List Char) : Except DirectiveFault Threshold :=
  if cs.isEmpty then .ok (.upTo .trace)
  else match Threshold.read? (String.ofList cs) with
    | some t => .ok t
    | none => .error .badThreshold

/-- Whether a value is a truth value or a number, and no pattern. -/
def isPlainValue (cs : List Char) : Bool :=
  cs = "true".toList || cs = "false".toList || (readNumber? cs).isSome

/-- What stands in braces: the name of a field, perhaps with an equals sign and a value.  What follows a
second equals sign does not count. -/
def fieldOf (cs : List Char) : Except DirectiveFault FieldTest :=
  let (name, rest) := cs.span (· != '=')
  match rest with
  | [] => if name.isEmpty then .error .badForm else .ok ⟨String.ofList name, false⟩
  | _ :: rest =>
    let value := rest.takeWhile (· != '=')
    match if isPlainValue value then none else Pattern.fault? value with
    | some fault => .error (.badPattern fault)
    | none => .ok ⟨String.ofList name, true⟩

/-- A text without the blanks around it, beside the text as it stands. -/
structure Source where
  whole : List Char
  core : List Char

namespace Source

/-- A part of the text, given as what it and what follows it should be.  Where parts start and end is
found without the blanks around the text, but they are cut out of the text as it stands, by their
bytes. -/
def cut (s : Source) (part rest : List Char) : List Char :=
  let start := Utf8.size s.core - Utf8.size part - Utf8.size rest
  Utf8.takeBytes (Utf8.size part) (Utf8.dropBytes start s.whole)

/-- The end of the text, given as what it should be. -/
def cutEnd (s : Source) (rest : List Char) : List Char :=
  Utf8.dropBytes (Utf8.size s.core - Utf8.size rest) s.whole

end Source

/-- Reads what stands behind a closing bracket: nothing, or a threshold. -/
def readEnd (s : Source) (d : Directive) : List Char → Except DirectiveFault Directive
  | [] => .ok d
  | '=' :: level => (thresholdOf (s.cutEnd level)).map fun t => { d with threshold := t }
  | _ => .error .badForm

/-- Reads what stands behind an opening bracket. -/
def readBrackets (s : Source) (d : Directive) (cs : List Char) : Except DirectiveFault Directive := do
  let (span, rest) := cs.span fun c => c != ']' && c != '\x7b'
  match rest with
  | ']' :: rest => readEnd s { d with inSpan := true } rest
  | '\x7b' :: rest =>
    let (content, rest) := rest.span (· != '\x7d')
    if rest.isEmpty then throw .badForm
    let field ← fieldOf (s.cut content rest)
    match rest with
    | '\x7d' :: ']' :: rest => readEnd s { d with inSpan := !span.isEmpty, field := some field } rest
    | _ => throw .badForm
  | _ => throw .badForm

/-- The directive of a text. -/
def ofText (text : String) : Except DirectiveFault Directive :=
  let s : Source := ⟨text.toList, trimBlanks text.toList⟩
  match s.core with
  | [] => .error .badForm
  | '[' :: rest => readBrackets s {} rest
  | c :: _ =>
    if !mayStart c then .error .badForm
    else
      let (target, rest) := s.core.span fun c => c != '=' && c != '['
      let d : Directive := { target := some (String.ofList (s.cut target rest)) }
      match rest with
      | '=' :: _ => readEnd s d rest
      | '[' :: rest => readBrackets s d rest
      | _ =>
        match Threshold.read? text with
        | some threshold => .ok { threshold }
        | none => .ok { target := some text }

/-- Whether a directive is for events outside of spans. -/
def isForEvents (d : Directive) : Bool := !d.inSpan && !d.field.any (·.hasValue)

/-- Whether a directive is for an event. -/
def covers (d : Directive) (e : Event) : Bool :=
  e.target.startsWith (d.target.getD "") && d.field.all fun f => e.fieldNames.contains f.name

/-- How much of a target a directive names. -/
def weight (d : Directive) : Nat := (d.target.map fun t => t.utf8ByteSize + 1).getD 0

/-- Whether of two directives for an event the second one decides. -/
def yieldsTo (d later : Directive) : Bool :=
  if d.weight ≠ later.weight then d.weight < later.weight
  else match d.field, later.field with
    | none, _ => true
    | some _, none => false
    | some f, some g => f.name ≤ g.name

end Directive

/-! ## Filters -/

/-- What is logged: directives for events. -/
structure Filter where
  directives : List Directive
deriving DecidableEq, Repr

namespace Filter

/-- The filter of directives; without any, errors are logged. -/
def ofDirectives (directives : List Directive) : Filter :=
  if directives.isEmpty then ⟨[{ threshold := .upTo .error }]⟩
  else ⟨directives.filter Directive.isForEvents⟩

/-- The texts between commas that are not empty. -/
def texts (list : String) : List String := (list.splitOn ",").filter (· != "")

/-- The filter of a list, if every directive in it is one. -/
def ofList? (list : String) : Option Filter :=
  ((texts list).mapM fun s => (Directive.ofText s).toOption).map ofDirectives

/-- The filter of a list without what is no directive, and what is said of that. -/
def ofListLossy (list : String) : Filter × List String :=
  let read := (texts list).map fun s => (s, Directive.ofText s)
  (ofDirectives (read.filterMap fun r => r.2.toOption),
    read.filterMap fun r =>
      match r.2 with
      | .ok _ => none
      | .error e => some ("ignoring " ++ ticked r.1 ++ ": " ++ e.message))

/-- The directive that decides on an event. -/
def deciding? (f : Filter) (e : Event) : Option Directive :=
  (f.directives.filter (·.covers e)).foldl (fun best d =>
    match best with
    | none => some d
    | some b => if b.yieldsTo d then some d else some b) none

/-- Whether an event is logged. -/
def passes (f : Filter) (e : Event) : Bool :=
  ((f.deciding? e).map fun d => d.threshold.allows e.level).getD false

end Filter

end ExprGateway.Log
