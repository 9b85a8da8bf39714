import ExprGateway.Yaml.Token

/-!
# Nodes of YAML

`readDocument` puts the tokens of a text together: scalars, sequences and mappings, in blocks or in
brackets, with anchors, aliases and tags.  A value that is left out is an empty plain scalar.

A text that breaks off is a node as well: what was read is kept, and `Node.unread` stands where the
reading ended.  So whoever goes through a node in order meets a fault of the text only after everything
in front of it.

Every call of a reader takes a token or goes one step down in the grammar, of which there are fewer
than four between two tokens; this bounds their `fuel`.
-/

namespace ExprGateway.Yaml

/-- A node; the mark is where it starts.  Anchors are numbered in the order in which they are met. -/
inductive Node where
  | scalar (tag : Option NodeTag) (style : ScalarStyle) (text : String) (mark : Mark)
  | sequence (tag : Option NodeTag) (elements : List Node) (mark : Mark)
  | mapping (tag : Option NodeTag) (entries : List (Node × Node)) (mark : Mark)
  /-- Stands for the node with an anchor. -/
  | reference (number : Nat)
  | unread (fault : Fault)
deriving Inhabited

namespace Node

/-- The value that is left out at a place. -/
def blank (m : Mark) : Node := .scalar none .plain "" m

mutual

/-- How many scalars and aliases there are in a node, and how many starts and ends of collections. -/
def events : Node → Nat
  | scalar .. | reference _ => 1
  | sequence _ elements _ => 2 + elementEvents elements
  | mapping _ entries _ => 2 + entryEvents entries
  | unread _ => 0

def elementEvents : List Node → Nat
  | [] => 0
  | n :: rest => n.events + elementEvents rest

def entryEvents : List (Node × Node) → Nat
  | [] => 0
  | (key, n) :: rest => key.events + n.events + entryEvents rest

end

end Node

/-- The tokens that are left. -/
structure Supply where
  rest : List YamlToken
  /-- Why there are no more than these. -/
  fault : Option Fault
  /-- What the handles of tags stand for. -/
  handles : List (String × List UInt8) := []
  /-- The names of the anchors so far, the last one first. -/
  anchors : List String := []
  /-- The nodes with an anchor that were read so far. -/
  anchored : List (Nat × Node) := []

namespace Supply

/-- The next token. -/
def peek (s : Supply) : Except Fault YamlToken :=
  match s.rest, s.fault with
  | t :: _, _ => .ok t
  | [], some e => .error e
  | [], none => .ok ⟨.streamEnd, {}⟩

def skip (s : Supply) : Supply := { s with rest := s.rest.drop 1 }

/-- Ends the reading. -/
def stop (s : Supply) (e : Fault) : Supply := { s with rest := [], fault := some e }

/-- The number of the anchor that a name stands for. -/
def anchor? (s : Supply) (name : String) : Option Nat :=
  (s.anchors.findIdx? (· == name)).map fun n => s.anchors.length - 1 - n

/-- What the handle of a tag stands for. -/
def meaning? (s : Supply) : String → Option (List UInt8)
  | "" => some []
  | handle =>
    (s.handles.lookup handle).or <| match handle with
      | "!" => some "!".toUTF8.toList
      | "!!" => some "tag:yaml.org,2002:".toUTF8.toList
      | _ => none

end Supply

/-- A node and what is left behind it. -/
abbrev Reading := Node × Supply

/-- The reading that ends with a fault. -/
def Supply.fail (s : Supply) (e : Fault) : Reading := (.unread e, s.stop e)

/-! ## Anchors and tags -/

/-- What stands in front of a node. -/
structure Properties where
  anchor : Option String := none
  tag : Option (Tag × Mark) := none

namespace Properties

def isNone (p : Properties) : Bool := p.anchor.isNone && p.tag.isNone

/-- Reads an anchor. -/
def readAnchor (p : Properties) (s : Supply) : Except Fault (Properties × Supply) := do
  match (← s.peek).kind with
  | .anchor name => return ({ p with anchor := some name }, s.skip)
  | _ => return (p, s)

/-- Reads a tag. -/
def readTag (p : Properties) (s : Supply) : Except Fault (Properties × Supply) := do
  let t ← s.peek
  match t.kind with
  | .tag tag => return ({ p with tag := some (tag, t.mark) }, s.skip)
  | _ => return (p, s)

/-- Reads an anchor and a tag, in any order. -/
def read (s : Supply) : Except Fault (Properties × Supply) := do
  let (p, s) ← readAnchor {} s
  if p.anchor.isSome then readTag p s
  else
    let (p, s) ← readTag p s
    if p.tag.isSome then readAnchor p s else return (p, s)

/-- What the tag says. -/
def nodeTag (p : Properties) (start : Mark) (s : Supply) : Except Fault (Option NodeTag) :=
  match p.tag with
  | none => .ok none
  | some (t, m) =>
    match s.meaning? t.handle with
    | some meaning => .ok (NodeTag.ofBytes? (meaning ++ t.suffix))
    | none => .error ⟨.unknownHandle, m, some (.node, start)⟩

/-- Notes the anchor, before the node is read. -/
def enter (p : Properties) (s : Supply) : Supply :=
  match p.anchor with
  | some name => { s with anchors := name :: s.anchors }
  | none => s

/-- Keeps a node that was read if it has an anchor, the one with the number `n`. -/
def keep (p : Properties) (n : Nat) (r : Reading) : Reading :=
  if p.anchor.isSome then (r.1, { r.2 with anchored := (n, r.1) :: r.2.anchored }) else r

end Properties

/-- What a node starts with: its properties, its tag and the next token. -/
def readStart (start : Mark) (s : Supply) :
    Except Fault (Properties × Option NodeTag × YamlToken × Supply) := do
  let (p, s) ← Properties.read s
  let t ← s.peek
  let tag ← p.nodeTag start s
  return (p, tag, t, s)

/-! ## Nodes -/

/-- Whether a token ends an entry of a block mapping. -/
def endsEntry : TokenKind → Bool
  | .key | .value | .blockEnd => true
  | _ => false

/-- The next token of a collection in brackets, behind the comma before it unless it is the first or closes
the brackets. -/
def flowNext (closing : TokenKind) (problem : Problem) (context : Activity × Mark) (isFirst : Bool)
    (s : Supply) : Except Fault (YamlToken × Supply) := do
  let t ← s.peek
  if t.kind = closing ∨ isFirst then return (t, s)
  else if t.kind = .flowEntry then return (← s.skip.peek, s.skip)
  else throw ⟨problem, t.mark, some context⟩

mutual

/-- Reads a node.  Block collections may start only where `inBlock` is set, and sequences without
indentation of their own only where `indentless` is. -/
def readNode (fuel : Nat) (inBlock indentless : Bool) (s : Supply) : Reading :=
  match fuel with
  | 0 => (.blank {}, s)
  | fuel + 1 =>
    match s.peek with
    | .error e => s.fail e
    | .ok ⟨.reference name, m⟩ =>
      match s.anchor? name with
      | some n => (.reference n, s.skip)
      | none => s.fail ⟨.unknownAnchor, m, none⟩
    | .ok ⟨_, start⟩ =>
      match readStart start s with
      | .error e => s.fail e
      | .ok (p, tag, t, s) =>
        let inner := p.enter s
        let keep := p.keep s.anchors.length
        match t.kind, inBlock, indentless with
        | .blockEntry, _, true => keep (readIndentless fuel tag start [] inner)
        | .scalar style text, _, _ => keep (.scalar tag style text start, inner.skip)
        | .flowSequenceStart, _, _ => keep (readFlowSequence fuel tag start t.mark [] inner.skip)
        | .flowMappingStart, _, _ => keep (readFlowMapping fuel tag start t.mark [] inner.skip)
        | .blockSequenceStart, true, _ => keep (readBlockSequence fuel tag start t.mark [] inner.skip)
        | .blockMappingStart, true, _ => keep (readBlockMapping fuel tag start t.mark [] inner.skip)
        | _, _, _ =>
          if p.isNone then
            s.fail ⟨.noContent, t.mark, some (if inBlock then .blockNode else .flowNode, start)⟩
          else keep (.scalar tag .plain "" start, inner)

/-- Reads a node unless the next token says that it is left out. -/
def readUnless (fuel : Nat) (leftOut : TokenKind → Bool) (inBlock indentless : Bool) (s : Supply) :
    Reading :=
  match fuel with
  | 0 => (.blank {}, s)
  | fuel + 1 =>
    match s.peek with
    | .error e => s.fail e
    | .ok t => if leftOut t.kind then (.blank t.mark, s) else readNode fuel inBlock indentless s

/-- Reads the value behind a key, which may be left out together with its mark. -/
def readValue (fuel : Nat) (leftOut : TokenKind → Bool) (inBlock : Bool) (s : Supply) : Reading :=
  match fuel with
  | 0 => (.blank {}, s)
  | fuel + 1 =>
    match s.peek with
    | .error e => s.fail e
    | .ok t =>
      if t.kind = .value then readUnless fuel leftOut inBlock inBlock s.skip
      else (.blank t.mark, s)

/-- Reads the elements of a block sequence up to its end; `done` holds those before, the last one
first. -/
def readBlockSequence (fuel : Nat) (tag : Option NodeTag) (start opening : Mark) (done : List Node)
    (s : Supply) : Reading :=
  match fuel with
  | 0 => (.blank {}, s)
  | fuel + 1 =>
    let broken (e : Fault) : Reading := (.sequence tag (.unread e :: done).reverse start, s.stop e)
    match s.peek with
    | .error e => broken e
    | .ok t =>
      match t.kind with
      | .blockEntry =>
        let (n, s) := readUnless fuel (fun k => k == .blockEntry || k == .blockEnd) true false s.skip
        readBlockSequence fuel tag start opening (n :: done) s
      | .blockEnd => (.sequence tag done.reverse start, s.skip)
      | _ => broken ⟨.noEntry, t.mark, some (.blockCollection, opening)⟩

/-- Reads the elements of a sequence that is indented as the mapping around it. -/
def readIndentless (fuel : Nat) (tag : Option NodeTag) (start : Mark) (done : List Node) (s : Supply) :
    Reading :=
  match fuel with
  | 0 => (.blank {}, s)
  | fuel + 1 =>
    match s.peek with
    | .error e => (.sequence tag (.unread e :: done).reverse start, s.stop e)
    | .ok t =>
      match t.kind with
      | .blockEntry =>
        let (n, s) := readUnless fuel (fun k => k == .blockEntry || endsEntry k) true false s.skip
        readIndentless fuel tag start (n :: done) s
      | _ => (.sequence tag done.reverse start, s)

/-- Reads the entries of a block mapping up to its end. -/
def readBlockMapping (fuel : Nat) (tag : Option NodeTag) (start opening : Mark)
    (done : List (Node × Node)) (s : Supply) : Reading :=
  match fuel with
  | 0 => (.blank {}, s)
  | fuel + 1 =>
    let broken (e : Fault) : Reading :=
      (.mapping tag ((.unread e, .unread e) :: done).reverse start, s.stop e)
    match s.peek with
    | .error e => broken e
    | .ok t =>
      match t.kind with
      | .key =>
        let (key, s) := readUnless fuel endsEntry true true s.skip
        let (v, s) := readValue fuel endsEntry true s
        readBlockMapping fuel tag start opening ((key, v) :: done) s
      | .blockEnd => (.mapping tag done.reverse start, s.skip)
      | _ => broken ⟨.noKey, t.mark, some (.blockMapping, opening)⟩

/-- Reads the elements of a sequence in brackets up to its end.  An element may be a mapping with one
entry; where its key is left out, so is the mark behind it. -/
def readFlowSequence (fuel : Nat) (tag : Option NodeTag) (start opening : Mark) (done : List Node)
    (s : Supply) : Reading :=
  match fuel with
  | 0 => (.blank {}, s)
  | fuel + 1 =>
    let broken (e : Fault) : Reading := (.sequence tag (.unread e :: done).reverse start, s.stop e)
    match flowNext .flowSequenceEnd .noSequenceEnd (.flowSequence, opening) done.isEmpty s with
    | .error e => broken e
    | .ok (t, s) =>
      match t.kind with
      | .flowSequenceEnd => (.sequence tag done.reverse start, s.skip)
      | .key =>
        let isEnd (k : TokenKind) : Bool := k == .flowEntry || k == .flowSequenceEnd
        let leftOut : Bool := match s.skip.peek with
          | .ok t => t.kind == .value || isEnd t.kind
          | .error _ => false
        let (key, s) :=
          if leftOut then (.blank t.mark, s.skip.skip) else readUnless fuel isEnd false false s.skip
        let (v, s) := readValue fuel isEnd false s
        readFlowSequence fuel tag start opening (.mapping none [(key, v)] t.mark :: done) s
      | _ =>
        let (n, s) := readNode fuel false false s
        readFlowSequence fuel tag start opening (n :: done) s

/-- Reads the entries of a mapping in braces up to its end. -/
def readFlowMapping (fuel : Nat) (tag : Option NodeTag) (start opening : Mark)
    (done : List (Node × Node)) (s : Supply) : Reading :=
  match fuel with
  | 0 => (.blank {}, s)
  | fuel + 1 =>
    let broken (e : Fault) : Reading :=
      (.mapping tag ((.unread e, .unread e) :: done).reverse start, s.stop e)
    match flowNext .flowMappingEnd .noMappingEnd (.flowMapping, opening) done.isEmpty s with
    | .error e => broken e
    | .ok (t, s) =>
      let isEnd (k : TokenKind) : Bool := k == .flowEntry || k == .flowMappingEnd
      match t.kind with
      | .flowMappingEnd => (.mapping tag done.reverse start, s.skip)
      | .key =>
        let (key, s) := readUnless fuel (fun k => k == .value || isEnd k) false false s.skip
        let (v, s) := readValue fuel isEnd false s
        readFlowMapping fuel tag start opening ((key, v) :: done) s
      | _ =>
        let (key, s) := readNode fuel false false s
        readFlowMapping fuel tag start opening ((key, .blank t.mark) :: done) s

end

/-! ## Documents -/

/-- The first document of a text. -/
structure Document where
  /-- There is none if nothing is written but comments. -/
  root : Option Node
  anchored : List (Nat × Node) := []
  /-- Why the end of the document cannot be read, if it cannot. -/
  fault : Option Fault := none
  /-- Whether something follows it. -/
  isFollowed : Bool := false

/-- Reads the directives before a document; `version` says whether its version has been met. -/
def readDirectives : Nat → (version : Bool) → Supply → Except Fault Supply
  | 0, _, s => .ok s
  | fuel + 1, version, s => do
    let t ← s.peek
    match t.kind with
    | .directive (.version major minor) =>
      if version then throw ⟨.repeatedVersion, t.mark, none⟩
      if major = 1 ∧ (minor = 1 ∨ minor = 2) then readDirectives fuel true s.skip
      else throw ⟨.otherVersion, t.mark, none⟩
    | .directive (.handle name meaning) =>
      if (s.handles.lookup name).isSome then throw ⟨.repeatedHandle, t.mark, none⟩
      readDirectives fuel version { s.skip with handles := (name, meaning) :: s.handles }
    | _ => return s

/-- Reads the directives of a document and the mark behind them. -/
def readOpening (s : Supply) : Except Fault Supply := do
  let s ← readDirectives (s.rest.length + 1) false s
  let t ← s.peek
  if t.kind = .documentStart then return s.skip else throw ⟨.noDocumentStart, t.mark, none⟩

/-- Whether a token is outside of documents. -/
def isOutside : TokenKind → Bool
  | .directive _ | .documentStart | .documentEnd | .streamEnd => true
  | _ => false

/-- A bound on the calls of readers for what is left. -/
def Supply.fuel (s : Supply) : Nat := 4 * s.rest.length + 4

/-- Reads the end of a document behind its root. -/
def readClosing (root : Node) (s : Supply) : Document :=
  match s.peek with
  | .error e => { root, anchored := s.anchored, fault := some e }
  | .ok _ =>
    let isEnd (t : YamlToken) : Bool := t.kind == .documentEnd
    let isFollowed := match { s with rest := s.rest.dropWhile isEnd }.peek with
      | .ok t => t.kind != .streamEnd
      | .error _ => true
    { root, anchored := s.anchored, isFollowed }

/-- Reads the first document of a text. -/
def readDocument (s : Supply) : Document :=
  match s.peek with
  | .error e => { root := some (.unread e) }
  | .ok t =>
    match t.kind with
    | .streamEnd => { root := none }
    | .directive _ | .documentStart =>
      match readOpening s with
      | .error e => { root := some (.unread e) }
      | .ok s =>
        let (root, s) := readUnless s.fuel isOutside true false s
        readClosing root s
    | _ =>
      let (root, s) := readNode s.fuel true false s
      readClosing root s

end ExprGateway.Yaml
