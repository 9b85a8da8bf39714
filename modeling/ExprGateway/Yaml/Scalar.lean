import ExprGateway.Number.Digits
import ExprGateway.Yaml.Cursor

/-!
# Reading scalars

The four written forms of a scalar: plain, in single or double quotes, and as a block, either literal
or folded.  All of them may go over several lines; a single line end inside a plain, quoted or folded
scalar is a blank, and of several the first is dropped.
-/

namespace ExprGateway.Yaml

/-- Line ends between two parts of a scalar: the first, and those after it. -/
def foldBreaks (first others : List Char) : List Char :=
  if first.head? = some '\n' then (if others.isEmpty then [' '] else others) else first ++ others

/-- The blanks between two parts of a scalar. -/
structure Gap where
  /-- Blanks inside a line; they count if there is no line end. -/
  spaces : List Char := []
  /-- Whether there was a line end. -/
  hasBreak : Bool := false
  first : List Char := []
  others : List Char := []

/-- What a gap leaves in the text. -/
def Gap.text (g : Gap) : List Char := if g.hasBreak then foldBreaks g.first g.others else g.spaces

/-- Takes a blank or a line end into a gap. -/
def Gap.take (g : Gap) (k : Cursor) : Gap × Cursor :=
  if k.isSpaceNext then
    (if g.hasBreak then g else { g with spaces := g.spaces ++ k.rest.take 1 }, k.skip)
  else
    let (text, k) := k.takeBreak
    if g.hasBreak then ({ g with others := g.others ++ text }, k)
    else ({ g with spaces := [], hasBreak := true, first := text }, k)

/-- Takes all blanks and line ends. -/
def Gap.takeAll : Nat → Gap → Cursor → Gap × Cursor
  | 0, g, k => (g, k)
  | fuel + 1, g, k =>
    if k.isSpaceNext || k.isBreakNext then
      let (g, k) := g.take k
      takeAll fuel g k
    else (g, k)

/-! ## Plain scalars -/

/-- Whether a character ends a plain scalar inside brackets. -/
def isFlowIndicator (c : Char) : Bool :=
  c == ',' || c == '[' || c == ']' || c == '\x7b' || c == '\x7d'

/-- Takes the characters of a plain scalar up to a blank or an indicator. -/
def plainRun (inFlow : Bool) : List Char → List Char
  | [] => []
  | c :: rest =>
    if isSpace c || isBreak c then []
    else if c = ':' ∧ rest.head?.all (fun d => isSpace d || isBreak d) then []
    else if inFlow && isFlowIndicator c then []
    else if inFlow && c = ':' && rest.head?.any (fun d => isFlowIndicator d || d == '?') then []
    else c :: plainRun inFlow rest

/-- Whether inside brackets a colon stands before an indicator. -/
def isStrayColon (inFlow : Bool) (k : Cursor) : Bool :=
  inFlow && k.at? ':' && k.rest[1]?.any fun d => isFlowIndicator d || d == '?'

/-- Takes blanks and line ends before the next part of a plain scalar; a tab may not stand where the
indentation is too small. -/
def plainGap (start : Mark) (indent : Int) : Nat → Gap → Cursor → Except Fault (Gap × Cursor)
  | 0, g, k => .ok (g, k)
  | fuel + 1, g, k =>
    if k.isSpaceNext || k.isBreakNext then
      if g.hasBreak && k.mark.column < indent && k.at? '\t' then
        .error ⟨.tabInPlainScalar, k.mark, some (.plainScalar, start)⟩
      else
        let (g, k) := g.take k
        plainGap start indent fuel g k
    else .ok (g, k)

/-- A part of a scalar behind what was read of it, of which the last character is the first. -/
def behind (done part : List Char) : List Char := part.reverseAux done

/-- Reads a plain scalar part by part; `done` is what was read, the last character first.  The result says
whether it ended behind a line end. -/
def plainParts (start : Mark) (inFlow : Bool) (indent : Int) :
    Nat → Gap → List Char → Cursor → Except Fault (List Char × Bool × Cursor)
  | 0, g, done, k => .ok (done.reverse, g.hasBreak, k)
  | fuel + 1, g, done, k =>
    if k.isDocumentMark || k.at? '#' then .ok (done.reverse, g.hasBreak, k)
    else
      let run := plainRun inFlow k.rest
      let done := if run.isEmpty then done else behind (behind done g.text) run
      let g := if run.isEmpty then g else {}
      let k := k.skip run.length
      if isStrayColon inFlow k then .error ⟨.colon, k.mark, some (.plainScalar, start)⟩
      else if !(k.isSpaceNext || k.isBreakNext) then .ok (done.reverse, g.hasBreak, k)
      else
        match plainGap start indent (k.left + 1) g k with
        | .error e => .error e
        | .ok (g, k) =>
          if !inFlow && k.mark.column < indent then .ok (done.reverse, g.hasBreak, k)
          else plainParts start inFlow indent fuel g done k

/-- Reads a plain scalar. -/
def readPlain (inFlow : Bool) (indent : Int) (k : Cursor) :
    Except Fault (List Char × Bool × Cursor) :=
  plainParts k.mark inFlow indent (k.left + 1) {} [] k

/-! ## Quoted scalars -/

/-- The characters of an escape with a letter. -/
def escaped? : Char → Option (List Char)
  | '0' => some ['\x00']
  | 'a' => some ['\x07']
  | 'b' => some ['\x08']
  | 't' | '\t' => some ['\t']
  | 'n' => some ['\n']
  | 'v' => some ['\x0b']
  | 'f' => some ['\x0c']
  | 'r' => some ['\r']
  | 'e' => some ['\x1b']
  | ' ' => some [' ']
  | '"' => some ['"']
  | '/' => some ['/']
  | '\\' => some ['\\']
  | 'N' => some ['\u0085']
  | '_' => some ['\u00a0']
  | 'L' => some ['\u2028']
  | 'P' => some ['\u2029']
  | _ => none

/-- How many hexadecimal digits an escape has. -/
def escapeWidth? : Char → Option Nat
  | 'x' => some 2
  | 'u' => some 4
  | 'U' => some 8
  | _ => none

/-- Reads an escape behind its backslash. -/
def readEscape (start : Mark) (k : Cursor) : Except Fault (List Char × Cursor) :=
  let fail (p : Problem) : Except Fault (List Char × Cursor) :=
    .error ⟨p, k.mark, some (.escape, start)⟩
  match k.rest[1]? with
  | none => fail .unknownEscape
  | some c =>
    match escaped? c, escapeWidth? c with
    | some text, _ => .ok (text, k.skip 2)
    | none, some width =>
      let digits := (k.rest.drop 2).take width
      match if digits.length = width then Digits.number? 16 digits else none with
      | none => .error ⟨.noHexNumber, (k.skip 2).mark, some (.escape, start)⟩
      | some n =>
        if n < 0xd800 ∨ (0xdfff < n ∧ n < 0x110000) then .ok ([Char.ofNat n], k.skip (2 + width))
        else .error ⟨.noCharacter, (k.skip 2).mark, some (.escape, start)⟩
    | none, none => fail .unknownEscape

/-- Takes the characters of a quoted scalar up to a blank or the closing quote, behind what was read of
it, the last character first.  The result says whether it ended behind an escaped line end. -/
def quotedRun (start : Mark) (quote : Char) :
    Nat → List Char → Cursor → Except Fault (List Char × Bool × Cursor)
  | 0, done, k => .ok (done, false, k)
  | fuel + 1, done, k =>
    if k.isGapAt 0 then .ok (done, false, k)
    else if quote = '\'' ∧ k.at? '\'' ∧ k.isAt '\'' 1 then
      quotedRun start quote fuel ('\'' :: done) (k.skip 2)
    else if k.at? quote then .ok (done, false, k)
    else if quote = '"' ∧ k.at? '\\' then
      if k.skip.isBreakNext then .ok (done, true, k.skip.takeBreak.2)
      else match readEscape start k with
        | .error e => .error e
        | .ok (cs, k) => quotedRun start quote fuel (behind done cs) k
    else quotedRun start quote fuel (behind done (k.rest.take 1)) k.skip

/-- Reads a quoted scalar part by part, up to the closing quote. -/
def quotedParts (start : Mark) (quote : Char) :
    Nat → List Char → Cursor → Except Fault (List Char × Cursor)
  | 0, done, k => .ok (done.reverse, k)
  | fuel + 1, done, k =>
    if k.isDocumentMark then .error ⟨.documentIndicator, k.mark, some (.quotedScalar, start)⟩
    else if k.rest.isEmpty then .error ⟨.endOfStream, k.mark, some (.quotedScalar, start)⟩
    else match quotedRun start quote (k.left + 1) done k with
      | .error e => .error e
      | .ok (done, brokeLine, k) =>
        if k.at? quote then .ok (done.reverse, k.skip)
        else
          let (g, k) := Gap.takeAll (k.left + 1) { hasBreak := brokeLine } k
          quotedParts start quote fuel (behind done g.text) k

/-- Reads a quoted scalar. -/
def readQuoted (quote : Char) (k : Cursor) : Except Fault (List Char × Cursor) :=
  quotedParts k.mark quote (k.left + 2) [] k.skip

/-! ## Block scalars -/

/-- What becomes of the line ends at the end of a block. -/
inductive Chomping where
  | strip
  | clip
  | keep
deriving DecidableEq, Repr

/-- The header of a block: what becomes of its end, and its indentation if that is given. -/
structure BlockHeader where
  chomping : Chomping := .clip
  increment : Option Nat := none

/-- Reads the sign of a header. -/
def readChomping (h : BlockHeader) (k : Cursor) : BlockHeader × Cursor :=
  if k.at? '+' then ({ h with chomping := .keep }, k.skip)
  else if k.at? '-' then ({ h with chomping := .strip }, k.skip)
  else (h, k)

/-- Reads the digit of a header. -/
def readIncrement (start : Mark) (h : BlockHeader) (k : Cursor) :
    Except Fault (BlockHeader × Cursor) :=
  match k.rest.head? with
  | some c =>
    if c = '0' then .error ⟨.zeroIndentation, k.mark, some (.blockScalar, start)⟩
    else if c.isDigit then .ok ({ h with increment := some (c.toNat - '0'.toNat) }, k.skip)
    else .ok (h, k)
  | none => .ok (h, k)

/-- Reads a header, in which the sign and the digit stand in any order, to the end of its line. -/
def readHeader (start : Mark) (k : Cursor) : Except Fault (BlockHeader × Cursor) := do
  let (h, k) ←
    if k.at? '+' || k.at? '-' then
      let (h, k) := readChomping {} k
      readIncrement start h k
    else do
      let (h, k) ← readIncrement start {} k
      pure (if h.increment.isSome then readChomping h k else (h, k))
  let k := (k.takeWhile isSpace).2
  let k := if k.at? '#' then k.toLineEnd else k
  if k.isLineEnd then return (h, k.takeBreak.2)
  else throw ⟨.noLineEnd, k.mark, some (.blockScalar, start)⟩

/-- Takes line ends and indentation before a line of a block.  The result has the line ends and the
largest indentation seen. -/
def blockBreaks (start : Mark) (indent : Option Nat) :
    Nat → Nat → List Char → Cursor → Except Fault (List Char × Nat × Cursor)
  | 0, most, text, k => .ok (text, most, k)
  | fuel + 1, most, text, k =>
    let wanted := match indent with
      | some n => n - k.mark.column
      | none => k.left
    let k := k.skip (min wanted (k.rest.takeWhile (· == ' ')).length)
    let most := max most k.mark.column
    if indent.all (k.mark.column < ·) && k.at? '\t' then
      .error ⟨.tabForIndentation, k.mark, some (.blockScalar, start)⟩
    else if k.isBreakNext then
      let (b, k) := k.takeBreak
      blockBreaks start indent fuel most (text ++ b) k
    else .ok (text, most, k)

/-- Reads the lines of a block.  `last` is the end of the line before, `breaks` the empty lines after
it, `done` what was read before that, the last character first, and `wasBlank` says whether that line
started with a blank. -/
def blockLines (start : Mark) (literal : Bool) (indent : Nat) :
    Nat → (wasBlank : Bool) → (last breaks done : List Char) → Cursor →
      Except Fault (List Char × List Char × List Char × Cursor)
  | 0, _, last, breaks, done, k => .ok (done.reverse, last, breaks, k)
  | fuel + 1, wasBlank, last, breaks, done, k =>
    if k.mark.column = indent ∧ !k.rest.isEmpty then
      let isBlank := k.isSpaceNext
      let folds := !literal && last.head? == some '\n' && !wasBlank && !isBlank
      let joint := if folds then (if breaks.isEmpty then [' '] else []) else last
      let (line, k) := k.takeWhile fun c => !isBreak c
      let (last, k) := k.takeBreak
      match blockBreaks start (some indent) (k.left + 1) 0 [] k with
      | .error e => .error e
      | .ok (others, _, k) =>
        blockLines start literal indent fuel isBlank last others
          (behind (behind (behind done joint) breaks) line) k
    else .ok (done.reverse, last, breaks, k)

/-- Reads a block, whose surroundings are indented by `parent`. -/
def readBlock (literal : Bool) (parent : Int) (k : Cursor) : Except Fault (List Char × Cursor) := do
  let start := k.mark
  let (h, k) ← readHeader start k.skip
  let given := h.increment.map fun n => if 0 ≤ parent then parent.toNat + n else n
  let (breaks, most, k) ← blockBreaks start given (k.left + 1) 0 [] k
  let indent := given.getD (max most (max (parent + 1).toNat 1))
  let (text, last, breaks, k) ←
    blockLines start literal indent (k.left + 1) false [] breaks [] k
  let text := match h.chomping with
    | .strip => text
    | .clip => text ++ last
    | .keep => text ++ last ++ breaks
  return (text, k)

end ExprGateway.Yaml
