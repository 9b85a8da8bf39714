import ExprGateway.Http.Exchange
import ExprGateway.Http.Router

/-!
# Messages as bytes

A message is a first line, fields, an empty line and a body.  Where the body ends follows from the
fields: behind an announced number of bytes, behind the last of several chunks, or, in a response
without either, where the connection ends.

Bytes arrive little by little, so a reader says of what has arrived whether it has to wait for more.
One connection carries one request and its response.
-/

namespace ExprGateway.Http

/-- What can be said of a message when some of it has arrived. -/
inductive Arrival (α : Type) where
  | waiting
  | garbled
  | arrived (message : α)

/-! ## Heads -/

/-- The bytes of a text. -/
def bytesOf (s : String) : List UInt8 := s.toUTF8.toList

/-- A line without its end, and what follows it. -/
def takeLine? (bytes : List UInt8) : Option (List UInt8 × List UInt8) :=
  let (line, rest) := bytes.span (· != 10)
  if rest.isEmpty then none
  else some (if line.getLast? = some 13 then line.dropLast else line, rest.drop 1)

/-- The lines up to an empty one, and what follows that. -/
def takeHead? : Nat → List UInt8 → Option (List String × List UInt8)
  | 0, _ => none
  | fuel + 1, bytes => do
    let (line, rest) ← takeLine? bytes
    if line.isEmpty then return ([], rest)
    let (lines, rest) ← takeHead? fuel rest
    return (Utf8.decode line :: lines, rest)

/-- A field of a head: its name in lower case, and its value. -/
def readField? (line : String) : Option (String × String) :=
  let (name, rest) := line.toList.span (· != ':')
  if name.isEmpty || rest.isEmpty then none
  else some (String.ofList (name.map Char.toLower), String.ofList (trimBlanks (rest.drop 1)))

/-- The first line and the fields of a message, and the bytes behind them. -/
def readHead (bytes : List UInt8) : Arrival (String × List (String × String) × List UInt8) :=
  match takeHead? (bytes.length + 1) bytes with
  | none => .waiting
  | some ([], _) => .garbled
  | some (first :: lines, rest) =>
    match lines.mapM readField? with
    | some fields => .arrived (first, fields, rest)
    | none => .garbled

/-! ## Bodies -/

/-- How the end of a body is found. -/
inductive BodyEnd where
  | length (n : Nat)
  | chunks
  | unmarked

/-- What fields say about the end of the body. -/
def BodyEnd.of (fields : List (String × String)) : BodyEnd :=
  match fields.lookup "transfer-encoding", fields.lookup "content-length" with
  | some coding, _ => if coding.toLower = "chunked" then chunks else unmarked
  | none, some n => match Digits.word? n.toList with
    | some n => length n
    | none => unmarked
  | none, none => unmarked

/-- The length of a chunk; what follows a semicolon does not count. -/
def chunkLength? (line : List UInt8) : Option Nat :=
  let digits := line.takeWhile fun b => b != 59 && b != 32
  if digits.isEmpty then none else Digits.number? 16 (digits.map fun b => Char.ofNat b.toNat)

/-- Puts chunks together, behind what was put together before. -/
def readChunks : Nat → List UInt8 → List UInt8 → Arrival (List UInt8)
  | 0, _, _ => .waiting
  | fuel + 1, done, bytes =>
    match takeLine? bytes with
    | none => .waiting
    | some (line, rest) =>
      match chunkLength? line with
      | none => .garbled
      | some 0 => if (takeHead? (rest.length + 1) rest).isSome then .arrived done else .waiting
      | some n =>
        if rest.length < n then .waiting
        else match takeLine? (rest.drop n) with
          | none => .waiting
          | some ([], next) => readChunks fuel (done ++ rest.take n) next
          | some _ => .garbled

/-- The body of a message; `isWhole` says whether nothing more will arrive, `unmarked` what a body is
whose end is not marked. -/
def readBody (fields : List (String × String)) (unmarked : Arrival (List UInt8))
    (bytes : List UInt8) : Arrival (List UInt8) :=
  match BodyEnd.of fields with
  | .length n => if bytes.length < n then .waiting else .arrived (bytes.take n)
  | .chunks => readChunks (bytes.length + 1) [] bytes
  | .unmarked => unmarked

/-! ## Requests to the gateway and its responses -/

/-- The request that has arrived.  One that announces too long a body has no need of it. -/
def readRequest (bytes : List UInt8) : Arrival Request :=
  match readHead bytes with
  | .waiting => .waiting
  | .garbled => .garbled
  | .arrived (first, fields, rest) =>
    match first.splitOn " " with
    | [method, target, version] =>
      let head : Request := ⟨method, target, fields, []⟩
      if !version.startsWith "HTTP/1." then .garbled
      else if head.announcedLength?.any (maxBodyBytes < ·) then .arrived head
      else match readBody fields (.arrived []) rest with
        | .waiting => .waiting
        | .garbled => .garbled
        | .arrived body => .arrived { head with body }
    | _ => .garbled

/-- Lines with their ends, and an empty one behind them. -/
def headBytes (lines : List String) : List UInt8 :=
  bytesOf ("".intercalate (lines.map (· ++ lineEnd)) ++ lineEnd)

/-- A response as bytes. -/
def Response.bytes (r : Response) : List UInt8 :=
  let body := bytesOf r.body
  let lines := [s!"HTTP/1.1 {statusText r.status}"] ++
    (r.contentType.map fun t => s!"content-type: {t}").toList ++
    (r.allow.map fun a => s!"allow: {a}").toList ++
    [s!"content-length: {body.length}", "connection: close"]
  headBytes lines ++ body

/-! ## Requests of the gateway and what comes of them -/

/-- A request to another program as bytes, to a host and a path there. -/
def Outgoing.bytes (o : Outgoing) (host path : String) : List UInt8 :=
  let body := bytesOf o.body
  headBytes [s!"{o.method} {path} HTTP/1.1", s!"content-type: {o.contentType}", "accept: */*",
    s!"host: {host}", s!"content-length: {body.length}", "connection: close"] ++ body

/-- The status of a response. -/
def statusOfLine? (first : String) : Option Nat :=
  match first.splitOn " " with
  | version :: code :: _ =>
    if version.startsWith "HTTP/1." ∧ code.length = 3 then Digits.number? 10 code.toList else none
  | _ => none

/-- What comes of a request when these bytes have arrived; `isWhole` says whether nothing more will. -/
def readExchange (isWhole : Bool) (bytes : List UInt8) : Arrival Exchange :=
  match readHead bytes with
  | .waiting => .waiting
  | .garbled => .garbled
  | .arrived (first, fields, rest) =>
    match statusOfLine? first with
    | none => .garbled
    | some status =>
      match readBody fields (if isWhole then .arrived rest else .waiting) rest with
      | .waiting => .waiting
      | .garbled => .arrived (.broken status false)
      | .arrived body => .arrived (.complete status body)

/-- What comes of a request when no more than these bytes arrive. -/
def cutExchange (timedOut : Bool) (bytes : List UInt8) : Exchange :=
  match readExchange true bytes with
  | .arrived exchange => exchange
  | _ =>
    match readHead bytes with
    | .arrived (first, _, _) => match statusOfLine? first with
      | some status => .broken status timedOut
      | none => .silent timedOut
    | _ => .silent timedOut

end ExprGateway.Http
