/-!
# Requests and responses

What the gateway is asked over HTTP, and what it answers.
-/

namespace ExprGateway.Http

/-- A request as it arrives. -/
structure Request where
  method : String
  /-- The path, or a whole address with a path in it, perhaps with a query behind. -/
  target : String
  headers : List (String × String)
  body : List UInt8

/-- The response to a request; its body is text. -/
structure Response where
  status : Nat
  contentType : Option String
  /-- The methods of the path, where the one that was asked for is not among them. -/
  allow : Option String
  body : String
deriving DecidableEq, Repr

/-- The type of all bodies that are written. -/
def plainText : String := "text/plain; charset=utf-8"

/-- A response with a text. -/
def Response.text (status : Nat) (body : String) : Response := ⟨status, some plainText, none, body⟩

/-- A response without a body. -/
def Response.bare (status : Nat) (allow : Option String) : Response := ⟨status, none, allow, ""⟩

/-! ## Paths -/

/-- What stands behind the scheme of a whole address and its two slashes. -/
def afterScheme? (target : List Char) : Option (List Char) :=
  let (_, rest) := target.span fun c => c.isAlphanum || c == '+' || c == '-' || c == '.'
  match rest with
  | ':' :: '/' :: '/' :: rest => some rest
  | _ => none

/-- Whether a character ends a path. -/
def endsPath (c : Char) : Bool := c == '?' || c == '#'

/-- The path of a request, without a query or a fragment.  Where a whole address has none it is `/`; a
host alone has no path. -/
def Request.path (r : Request) : String :=
  let target := r.target.toList
  if target.head? = some '/' ∨ target = ['*'] then
    String.ofList (target.takeWhile fun c => !endsPath c)
  else match afterScheme? target with
    | none => ""
    | some rest =>
      let path := (rest.dropWhile fun c => c != '/' && !endsPath c).takeWhile fun c => !endsPath c
      if path.isEmpty then "/" else String.ofList path

/-! ## Fields -/

/-- The value of the first header of a name, which is written in lower case. -/
def Request.header? (r : Request) (name : String) : Option String :=
  (r.headers.find? fun h => h.1.toLower == name).map (·.2)

end ExprGateway.Http
