import ExprGateway.Url.Host

/-!
# Addresses of services

`Url.read` accepts the absolute addresses that a browser would accept, and says of the others why not.
Only what can be refused is looked at: the scheme, the host and the port.  A path, a query and a
fragment are never refused.

An address keeps its text and is not brought into a normal form: letters of the host, its numbers, the port
of the scheme, dots in the path and a missing slash behind the host stay as they were written.  Where an
address is quoted it has this text (`Http.unsent`), and not the one of its normal form.

Three kinds of schemes differ.  Some have a host in any case, however many slashes there are in front
of it; `file` has one behind two slashes, if at all; any other has one behind two slashes, and its host
is not taken apart.
-/

namespace ExprGateway

/-- An absolute address as it was written, without what `clean` drops of it. -/
structure Url where
  text : String
deriving DecidableEq, Repr

namespace Url

/-- What the scheme says about the host. -/
inductive SchemeKind where
  | hosted
  | file
  | other
deriving DecidableEq, Repr

def SchemeKind.of (scheme : String) : SchemeKind :=
  if scheme ∈ ["http", "https", "ws", "wss", "ftp"] then hosted
  else if scheme = "file" then file
  else other

/-- Whether a backslash is a slash. -/
def SchemeKind.isSpecial (k : SchemeKind) : Bool := k != other

/-! ## Parts -/

/-- Whether a character ends the part with the host. -/
def endsAuthority (k : SchemeKind) (c : Char) : Bool :=
  c == '/' || c == '?' || c == '#' || (c == '\\' && k.isSpecial)

/-- What is read of an address: no surrounding blanks or controls, and no line ends or tabs at all. -/
def clean (cs : List Char) : List Char :=
  let isOuter (c : Char) : Bool := c.toNat ≤ 0x20
  let trimmed := ((cs.dropWhile isOuter).reverse.dropWhile isOuter).reverse
  trimmed.filter fun c => c != '\t' && c != '\n' && c != '\r'

/-- The scheme in lower case, and what follows its colon. -/
def splitScheme? (cs : List Char) : Option (String × List Char) :=
  let (scheme, rest) := cs.span fun c => c.isAlphanum || c == '+' || c == '-' || c == '.'
  match scheme, rest with
  | c :: _, ':' :: rest =>
    if c.isAlpha then some (String.ofList (scheme.map Char.toLower), rest) else none
  | _, _ => none

/-- What stands before the host and what comes from the host on. -/
def splitUser (authority : List Char) : Option (List Char) × List Char :=
  let host := (authority.reverse.takeWhile (· != '@')).reverse
  if authority.contains '@' then
    (some (authority.take (authority.length - host.length - 1)), host)
  else (none, authority)

/-- The host, and what comes from the colon of the port on; a colon inside brackets is none. -/
def splitPort (inBrackets : Bool) : List Char → List Char × List Char
  | [] => ([], [])
  | c :: rest =>
    if c = ':' ∧ !inBrackets then ([], c :: rest)
    else
      let inBrackets := if c = '[' then true else if c = ']' then false else inBrackets
      let (host, port) := splitPort inBrackets rest
      (c :: host, port)

/-! ## Checks -/

/-- Checks a port: digits up to the end, or up to a backslash. -/
def checkPort (cs : List Char) : Except Fault Unit :=
  let digits := cs.takeWhile (· != '\\')
  let value := digits.foldl (fun n c => 10 * n + (c.toNat - '0'.toNat)) 0
  if digits.all Char.isDigit && value ≤ 65535 then .ok () else .error .badPort

/-- Checks what stands between the slashes and the path. -/
def checkAuthority (k : SchemeKind) (cs : List Char) : Except Fault Unit := do
  let (authority, tail) := cs.span fun c => !endsAuthority k c
  let (user, place) := splitUser authority
  let (host, port) := splitPort false place
  if user = some [] ∧ place.isEmpty ∧ !tail.isEmpty then throw .emptyHost
  if k.isSpecial then
    if host.isEmpty then throw .emptyHost
    checkHost host
  else
    checkOpaqueHost host
    if host.isEmpty ∧ !port.isEmpty then throw .emptyHost
  checkPort (port.drop 1)
  if host.isEmpty ∧ user.any (· ∉ [[], [':']]) then throw .emptyHost

/-- Whether a host is the letter of a drive. -/
def isDrive : List Char → Bool
  | [c, d] => c.isAlpha && (d == ':' || d == '|')
  | _ => false

/-- Checks what follows the scheme of a file. -/
def checkFile (cs : List Char) : Except Fault Unit :=
  let isSlash (c : Char) : Bool := c == '/' || c == '\\'
  match cs with
  | a :: b :: rest =>
    if isSlash a && isSlash b then
      let host := rest.takeWhile fun c => !endsAuthority .file c
      if host.isEmpty || isDrive host then .ok () else checkHost host
    else .ok ()
  | _ => .ok ()

/-- Reads an absolute address. -/
def read (text : String) : Except Fault Url := do
  let cleaned := clean text.toList
  match splitScheme? cleaned with
  | none => throw .relative
  | some (scheme, rest) =>
    match SchemeKind.of scheme with
    | .hosted => checkAuthority .hosted (rest.dropWhile fun c => c == '/' || c == '\\')
    | .file => checkFile rest
    | .other =>
      match rest with
      | '/' :: '/' :: rest => checkAuthority .other rest
      | _ => pure ()
    return ⟨String.ofList cleaned⟩

end Url

end ExprGateway
