import ExprGateway.Url.Basic

/-!
# Where an address leads

What is needed to send a request to an address: the host, the port, and the path on it.  Only addresses
without encryption can be reached.
-/

namespace ExprGateway.Url

/-- The place of a service. -/
structure Place where
  /-- The name or the numbers of the host, without brackets. -/
  host : String
  port : Nat
  /-- The host and the port as requests name them. -/
  authority : String
  /-- The path with its query. -/
  path : String
deriving DecidableEq, Repr

/-- A character of a path as it is sent: blanks and what is not ASCII as percent signs and bytes. -/
def pathChar (c : Char) : List Char :=
  let hex (b : UInt8) : List Char :=
    let digits := (Nat.toDigits 16 b.toNat).map Char.toUpper
    '%' :: (if digits.length < 2 then '0' :: digits else digits)
  if 0x20 < c.toNat ∧ c.toNat < 0x7f ∧ c ≠ '"' ∧ c ≠ '<' ∧ c ≠ '>' then [c]
  else c.toString.toUTF8.toList.flatMap hex

/-- The path of what follows the host. -/
def pathOf (tail : List Char) : String :=
  let (path, query) := (tail.takeWhile (· != '#')).span (· != '?')
  let path := path.map fun c => if c = '\\' then '/' else c
  String.ofList (((if path.isEmpty then ['/'] else path) ++ query).flatMap pathChar)

/-- The port of the scheme without encryption. -/
def defaultPort : Nat := 80

/-- Where an address leads, if it can be reached. -/
def place? (u : Url) : Option Place := do
  let (scheme, rest) ← splitScheme? (clean u.text.toList)
  if scheme ≠ "http" then none
  let behind := rest.dropWhile fun c => c == '/' || c == '\\'
  let (authority, tail) := behind.span fun c => !endsAuthority .hosted c
  let (host, port) := splitPort false (splitUser authority).2
  let number := (Digits.word? (port.drop 1)).getD defaultPort
  let host := String.ofList (host.map Char.toLower)
  return {
    host := String.ofList (host.toList.filter fun c => c != '[' && c != ']')
    port := number
    authority := if number = defaultPort then host else s!"{host}:{number}"
    path := pathOf tail }

end ExprGateway.Url
