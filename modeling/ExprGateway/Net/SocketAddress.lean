import ExprGateway.Number.Digits

/-!
# Socket addresses

An address to listen on: four numbers and a port, or eight groups in brackets and a port.

* `SocketAddress.read?` reads `1.2.3.4:80` and `[::1]:80`.  Numbers of an address have no zeros in
  front; in the second form one run of zero groups may be left out, the last two groups may be written
  as four numbers, and a scope may follow after `%`.
* `SocketAddress.text` writes an address: groups in lower case, the longest run of two or more zero
  groups left out, the first of those that are equally long.
-/

namespace ExprGateway

/-- The address of a host. -/
inductive HostAddress where
  | v4 (numbers : List Nat)
  | v6 (groups : List Nat)
deriving DecidableEq, Repr

/-- An address with a port; the scope is zero unless it is given. -/
structure SocketAddress where
  host : HostAddress
  scope : Nat := 0
  port : Nat
deriving DecidableEq, Repr

namespace HostAddress

/-! ## Reading -/

/-- Reads a number below `bound`, of at most `places` digits if that is given. -/
def readNumber? (base bound : Nat) (places : Option Nat) (cs : List Char) :
    Option (Nat × List Char) :=
  let (digits, rest) := cs.span fun c => (Digits.value? base c).isSome
  let n := (Digits.number? base digits).getD 0
  let fits := match places with
    | some p => digits.length ≤ p
    | none => true
  if digits.isEmpty || !fits || bound ≤ n then none else some (n, rest)

/-- Reads a given character. -/
def readChar? (c : Char) : List Char → Option (List Char)
  | d :: rest => if c = d then some rest else none
  | [] => none

/-- Reads one of the numbers of an address. -/
def readOctet? (cs : List Char) : Option (Nat × List Char) := do
  let (n, rest) ← readNumber? 10 256 (some 3) cs
  if cs.head? = some '0' ∧ cs.length ≠ rest.length + 1 then none else some (n, rest)

/-- Reads four numbers. -/
def readV4? (cs : List Char) : Option (List Nat × List Char) := do
  let (a, rest) ← readOctet? cs
  let (b, rest) ← readOctet? (← readChar? '.' rest)
  let (c, rest) ← readOctet? (← readChar? '.' rest)
  let (d, rest) ← readOctet? (← readChar? '.' rest)
  return ([a, b, c, d], rest)

/-- Two groups from four numbers. -/
def pairUp : List Nat → List Nat
  | a :: b :: rest => (a * 256 + b) :: pairUp rest
  | _ => []

/-- Reads up to `limit` groups with colons between them, and says whether the last two were written
as four numbers. -/
def readGroups (limit : Nat) (isFirst : Bool) (cs : List Char) : List Nat × Bool × List Char :=
  match limit with
  | 0 => ([], false, cs)
  | limit + 1 =>
    match if isFirst then some cs else readChar? ':' cs with
    | none => ([], false, cs)
    | some start =>
      match if 1 ≤ limit then readV4? start else none with
      | some (numbers, rest) => (pairUp numbers, true, rest)
      | none =>
        match readNumber? 16 65536 (some 4) start with
        | none => ([], false, cs)
        | some (group, rest) =>
          let (groups, mixed, rest) := readGroups limit false rest
          (group :: groups, mixed, rest)

/-- Reads eight groups, perhaps with a run of zeros left out. -/
def readV6? (cs : List Char) : Option (List Nat × List Char) :=
  let (front, mixed, rest) := readGroups 8 true cs
  if front.length = 8 then some (front, rest)
  else if mixed then none
  else match rest with
    | ':' :: ':' :: rest =>
      let (back, _, rest) := readGroups (8 - (front.length + 1)) true rest
      some (front ++ List.replicate (8 - front.length - back.length) 0 ++ back, rest)
    | _ => none

/-! ## Writing -/

/-- The length of the run of zeros at the start. -/
def zeroRun (groups : List Nat) : Nat := (groups.takeWhile (· == 0)).length

/-- The start and the length of the longest run of zeros among the groups from `offset` on; of equal ones
the first. -/
def longestRun (offset : Nat) : List Nat → Nat × Nat
  | [] => (offset, 0)
  | group :: rest =>
    let (start, length) := longestRun (offset + 1) rest
    let here := zeroRun (group :: rest)
    if length ≤ here then (offset, here) else (start, length)

/-- Groups with colons between them. -/
def groupsText (groups : List Nat) : String :=
  ":".intercalate (groups.map fun group => String.ofList (Nat.toDigits 16 group))

/-- Numbers with points between them. -/
def numbersText (numbers : List Nat) : String := ".".intercalate (numbers.map toString)

def text : HostAddress → String
  | v4 numbers => numbersText numbers
  | v6 [0, 0, 0, 0, 0, 0xffff, high, low] =>
    "::ffff:" ++ numbersText [high / 256, high % 256, low / 256, low % 256]
  | v6 groups =>
    let (start, length) := longestRun 0 groups
    if length < 2 then groupsText groups
    else groupsText (groups.take start) ++ "::" ++ groupsText (groups.drop (start + length))

end HostAddress

namespace SocketAddress

open HostAddress

/-- Reads a port up to the end. -/
def readPort? (cs : List Char) : Option Nat := do
  let (port, rest) ← readNumber? 10 65536 none (← readChar? ':' cs)
  if rest.isEmpty then some port else none

/-- Reads an address with a port. -/
def read? (s : String) : Option SocketAddress :=
  match s.toList with
  | '[' :: cs => do
    let (groups, rest) ← readV6? cs
    let (scope, rest) ← match rest with
      | '%' :: rest => readNumber? 10 (1 <<< 32) none rest
      | rest => some (0, rest)
    let port ← readPort? (← readChar? ']' rest)
    return ⟨.v6 groups, scope, port⟩
  | cs => do
    let (numbers, rest) ← readV4? cs
    let port ← readPort? rest
    return ⟨.v4 numbers, 0, port⟩

def text (a : SocketAddress) : String :=
  match a.host with
  | .v4 _ => s!"{a.host.text}:{a.port}"
  | .v6 _ =>
    let scope := if a.scope = 0 then "" else s!"%{a.scope}"
    s!"[{a.host.text}{scope}]:{a.port}"

end SocketAddress

end ExprGateway
