import ExprGateway.Net.SocketAddress
import ExprGateway.Url.Name

/-!
# Hosts

The host of an address is a group address in brackets, four numbers, or a name.  A name is decoded from
percent signs first.  If its last label is a number, the whole is an address of four numbers, of which
the last may fill up those that are missing.
-/

namespace ExprGateway.Url

/-- Why an address is refused. -/
inductive Fault where
  | relative
  | emptyHost
  | badPort
  | badV6
  | badV4
  | badName
  | badCharacter
deriving DecidableEq, Repr

/-- The text of a refusal. -/
def Fault.message : Fault → String
  | relative => "relative URL without a base"
  | emptyHost => "empty host"
  | badPort => "invalid port number"
  | badV6 => "invalid IPv6 address"
  | badV4 => "invalid IPv4 address"
  | badName => "invalid international domain name"
  | badCharacter => "invalid domain character"

/-! ## Numbers -/

/-- A number of an address: hexadecimal behind `0x`, octal behind `0`, else decimal.  One that is too
large is cut to the least such number. -/
def hostNumber? (cs : List Char) : Option Nat :=
  let (base, digits) := match cs with
    | '0' :: 'x' :: rest | '0' :: 'X' :: rest => (16, rest)
    | '0' :: c :: rest => (8, c :: rest)
    | cs => (10, cs)
  if cs.isEmpty then none
  else (Digits.number? base digits).map (min (1 <<< 32))

/-- Labels without the empty one at the end. -/
def withoutRoot (labels : List (List Char)) : List (List Char) :=
  if labels.getLast? = some [] then labels.dropLast else labels

/-- Whether a name has to be an address of numbers. -/
def endsInNumber (labels : List (List Char)) : Bool :=
  match (withoutRoot labels).getLast? with
  | none => false
  | some last => (!last.isEmpty && last.all Char.isDigit) || (hostNumber? last).isSome

/-- Whether numbers make an address: the last one takes what is left of the four bytes. -/
def isV4 (labels : List (List Char)) : Bool :=
  match (withoutRoot labels).mapM hostNumber? with
  | none => false
  | some numbers =>
    numbers.length ≤ 4 && numbers.dropLast.all (· ≤ 255) &&
      (numbers.getLast?.getD 0) < 1 <<< (8 * (4 - numbers.dropLast.length))

/-! ## Names -/

/-- The bytes of a text, percent signs with two hexadecimal digits decoded. -/
def percentDecode : List UInt8 → List UInt8
  | [] => []
  | b :: rest =>
    if b = 0x25 then
      match rest with
      | h :: l :: tail =>
        match Digits.number? 16 [Char.ofNat h.toNat, Char.ofNat l.toNat] with
        | some n => UInt8.ofNat n :: percentDecode tail
        | none => b :: percentDecode (h :: l :: tail)
      | rest => b :: percentDecode rest
    else b :: percentDecode rest
termination_by bytes => bytes.length

/-- The labels of a host, folded. -/
def labels? (host : List Char) : Option (List (List Char)) := do
  let bytes := percentDecode (String.ofList host).toUTF8.toList
  let name ← String.fromUTF8? ⟨bytes.toArray⟩
  Name.labels? name.toList

/-! ## Hosts -/

/-- Checks a host in brackets. -/
def checkV6 (host : List Char) : Except Fault Unit :=
  match host.getLast?, HostAddress.readV6? (host.drop 1).dropLast with
  | some ']', some (_, []) => .ok ()
  | _, _ => .error .badV6

/-- Checks a host of a scheme that has names for hosts. -/
def checkHost (host : List Char) : Except Fault Unit :=
  if host.head? = some '[' then checkV6 host
  else match labels? host with
    | none => .error .badName
    | some labels =>
      if labels = [[]] then .error .emptyHost
      else if endsInNumber labels && !isV4 labels then .error .badV4
      else .ok ()

/-- Checks a host of any other scheme. -/
def checkOpaqueHost (host : List Char) : Except Fault Unit :=
  if host.head? = some '[' then checkV6 host
  else if host.any fun c => "\x00\t\n\r #/:<>?@[\\]^|".toList.contains c then .error .badCharacter
  else .ok ()

end ExprGateway.Url
