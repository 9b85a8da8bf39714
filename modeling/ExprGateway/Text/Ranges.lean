import ExprGateway.Number.Digits

/-!
# Sets and tables of characters

A property of characters is a set of ranges of code points.  A set is written down as its ranges in
order, in hexadecimal, a range of several code points with a hyphen between the first and the last.
`CodeSet.read` reads this and `CodeSet.contains` looks a character up.

Tables are searched by halving: `lastAtMost?` is the last entry whose key is not beyond a number.
-/

namespace ExprGateway

/-! ## Ordered tables -/

/-- Halves the stretch of a table between entries that are not beyond a number and entries that are. -/
def halve {α : Type} (key : α → Nat) (table : Array α) (n low high : Nat) : Nat :=
  if h : low < high then
    let middle := (low + high) / 2
    if table[middle]?.any (key · ≤ n) then halve key table n (middle + 1) high
    else halve key table n low middle
  else low
termination_by high - low

/-- Of a table in the order of its keys the last entry whose key is not beyond a number. -/
def lastAtMost? {α : Type} (key : α → Nat) (table : Array α) (n : Nat) : Option α :=
  match halve key table n 0 table.size with
  | 0 => none
  | place + 1 => table[place]?

/-- The entry of a table for a key. -/
def entryFor? {α : Type} (table : Array (Nat × α)) (n : Nat) : Option α :=
  match lastAtMost? (·.1) table n with
  | some (key, value) => if key = n then some value else none
  | none => none

/-! ## Written tables -/

/-- The items of lines, with blanks between them. -/
def itemsOf (lines : List String) : List String := lines.flatMap (·.splitOn " ")

/-- A number in hexadecimal. -/
def hexNumber (s : String) : Nat := (Digits.number? 16 s.toList).getD 0

/-- The character with a code point in hexadecimal. -/
def hexChar (s : String) : Char := Char.ofNat (hexNumber s)

/-! ## Sets -/

/-- Ranges of code points in order, ends included. -/
structure CodeSet where
  ranges : Array (Nat × Nat)

namespace CodeSet

/-- A range as it is written. -/
def readRange (item : String) : Nat × Nat :=
  match item.splitOn "-" with
  | [first, last] => (hexNumber first, hexNumber last)
  | _ => (hexNumber item, hexNumber item)

/-- The set that lines write. -/
def read (lines : List String) : CodeSet := ⟨((itemsOf lines).map readRange).toArray⟩

/-- Whether a character is in a set. -/
def contains (s : CodeSet) (c : Char) : Bool :=
  (lastAtMost? (·.1) s.ranges c.toNat).any fun range => c.toNat ≤ range.2

end CodeSet

end ExprGateway
