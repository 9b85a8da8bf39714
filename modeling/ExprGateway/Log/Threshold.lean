import ExprGateway.Log.Event
import ExprGateway.Number.Digits
import ExprGateway.Text.Blank

/-!
# Thresholds

How severe an event must be to be logged.  A threshold is written as a name in letters of any case, or
as a number from zero (nothing is logged) to five (everything is).

`raise` makes a list of directives let more through: every threshold in it that stands alone is raised
to a least one, and if there is none such, the least one is put in front.  Directives for single
targets stay as they are.
-/

namespace ExprGateway.Log

/-- The least severe level that is logged, if any is. -/
inductive Threshold where
  | off
  | upTo (level : Level)
deriving DecidableEq, Repr

/-- How much is logged up to a level. -/
def Level.rank : Level → Nat
  | error => 1
  | warn => 2
  | info => 3
  | debug => 4
  | trace => 5

namespace Threshold

def all : List Threshold :=
  [off, upTo .error, upTo .warn, upTo .info, upTo .debug, upTo .trace]

/-- How much is logged. -/
def rank : Threshold → Nat
  | off => 0
  | upTo level => level.rank

/-- Whether events of a level are logged. -/
def allows (t : Threshold) (level : Level) : Bool := level.rank ≤ t.rank

/-- Of two thresholds the one that logs more. -/
def max (t u : Threshold) : Threshold := if t.rank < u.rank then u else t

def name : Threshold → String
  | off => "off"
  | upTo .error => "error"
  | upTo .warn => "warn"
  | upTo .info => "info"
  | upTo .debug => "debug"
  | upTo .trace => "trace"

/-- The threshold that a text writes. -/
def read? (s : String) : Option Threshold :=
  match Digits.word? s.toList with
  | some n => all[n]?
  | none => all.find? fun t => t.name == String.ofList (s.toList.map Char.toLower)

/-- The threshold for a number of flags, which is not zero. -/
def ofFlags : Nat → Threshold
  | 0 | 1 => upTo .info
  | 2 => upTo .debug
  | _ => upTo .trace

end Threshold

/-! ## Raising -/

/-- The directives of a list, blanks around them dropped, and none that is empty. -/
def parts (list : String) : List String := ((list.splitOn ",").map trim).filter (· != "")

/-- A directive with its threshold raised, if it is one that stands alone. -/
def raisePart (least : Threshold) (part : String) : String :=
  match Threshold.read? part with
  | some t => (t.max least).name
  | none => part

/-- Directives with their thresholds raised to a least one. -/
def raise (least : Threshold) (directives : List String) : List String :=
  let raised := directives.map (raisePart least)
  if directives.any fun part => (Threshold.read? part).isSome then raised else least.name :: raised

/-- A list of directives, raised as a number of flags says. -/
def withVerbosity (configured : String) (flags : Nat) : String :=
  if flags = 0 then configured
  else ",".intercalate (raise (.ofFlags flags) (parts configured))

end ExprGateway.Log
