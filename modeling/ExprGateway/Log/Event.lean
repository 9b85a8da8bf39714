/-!
# Log events

What is logged is a value: a level, a target that names the part of the program, a message and named
fields.  How an event becomes a line is `Log.Line`, whether it does is `Log.Filter`.
-/

namespace ExprGateway.Log

/-- How severe an event is; the later, the less. -/
inductive Level where
  | error
  | warn
  | info
  | debug
  | trace
deriving DecidableEq, Repr

/-- The value of a field. -/
inductive FieldValue where
  | number (value : Float)
  | natural (value : Nat)
  | flag (value : Bool)
  /-- A text that is written as it is. -/
  | text (value : String)
  /-- A text that is quoted in a line of text. -/
  | literal (value : String)

/-- Something that happened. -/
structure Event where
  level : Level
  target : String
  message : String
  fields : List (String × FieldValue) := []

/-- The names of the fields of an event, of which the message is one. -/
def Event.fieldNames (e : Event) : List String := "message" :: e.fields.map (·.1)

end ExprGateway.Log
