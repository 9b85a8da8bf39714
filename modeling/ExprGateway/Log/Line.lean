import ExprGateway.Json.Value
import ExprGateway.Log.Event
import ExprGateway.Text.Quoted

/-!
# Log lines

An event as a line of text, `INFO target: message name=value`, or as a JSON object.  The time at which
the line is written goes in front of the one and into the other; it is not part of the event.
-/

namespace ExprGateway.Log

/-- The name of a level. -/
def Level.name : Level → String
  | error => "ERROR"
  | warn => "WARN"
  | info => "INFO"
  | debug => "DEBUG"
  | trace => "TRACE"

/-- How numbers are written in lines of text: as in JSON, but without a sign on exponents, and with
names for those that are not finite. -/
def numberStyle : Style :=
  { Style.json with
    tie := .up
    hasPlus := false
    nan := Style.plain.nan
    infinity := Style.plain.infinity }

namespace FieldValue

/-- A value in a line of text. -/
def written : FieldValue → String
  | number value => numberStyle.write value
  | natural value => toString value
  | flag value => toString value
  | text value => value
  | literal value => quoted value

/-- A value in an object. -/
def toJson : FieldValue → Json
  | number value => .number value
  | natural value => .whole value
  | flag value => .bool value
  | text value | literal value => .string value

end FieldValue

namespace Event

/-- An event as a line of text. -/
def line (e : Event) : String :=
  s!"{e.level.name} {e.target}: {e.message}" ++
    String.join (e.fields.map fun f => s!" {f.1}={f.2.written}")

/-- An event as an object. -/
def toJson (e : Event) : Json :=
  .object [("level", .string e.level.name),
    ("fields", .object (("message", .string e.message) ::
      e.fields.map fun f => (f.1, f.2.toJson))),
    ("target", .string e.target)]

end Event

end ExprGateway.Log
