import ExprGateway.Config.Value
import ExprGateway.Text.Quoted

/-!
# What can be wrong with a setting

A fault is a cause and a path: the names that lead to the setting.  The same causes are worded in two
ways, one for a configuration that is given as JSON, one for a configuration that is put together from
layers.
-/

namespace ExprGateway

/-- Why a setting cannot be used. -/
inductive Cause where
  /-- The setting is of another type. -/
  | wrongType (found : Setting) (expected : String)
  /-- The setting is of the right type, but out of range. -/
  | wrongValue (found : Setting) (expected : String)
  /-- There is no setting of that name. -/
  | unknownKey (name : String) (known : List String)
  /-- The setting is none of the names that can be chosen. -/
  | unknownChoice (name : String) (known : List String)
  /-- A list has more elements than there are settings. -/
  | tooLong (length : Nat)
  /-- A text is no address. -/
  | badAddress
  /-- The source cannot be read. -/
  | unreadable (reason : String)

/-- A cause and where it is found. -/
structure Fault where
  path : List String
  cause : Cause

namespace Fault

/-- A fault seen from one level further out. -/
def inside (name : String) (f : Fault) : Fault := { f with path := name :: f.path }

/-- A fault of the setting itself. -/
def here (cause : Cause) : Fault := ⟨[], cause⟩

end Fault

namespace Setting

/-- The largest whole number without a sign in the smaller of two sizes. -/
def maxUnsigned : Nat := (1 <<< 64) - 1

/-- The least whole number with a sign in that size. -/
def minSigned : Int := -9223372036854775808

/-- What a setting is, in the wording for JSON. -/
def asJson : Setting → String
  | unit => "null"
  | flag value => "boolean " ++ ticked (toString value)
  | unsigned value => "integer " ++ ticked (toString value)
  | signed value => "integer " ++ ticked (toString value)
  | number value => "floating point " ++ ticked (Style.json.write value)
  | char value => "string " ++ quoted value.toString
  | text value => "string " ++ quoted value
  | list _ => "sequence"
  | table _ => "map"

/-- What a setting is, in the wording for layers. -/
def asLayer : Setting → String
  | unit => "unit"
  | flag value => "bool " ++ toString value
  | unsigned value =>
    if value ≤ maxUnsigned then "unsigned int " ++ ticked (toString value)
    else "integer " ++ ticked (toString value) ++ " as u128"
  | signed value =>
    if minSigned ≤ value then "signed int " ++ ticked (toString value)
    else "integer " ++ ticked (toString value) ++ " as i128"
  | number value => "float " ++ ticked (Style.plain.write value)
  | char value => "string " ++ quoted value.toString
  | text value => "string " ++ quoted value
  | list _ => "sequence"
  | table _ => "map"

end Setting

namespace Cause

/-- The wording for JSON. -/
def jsonMessage : Cause → String
  | wrongType found expected => s!"invalid type: {found.asJson}, expected {expected}"
  | wrongValue found expected => s!"invalid value: {found.asJson}, expected {expected}"
  | unknownKey name known => s!"unknown field {ticked name}, expected {oneOf known}"
  | unknownChoice name known => s!"unknown variant {ticked name}, expected {oneOf known}"
  | tooLong length => s!"invalid length {length}, expected fewer elements in array"
  | badAddress => "invalid socket address syntax"
  | unreadable reason => reason

/-- The wording for layers. -/
def layerMessage : Cause → String
  | wrongType found expected => s!"invalid type: found {found.asLayer}, expected {expected}"
  | wrongValue found expected => s!"invalid value {found.asLayer}, expected {expected}"
  | unknownKey name known => s!"unknown field: found {ticked name}, expected {ticked (oneOf known)}"
  | unknownChoice name known =>
    s!"unknown variant: found {ticked name}, expected {ticked (oneOf known)}"
  | tooLong length => s!"invalid length {length}, expected fewer elements in array"
  | badAddress => "invalid socket address syntax"
  | unreadable reason => reason

end Cause

end ExprGateway
