import ExprGateway.Config.Fault
import ExprGateway.Net.SocketAddress

/-!
# Decoding settings

A decoder turns a setting into a value of a type, or says what is wrong with it.  A record is decoded
from a table, where every field may be left out, or from a list with the fields in their order, where
the last ones may be left out; what is left out keeps the value it had before.  The entries of a table
are taken in their order, and the first fault counts.

Two dialects differ in what they are strict about: JSON wants lists without surplus elements, and a
table that stands for a choice to have one entry; layers do not.
-/

namespace ExprGateway

/-- The rules of a kind of source. -/
inductive Dialect where
  | json
  | layers
deriving DecidableEq, Repr

/-- A way to read values of a type. -/
abbrev Decoder (α : Type) := Dialect → Setting → Except Fault α

namespace Decoder

/-- Decodes what has a name inside a setting. -/
def inside {α : Type} (name : String) (r : Except Fault α) : Except Fault α :=
  r.mapError (Fault.inside name)

/-! ## Scalars -/

def string : Decoder String := fun _ v =>
  match v with
  | .text s => .ok s
  | .char c => .ok c.toString
  | v => .error (.here (.wrongType v "a string"))

def bool : Decoder Bool := fun _ v =>
  match v with
  | .flag b => .ok b
  | v => .error (.here (.wrongType v "a boolean"))

/-- Whole numbers of 64 bits. -/
def word : Decoder UInt64 := fun _ v =>
  match v with
  | .unsigned n =>
    if n ≤ Setting.maxUnsigned then .ok (UInt64.ofNat n) else .error (.here (.wrongType v "u64"))
  | .signed n =>
    if 0 ≤ n then .ok (UInt64.ofNat n.toNat)
    else if Setting.minSigned ≤ n then .error (.here (.wrongValue v "u64"))
    else .error (.here (.wrongType v "u64"))
  | v => .error (.here (.wrongType v "u64"))

def address : Decoder SocketAddress := fun _ v =>
  let read (s : String) := match SocketAddress.read? s with
    | some a => .ok a
    | none => .error (.here .badAddress)
  match v with
  | .text s => read s
  | .char c => read c.toString
  | v => .error (.here (.wrongType v "socket address"))

/-! ## Choices -/

/-- The choice of a name. -/
def choose {α : Type} (choices : List (String × α)) (name : String) : Except Fault α :=
  match choices.lookup name with
  | some a => .ok a
  | none => .error (.here (.unknownChoice name (choices.map (·.1))))

/-- What comes with a chosen name, which is nothing. -/
def nothing (v : Setting) : Except Fault Unit :=
  match v with
  | .unit => .ok ()
  | v => .error (.here (.wrongType v "unit"))

/-- One of several names, as a text or as the name of an entry that holds nothing. -/
def choice {α : Type} (typeName : String) (choices : List (String × α)) : Decoder α := fun d v =>
  match d, v with
  | _, .text s => choose choices s
  | .json, .table [(name, content)] => do
    let a ← choose choices name
    nothing content
    return a
  | .json, .table _ => .error (.here (.wrongValue v "map with a single key"))
  | .json, v => .error (.here (.wrongType v "string or map"))
  | .layers, .table [] => .error (.here (.wrongType v "enum"))
  | .layers, .table ((name, content) :: _) => inside name do
    let a ← choose choices name
    nothing content
    return a
  | .layers, v => .error (.here (.wrongType v s!"enum {typeName}"))

/-! ## Records -/

/-- A field of a record: its name, and how a setting for it changes the record. -/
structure Field (α : Type) where
  name : String
  set : Dialect → Setting → α → Except Fault α

/-- A field from a decoder of its values. -/
def field {α β : Type} (name : String) (decoder : Decoder β) (put : β → α → α) : Field α where
  name
  set d v a := (decoder d v).map fun b => put b a

/-- Sets the field that an entry names. -/
def setEntry {α : Type} (d : Dialect) (fields : List (Field α)) (a : α) (e : String × Setting) :
    Except Fault α :=
  inside e.1 <| match fields.find? (·.name == e.1) with
    | some f => f.set d e.2 a
    | none => .error (.here (.unknownKey e.1 (fields.map (·.name))))

/-- Sets the field at a place of a list. -/
def setElement {α : Type} (d : Dialect) (a : α) (e : (Field α × Setting) × Nat) : Except Fault α :=
  inside (toString e.2) (e.1.1.set d e.1.2 a)

/-- A record, from the values it has where nothing is set. -/
def record {α : Type} (typeName : String) (fields : List (Field α)) (start : α) : Decoder α :=
  fun d v =>
    match v with
    | .table entries => entries.foldlM (setEntry d fields) start
    | .list elements => do
      let a ← (fields.zip elements).zipIdx.foldlM (setElement d) start
      if d = .json ∧ fields.length < elements.length then
        .error (.here (.tooLong elements.length))
      else return a
    | v => .error (.here (.wrongType v s!"struct {typeName}"))

end Decoder

end ExprGateway
