import ExprGateway.Json.Value

/-!
# Settings before they have a type

What a source says of the configuration is a `Setting`: a scalar, a list, or a table.  The entries of a
table are in the order of their names, each name once.  A later source is laid over an earlier one key
by key: `Setting.overlay` goes into tables that both have and otherwise takes the later value.
-/

namespace ExprGateway

/-- A value of a configuration source. -/
inductive Setting where
  | unit
  | flag (value : Bool)
  /-- A whole number without a sign. -/
  | unsigned (value : Nat)
  /-- A whole number that was written with a minus sign. -/
  | signed (value : Int)
  | number (value : Float)
  | char (value : Char)
  | text (value : String)
  | list (elements : List Setting)
  | table (entries : List (String × Setting))
deriving Inhabited

namespace Setting

/-! ## Tables -/

/-- Puts an entry into a table, in place of the one with that name if there is one. -/
def insert (name : String) (v : Setting) : List (String × Setting) → List (String × Setting)
  | [] => [(name, v)]
  | e :: rest =>
    if name < e.1 then (name, v) :: e :: rest
    else if name = e.1 then (name, v) :: rest
    else e :: insert name v rest

/-- A table from entries in any order; of two entries with one name the later one counts. -/
def ofEntries (entries : List (String × Setting)) : Setting :=
  table (entries.foldl (fun t e => insert e.1 e.2 t) [])

/-- A table with one entry, inside of tables with one entry each along a path. -/
def nested (path : List String) (v : Setting) : Setting :=
  path.foldr (fun name inner => table [(name, inner)]) v

/-- The value at a path of names and of places in lists. -/
def at? : Setting → List String → Option Setting
  | v, [] => some v
  | table entries, name :: path => (entries.lookup name).bind (·.at? path)
  | list elements, name :: path => (name.toNat?.bind (elements[·]?)).bind (·.at? path)
  | _, _ :: _ => none
termination_by _ path => path.length

/-! ## Overlays -/

mutual

/-- A setting with a later one laid over it. -/
def overlay (v : Setting) : Setting → Setting
  | table later =>
    match v with
    | table earlier => table (overlayEntries earlier later)
    | _ => table later
  | later => later

/-- Entries with later ones laid over them. -/
def overlayEntries (earlier : List (String × Setting)) :
    List (String × Setting) → List (String × Setting)
  | [] => earlier
  | (name, v) :: rest =>
    let merged := match earlier.lookup name with
      | some u => overlay u v
      | none => v
    overlayEntries (insert name merged earlier) rest

end

/-! ## JSON -/

mutual

/-- The setting that a JSON value is. -/
def ofJson : Json → Setting
  | .null => unit
  | .bool value => flag value
  | .whole value => if 0 ≤ value then unsigned value.toNat else signed value
  | .number value => number value
  | .string value => text value
  | .array elements => list (ofJsonElements elements)
  | .object fields => ofEntries (ofJsonFields fields)

def ofJsonElements : List Json → List Setting
  | [] => []
  | v :: rest => ofJson v :: ofJsonElements rest

def ofJsonFields : List (String × Json) → List (String × Setting)
  | [] => []
  | (name, v) :: rest => (name, ofJson v) :: ofJsonFields rest

end

end Setting

end ExprGateway
