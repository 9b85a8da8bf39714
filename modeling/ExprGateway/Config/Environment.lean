import ExprGateway.Config.Written

/-!
# Settings from the environment

A variable whose name starts with `CALC_GATEWAY__`, in letters of any case, is a setting.  The rest of
the name, in lower case, is the path to it, with two underscores or a point between the names.
-/

namespace ExprGateway.Environment

/-- What the names of settings start with. -/
def marker : String := "CALC_GATEWAY__"

/-- Text without what it starts with, letters of any case taken as equal. -/
def stripMarker? : List Char → List Char → Option (List Char)
  | [], cs => some cs
  | _ :: _, [] => none
  | m :: ms, c :: cs => if m.toLower = c.toLower then stripMarker? ms cs else none

/-- Text cut at points and at pairs of underscores. -/
def segments : List Char → List (List Char)
  | '_' :: '_' :: rest => [] :: segments rest
  | '.' :: rest => [] :: segments rest
  | c :: rest =>
    match segments rest with
    | [] => [[c]]
    | s :: others => (c :: s) :: others
  | [] => [[]]

/-- The path that the name of a variable writes, if it is one of a setting.  Blanks around the name and
around what follows the marker do not count, and no name on the path is empty. -/
def path? (name : String) : Option (List String) := do
  let rest ← stripMarker? marker.toList (trimBlanks name.toList)
  let path := segments (trimBlanks rest)
  if path.any List.isEmpty then none else some (path.map fun s => String.ofList (s.map Char.toLower))

/-- The settings of variables, those with a later name laid over those with an earlier one. -/
def settings (environment : List (String × String)) : Setting :=
  let sorted := environment.mergeSort fun a b => a.1 ≤ b.1
  sorted.foldl (fun t v =>
    match path? v.1 with
    | some path => t.overlay (.nested path (Written.read v.2))
    | none => t) (.table [])

end ExprGateway.Environment
