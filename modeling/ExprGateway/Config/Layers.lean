import ExprGateway.Config.App
import ExprGateway.Config.Environment
import ExprGateway.Yaml.Document

/-!
# Layers

A configuration is put together from a file and the environment, the environment laid over the file,
and both over the defaults.  A fault is reported with the layer it comes from: the last one that says
anything about the place of the fault.
-/

namespace ExprGateway

/-- Where a setting comes from. -/
inductive Layer where
  | file
  | environment
deriving DecidableEq, Repr

/-- A fault, and the layer it comes from if it comes from one. -/
structure LayerFault where
  fault : Fault
  layer : Option Layer

namespace AppConfig

/-- The last layer that says anything about a place. -/
def layerAt (file environment : Setting) (path : List String) : Option Layer :=
  if (environment.at? path).isSome then some .environment
  else if (file.at? path).isSome then some .file
  else none

/-- The configuration of two layers. -/
def ofLayers (file environment : Setting) : Except LayerFault AppConfig :=
  (Decoder.app .layers (file.overlay environment)).mapError fun f =>
    ⟨f, layerAt file environment f.path⟩

/-- The configuration of the text of a file, if there is one, and of the variables of the
environment. -/
def load (file : Option String) (environment : List (String × String)) :
    Except LayerFault AppConfig := do
  let settings ← match file with
    | none => pure (.table [])
    | some text => (Yaml.read text).mapError fun e =>
        ⟨.here (.unreadable e.message), some .file⟩
  ofLayers settings (Environment.settings environment)

end AppConfig

end ExprGateway
