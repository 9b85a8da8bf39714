import ExprGateway.Config.Gateway

/-!
# The configuration of the program

The address to listen on, what is logged and how, and the configuration of the gateway.
-/

namespace ExprGateway

/-- How log lines are written. -/
inductive LogFormat where
  | text
  | json
deriving DecidableEq, Repr

structure ServerConfig where
  bindAddress : SocketAddress := ⟨.v4 [0, 0, 0, 0], 0, 80⟩
deriving DecidableEq, Repr

structure LoggingConfig where
  /-- What is logged; see `Log.Filter`. -/
  level : String := "info"
  format : LogFormat := .text
deriving DecidableEq, Repr

/-- The configuration of the program. -/
structure AppConfig where
  server : ServerConfig := {}
  logging : LoggingConfig := {}
  gateway : GatewayConfig := {}
deriving DecidableEq, Repr

/-! ## Decoding -/

namespace Decoder

def formats : List (String × LogFormat) := [("text", .text), ("json", .json)]

def serverFields : List (Field ServerConfig) := [
  field "bind_addr" address fun a s => { s with bindAddress := a }]

def server : Decoder ServerConfig := record "ServerConfig" serverFields {}

def loggingFields : List (Field LoggingConfig) := [
  field "level" string fun s l => { l with level := s },
  field "format" (choice "LogFormat" formats) fun f l => { l with format := f }]

def logging : Decoder LoggingConfig := record "LoggingConfig" loggingFields {}

def appFields : List (Field AppConfig) := [
  field "server" server fun s a => { a with server := s },
  field "logging" logging fun l a => { a with logging := l },
  field "gateway" gateway fun g a => { a with gateway := g }]

def app : Decoder AppConfig := record "AppConfig" appFields {}

end Decoder

/-! ## Writing -/

def LogFormat.name : LogFormat → String
  | .text => "text"
  | .json => "json"

namespace AppConfig

def toJson (a : AppConfig) : Json :=
  .object [
    ("server", .object [("bind_addr", .string a.server.bindAddress.text)]),
    ("logging", .object [("level", .string a.logging.level),
      ("format", .string a.logging.format.name)]),
    ("gateway", a.gateway.toJson)]

/-- The configuration with another port, if one is given. -/
def withPort (a : AppConfig) : Option Nat → AppConfig
  | none => a
  | some port => { a with server := { a.server with
      bindAddress := { a.server.bindAddress with port } } }

end AppConfig

end ExprGateway
