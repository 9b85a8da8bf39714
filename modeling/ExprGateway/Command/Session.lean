import ExprGateway.Command.Help
import ExprGateway.Config.Layers
import ExprGateway.Gateway
import ExprGateway.Log.Filter
import ExprGateway.Log.Line

/-!
# Sessions

What a run of the program does, as a value: what it prints, what it logs, and whether it ends or goes
on to serve.  Of its surroundings it sees files, variables and the answer to its wish to listen on an
address; all of that is in `Host`.

The configuration is read and checked first.  If it is only to be printed nothing is logged.
-/

namespace ExprGateway.Command

open Log

/-- What the program sees of its surroundings. -/
structure Host where
  /-- The text of a file, if there is a file of that name. -/
  fileAt : String → Option String
  environment : List (String × String)
  /-- Why the program cannot listen on an address, if it cannot. -/
  refusal : SocketAddress → Option String

/-- What is written beside the output proper. -/
inductive Printed where
  | line (text : String)
  | event (e : Event)

/-- A text, line by line. -/
def Printed.ofText (text : String) : List Printed := (text.splitOn "\n").map .line

/-- How a session goes on when everything that it does by itself is done. -/
inductive Ending where
  | exit (code : Nat)
  | serving (gateway : Gateway) (address : SocketAddress)

/-- What is logged, and how. -/
structure Logging where
  filter : Filter
  format : LogFormat

/-- A run of the program. -/
structure Session where
  output : String := ""
  printed : List Printed := []
  /-- What is logged from here on, and how. -/
  logging : Logging := ⟨.ofDirectives [], .text⟩
  ending : Ending

namespace Session

/-- The lines of a text, indented. -/
def indented (text : String) : List Printed := (text.splitOn "\n").map fun line => .line ("    " ++ line)

/-- A run that fails: what could not be done, and why. -/
def failure (context : String) (causes : List String) : List Printed :=
  Printed.ofText s!"Error: {context}" ++
    if causes.isEmpty then [] else [.line "", .line "Caused by:"] ++ causes.flatMap indented

end Session

/-! ## Events -/

def programTarget : String := "calc_gateway_server"

/-- An event about the program. -/
def programEvent (message : String) (fields : List (String × FieldValue) := []) : Event :=
  ⟨.info, programTarget, message, fields⟩

def starting : Event :=
  programEvent "Calc Gateway Server starting" [("version", .literal programVersion)]

def checking : Event := programEvent "Checking configuration..."

def listening (a : SocketAddress) : Event :=
  programEvent "Server listening" [("address", .text a.text)]

/-- A signal that ends the program. -/
inductive Signal where
  | interrupt
  | terminate
deriving DecidableEq, Repr

def Signal.name : Signal → String
  | interrupt => "SIGINT"
  | terminate => "SIGTERM"

/-- What is logged when a signal ends the program. -/
def stopping (s : Signal) : List Event :=
  [⟨.info, "calc_gateway_server::shutdown", "Shutdown signal received, draining connections",
      [("signal", .literal s.name)]⟩,
    programEvent "Server stopped"]

/-! ## Configuration -/

/-- The name of a file as seen from where the program runs: empty parts of the path and those that stay in
the place do not count. -/
def fileName (path : String) : String :=
  let parts := (path.splitOn "/").filter fun part => part != "" && part != "."
  (if path.startsWith "/" then "/" else "") ++ "/".intercalate parts

/-- The text of a fault: what is wrong, under which name, and in which layer. -/
def faultText (path : Option String) (f : LayerFault) : String :=
  let message := f.fault.cause.layerMessage
  match f.layer with
  | none => message
  | some layer =>
    let key := match layer with
      | .file => ".".intercalate ("default" :: f.fault.path)
      | .environment => (".".intercalate f.fault.path).map Char.toUpper
    let source := match layer with
      | .file => fileName (path.getD "") ++ " YAML file"
      | .environment => ticked Environment.marker ++ " environment variable(s)"
    message ++ (if f.fault.path.isEmpty then "" else " for key " ++ quoted key) ++ " in " ++ source

/-- The text of the variable that overrides what is logged. -/
def Host.filterOverride? (h : Host) : Option Filter :=
  (h.environment.lookup "RUST_LOG").bind Filter.ofList?

/-- What is logged, and what is said of directives that are none. -/
def logging (h : Host) (c : LoggingConfig) (verbosity : Nat) : Logging × List Printed :=
  match h.filterOverride? with
  | some filter => (⟨filter, c.format⟩, [])
  | none =>
    let (filter, ignored) := Filter.ofListLossy (withVerbosity c.level verbosity)
    (⟨filter, c.format⟩, ignored.flatMap Printed.ofText)

/-! ## Runs -/

/-- The events that are logged. -/
def Logging.pass (l : Logging) (events : List Event) : List Printed :=
  (events.filter l.filter.passes).map .event

/-- The text of a configuration. -/
def configText (c : AppConfig) : String := c.toJson.pretty ++ "\n"

/-- Checks a configuration, after what was printed `before`. -/
def checkSession (l : Logging) (c : AppConfig) (before : List Printed) : Session :=
  let printed := before ++ l.pass (starting :: checking :: Gateway.setupEvents c.gateway)
  match Gateway.ofConfig c.gateway with
  | .error e =>
    { printed := printed ++ Session.failure e.context [e.cause.message]
      logging := l
      ending := .exit 1 }
  | .ok _ =>
    { output := "Configuration is valid\n" ++ configText c
      printed
      logging := l
      ending := .exit 0 }

/-- Starts to serve, after what was printed `before`. -/
def runSession (h : Host) (l : Logging) (c : AppConfig) (before : List Printed) : Session :=
  let printed := before ++ l.pass (starting :: Gateway.setupEvents c.gateway)
  match Gateway.ofConfig c.gateway with
  | .error e =>
    { printed := printed ++ Session.failure e.context [e.cause.message]
      logging := l
      ending := .exit 1 }
  | .ok gateway =>
    let address := c.server.bindAddress
    let printed := printed ++ l.pass [Gateway.registering]
    match h.refusal address with
    | some reason =>
      { printed := printed ++ Session.failure s!"failed to bind {address.text}" [reason]
        logging := l
        ending := .exit 1 }
    | none =>
      { printed := printed ++ l.pass [listening address]
        logging := l
        ending := .serving gateway address }

/-- A run with a configuration. -/
def configured (h : Host) (i : Invocation) (c : AppConfig) : Session :=
  if i.printConfig then { output := configText c, ending := .exit 0 }
  else
    let (l, ignored) := logging h c.logging i.verbosity
    match i.verb.getD .run with
    | .run => runSession h l c ignored
    | .check => checkSession l c ignored

/-- A run that was asked for. -/
def invoked (h : Host) (i : Invocation) : Session :=
  let file := i.config.bind h.fileAt
  match i.config with
  | some path =>
    if file.isNone then
      { printed := Session.failure s!"config file does not exist: {path}" [], ending := .exit 1 }
    else go file
  | none => go none
where
  go (file : Option String) : Session :=
    match AppConfig.load file h.environment with
    | .error f =>
      { printed := Session.failure "invalid configuration" [faultText i.config f]
        ending := .exit 1 }
    | .ok c => configured h i (c.withPort i.port)

/-- A run with the words of a command line. -/
def session (h : Host) (words : List String) : Session :=
  match Invocation.read words with
  | .ok i => invoked h i
  | .error (.help topic) => { output := topic.text, ending := .exit 0 }
  | .error .version => { output := versionText, ending := .exit 0 }
  | .error (.fault fault) =>
    { printed := Printed.ofText s!"error: {fault.message}", ending := .exit 2 }

end ExprGateway.Command
