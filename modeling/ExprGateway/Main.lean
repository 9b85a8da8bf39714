import ExprGateway.Command.Session
import ExprGateway.Http.Framing
import ExprGateway.Http.Replay
import ExprGateway.Url.Place
import Std.Async.DNS
import Std.Async.Signal
import Std.Async.TCP
import Std.Async.Timer

/-!
# The program

All that is done here is to read files and variables, to print, and to carry bytes over connections;
what they mean is decided elsewhere.
-/

namespace ExprGateway.Program

open Std.Async Http

/-! ## Surroundings -/

/-- The variables of the environment. -/
def readEnvironment : IO (List (String × String)) := do
  let bytes ← try IO.FS.readBinFile "/proc/self/environ" catch _ => pure .empty
  let entries := (Utf8.decode bytes.toList).splitOn "\x00"
  return entries.filterMap fun e =>
    match e.splitOn "=" with
    | name :: rest@(_ :: _) => some (name, "=".intercalate rest)
    | _ => none

/-- The text of a file, if there is one. -/
def fileText? (path : String) : IO (Option String) := do
  try return some (← IO.FS.readFile path) catch _ => return none

/-- Prints a line beside the output proper. -/
def print (format : LogFormat) (p : Command.Printed) : IO Unit := do
  (← IO.getStderr).putStrLn <| match p with
    | .line s => s
    | .event e => match format with
      | .text => e.line
      | .json => e.toJson.compact

/-- Prints the events that are logged. -/
def log (l : Command.Logging) (events : List Log.Event) : IO Unit :=
  (l.pass events).forM (print l.format)

/-- Why an address cannot be listened on. -/
def reason (e : IO.Error) : String :=
  match e with
  | .permissionDenied _ code _ => s!"Permission denied (os error {code})"
  | .resourceBusy code _ => s!"Address already in use (os error {code})"
  | e => toString e

/-! ## Connections -/

/-- How many bytes are taken at once. -/
def blockSize : UInt64 := 65536

/-- An address as the network knows it. -/
def netAddress (a : SocketAddress) : Std.Net.SocketAddress :=
  let port := UInt16.ofNat a.port
  match a.host with
  | .v4 [a, b, c, d] =>
    .v4 ⟨.ofParts (.ofNat a) (.ofNat b) (.ofNat c) (.ofNat d), port⟩
  | .v6 [a, b, c, d, e, f, g, h] =>
    .v6 ⟨.ofParts (.ofNat a) (.ofNat b) (.ofNat c) (.ofNat d) (.ofNat e) (.ofNat f) (.ofNat g)
      (.ofNat h), port⟩
  | _ => .v4 ⟨.ofParts 0 0 0 0, port⟩

/-- Takes bytes until a reader is content with them or the connection ends.  All that has arrived is
kept in `seen`. -/
partial def receive {α : Type} (client : TCP.Socket.Client) (seen : IO.Ref (List UInt8))
    (read : Bool → List UInt8 → Arrival α) : Async (Option α) := do
  match read false (← seen.get) with
  | .arrived a => return some a
  | .garbled => return none
  | .waiting =>
    match ← client.recv? blockSize with
    | some bytes =>
      seen.modify (· ++ bytes.toList)
      receive client seen read
    | none =>
      match read true (← seen.get) with
      | .arrived a => return some a
      | _ => return none

/-- Sends a request to one of the addresses of a host and waits for what comes of it. -/
def ask (o : Outgoing) (place : Url.Place) (seen : IO.Ref (List UInt8)) : Async Exchange := do
  let client ← TCP.Socket.Client.mk
  let some address := (← DNS.getAddrInfo place.host "")[0]? | return .silent false
  let port := UInt16.ofNat place.port
  client.connect <| match address with
    | .v4 a => .v4 ⟨a, port⟩
    | .v6 a => .v6 ⟨a, port⟩
  client.send ⟨(o.bytes place.authority place.path).toArray⟩
  return (← receive client seen readExchange).getD (cutExchange false (← seen.get))

/-- What comes of a request to another program, and how many milliseconds it took.  Redirects are not
followed. -/
def exchange (o : Outgoing) : Async (Exchange × Float) := do
  let start ← IO.monoNanosNow
  let seen ← IO.mkRef []
  let made ← match o.url.place? with
    | none => pure (.silent false)
    | some place =>
      try
        Async.race (ask o place seen) do
          sleep (.ofNat o.timeoutMs.toNat)
          return cutExchange true (← seen.get)
      catch _ => pure (cutExchange false (← seen.get))
  let stop ← IO.monoNanosNow
  return (made, Float.ofNat (stop - start) / 1000000)

/-- Plays something through until nothing is missing. -/
partial def finish {α : Type} (play : History → Progress α) (h : History) : Async α := do
  match play h with
  | .finished a => return a
  | .toServices o =>
    let made ← exchange o
    finish play { h with toServices := h.toServices ++ [made] }
  | .toCollector o =>
    let made ← exchange o
    finish play { h with toCollector := h.toCollector ++ [made] }

/-! ## Serving -/

/-- Answers the request of a connection. -/
def answer (g : Gateway) (l : Command.Logging) (client : TCP.Socket.Client) : Async Unit := do
  let seen ← IO.mkRef []
  match ← receive client seen fun _ => readRequest with
  | none =>
    if !(← seen.get).isEmpty then client.send ⟨(Response.bare 400 none).bytes.toArray⟩
  | some request =>
    let (reply, reports) ← finish (play g request) {}
    log l reply.events
    client.send ⟨reply.response.bytes.toArray⟩
    client.shutdown
    log l (← finish (playReports g reports) {})

/-- Accepts connections until a signal comes, then waits for those that are open. -/
partial def accept (g : Gateway) (l : Command.Logging) (server : TCP.Socket.Server)
    (interrupt terminate : Signal.Waiter) (running : List (AsyncTask Unit)) :
    Async Command.Signal := do
  let event ← Selectable.one #[
    .case server.acceptSelector fun client => return Sum.inl client,
    .case interrupt.selector fun _ => return Sum.inr Command.Signal.interrupt,
    .case terminate.selector fun _ => return Sum.inr Command.Signal.terminate]
  match event with
  | .inl client =>
    let task ← async (try answer g l client catch _ => pure ())
    let running ← running.filterM fun t => return !(← IO.hasFinished t)
    accept g l server interrupt terminate (task :: running)
  | .inr signal =>
    log l ((Command.stopping signal).take 1)
    running.forM fun t => await t
    return signal

/-- Serves until a signal comes. -/
def serve (g : Gateway) (l : Command.Logging) (server : TCP.Socket.Server) : IO Unit := do
  let interrupt ← Signal.Waiter.mk .sigint false
  let terminate ← Signal.Waiter.mk .sigterm false
  let signal ← (accept g l server interrupt terminate []).block
  log l ((Command.stopping signal).drop 1)

/-- Listens on an address. -/
def listen (a : SocketAddress) : IO (Except String TCP.Socket.Server) := do
  try
    let server ← TCP.Socket.Server.mk
    server.bind (netAddress a)
    server.listen 1024
    return .ok server
  catch e => return .error (reason e)

/-- Prints what a session prints. -/
def report (s : Command.Session) : IO Unit := do
  (← IO.getStdout).putStr s.output
  (← IO.getStdout).flush
  s.printed.forM (print s.logging.format)

/-- Runs the program. -/
def run (words : List String) : IO UInt32 := do
  let path? := match Command.Invocation.read words with
    | .ok i => i.config
    | .error _ => none
  let file ← match path? with
    | some path => fileText? path
    | none => pure none
  let host (refusal : Option String) (environment : List (String × String)) : Command.Host :=
    ⟨fun _ => file, environment, fun _ => refusal⟩
  let environment ← readEnvironment
  let session := Command.session (host none environment) words
  match session.ending with
  | .exit code =>
    report session
    return UInt32.ofNat code
  | .serving gateway address =>
    match ← listen address with
    | .ok server =>
      report session
      serve gateway session.logging server
      return 0
    | .error text =>
      let session := Command.session (host (some text) environment) words
      report session
      return 1

end ExprGateway.Program

def main (words : List String) : IO UInt32 := ExprGateway.Program.run words
