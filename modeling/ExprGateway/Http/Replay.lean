import ExprGateway.Gateway
import ExprGateway.Http.Router

/-!
# Requests answered step by step

A connection is a machine whose answers are there when they are asked for.  Programs that talk over a
network have to wait for them, so they play a request through with the exchanges that they have, and
learn from that which exchange comes next; with it they play the request again from the start.  The
gateway does nothing but ask for exchanges, so every play repeats the one before it and goes one
exchange further.
-/

namespace ExprGateway.Http

/-- The exchanges that are there, and the first request for which there is none. -/
structure Script where
  known : List (Exchange × Float)
  wanted : Option Outgoing := none

/-- The connection that answers from a script; when that is used up every request fails. -/
def replay : Connection Script where
  exchange r t :=
    match t.known with
    | (exchange, durationMs) :: known => (exchange, durationMs, { t with known })
    | [] => (.silent false, 0.0, { t with wanted := t.wanted.or (some r) })

/-- The exchanges with the services and with the collector that were made so far. -/
structure History where
  toServices : List (Exchange × Float) := []
  toCollector : List (Exchange × Float) := []

/-- The state in which a request is played. -/
def History.start (h : History) (waiting : List Report) : Backends Script Script :=
  ⟨⟨h.toServices, none⟩, ⟨h.toCollector, none⟩, waiting⟩

/-- What is needed to go on. -/
inductive Progress (α : Type) where
  | toServices (request : Outgoing)
  | toCollector (request : Outgoing)
  | finished (result : α)

/-- What is needed, from the state behind a play and its result. -/
def Progress.of {α : Type} (b : Backends Script Script) (result : α) : Progress α :=
  match b.services.wanted, b.collector.wanted with
  | some r, _ => .toServices r
  | none, some r => .toCollector r
  | none, none => .finished result

/-- Plays a request to a gateway: its reply, and the reports that wait behind it. -/
def play (g : Gateway) (r : Request) (h : History) : Progress (Reply × List Report) :=
  let (reply, b) := handle (g.service replay replay) r (h.start [])
  .of b (reply, b.waiting)

/-- Plays the sending of reports: what is logged of it. -/
def playReports (g : Gateway) (reports : List Report) (h : History) : Progress (List Log.Event) :=
  let (events, b) := (g.service replay replay).settle (h.start reports)
  .of b events

end ExprGateway.Http
