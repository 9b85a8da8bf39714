import ExprGateway.Config.Decode
import ExprGateway.Operator
import ExprGateway.Report.Basic

/-!
# The configuration of the gateway

Where the services and the collector are, and how long to wait for them.  Everything has a default.
`GatewayConfig.decode` reads a configuration and `GatewayConfig.toJson` writes it.
-/

namespace ExprGateway

/-- The addresses of the four services. -/
structure Endpoints where
  sum : String := "http://10.10.10.100:31001"
  subtraction : String := "http://10.10.10.100:31002"
  multiplication : String := "http://10.10.10.100:31003"
  division : String := "http://10.10.10.100:31004"
deriving DecidableEq, Repr

/-- Whether evaluations are reported, where, and when. -/
structure MetricsConfig where
  enabled : Bool := true
  url : String := "http://10.10.10.230:50060/measures"
  /-- How long to wait for the collector, in milliseconds. -/
  timeoutMs : UInt64 := 2000
  delivery : Delivery := .background
deriving DecidableEq, Repr

/-- The configuration of the gateway. -/
structure GatewayConfig where
  operations : Endpoints := {}
  /-- How long to wait for a service, in milliseconds. -/
  operationTimeoutMs : UInt64 := 5000
  metrics : MetricsConfig := {}
deriving DecidableEq, Repr

/-! ## Endpoints -/

namespace Endpoints

/-- The address of an operator's service. -/
def forOperator (e : Endpoints) : Operator → String
  | .add => e.sum
  | .subtract => e.subtraction
  | .multiply => e.multiplication
  | .divide => e.division

/-- All services under one address, each on a path of its own. -/
def under (base : String) : Endpoints :=
  let base := String.ofList (base.toList.reverse.dropWhile (· == '/')).reverse
  { sum := base ++ "/sum"
    subtraction := base ++ "/subtraction"
    multiplication := base ++ "/multiplication"
    division := base ++ "/division" }

/-- The addresses in the order of the operators. -/
def toList (e : Endpoints) : List String := Operator.all.map e.forOperator

end Endpoints

/-! ## Decoding -/

namespace Decoder

def deliveries : List (String × Delivery) := [("inline", .inline), ("background", .background)]

def delivery : Decoder Delivery := choice "MetricsDelivery" deliveries

def endpointFields : List (Field Endpoints) := [
  field "sum" string fun s e => { e with sum := s },
  field "subtraction" string fun s e => { e with subtraction := s },
  field "multiplication" string fun s e => { e with multiplication := s },
  field "division" string fun s e => { e with division := s }]

def endpoints : Decoder Endpoints := record "OperationEndpoints" endpointFields {}

def metricsFields : List (Field MetricsConfig) := [
  field "enabled" bool fun b m => { m with enabled := b },
  field "url" string fun s m => { m with url := s },
  field "timeout_ms" word fun n m => { m with timeoutMs := n },
  field "delivery" delivery fun w m => { m with delivery := w }]

def metrics : Decoder MetricsConfig := record "MetricsConfig" metricsFields {}

def gatewayFields : List (Field GatewayConfig) := [
  field "operations" endpoints fun e g => { g with operations := e },
  field "operation_timeout_ms" word fun n g => { g with operationTimeoutMs := n },
  field "metrics" metrics fun m g => { g with metrics := m }]

def gateway : Decoder GatewayConfig := record "CalcGatewayConfig" gatewayFields {}

end Decoder

/-! ## Writing -/

def Delivery.name : Delivery → String
  | .inline => "inline"
  | .background => "background"

/-- A whole number of 64 bits in JSON. -/
def wordJson (n : UInt64) : Json := .whole n.toNat

def Endpoints.toJson (e : Endpoints) : Json :=
  .object [("sum", .string e.sum), ("subtraction", .string e.subtraction),
    ("multiplication", .string e.multiplication), ("division", .string e.division)]

def MetricsConfig.toJson (m : MetricsConfig) : Json :=
  .object [("enabled", .bool m.enabled), ("url", .string m.url),
    ("timeout_ms", wordJson m.timeoutMs), ("delivery", .string m.delivery.name)]

namespace GatewayConfig

def toJson (g : GatewayConfig) : Json :=
  .object [("operations", g.operations.toJson),
    ("operation_timeout_ms", wordJson g.operationTimeoutMs), ("metrics", g.metrics.toJson)]

/-- Reads a configuration that is given as JSON. -/
def ofJson (v : Json) : Except Fault GatewayConfig := Decoder.gateway .json (.ofJson v)

end GatewayConfig

/-- A time in milliseconds, in the largest unit of which it is at least one. -/
def durationText (ms : UInt64) : String :=
  let n := ms.toNat
  if n = 0 then "0ns"
  else if n < 1000 then s!"{n}ms"
  else
    let fraction := (toString (1000 + n % 1000)).toList.drop 1
    let shown := (fraction.reverse.dropWhile (· == '0')).reverse
    if shown.isEmpty then s!"{n / 1000}s" else s!"{n / 1000}.{String.ofList shown}s"

end ExprGateway
