import ExprGateway.Config.Gateway
import ExprGateway.Evaluation.Service
import ExprGateway.Http.CollectorClient
import ExprGateway.Http.OperationClient

/-!
# The gateway

A gateway is built from a configuration: the addresses of the services are read, in the order of the
operators, and then that of the collector if reports are wanted.  The first address that is none stops
it.
-/

namespace ExprGateway

open Log Http

/-- Why a gateway cannot be built. -/
inductive SetupFault where
  | operations (fault : Url.Fault)
  | metrics (fault : Url.Fault)
deriving DecidableEq, Repr

namespace SetupFault

/-- What was being done. -/
def context : SetupFault → String
  | operations _ => "invalid operation service URL"
  | metrics _ => "invalid metrics collector URL"

/-- What is wrong with the address. -/
def cause : SetupFault → Url.Fault
  | operations fault | metrics fault => fault

end SetupFault

/-- A gateway: how the services are reached, and how the collector is, if reports are wanted. -/
structure Gateway where
  operations : OperationClient
  metrics : Option (CollectorClient × Delivery)

namespace Gateway

/-- The clients of the services. -/
def operationClient (c : GatewayConfig) : Except Url.Fault OperationClient := do
  let sum ← Url.read c.operations.sum
  let subtraction ← Url.read c.operations.subtraction
  let multiplication ← Url.read c.operations.multiplication
  let division ← Url.read c.operations.division
  let endpoint
    | .add => sum
    | .subtract => subtraction
    | .multiply => multiplication
    | .divide => division
  return ⟨endpoint, c.operationTimeoutMs⟩

/-- The client of the collector. -/
def collectorClient (m : MetricsConfig) : Except Url.Fault CollectorClient := do
  return ⟨← Url.read m.url, m.timeoutMs⟩

/-- The gateway of a configuration. -/
def ofConfig (c : GatewayConfig) : Except SetupFault Gateway := do
  let operations ← (operationClient c).mapError .operations
  if c.metrics.enabled then
    let client ← (collectorClient c.metrics).mapError .metrics
    return ⟨operations, some (client, c.metrics.delivery)⟩
  else return ⟨operations, none⟩

/-- The service of a gateway, over a connection for operations and one for reports. -/
def service {σ κ : Type} (g : Gateway) (toServices : Connection σ) (toCollector : Connection κ) :
    Service σ κ where
  operations := g.operations.operations toServices
  reporter := g.metrics.map fun (client, delivery) => ⟨client.collector toCollector, delivery⟩

/-! ## Events -/

def target : String := "calc_gateway::module"

/-- An event about the gateway as a whole. -/
def event (message : String) (fields : List (String × FieldValue) := []) : Event :=
  ⟨.info, target, message, fields⟩

def initializing : Event := event "Initializing calc_gateway module"

def reportingDisabled : Event := event "Metrics reporting disabled"

def initialized (c : GatewayConfig) : Event :=
  event "calc_gateway module initialized"
    [("operation_timeout_ms", .natural c.operationTimeoutMs.toNat),
      ("metrics_enabled", .flag c.metrics.enabled)]

def registering : Event := event "Registering calc_gateway REST routes"

/-- What is logged while a gateway is built. -/
def setupEvents (c : GatewayConfig) : List Event :=
  match ofConfig c with
  | .ok _ =>
    initializing :: (if c.metrics.enabled then [] else [reportingDisabled]) ++ [initialized c]
  | .error _ => [initializing]

end Gateway

end ExprGateway
