import ExprGateway.Proofs.Config.Records

/-!
# The parts of a configuration

The records of a configuration by their parts, and what is at the bottom of them: twelve leaves, each with
the decoder of its values.
-/

namespace ExprGateway

/-- A part that is a leaf. -/
def Part.leaf {α β : Type} (name : String) (decoder : Decoder β) (encode : β → Json) (get : α → β)
    (put : β → α → α) : Part α :=
  ⟨name, decoder, encode, [⟨[], decoder, id⟩], get, put⟩

/-- The leaves of a record, from those of its parts. -/
def leavesOf {α : Type} (parts : List (Part α)) : List (Leaf α) :=
  parts.flatMap fun p => p.leaves.map fun l => ⟨p.name :: l.path, l.decoder, l.get ∘ p.get⟩

namespace Decoder

/-! ## The gateway -/

def endpointParts : List (Part Endpoints) := [
  .leaf "sum" string .string (·.sum) fun s e => { e with sum := s },
  .leaf "subtraction" string .string (·.subtraction) fun s e => { e with subtraction := s },
  .leaf "multiplication" string .string (·.multiplication) fun s e => { e with multiplication := s },
  .leaf "division" string .string (·.division) fun s e => { e with division := s }]

def metricsParts : List (Part MetricsConfig) := [
  .leaf "enabled" bool .bool (·.enabled) fun b m => { m with enabled := b },
  .leaf "url" string .string (·.url) fun s m => { m with url := s },
  .leaf "timeout_ms" word wordJson (·.timeoutMs) fun n m => { m with timeoutMs := n },
  .leaf "delivery" delivery (.string ·.name) (·.delivery) fun w m => { m with delivery := w }]

def gatewayParts : List (Part GatewayConfig) := [
  ⟨"operations", endpoints, Endpoints.toJson, leavesOf endpointParts, (·.operations),
    fun e g => { g with operations := e }⟩,
  .leaf "operation_timeout_ms" word wordJson (·.operationTimeoutMs)
    fun n g => { g with operationTimeoutMs := n },
  ⟨"metrics", metrics, MetricsConfig.toJson, leavesOf metricsParts, (·.metrics),
    fun m g => { g with metrics := m }⟩]

theorem independent_endpoints : Independent endpointParts where
  nodup := by decide
  get_put := by simp [endpointParts, Part.leaf]
  get_put_of_ne := by simp [endpointParts, Part.leaf]
  ext := by
    rintro ⟨⟩ ⟨⟩
    simp +contextual [endpointParts, Part.leaf]

theorem independent_metrics : Independent metricsParts where
  nodup := by decide
  get_put := by simp [metricsParts, Part.leaf]
  get_put_of_ne := by simp [metricsParts, Part.leaf]
  ext := by
    rintro ⟨⟩ ⟨⟩
    simp +contextual [metricsParts, Part.leaf]

theorem independent_gateway : Independent gatewayParts where
  nodup := by decide
  get_put := by simp [gatewayParts, Part.leaf]
  get_put_of_ne := by simp [gatewayParts, Part.leaf]
  ext := by
    rintro ⟨⟩ ⟨⟩
    simp +contextual [gatewayParts, Part.leaf]

/-! ## The program -/

def serverParts : List (Part ServerConfig) := [
  .leaf "bind_addr" address (.string ·.text) (·.bindAddress) fun a s => { s with bindAddress := a }]

def loggingParts : List (Part LoggingConfig) := [
  .leaf "level" string .string (·.level) fun s l => { l with level := s },
  .leaf "format" (choice "LogFormat" formats) (.string ·.name) (·.format)
    fun f l => { l with format := f }]

def appParts : List (Part AppConfig) := [
  ⟨"server", server, fun s => .object [("bind_addr", .string s.bindAddress.text)],
    leavesOf serverParts, (·.server), fun s a => { a with server := s }⟩,
  ⟨"logging", logging, fun l => .object [("level", .string l.level), ("format", .string l.format.name)],
    leavesOf loggingParts, (·.logging), fun l a => { a with logging := l }⟩,
  ⟨"gateway", gateway, GatewayConfig.toJson, leavesOf gatewayParts, (·.gateway),
    fun g a => { a with gateway := g }⟩]

theorem independent_server : Independent serverParts where
  nodup := by decide
  get_put := by simp [serverParts, Part.leaf]
  get_put_of_ne := by simp [serverParts, Part.leaf]
  ext := by
    rintro ⟨⟩ ⟨⟩
    simp +contextual [serverParts, Part.leaf]

theorem independent_logging : Independent loggingParts where
  nodup := by decide
  get_put := by simp [loggingParts, Part.leaf]
  get_put_of_ne := by simp [loggingParts, Part.leaf]
  ext := by
    rintro ⟨⟩ ⟨⟩
    simp +contextual [loggingParts, Part.leaf]

theorem independent_app : Independent appParts where
  nodup := by decide
  get_put := by simp [appParts]
  get_put_of_ne := by simp [appParts]
  ext := by
    rintro ⟨⟩ ⟨⟩
    simp +contextual [appParts]

theorem appFields_eq : appFields = appParts.map Part.field := rfl

end Decoder

open Decoder

/-- The leaves of the configuration of the program. -/
def AppConfig.leaves : List (Leaf AppConfig) := [
  ⟨["server", "bind_addr"], address, (·.server.bindAddress)⟩,
  ⟨["logging", "level"], string, (·.logging.level)⟩,
  ⟨["logging", "format"], choice "LogFormat" formats, (·.logging.format)⟩,
  ⟨["gateway", "operations", "sum"], string, (·.gateway.operations.sum)⟩,
  ⟨["gateway", "operations", "subtraction"], string, (·.gateway.operations.subtraction)⟩,
  ⟨["gateway", "operations", "multiplication"], string, (·.gateway.operations.multiplication)⟩,
  ⟨["gateway", "operations", "division"], string, (·.gateway.operations.division)⟩,
  ⟨["gateway", "operation_timeout_ms"], word, (·.gateway.operationTimeoutMs)⟩,
  ⟨["gateway", "metrics", "enabled"], bool, (·.gateway.metrics.enabled)⟩,
  ⟨["gateway", "metrics", "url"], string, (·.gateway.metrics.url)⟩,
  ⟨["gateway", "metrics", "timeout_ms"], word, (·.gateway.metrics.timeoutMs)⟩,
  ⟨["gateway", "metrics", "delivery"], delivery, (·.gateway.metrics.delivery)⟩]

theorem AppConfig.leavesOf_appParts : leavesOf appParts = leaves := rfl

end ExprGateway
