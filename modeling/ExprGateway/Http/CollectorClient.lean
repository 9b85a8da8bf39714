import ExprGateway.Http.Exchange
import ExprGateway.Report.Payload

/-!
# Reports over HTTP

A report is posted as JSON.  It has arrived if the status of the response is a success; the body is not
looked at.
-/

namespace ExprGateway.Http

/-- Whether a report has arrived, from what came of its request. -/
def readDelivery (url : Url) : Exchange → Except DeliveryFailure Unit
  | .silent _ => .error ⟨unsent url⟩
  | .broken status _ | .complete status _ =>
    if isSuccess status then .ok () else .error ⟨s!"HTTP {statusText status}"⟩

/-- How the collector is reached. -/
structure CollectorClient where
  url : Url
  timeoutMs : UInt64

namespace CollectorClient

/-- The request for a report. -/
def request (c : CollectorClient) (r : Report) : Outgoing where
  url := c.url
  contentType := "application/json"
  body := r.payload
  timeoutMs := c.timeoutMs

/-- The collector, reached over a connection: one request a report. -/
def collector {τ : Type} (c : CollectorClient) (connection : Connection τ) : Collector τ where
  publish r t :=
    let (exchange, _, t) := connection.exchange (c.request r) t
    (readDelivery c.url exchange, t)

end CollectorClient

end ExprGateway.Http
