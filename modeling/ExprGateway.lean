import ExprGateway.Evaluation.Client
import ExprGateway.Http.Router
import ExprGateway.Json.Reader
import ExprGateway.Report.Payload
import ExprGateway.Command.Session
import ExprGateway.Http.Framing
import ExprGateway.Http.Replay
import ExprGateway.Main
import ExprGateway.Proofs.Expression.Grammar
import ExprGateway.Proofs.Evaluation.Trace
import ExprGateway.Proofs.Evaluation.TreeOrder
import ExprGateway.Proofs.Expression.Arrangement
import ExprGateway.Proofs.Evaluation.Course
import ExprGateway.Proofs.Expression.Acceptance
import ExprGateway.Proofs.Expression.Conservation
import ExprGateway.Proofs.Expression.Defects
import ExprGateway.Proofs.Expression.Composition
import ExprGateway.Proofs.Expression.Language
import ExprGateway.Proofs.Expression.Printing
import ExprGateway.Proofs.Http.Visit
import ExprGateway.Proofs.Number.ReadBack
import ExprGateway.Proofs.Number.Canonical
import ExprGateway.Proofs.Http.Honest
import ExprGateway.Proofs.Http.ErrorLine
import ExprGateway.Proofs.Http.Finite
import ExprGateway.Proofs.Http.Operands
import ExprGateway.Proofs.Http.Page
import ExprGateway.Proofs.Http.Reply
import ExprGateway.Proofs.Evaluation.Delivery
import ExprGateway.Proofs.Evaluation.Forecast
import ExprGateway.Proofs.Evaluation.Concurrency
import ExprGateway.Proofs.Http.TwoEntrances
import ExprGateway.Proofs.Http.Undecodable
import ExprGateway.Proofs.Config.Layers
import ExprGateway.Proofs.Config.RoundTrip
import ExprGateway.Proofs.Log.Verbosity
import ExprGateway.Proofs.Report.Payload
