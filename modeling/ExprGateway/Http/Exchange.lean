import ExprGateway.Http.Status
import ExprGateway.Url.Basic

/-!
# Exchanges with other programs

A request goes out, and one of three things comes of it: a whole response, a response that breaks off
after its status, or nothing.  The last two happen at once or because the time was up.
-/

namespace ExprGateway.Http

/-- A request to another program. -/
structure Outgoing where
  method : String := "POST"
  url : Url
  contentType : String
  body : String
  /-- How long to wait for the end of the response, in milliseconds. -/
  timeoutMs : UInt64
deriving DecidableEq, Repr

/-- What comes of a request. -/
inductive Exchange where
  | silent (timedOut : Bool)
  | broken (status : Nat) (timedOut : Bool)
  | complete (status : Nat) (body : List UInt8)
deriving DecidableEq, Repr, Inhabited

/-- A connection to other programs, as a machine with states `τ` of which nothing is known.  Whether it
follows a redirect is its own affair: what comes of a request is the response at the end. -/
structure Connection (τ : Type) where
  /-- What comes of a request, how many milliseconds it took, and the state after it. -/
  exchange : Outgoing → τ → Exchange × Float × τ

/-- What is said of a request that got no response.  The address is quoted as it was written, which is its
normal form only if it was written so: a host without a path gets no slash. -/
def unsent (url : Url) : String := s!"error sending request for url ({url.text})"

/-- What is said of a response that broke off. -/
def undecoded : String := "error decoding response body"

end ExprGateway.Http
