import EventDetection.Log
import EventDetection.Url.Basic

/-!
# Requests and replies

A network answers a request in view of the exchanges before it.  Whoever sends requests
leaves a trace of all exchanges.  Redirects are left out: no answer says where else to ask, so
that an answer with a status of 3xx is the last word like any other one.
-/

namespace EventDetection.Http

inductive Method where
  | get
  | post
deriving DecidableEq

/-- A request with a bearer token; a body is JSON text. -/
structure Request where
  method : Method
  url : Url
  token : String
  body : Option String := none
deriving DecidableEq

/-- The header with the credentials. -/
def Request.authorization (r : Request) : String := "Bearer " ++ r.token

/-- The type of the body. -/
def Request.contentType (r : Request) : Option String := r.body.map fun _ => "application/json"

/-- The body of an answer. -/
inductive Body where
  | whole (text : String)
  /-- the answer ended before its announced length -/
  | cutOff
deriving DecidableEq

/-- What comes of a request, if the answer does not send the client to another place. -/
inductive Reply where
  /-- the server cannot be reached -/
  | unreachable
  /-- the server was reached and closed the connection -/
  | dropped
  | answered (status : UInt16) (body : Body)
deriving DecidableEq

/-- A request and what came of it. -/
structure Exchange where
  request : Request
  reply : Reply
deriving DecidableEq

/-- Whether the request reached the server. -/
def Exchange.arrived (e : Exchange) : Bool := e.reply ≠ .unreachable

/-- The exchanges so far, the first one first. -/
abbrev Trace := List Exchange

/-- The requests that reached the server. -/
def Trace.requests (t : Trace) : List Request := (t.filter Exchange.arrived).map (·.request)

/-- What comes of a request behind a trace. -/
abbrev Network := Trace → Request → Reply

/-- No server can be reached. -/
def Network.down : Network := fun _ _ => .unreachable

/-- Sends a request, once. -/
def send (network : Network) (r : Request) : Action Trace Reply := fun trace =>
  let reply := network trace r
  ⟨(reply, trace ++ [⟨r, reply⟩]), []⟩

end EventDetection.Http
