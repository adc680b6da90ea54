import EventDetection.Platform.Error
import EventDetection.Wire.Cluster
import EventDetection.Wire.Definition
import EventDetection.Wire.Feedback

/-!
# Clients

A client makes calls to the platform or to the telemetry service.  Each call sends one
request at most: none if no request can be made of the address and the token, and none
again after an answer.  Redirects are not followed.

* `Client.request`: the request of a call.
* `Client.call`: an answer with a status from 200 to 299 is a success, any other one is
  refused with its body.
-/

namespace EventDetection

open Http (Body Method Network Reply Request Trace)
open Json (Codec)

/-- A client of a service. -/
structure Client where
  base : String
  token : String
deriving DecidableEq

namespace Client

/-- A client of the service at an address; slashes at its end do not matter. -/
def ofAddress (address token : String) : Client where
  base := String.ofList (address.toList.reverse.dropWhile (· = '/')).reverse
  token := token

/-! ### Requests -/

/-- Whether a token can be sent in a header: its only control character is the tab. -/
def isSendable (token : String) : Bool :=
  token.toList.all fun c => c = '\t' || (0x20 ≤ c.toNat && c.toNat ≠ 0x7F)

/-- The greatest length of a URL, in bytes. -/
def maxUrlLength : Nat := 65534

/-- Whether a host may be named in a request. -/
def isHostSendable : Option Url.Host → Bool
  | some (.name cs) => cs.all fun c => c ∉ ['"', '\x60', '\x7b', '\x7d']
  | _ => true

/-- Whether a request can be sent to a URL. -/
def isTarget (u : Url) : Bool :=
  (u.scheme = Url.http || u.scheme = Url.https) && isHostSendable u.host &&
    u.text.utf8ByteSize ≤ maxUrlLength

/-- The URL without its user and password, which go into a header if they are text. -/
def withoutLogin (u : Url) : Url :=
  match Url.decodeText? u.user with
  | none => u
  | some user =>
    if user.isEmpty && (u.password.isEmpty || (Url.decodeText? u.password).isNone) then u
    else u.withoutLogin

/-- The request of a call.  The address has to be a URL with a host, then the token has to fit
into a header, and then the URL has to be one of the web. -/
def request (c : Client) (method : Method) (path : String) (body : Option String) :
    Except ClientError Request :=
  match Url.parse? (c.base ++ path) with
  | none => .error (.unusable none)
  | some u =>
    let u := withoutLogin u
    if !u.hasHost then .error (.unusable (some u))
    else if !isSendable c.token then .error (.unusable none)
    else if !isTarget u then .error (.unusable (some u))
    else .ok { method, url := u, token := c.token, body }

/-! ### Answers -/

/-- Whether a status means success. -/
def isSuccess (status : UInt16) : Bool := 200 ≤ status && status < 300

/-- The text of a body that is shown; one that is cut off is not. -/
def shownText : Body → String
  | .whole t => t
  | .cutOff => ""

/-- The body of a successful answer. -/
def accept (url : Url) : Reply → Except ClientError Body
  | .unreachable | .dropped => .error (.noAnswer url)
  | .answered status body =>
    if isSuccess status then .ok body else .error (.refused status (shownText body))

/-- Reads a body. -/
def readBody {α : Type} (c : Codec α) : Body → Except ClientError α
  | .whole t => (c.read t).mapError .unreadable
  | .cutOff => .error .cutOff

/-! ### Calls -/

/-- Makes a call and returns the body of its answer. -/
def call (c : Client) (network : Network) (method : Method) (path : String)
    (body : Option String) : Action Trace (Except ClientError Body) := do
  match c.request method path body with
  | .error e => return .error e
  | .ok r => return accept r.url (← Http.send network r)

/-- The number of clusters that are asked for. -/
def clusterLimit : Nat := 100

def addEventsBody (events : List Definition) : String :=
  (Json.Value.object [("events", Definition.codec.list.write events)]).compact

def clustersBody (clusteringId : String) : String :=
  (Json.Value.object [("clustering_id", .string clusteringId),
    ("limit", .number (.integer clusterLimit))]).compact

def projectPath (projectId : String) : String := "/api/projects/" ++ projectId

def addEventsPath (projectId : String) : String := projectPath projectId ++ "/add-events"

def clusteringsPath (projectId : String) : String := "/api/explore/" ++ projectId ++ "/clusterings"

def clustersPath (projectId : String) : String := "/api/explore/" ++ projectId ++ "/clusters"

def flagPath (taskId : String) : String := "/tasks/" ++ taskId ++ "/flag"

/-- Asks for a project. -/
def getProject (c : Client) (network : Network) (projectId : String) :
    Action Trace (Except ClientError Project) := do
  let answer ← c.call network .get (projectPath projectId) none
  return answer.bind (readBody Project.answerCodec)

/-- Sends a whole project; the last one sent counts. -/
def saveProject (c : Client) (network : Network) (p : Project) :
    Action Trace (Except ClientError Unit) := do
  Action.event (.savingProject p.id)
  let answer ← c.call network .post (projectPath p.id) (some (Project.codec.text p))
  return answer.map fun _ => ()

/-- Adds events to a project. -/
def addEvents (c : Client) (network : Network) (projectId : String) (events : List Definition) :
    Action Trace (Except ClientError Unit) := do
  Action.event (.addingEvents projectId events.length)
  let answer ← c.call network .post (addEventsPath projectId) (some (addEventsBody events))
  return answer.map fun _ => ()

/-- Asks for the clusterings of a project, the latest first. -/
def listClusterings (c : Client) (network : Network) (projectId : String) :
    Action Trace (Except ClientError (List Clustering)) := do
  let answer ← c.call network .post (clusteringsPath projectId) none
  match answer.bind (readBody Clustering.answerCodec) with
  | .error e => return .error e
  | .ok cs =>
    Action.event (.clusteringsFetched projectId cs.length)
    return .ok cs

/-- Asks for the clusters of a clustering. -/
def listClusters (c : Client) (network : Network) (projectId clusteringId : String) :
    Action Trace (Except ClientError (List Cluster)) := do
  let answer ← c.call network .post (clustersPath projectId) (some (clustersBody clusteringId))
  match answer.bind (readBody Cluster.answerCodec) with
  | .error e => return .error e
  | .ok cs =>
    Action.event (.clustersFetched projectId clusteringId cs.length)
    return .ok cs

/-- Sends feedback to the telemetry service. -/
def sendFeedback (c : Client) (network : Network) (f : Feedback) :
    Action Trace (Except ClientError Unit) := do
  let answer ← c.call network .post (flagPath f.taskId) (some (Feedback.codec.text f))
  return answer.map fun _ => ()

end Client

end EventDetection
