import EventDetection.Http.Exchange
import EventDetection.Json.Error

/-!
# Failures of a client
-/

namespace EventDetection

/-- Why a call to a service fails. -/
inductive ClientError where
  /-- no request can be made; the URL is told where it is what cannot be used -/
  | unusable (url : Option Url)
  | noAnswer (url : Url)
  | refused (status : UInt16) (body : String)
  | unreadable (reason : Json.ReadError)
  /-- the answer ended too early -/
  | cutOff
deriving DecidableEq

/-- The kinds of failures of a call. -/
inductive ClientErrorKind where
  | network
  | api
  | parse
deriving DecidableEq

namespace ClientError

def kind : ClientError → ClientErrorKind
  | .unusable _ | .noAnswer _ => .network
  | .refused .. => .api
  | .unreadable _ | .cutOff => .parse

def message : ClientError → String
  | .unusable none => "Network error: builder error"
  | .unusable (some u) => "Network error: builder error for url (" ++ u.text ++ ")"
  | .noAnswer u => "Network error: error sending request for url (" ++ u.text ++ ")"
  | .refused status body => "API error (status " ++ toString status.toNat ++ "): " ++ body
  | .unreadable reason => "Parse error: " ++ reason.message
  | .cutOff => "Parse error: error decoding response body"

end ClientError

end EventDetection
