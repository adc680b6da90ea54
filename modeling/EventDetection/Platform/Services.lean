import EventDetection.Browse.Basic
import EventDetection.Onboarding.Basic
import EventDetection.Platform.Client
import EventDetection.Session.Basic

/-!
# The services behind a client

A client is a store of projects, a sink of events and of feedback, and a source of
clusters.  The reason of a failure is its message.
-/

namespace EventDetection.Client

open Http (Network Trace)

def reason {α : Type} (r : Except ClientError α) : Except String α := r.mapError ClientError.message

def projectStore (c : Client) (network : Network) : ProjectStore Trace where
  load id := do return reason (← c.getProject network id)
  save p := do return reason (← c.saveProject network p)

def eventSink (c : Client) (network : Network) : EventSink Trace where
  addEvents id ds := do return reason (← c.addEvents network id ds)

def clusterSource (c : Client) (network : Network) : ClusterSource Trace where
  clusterings id := do return reason (← c.listClusterings network id)
  clusters id clusteringId := do return reason (← c.listClusters network id clusteringId)

def feedbackSink (c : Client) (network : Network) : FeedbackSink Trace where
  send f := do return reason (← c.sendFeedback network f)

end EventDetection.Client
