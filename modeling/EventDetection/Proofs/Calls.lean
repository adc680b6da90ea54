import EventDetection.Browse.Basic
import EventDetection.Onboarding.Basic
import EventDetection.Session.Basic

/-!
# Calls to the outside

A store, a sink or a source may do anything when it is called.  To say how often it is called, and
with what, it is given a list to note its calls in, which nothing else can see.

* `Action.noting`: an action that notes something and does what it did before.
* `ProjectStore.recorded`, `EventSink.recorded`, `ClusterSource.recorded`: a store, a sink and a
  source that note every call.
* `EventSink.noted`, `FeedbackSink.noted`: two sinks that note their calls in one list, so that
  it can be said in which order they are called.
-/

namespace EventDetection

variable {σ α β : Type}

/-- Does the same, beside a list to which `notes` are added. -/
def Action.noting (notes : List α) (a : Action σ β) : Action (σ × List α) β := fun w =>
  let r := a w.1
  ⟨(r.value.1, r.value.2, w.2 ++ notes), r.log⟩

theorem Action.value_noting (notes : List α) (a : Action σ β) (w : σ) (noted : List α) :
    (a.noting notes (w, noted)).value = ((a w).value.1, (a w).value.2, noted ++ notes) := rfl

/-- What a store is asked to do. -/
inductive StoreCall where
  | load (projectId : String)
  | save (p : Project)
deriving DecidableEq

/-- The store with a list of the calls to it, failed ones included. -/
def ProjectStore.recorded (store : ProjectStore σ) : ProjectStore (σ × List StoreCall) where
  load id := (store.load id).noting [.load id]
  save p := (store.save p).noting [.save p]

/-- The sink with a list of the calls to it, failed ones included. -/
def EventSink.recorded (sink : EventSink σ) : EventSink (σ × List (String × List Definition)) where
  addEvents id ds := (sink.addEvents id ds).noting [(id, ds)]

/-- What a source of clusters is asked for. -/
inductive SourceCall where
  | clusterings (projectId : String)
  | clusters (projectId clusteringId : String)
deriving DecidableEq

/-- The source with a list of the calls to it, failed ones included. -/
def ClusterSource.recorded (source : ClusterSource σ) : ClusterSource (σ × List SourceCall) where
  clusterings id := (source.clusterings id).noting [.clusterings id]
  clusters id clusteringId := (source.clusters id clusteringId).noting [.clusters id clusteringId]

/-- What the sinks of onboarding are asked to do. -/
inductive SinkCall where
  | addEvents (projectId : String) (events : List Definition)
  | send (f : Feedback)
deriving DecidableEq

/-- The sink of events with a list of the calls to both sinks. -/
def EventSink.noted (sink : EventSink σ) : EventSink (σ × List SinkCall) where
  addEvents id ds := (sink.addEvents id ds).noting [.addEvents id ds]

/-- The sink of feedback with a list of the calls to both sinks. -/
def FeedbackSink.noted (sink : FeedbackSink σ) : FeedbackSink (σ × List SinkCall) where
  send f := (sink.send f).noting [.send f]

end EventDetection
