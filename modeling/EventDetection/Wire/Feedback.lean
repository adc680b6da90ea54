import EventDetection.Json.Record
import EventDetection.Onboarding.Feedback

/-!
# JSON form of feedback
-/

namespace EventDetection

open Json (Codec Fields)

def FeedbackFlag.wireName : FeedbackFlag → String
  | .success => "success"
  | .failure => "failure"

def FeedbackFlag.codec : Codec FeedbackFlag := .tag [.success, .failure] FeedbackFlag.wireName

def FeedbackSource.wireName : FeedbackSource → String
  | .user => "user"

def FeedbackSource.codec : Codec FeedbackSource := .tag [.user] FeedbackSource.wireName

namespace Feedback

def fields : Fields (String × String × FeedbackFlag × FeedbackSource × String × Unit) :=
  .required "taskId" .string <|
  .required "projectId" .string <|
  .required "flag" FeedbackFlag.codec <|
  .required "source" FeedbackSource.codec <|
  .required "notes" .string .nil

def codec : Codec Feedback :=
  (Codec.record "UserFeedback" fields).convert
    (fun (taskId, projectId, flag, source, notes, ()) => { taskId, projectId, flag, source, notes })
    (fun f => (f.taskId, f.projectId, f.flag, f.source, f.notes, ()))

end Feedback

end EventDetection
