import EventDetection.Form.Values
import EventDetection.Json.Record

/-!
# JSON forms of scores and labels
-/

namespace EventDetection

open Json (Codec Fields ReadError Value)

def ScoreType.wireName : ScoreType → String
  | .confidence => "confidence"
  | .range => "range"
  | .category => "category"

def ScoreType.codec : Codec ScoreType :=
  .tag [.confidence, .range, .category] ScoreType.wireName

namespace ScoreRange

def fields : Fields (ScoreType × Int64 × Int64 × List String × Unit) :=
  .required "score_type" ScoreType.codec <|
  .required "min" .int64 <|
  .required "max" .int64 <|
  .withDefault "categories" Codec.string.list [] .nil

def codec : Codec ScoreRange :=
  (Codec.record "ScoreRangeSettings" fields).convert
    (fun (t, least, greatest, labels, ()) => ⟨t, least, greatest, labels⟩)
    (fun s => (s.scoreType, s.min, s.max, s.categories, ()))

end ScoreRange

namespace Categories

/-- Labels are a list of strings or one string. -/
def ofValue (v : Value) : Except ReadError Categories :=
  match Codec.string.list.ofValue v with
  | .ok items => .ok (.list items)
  | .error _ =>
    match v with
    | .string t => .ok (.text t)
    | _ => .error (.noVariant "CategoriesInput")

def codec : Codec Categories where
  write
    | .list items => Codec.string.list.write items
    | .text t => .string t
  ofValue := ofValue
  scan room cs := do
    let (v, rest) ← Json.scanValue room cs
    return (← ofValue v, rest)

end Categories

namespace ScoreInput

def fields : Fields (ScoreType × Categories × Unit) :=
  .required "score_type" ScoreType.codec <|
  .withDefault "categories" Categories.codec .none .nil

def codec : Codec ScoreInput :=
  (Codec.record "ScoreRangeInput" fields).convert
    (fun (t, c, ()) => ⟨t, c⟩) (fun s => (s.scoreType, s.categories, ()))

end ScoreInput

end EventDetection
