import EventDetection.Dict
import EventDetection.Json.Binary64

/-!
# JSON values

The members of an object are kept in a list.  Reading lists them in the order of
their names, one per name (`Value.ofDict`); a record is written with its members in
the order in which it declares them.
-/

namespace EventDetection.Json

/-- A JSON number: an integer, if it fits a signed or an unsigned 64-bit word, or else a
floating point number. -/
inductive Number where
  | integer (n : Int)
  | real (x : Binary64)
deriving DecidableEq

/-- A JSON value. -/
inductive Value where
  | null
  | bool (b : Bool)
  | number (n : Number)
  | string (s : String)
  | array (items : List Value)
  | object (members : List (String × Value))
deriving Inhabited

namespace Value

mutual

/-- Values are compared part by part. -/
def decEq : (a b : Value) → Decidable (a = b)
  | .null, .null => isTrue rfl
  | .bool a, .bool b => decidable_of_iff (a = b) (by simp)
  | .number a, .number b => decidable_of_iff (a = b) (by simp)
  | .string a, .string b => decidable_of_iff (a = b) (by simp)
  | .array a, .array b =>
    match decEqItems a b with
    | isTrue h => isTrue (congrArg _ h)
    | isFalse h => isFalse fun e => h (Value.array.inj e)
  | .object a, .object b =>
    match decEqMembers a b with
    | isTrue h => isTrue (congrArg _ h)
    | isFalse h => isFalse fun e => h (Value.object.inj e)
  | .null, .bool _ | .null, .number _ | .null, .string _ | .null, .array _ | .null, .object _
  | .bool _, .null | .bool _, .number _ | .bool _, .string _ | .bool _, .array _
  | .bool _, .object _
  | .number _, .null | .number _, .bool _ | .number _, .string _ | .number _, .array _
  | .number _, .object _
  | .string _, .null | .string _, .bool _ | .string _, .number _ | .string _, .array _
  | .string _, .object _
  | .array _, .null | .array _, .bool _ | .array _, .number _ | .array _, .string _
  | .array _, .object _
  | .object _, .null | .object _, .bool _ | .object _, .number _ | .object _, .string _
  | .object _, .array _ => isFalse nofun

/-- Equality of two lists of items. -/
def decEqItems : (a b : List Value) → Decidable (a = b)
  | [], [] => isTrue rfl
  | [], _ :: _ | _ :: _, [] => isFalse nofun
  | x :: xs, y :: ys =>
    match decEq x y, decEqItems xs ys with
    | isTrue h, isTrue k => isTrue (by rw [h, k])
    | isFalse h, _ => isFalse fun e => h (List.cons.inj e).1
    | _, isFalse k => isFalse fun e => k (List.cons.inj e).2

/-- Equality of two lists of members. -/
def decEqMembers : (a b : List (String × Value)) → Decidable (a = b)
  | [], [] => isTrue rfl
  | [], _ :: _ | _ :: _, [] => isFalse nofun
  | (j, x) :: xs, (k, y) :: ys =>
    match decEq x y, decEqMembers xs ys with
    | isTrue h, isTrue h' =>
      if hk : j = k then isTrue (by rw [h, h', hk])
      else isFalse fun e => hk (Prod.mk.inj (List.cons.inj e).1).1
    | isFalse h, _ => isFalse fun e => h (Prod.mk.inj (List.cons.inj e).1).2
    | _, isFalse h => isFalse fun e => h (List.cons.inj e).2

end

instance : DecidableEq Value := decEq

/-- The object with the entries of a dictionary, in the order of their names. -/
def ofDict (d : Dict Value) : Value := .object d.entries

/-- The value of a member of an object. -/
def member? (name : String) : Value → Option Value
  | .object members => Dict.find name members
  | _ => none

mutual

/-- The value with the members of every object listed in the order of their names; of
several with one name the last stays. -/
def inOrder : Value → Value
  | .array items => .array (inOrderItems items)
  | .object members => ofDict (Dict.ofList (inOrderMembers members))
  | v => v

def inOrderItems : List Value → List Value
  | [] => []
  | v :: vs => v.inOrder :: inOrderItems vs

def inOrderMembers : List (String × Value) → List (String × Value)
  | [] => []
  | (k, v) :: ms => (k, v.inOrder) :: inOrderMembers ms

end

end Value

end EventDetection.Json
