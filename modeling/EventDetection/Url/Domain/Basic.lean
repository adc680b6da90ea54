import EventDetection.Url.Domain.Direction
import EventDetection.Url.Domain.Joiner
import EventDetection.Url.Domain.Mapping
import EventDetection.Url.Punycode

/-!
# Domain names

A domain name consists of labels with dots between them.  It may be given in any script; it is
sent in ASCII, and names that are meant to be the same have one ASCII form.

* `Domain.ascii?`: the ASCII form of a name, if its characters make one.
-/

namespace EventDetection.Url.Domain

/-- A label, and how it is sent. -/
structure Label where
  shown : List Char
  sent : List Char
deriving DecidableEq

/-- The mark of labels in Punycode. -/
def punycodeMark : List Char := ['x', 'n', '-', '-']

def isAscii (cs : List Char) : Bool := cs.all (·.toNat < 0x80)

/-- The greatest number of characters of a label that is not ASCII. -/
def maxShown : Nat := 1000

/-- The greatest number of characters behind the mark of Punycode. -/
def maxPunycode : Nat := 2000

/-- The label of its form in Punycode.  It has to be one that needs this form, and the same as
the name that would be given in its place. -/
def Label.ofPunycode? (cs : List Char) : Option Label := do
  let code := cs.drop punycodeMark.length
  let shown ← if maxPunycode < code.length then none else Punycode.decode? code
  if shown.all isPlain ∧ composed shown = shown ∧ !isAscii shown then
    some { shown, sent := cs }
  else none

/-- The label of a text whose characters are replaced already. -/
def Label.ofText? (cs : List Char) : Option Label :=
  if punycodeMark.isPrefixOf cs then if isAscii cs then Label.ofPunycode? cs else none
  else some { shown := cs, sent := if isAscii cs then cs else punycodeMark ++ Punycode.encode cs }

/-- Whether a label may be shown: no mark is at its start, its joiners fit, and it is not too
long. -/
def Label.isSound (l : Label) : Bool :=
  !l.shown.head?.any isMark && areJoinersFit l.shown &&
    (isAscii l.shown || l.shown.length ≤ maxShown)

/-- The text that a name stands for. -/
def replaced? (cs : List Char) : Option (List Char) := do
  return composed (← cs.mapM replacement?).flatten

/-- The labels of a name. -/
def labels? (cs : List Char) : Option (List Label) := do
  let labels ← (Text.pieces '.' (← replaced? cs)).mapM Label.ofText?
  if labels.all Label.isSound &&
      (!(labels.any fun l => isRightToLeft l.shown) || labels.all fun l => isDirected l.shown) then
    some labels
  else none

/-- The ASCII form of a name. -/
def ascii? (cs : List Char) : Option (List Char) := do
  return ['.'].intercalate ((← labels? cs).map Label.sent)

end EventDetection.Url.Domain
