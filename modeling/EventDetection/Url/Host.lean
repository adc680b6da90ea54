import EventDetection.Url.Address
import EventDetection.Url.Domain.Basic

/-!
# Hosts

The host of a URL is a name or an address.  Names of the web are domain names in ASCII; those
of other schemes are kept, with the characters encoded that need it.
-/

namespace EventDetection.Url

/-- The host of a URL.  An empty name is no host. -/
inductive Host where
  | name (text : List Char)
  | fourBytes (address : UInt32)
  | eightWords (words : List UInt16)
deriving DecidableEq

namespace Host

def text : Host → List Char
  | .name cs => cs
  | .fourBytes a => fourBytesText a
  | .eightWords ws => '[' :: (eightWordsText ws ++ [']'])

/-- Characters that no name may have. -/
def forbidden (c : Char) : Bool :=
  c ∈ ['\x00', '\t', '\n', '\r', ' ', '#', '/', ':', '<', '>', '?', '@', '[', '\\', ']', '^', '|']

/-- Characters that no name of the web may have. -/
def forbiddenInDomain (c : Char) : Bool :=
  forbidden c || c.toNat < 0x20 || c = '%' || c = '\x7f'

/-- An address in brackets. -/
def parseBracketed? (cs : List Char) : Option Host :=
  if cs.getLast? = some ']' then (parseEightWords? cs.dropLast).map .eightWords else none

/-- The host of a scheme of the web. -/
def parseDomain? (cs : List Char) : Option Host := do
  let name ← Domain.ascii? (← decodeText? cs)
  if name.isEmpty ∨ name.any forbiddenInDomain then none
  else if endsInNumber name then (parseFourBytes? name).map .fourBytes
  else some (.name name)

/-- The host of any other scheme. -/
def parseOther? (cs : List Char) : Option Host :=
  if cs.any forbidden then none else some (.name (encode controlSet cs))

/-- The host that a text stands for. -/
def parse? (special : Bool) : List Char → Option Host
  | '[' :: cs => parseBracketed? cs
  | cs => if special then parseDomain? cs else parseOther? cs

end Host

end EventDetection.Url
