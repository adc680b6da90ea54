import EventDetection.Text.Mark
import EventDetection.Text.Unassigned

/-!
# Characters that came later

Domain names follow a later edition of the character database than quoted text.  It has more
characters, and some marks are of another kind.

* `Domain.isAssigned`: whether a code point has a character.
* `Domain.isMark` and `Domain.isNonspacing`: whether a character is a mark, and of which kind.
-/

namespace EventDetection.Url.Domain

open Text (CharSet)

/-- Characters that came later. -/
def laterAssigned : CharSet where
  ranges := [
    (0x558, 0x558), (0x58B, 0x58C), (0x5C8, 0x5CB), (0xB53, 0xB54), (0x1ADE, 0x1ADF),
    (0x1AEC, 0x1AF7), (0x208F, 0x208F), (0x209D, 0x209F), (0x20C2, 0x20C4), (0x2E60, 0x2E63),
    (0xA7DD, 0xA7E2), (0xAB6C, 0xAB6D), (0x107BB, 0x107BF), (0x10ECA, 0x10ECF), (0x10ED9, 0x10EDD),
    (0x10EF0, 0x10EF9), (0x11B0A, 0x11B13), (0x12475, 0x1247F), (0x12550, 0x12686),
    (0x18CD6, 0x18CDA), (0x18D1F, 0x18D20), (0x18E00, 0x19191), (0x191A0, 0x191D2),
    (0x1B123, 0x1B128), (0x1CED1, 0x1CEDF), (0x1CEF1, 0x1CEFF), (0x1D127, 0x1D128),
    (0x1D1EB, 0x1D1FF), (0x1D250, 0x1D281), (0x1DB00, 0x1DB1C), (0x1DF1F, 0x1DF24),
    (0x1DF2B, 0x1DF81), (0x1DF90, 0x1DF96), (0x1DFCD, 0x1DFFF), (0x1F1AE, 0x1F1AE),
    (0x1F6D9, 0x1F6D9), (0x1F7DA, 0x1F7DF), (0x1F7F1, 0x1F7F8), (0x1FA8B, 0x1FA8D),
    (0x1FACC, 0x1FACC), (0x1FADD, 0x1FADD), (0x1FAEB, 0x1FAEB), (0x1FAF9, 0x1FAFA),
    (0x2B81E, 0x2B81E), (0x3D000, 0x3FC3F)]

/-- Marks among them that take no room of their own. -/
def laterNonspacing : CharSet where
  ranges := [
    (0x5C8, 0x5CB), (0xB53, 0xB54), (0x1ADE, 0x1ADF), (0x1AEC, 0x1AF7), (0x10ECB, 0x10ECF),
    (0x10EF0, 0x10EF9), (0x1D25B, 0x1D25D)]

/-- Marks among them that stand beside the character before them. -/
def laterSpacing : CharSet where
  ranges := [
    (0x1D250, 0x1D253), (0x1D25E, 0x1D25F), (0x1D280, 0x1D281)]

/-- Marks that stand beside the character before them in the later edition only. -/
def widenedMarks : CharSet where
  ranges := [
    (0x1B3A, 0x1B3A), (0x1B3C, 0x1B3C), (0x1B42, 0x1B42)]

/-- Whether a code point has a character. -/
def isAssigned (c : Char) : Bool := laterAssigned.contains c || !Text.unassigned.contains c

/-- Whether a character is a mark that takes no room of its own. -/
def isNonspacing (c : Char) : Bool :=
  laterNonspacing.contains c || (Text.nonspacing.contains c && !widenedMarks.contains c)

/-- Whether a character is a mark. -/
def isMark (c : Char) : Bool :=
  laterNonspacing.contains c || laterSpacing.contains c || Text.isMark c

end EventDetection.Url.Domain
