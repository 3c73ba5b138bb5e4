import ProbeLifecycle.Text.CaseFolding
import ProbeLifecycle.Text.Composition
import ProbeLifecycle.Text.Direction
import ProbeLifecycle.Text.Joining
import ProbeLifecycle.Text.NameMapping
import ProbeLifecycle.Text.Printable
import ProbeLifecycle.Text.Punycode

/-!
# Domain names

A domain is a sequence of labels with dots between them.  It may be given with
characters outside ASCII, which are mapped and composed, and each label that has
such characters then is encoded in one that begins with `xn--`.  A label that
begins so, however it was given, has to stand for one that is fit for a name: in
its one canonical form, without characters that could be mistaken for others, and
in agreement with the other labels on the direction in which it is read.
-/

namespace ProbeLifecycle.Domain

open Text

/-- What begins a label that stands for another one. -/
def encodedStart : List Char := ['x', 'n', '-', '-']

/-- The longest text after the start of an encoded label that is read. -/
def longestEncoded : Nat := 2000

/-- The longest label that an encoded label may stand for. -/
def longestDecoded : Nat := 1000

/-- Characters that may occur in a label although case folding replaces or
drops them: letters that would lose a distinction, and the two joiners. -/
def keptVariants : List Char :=
  ['ß', 'ς', joiner, nonJoiner]

/-- Characters that may not occur in a label although case folding leaves them
alone: signs that describe ideographs, the ideographic full stop, and the two
characters that stand for missing ones. -/
def refusedRanges : CodePointRanges :=
  [(0x2FF0, 0x2FFF), (0x31EF, 0x31EF), (0x3002, 0x3002), (0xFFFC, 0xFFFD)]

/-- Characters of a later edition of the character set, which names may hold
although quotation still takes them for unassigned. -/
def laterRanges : CodePointRanges :=
  [(0x5C8, 0x5C8), (0xB53, 0xB53), (0x1AEC, 0x1AEC), (0x208F, 0x208F),
   (0x2E5E, 0x2E60), (0x10ED9, 0x10EEE), (0x11DF0, 0x11DF0),
   (0x12550, 0x12686), (0x16D80, 0x16DA8), (0x18E00, 0x19191),
   (0x191A0, 0x191D2), (0x1B123, 0x1B127), (0x1D127, 0x1D128),
   (0x1D1EB, 0x1D1EB), (0x1D25B, 0x1D25B), (0x1DB00, 0x1DB00),
   (0x1DF1F, 0x1DF24), (0x1DF2B, 0x1DF96), (0x1F6D9, 0x1F6D9),
   (0x1F7F1, 0x1F7F1), (0x1FADD, 0x1FADD), (0x3D000, 0x3FC3F)]

/-- Whether a character may occur in a label that has characters outside
ASCII. -/
def isLabelChar (char : Char) : Bool :=
  keptVariants.contains char ||
    (!isFoldedAway char && !inRanges refusedRanges char.toNat &&
      (!inRanges unprintableRanges char.toNat || inRanges laterRanges char.toNat))

/-- Whether a label that has been decoded is fit for a name. -/
def isFitLabel (label : List Char) : Bool :=
  label.any (fun char => 0x80 ≤ char.toNat) && label.length ≤ longestDecoded &&
    label.all isLabelChar && isComposed label && !label.head?.any isMark &&
    joinersMatter label

/-- The label that an encoded label stands for, if it is fit for a name; other
labels stand for themselves. -/
def shownLabel? (label : List Char) : Option (List Char) :=
  if encodedStart.isPrefixOf label then
    let encoded := label.drop encodedStart.length
    if longestEncoded < encoded.length then none
    else (decodePunycode? encoded).filter isFitLabel
  else some label

/-- A label in ASCII characters, unless it begins as an encoded one and cannot be
one for its characters. -/
def asciiLabel (label : List Char) : List Char :=
  if label.all (fun char => char.toNat < 0x80) || encodedStart.isPrefixOf label then label
  else encodedStart ++ encodePunycode label

/-- The form of a domain in which hosts are named. -/
def asciiForm (domain : List Char) : List Char :=
  if domain.all fun char => char.toNat < 0x80 then domain.map Char.toLower
  else
    ['.'].intercalate
      (((composed (domain.flatMap nameChars)).splitOn '.').map asciiLabel)

/-- Whether a domain in its ASCII form names what can be a host. -/
def isFit (domain : List Char) : Bool :=
  ((domain.splitOn '.').mapM shownLabel?).any directionsAgree

example : isFit "a.xn--bcher-kva.".toList = true := by decide +kernel

example : asciiForm "Bu\u0308cher。Example".toList = "xn--bcher-kva.example".toList := by
  decide +kernel

example : isAscendingFrom 0 laterRanges = true := by decide +kernel

example : isFit "xn--a".toList = false := by decide +kernel

end ProbeLifecycle.Domain
