import Fieldwork.Text.ClusterTable
import Fieldwork.Text.Range

/-!
# Grapheme clusters

What a reader takes for one character may be several: a letter and its accents, a Hangul syllable,
a flag, pictographs joined into one picture. A text is cut between two characters unless one of the
rules for extended grapheme clusters joins them.
-/

namespace Fieldwork.Text

/-- The part that a character takes in a cluster. -/
inductive ClusterRole where
  | carriageReturn
  | lineFeed
  | control
  | extend
  | joiner
  | spacing
  | leadingSign
  | leadingJamo
  | vowelJamo
  | trailingJamo
  | openSyllable
  | closedSyllable
  | regional
  | pictograph
  | other
  deriving DecidableEq, Repr

/-- The part of a character in a Hangul syllable; an open syllable has no trailing consonant. -/
def hangulRole? (c : Char) : Option ClusterRole :=
  if inRanges [(0x1100, 0x115F), (0xA960, 0xA97C)] c then some .leadingJamo
  else if inRanges [(0x1160, 0x11A7), (0xD7B0, 0xD7C6), (0x16D63, 0x16D63), (0x16D67, 0x16D6A)] c
  then some .vowelJamo
  else if inRanges [(0x11A8, 0x11FF), (0xD7CB, 0xD7FB)] c then some .trailingJamo
  else if inRanges [(0xAC00, 0xD7A3)] c then
    some (if (c.toNat - 0xAC00) % 28 = 0 then .openSyllable else .closedSyllable)
  else none

def clusterRole (c : Char) : ClusterRole :=
  if c = '\r' then .carriageReturn
  else if c = '\n' then .lineFeed
  else if inRanges controlRanges c then .control
  else if c = '\u200D' then .joiner
  else if inRanges extendRanges c then .extend
  else if inRanges spacingRanges c then .spacing
  else if inRanges leadingSignRanges c then .leadingSign
  else if inRanges [(0x1F1E6, 0x1F1FF)] c then .regional
  else if inRanges pictographRanges c then .pictograph
  else (hangulRole? c).getD .other

/-- A sign that may stand between a consonant and the next one of the same conjunct. -/
def isConjunctSign (c : Char) : Bool :=
  match clusterRole c with
  | .extend => c != '\u200C'
  | role => role == .joiner

/-! In these conditions `before` holds the characters to the left, nearest first. -/

/-- On the left stands a consonant and then signs with a linker among them. -/
def endsInLinkedConsonant (before : List Char) : Bool :=
  (before.takeWhile isConjunctSign).any (inRanges conjunctLinkerRanges) &&
    (before.dropWhile isConjunctSign).head?.any (inRanges conjunctConsonantRanges)

/-- On the left stands a pictograph, perhaps with marks. -/
def endsInPictograph (before : List Char) : Bool :=
  (before.dropWhile fun c => clusterRole c == .extend).head?.any fun c =>
    clusterRole c == .pictograph

/-- Regional indicators pair up from the left; here the last one has no partner yet. -/
def endsInOddRegional (before : List Char) : Bool :=
  (before.takeWhile fun c => clusterRole c == .regional).length % 2 == 1

/-- Whether a character belongs to the cluster that the ones before it are in. -/
def joinsCluster (before : List Char) (c : Char) : Bool :=
  match before with
  | [] => false
  | b :: rest =>
    match clusterRole b, clusterRole c with
    | .carriageReturn, .lineFeed => true
    | .carriageReturn, _ | .lineFeed, _ | .control, _ => false
    | _, .carriageReturn | _, .lineFeed | _, .control => false
    | _, .extend | _, .joiner | _, .spacing => true
    | .leadingSign, _ => true
    | .leadingJamo, .leadingJamo | .leadingJamo, .vowelJamo => true
    | .leadingJamo, .openSyllable | .leadingJamo, .closedSyllable => true
    | .vowelJamo, .vowelJamo | .vowelJamo, .trailingJamo => true
    | .openSyllable, .vowelJamo | .openSyllable, .trailingJamo => true
    | .closedSyllable, .trailingJamo | .trailingJamo, .trailingJamo => true
    | .joiner, .pictograph => endsInPictograph rest
    | .regional, .regional => endsInOddRegional before
    | _, _ => inRanges conjunctConsonantRanges c && endsInLinkedConsonant before

/-- `started` is the cluster that is not finished yet, its last character first. -/
def clustersFrom (started : List Char) : List Char → List (List Char)
  | [] => if started.isEmpty then [] else [started.reverse]
  | c :: rest =>
    if started.isEmpty || joinsCluster started c then clustersFrom (c :: started) rest
    else started.reverse :: clustersFrom [c] rest

def clusters (cs : List Char) : List (List Char) :=
  clustersFrom [] cs

end Fieldwork.Text
