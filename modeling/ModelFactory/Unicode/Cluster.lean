import ModelFactory.Unicode.ClusterTable

/-!
# Clusters of characters

A reader takes several characters for one: a letter with its accents, a syllable of jamo, a flag, a
joined emoji. `clusters` takes a text apart between such clusters, by the rules for extended
grapheme clusters. `flatten_clusters` says that nothing is lost.
-/

set_option autoImplicit false

namespace ModelFactory.Unicode

/-- What a character is for the rules of clusters. -/
inductive ClusterClass where
  | carriageReturn
  | lineFeed
  | control
  | extend
  | joiner
  | regional
  | before
  | spacing
  | leading
  | vowel
  | trailing
  | openSyllable
  | closedSyllable
  | other
deriving DecidableEq

/-- The class of a character. -/
def clusterClass (char : Char) : ClusterClass :=
  let code := char.toNat
  let within (low high : Nat) : Bool := low ≤ code && code ≤ high
  if code = 0xd then .carriageReturn
  else if code = 0xa then .lineFeed
  else if within 0x20 0x7e then .other
  else if code = 0x200d then .joiner
  else if within 0x1f1e6 0x1f1ff then .regional
  else if within 0x1100 0x115f || within 0xa960 0xa97c then .leading
  else if within 0x1160 0x11a7 || within 0xd7b0 0xd7c6 then .vowel
  else if within 0x16d63 0x16d63 || within 0x16d67 0x16d6a then .vowel
  else if within 0x11a8 0x11ff || within 0xd7cb 0xd7fb then .trailing
  else if within 0xac00 0xd7a3 then
    if (code - 0xac00) % 28 = 0 then .openSyllable else .closedSyllable
  else if clusterControl.has code then .control
  else if clusterExtend.has code then .extend
  else if clusterPrepend.has code then .before
  else if clusterSpacingMark.has code then .spacing
  else .other

/-- What the rules need to know of the characters of a cluster so far. -/
structure ClusterState where
  last : ClusterClass
  /-- The cluster ends in an odd number of regional indicators. -/
  oddRegional : Bool
  /-- The cluster ends in a pictograph, with extending characters after it. -/
  pictograph : Bool
  /-- The cluster ends in such a pictograph and a joiner. -/
  joinedPictograph : Bool
  /-- The cluster ends in a consonant, with extending characters after it. -/
  consonant : Bool
  /-- Among the characters after that consonant is one that links. -/
  linked : Bool

/-- The state after the first character of a cluster. -/
def ClusterState.first (char : Char) : ClusterState where
  last := clusterClass char
  oddRegional := clusterClass char == .regional
  pictograph := extendedPictographic.hasChar char
  joinedPictograph := false
  consonant := conjunctConsonant.hasChar char
  linked := false

/-- The state after one more character. -/
def ClusterState.next (state : ClusterState) (char : Char) : ClusterState :=
  let charClass := clusterClass char
  let isConsonant := conjunctConsonant.hasChar char
  let isLinker := conjunctLinker.hasChar char
  let goesOn := isLinker || conjunctExtend.hasChar char
  { last := charClass
    oddRegional := charClass == .regional && !state.oddRegional
    pictograph := extendedPictographic.hasChar char || charClass == .extend && state.pictograph
    joinedPictograph := charClass == .joiner && state.pictograph
    consonant := isConsonant || goesOn && state.consonant
    linked := !isConsonant && goesOn && (state.linked || isLinker && state.consonant) }

/-- The class of a character that always stands alone. -/
def ClusterClass.standsAlone : ClusterClass → Bool
  | carriageReturn | lineFeed | control => true
  | _ => false

/-- Jamo that go on with a syllable. -/
def ClusterClass.goesOnSyllable : ClusterClass → ClusterClass → Bool
  | leading, leading | leading, vowel | leading, openSyllable | leading, closedSyllable => true
  | openSyllable, vowel | openSyllable, trailing | vowel, vowel | vowel, trailing => true
  | closedSyllable, trailing | trailing, trailing => true
  | _, _ => false

/-- The character belongs to the cluster. -/
def ClusterState.takes (state : ClusterState) (char : Char) : Bool :=
  let charClass := clusterClass char
  if state.last = .carriageReturn ∧ charClass = .lineFeed then true
  else if state.last.standsAlone || charClass.standsAlone then false
  else
    state.last.goesOnSyllable charClass
      || charClass == .extend || charClass == .joiner || charClass == .spacing
      || state.last == .before
      || state.consonant && state.linked && conjunctConsonant.hasChar char
      || state.joinedPictograph && extendedPictographic.hasChar char
      || state.oddRegional && charClass == .regional

/-- The clusters of a text after the start of one. -/
def clustersFrom (state : ClusterState) (start : List Char) : List Char → List (List Char)
  | [] => [start]
  | char :: rest =>
    if state.takes char then clustersFrom (state.next char) (start ++ [char]) rest
    else start :: clustersFrom (.first char) [char] rest

/-- The clusters of a text. -/
def clusters : List Char → List (List Char)
  | [] => []
  | char :: rest => clustersFrom (.first char) [char] rest

theorem flatten_clustersFrom (state : ClusterState) (start chars : List Char) :
    (clustersFrom state start chars).flatten = start ++ chars := by
  induction chars generalizing state start with
  | nil => simp [clustersFrom]
  | cons char rest ih =>
    unfold clustersFrom
    split <;> simp [ih]

/-- The clusters of a text make up the text. -/
theorem flatten_clusters (chars : List Char) : (clusters chars).flatten = chars := by
  cases chars with
  | nil => rfl
  | cons char rest => simp [clusters, flatten_clustersFrom]

end ModelFactory.Unicode
