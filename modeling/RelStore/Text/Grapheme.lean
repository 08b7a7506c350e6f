import RelStore.Text.Grapheme.Class

/-!
Clusters: the parts of a text that a reader takes for one character each, such as a letter with
its accents, a syllable, a flag or a family of pictographs. They are the extended grapheme
clusters of Unicode; `flatten_clusters` says that they make up the text.
-/

namespace RelStore.Text
set_option autoImplicit false

/-- How much of a sequence of joined pictographs stands before a place in a text. -/
inductive PictographRun where
  | none
  | begun
  /-- The same with a joiner after it. -/
  | joined
deriving DecidableEq

/-- How much of a conjunct stands before a place in a text. -/
inductive ConjunctRun where
  | none
  | begun
  | linked
deriving DecidableEq

/-- What decides, at a place in a text, whether a cluster may go on. -/
structure BreakState where
  last : BreakClass
  pictographs : PictographRun
  conjunct : ConjunctRun
  oddFlags : Bool

namespace BreakState

def initial : BreakState :=
  ⟨.other, .none, .none, false⟩

def joins (s : BreakState) (k : BreakClass) : Bool :=
  match s.last, k with
  | .carriageReturn, .lineFeed => true
  | .control, _ | .carriageReturn, _ | .lineFeed, _ => false
  | _, .control | _, .carriageReturn | _, .lineFeed => false
  | .hangulLeading, .hangulLeading | .hangulLeading, .hangulVowel => true
  | .hangulLeading, .hangulOpen | .hangulLeading, .hangulClosed => true
  | .hangulOpen, .hangulVowel | .hangulOpen, .hangulTrailing => true
  | .hangulVowel, .hangulVowel | .hangulVowel, .hangulTrailing => true
  | .hangulClosed, .hangulTrailing | .hangulTrailing, .hangulTrailing => true
  | _, .extend | _, .linker | _, .nonJoiner | _, .joiner | _, .spacing => true
  | .prepend, _ => true
  | _, .consonant => s.conjunct == .linked
  | _, .pictograph => s.pictographs == .joined
  | .flag, .flag => s.oddFlags
  | _, _ => false

def next (s : BreakState) (k : BreakClass) : BreakState where
  last := k
  pictographs :=
    match k, s.pictographs with
    | .pictograph, _ => .begun
    | .extend, .begun | .linker, .begun | .nonJoiner, .begun => .begun
    | .joiner, .begun => .joined
    | _, _ => .none
  conjunct :=
    match k, s.conjunct with
    | .consonant, _ => .begun
    | .linker, .begun | .linker, .linked => .linked
    | .extend, run | .joiner, run => run
    | _, _ => .none
  oddFlags := k == .flag && !s.oddFlags

end BreakState

/-- The clusters of a text; `cluster` is the one read so far, reversed. -/
def clustersFrom (s : BreakState) (cluster : List Char) : List Char → List (List Char)
  | [] => if cluster.isEmpty then [] else [cluster.reverse]
  | c :: rest =>
    let k := breakClass c
    if cluster.isEmpty || s.joins k then clustersFrom (s.next k) (c :: cluster) rest
    else cluster.reverse :: clustersFrom (s.next k) [c] rest

def clusters (text : List Char) : List (List Char) :=
  clustersFrom .initial [] text

theorem flatten_clustersFrom (s : BreakState) (cluster text : List Char) :
    (clustersFrom s cluster text).flatten = cluster.reverse ++ text := by
  induction text generalizing s cluster with
  | nil => cases cluster <;> simp [clustersFrom]
  | cons c rest ih =>
    simp only [clustersFrom]
    split <;> simp [ih]

theorem flatten_clusters (text : List Char) : (clusters text).flatten = text := by
  simp [clusters, flatten_clustersFrom]

end RelStore.Text
