import ScopeCheck.Grammar.Document
import ScopeCheck.Rule.Basic

/-!
# The parts of a grammar that become rules

A `Part` is a grammar, an entry, or the patterns inside a capture, together with what is around
it.  Its `key` says where it is written, so that a part that is met twice is known again.  A map of
captures may be in use twice, for the begin and for the end of a region; then the patterns inside
its captures are two parts.

* `Library.included` finds the part that an include names.
* `Part.patterns` are the parts that are tried inside a part.
* `Part.tasks` are the visits and checks that compiling a part leads to, in order.
-/

namespace ScopeCheck

open ScopeCheck.Text

/-- Where an entry is written: its grammar, and the steps that lead to it, the last one first. -/
structure Place where
  scope : String
  path : List Step
  deriving DecidableEq, Inhabited, Repr

/-- What a part is known by.  For the patterns of a capture this includes which captures it is
one of. -/
inductive Key
  | root (scope : String)
  | entry (place : Place)
  | contents (which : CaptureMap) (place : Place)
  deriving DecidableEq, Inhabited, Repr

/-- A repository, with the steps to the entry that has it; there are none for the repository of
a grammar. -/
structure Repository where
  owner : List Step
  entries : List (String × Entry)
  deriving Inhabited

/-- What is around an entry: its grammar and the repositories, innermost first. -/
structure Surroundings where
  scope : String
  repositories : List Repository
  deriving Inhabited

/-- Finds a name in the innermost repository that has it. -/
def findNamed (name : String) : List Repository → Option (List Step × Entry)
  | [] => none
  | r :: outer =>
    match Dictionary.find? name r.entries with
    | some e => some (.repository name :: r.owner, e)
    | none => findNamed name outer

/-- What becomes a rule. -/
inductive Part
  /-- The patterns of a grammar. -/
  | root (scope : String) (document : Document)
  /-- An entry with what is around it. -/
  | entry (path : List Step) (written : Entry) (around : Surroundings)
  /-- The patterns of an entry that is one of the captures of this kind. -/
  | contents (which : CaptureMap) (path : List Step) (written : Entry) (around : Surroundings)
  deriving Inhabited

/-- The documents that are at hand, and the grammar that is compiled. -/
structure Library where
  documents : List (String × Document)
  base : String

/-- What is around the entries of a document. -/
def Document.surroundings (d : Document) (scope : String) : Surroundings :=
  ⟨scope, [⟨[], d.repository⟩]⟩

/-- What an entry is, by the fields that it has. -/
inductive Shape
  | single (source : String)
  | region (first last : String)
  | during (first condition : String)
  | container
  deriving DecidableEq, Repr

/-- The shape of an entry.  A region without an end goes on to the end of the text. -/
def Entry.shape (e : Entry) : Shape :=
  match e.matchSource, e.beginSource, e.whileSource with
  | some source, _, _ => .single source
  | none, some first, some condition => .during first condition
  | none, some first, none =>
    .region first (e.endSource.getD (String.singleton Anchors.unmatchable))
  | none, none, _ => .container

/-- The captures of one kind that are in use, with the map in which they stand. -/
def Entry.capturesFor (e : Entry) (which : CaptureMap) : CaptureMap × List (String × Entry) :=
  let own := match which with
    | .whole => none
    | .first => e.beginCaptures
    | .last => e.endCaptures
    | .condition => e.whileCaptures
  match own with
  | some captures => (which, captures)
  | none => (.whole, e.captures.getD [])

/-- The number of a group as the key of a map of captures. -/
def captureNumber? (key : String) : Option Nat :=
  match key.toList with
  | '+' :: digits => groupNumber? digits
  | digits => groupNumber? digits

namespace Part

/-- What a part is known by. -/
def key : Part → Key
  | root scope _ => .root scope
  | entry path _ around => .entry ⟨around.scope, path⟩
  | contents which path _ around => .contents which ⟨around.scope, path⟩

/-- What is around the entries inside a part. -/
def inner : Part → Surroundings
  | root scope d => d.surroundings scope
  | entry path e around =>
    match e.repository with
    | some entries => { around with repositories := ⟨path, entries⟩ :: around.repositories }
    | none => around
  | contents _ _ _ around => around

/-- The patterns that are written in a part, with the steps to the part. -/
def written : Part → List Step × List Entry
  | root _ d => ([], d.patterns)
  | entry path e _ =>
    match e.shape with
    | .single _ => (path, [])
    | _ => (path, e.patterns.getD [])
  | contents _ path e _ => (path, e.patterns.getD [])

end Part

namespace Library

/-- A grammar as a part. -/
def root (lib : Library) (scope : String) : Option Part :=
  (Dictionary.find? scope lib.documents).map (.root scope)

/-- An entry as a part, unless it is switched off. -/
def enabled (path : List Step) (e : Entry) (around : Surroundings) : Option Part :=
  if e.isOff then none else some (.entry path e around)

/-- The part that an include names. -/
def included (lib : Library) (around : Surroundings) : Target → Option Part
  | .self => lib.root around.scope
  | .base => lib.root lib.base
  | .named name => (findNamed name around.repositories).bind fun r => enabled r.1 r.2 around
  | .grammar scope => lib.root scope
  | .entryOf scope name =>
    (Dictionary.find? scope lib.documents).bind fun d =>
      (Dictionary.find? name d.repository).bind fun e =>
        enabled [.repository name] e (d.surroundings scope)

/-- The part that an entry of a list of patterns stands for. -/
def standsFor (lib : Library) (around : Surroundings) (path : List Step) (e : Entry) :
    Option Part :=
  match e.reference with
  | some text => lib.included around (Target.ofText text)
  | none => enabled path e around

/-- The parts that a list of patterns stands for. -/
def listed (lib : Library) (around : Surroundings) (owner : List Step) (entries : List Entry) :
    List Part :=
  (entries.mapIdx fun i e => lib.standsFor around (.pattern i :: owner) e).filterMap id

end Library

namespace Part

/-- The parts that are tried inside a part. -/
def patterns (lib : Library) (p : Part) : List Part :=
  lib.listed p.inner p.written.1 p.written.2

/-- The captures of one kind with the numbers of their groups and the steps to them. -/
def numberedCaptures (path : List Step) (e : Entry) (which : CaptureMap) :
    List (Nat × List Step × Entry) :=
  let (map, captures) := e.capturesFor which
  captures.filterMap fun c =>
    (captureNumber? c.1).map fun number => (number, .capture map c.1 :: path, c.2)

/-- The patterns inside the captures of one kind, as parts. -/
def captureContents (path : List Step) (e : Entry) (around : Surroundings) (which : CaptureMap) :
    List Part :=
  (numberedCaptures path e which).filterMap fun (_, path, capture) =>
    capture.patterns.map fun _ => .contents which path capture around

/-- What compiling a part leads to. -/
inductive Task
  | visit (p : Part)
  | check (source : String)

/-- What compiling a part leads to, in order. -/
def tasks (lib : Library) (p : Part) : List Task :=
  let patterns := (p.patterns lib).map Task.visit
  match p with
  | root .. | contents .. => patterns
  | entry path e _ =>
    let captures (which : CaptureMap) : List Task :=
      (captureContents path e p.inner which).map Task.visit
    match e.shape with
    | .single source => .check source :: captures .whole
    | .region first last =>
      patterns ++ .check first :: captures .first ++ .check last :: captures .last
    | .during first condition =>
      patterns ++ .check first :: captures .first ++ .check condition :: captures .condition
    | .container => patterns

end Part

/-- The steps to an entry and to all entries inside it. -/
def Entry.paths (path : List Step) (e : Entry) : List (List Step) :=
  path :: e.inside.attach.flatMap fun ⟨p, h⟩ =>
    have := Entry.sizeOf_inside_lt h
    p.2.paths (p.1 :: path)
termination_by sizeOf e

/-- The steps to all entries of a document that take part in compiling. -/
def Document.paths (d : Document) : List (List Step) :=
  (d.patterns.mapIdx fun i e => e.paths [.pattern i]).flatten ++
    d.repository.flatMap fun p => p.2.paths [.repository p.1]

/-- All that a part of a library can be known by. -/
def Library.keys (lib : Library) : List Key :=
  lib.documents.flatMap fun (scope, d) =>
    .root scope :: d.paths.flatMap fun path =>
      .entry ⟨scope, path⟩ ::
        [CaptureMap.whole, .first, .last, .condition].map (.contents · ⟨scope, path⟩)

end ScopeCheck
