import ScopeCheck.Pattern.Anchors
import ScopeCheck.Pattern.BackReference

/-!
# Patterns of rules

A `Pattern` is a source with what a `RegexEngine` makes of it, once for each choice of the
anchors that are allowed.  A pattern that quotes a begin match is not checked when it is read, but
when the quoted texts are known; if it is refused then, it is replaced by one that never matches.
-/

namespace ScopeCheck

/-- Something that compiles patterns and searches for them. -/
structure RegexEngine (ρ : Type) where
  /-- Compiles a source or says why not. -/
  compile : String → Except String ρ
  /-- The leftmost match that starts at a position or later. -/
  search : ρ → Array Char → Nat → Option Found

/-- A source that an engine refuses, and why. -/
structure PatternError where
  source : String
  reason : String
  deriving DecidableEq, Inhabited, Repr

/-- The wording of a refusal. -/
def PatternError.message (e : PatternError) : String :=
  "invalid regex \x60" ++ e.source ++ "\x60: Oniguruma error: " ++ e.reason

/-- One thing for each choice of the anchors that are allowed. -/
structure PerAnchors (α : Type) where
  both : α
  onlyStart : α
  onlyEntry : α
  neither : α

/-- The thing for a choice. -/
def PerAnchors.pick {α : Type} (p : PerAnchors α) : Bool → Bool → α
  | true, true => p.both
  | true, false => p.onlyStart
  | false, true => p.onlyEntry
  | false, false => p.neither

/-- A source with its compiled variants. -/
structure Pattern (ρ : Type) where
  source : String
  variants : PerAnchors (Except String ρ)

/-- Where to search: in a text from a position on, with the anchors that are allowed there. -/
structure Query where
  text : Array Char
  start : Nat
  allowStart : Bool
  allowEntry : Bool

namespace Pattern

variable {ρ : Type}

/-- A pattern whose source may be refused later. -/
def ofSource (engine : RegexEngine ρ) (source : String) : Pattern ρ :=
  let both := engine.compile source
  if Anchors.occur source.toList then
    let variant (allowStart allowEntry : Bool) : Except String ρ :=
      engine.compile (String.ofList (Anchors.restrict allowStart allowEntry source.toList))
    ⟨source, ⟨both, variant true false, variant false true, variant false false⟩⟩
  else ⟨source, ⟨both, both, both, both⟩⟩

/-- Whether a pattern quotes a begin match. -/
def quotesBegin (p : Pattern ρ) : Bool := BackReference.occur p.source.toList

/-- Reads a pattern and checks it, unless it quotes a begin match. -/
def read (engine : RegexEngine ρ) (source : String) : Except PatternError (Pattern ρ) :=
  let p := ofSource engine source
  if p.quotesBegin then .ok p
  else
    match p.variants.both with
    | .ok _ => .ok p
    | .error reason => .error ⟨source, reason⟩

/-- A pattern that never matches. -/
def impossible (engine : RegexEngine ρ) : Pattern ρ :=
  ofSource engine (String.singleton Anchors.unmatchable)

/-- The pattern with the texts of a begin match put in. -/
def fill (engine : RegexEngine ρ) (p : Pattern ρ) (text : Array Char) (found : Found) :
    Pattern ρ :=
  let filled := ofSource engine
    (String.ofList (BackReference.substitute p.source.toList text found))
  match filled.variants.both with
  | .ok _ => filled
  | .error _ => impossible engine

/-- Searches for a pattern. -/
def search (engine : RegexEngine ρ) (p : Pattern ρ) (q : Query) :
    Except PatternError (Option Found) :=
  if q.start > q.text.size then .ok none
  else
    match p.variants.pick q.allowStart q.allowEntry with
    | .ok regex => .ok (engine.search regex q.text q.start)
    | .error reason => .error ⟨p.source, reason⟩

end Pattern

end ScopeCheck
