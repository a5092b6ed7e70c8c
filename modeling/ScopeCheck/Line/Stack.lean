import ScopeCheck.Rule.Basic

/-!
# The stack of open rules

A `Frame` is a rule that has been entered and not yet left.  A `Stack` is never empty: at its
bottom is the root of the grammar, which is not left.  Between lines the state is the stack, or
`LineState.initial` before the first line.
-/

namespace ScopeCheck

/-- A rule that has been entered. -/
structure Frame (ρ : Type) where
  rule : RuleIndex
  /-- Where it was entered, if that was on this line. -/
  openedAt : Option Nat
  /-- The entry anchor that holds again when it is left. -/
  anchor : Option Nat
  /-- Whether its begin match reached the end of the line. -/
  tookLineEnd : Bool
  /-- The scopes of the begin and the end match. -/
  matchScopes : List String
  /-- The scopes of everything in between. -/
  bodyScopes : List String
  /-- The end or while pattern, where it quotes the begin match. -/
  filledLast : Option (Pattern ρ)

/-- The open rules: the innermost one, and the ones around it from the inside. -/
structure Stack (ρ : Type) where
  top : Frame ρ
  below : List (Frame ρ)

/-- What is handed from one line to the next. -/
inductive LineState (ρ : Type)
  | initial
  | inside (stack : Stack ρ)

namespace Frame

variable {ρ : Type}

/-- A frame without the positions of its line. -/
def forNextLine (f : Frame ρ) : Frame ρ := { f with openedAt := none, anchor := none }

end Frame

namespace Stack

variable {ρ : Type}

/-- The stack with which a text starts. -/
def root (rule : RuleIndex) (scopeName : String) : Stack ρ :=
  ⟨⟨rule, none, none, false, [scopeName], [scopeName], none⟩, []⟩

/-- All frames from the inside. -/
def frames (s : Stack ρ) : List (Frame ρ) := s.top :: s.below

/-- The number of open rules. -/
def depth (s : Stack ρ) : Nat := s.frames.length

/-- Enters a rule. -/
def push (s : Stack ρ) (f : Frame ρ) : Stack ρ := ⟨f, s.frames⟩

/-- Leaves the innermost rule; the bottom one is not left. -/
def pop (s : Stack ρ) : Stack ρ :=
  match s.below with
  | [] => s
  | f :: below => ⟨f, below⟩

/-- Whether there is a rule that can be left. -/
def canPop (s : Stack ρ) : Bool := !s.below.isEmpty

/-- The stack without the positions of its line. -/
def forNextLine (s : Stack ρ) : Stack ρ := ⟨s.top.forNextLine, s.below.map Frame.forNextLine⟩

/-- Whether a rule has been entered at a position and nothing been left since. -/
def justOpened (s : Stack ρ) (rule : RuleIndex) (pos : Nat) : Bool :=
  (s.frames.takeWhile fun f => f.openedAt == some pos).any fun f => f.rule == rule

/-- The scopes of plain text. -/
def bodyScopes (s : Stack ρ) : List String := s.top.bodyScopes

@[simp] theorem frames_push (s : Stack ρ) (f : Frame ρ) : (s.push f).frames = f :: s.frames := rfl

@[simp] theorem depth_push (s : Stack ρ) (f : Frame ρ) : (s.push f).depth = s.depth + 1 := rfl

@[simp] theorem pop_push (s : Stack ρ) (f : Frame ρ) : (s.push f).pop = s := rfl

end Stack

namespace LineState

variable {ρ : Type}

/-- The number of open rules. -/
def depth : LineState ρ → Nat
  | initial => 0
  | inside s => s.depth

/-- Whether no line has been read. -/
def isFresh : LineState ρ → Bool
  | initial => true
  | inside _ => false

end LineState

end ScopeCheck
