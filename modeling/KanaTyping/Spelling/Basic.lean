/-!
# Spellings

A *spelling* says which keys write a unit of kana.  It is a non-empty sequence of *steps*: each
step accepts one key or any of several, and may be optional.  A *node* is a place in a spelling:
one of its steps, with the steps before and after it.
-/

namespace KanaTyping

/-- What a step accepts: one key, or any of several, of which the first is the one shown. -/
inductive Atom where
  | key (c : Char)
  | choice (shown : Char) (others : List Char)
deriving DecidableEq

namespace Atom

/-- The accepted keys, the one shown first. -/
def keys : Atom → List Char
  | key c => [c]
  | choice c cs => c :: cs

/-- The key shown to the player. -/
def shown : Atom → Char
  | key c => c
  | choice c _ => c

def accepts (a : Atom) (key : Char) : Bool :=
  a.keys.contains key

end Atom

/-- One step of a spelling. -/
structure Step where
  atom : Atom
  optional : Bool
deriving DecidableEq

/-- A spelling: its first step and those after it. -/
structure Spelling where
  first : Step
  rest : List Step
deriving DecidableEq

/-- All steps of a spelling, in order. -/
def Spelling.steps (s : Spelling) : List Step :=
  s.first :: s.rest

/-- A place in a spelling: a step, the steps before it, the nearest first, and those after. -/
structure Node where
  passed : List Step
  step : Step
  ahead : List Step
deriving DecidableEq

/-- The place of the first step. -/
def Spelling.head (s : Spelling) : Node :=
  ⟨[], s.first, s.rest⟩

namespace Node

/-- The number of steps before this one. -/
def index (n : Node) : Nat :=
  n.passed.length

/-- The spelling that the place is in. -/
def spelling (n : Node) : Spelling :=
  match n.passed.reverse with
  | [] => ⟨n.step, n.ahead⟩
  | s :: ss => ⟨s, ss ++ n.step :: n.ahead⟩

def accepts (n : Node) (key : Char) : Bool :=
  n.step.atom.accepts key

def optional (n : Node) : Bool :=
  n.step.optional

/-- The key shown to the player for this step. -/
def shown (n : Node) : Char :=
  n.step.atom.shown

/-- The steps from this one on. -/
def remaining (n : Node) : List Step :=
  n.step :: n.ahead

/-- Whether this step and all after it may be left out. -/
def restOptional (n : Node) : Bool :=
  n.remaining.all (·.optional)

/-- The place of the step after this one. -/
def next (n : Node) : Option Node :=
  match n.ahead with
  | [] => none
  | s :: ss => some ⟨n.step :: n.passed, s, ss⟩

/-- The places from the step `s`, after `passed` and before `ahead`, to the last. -/
def placesFrom (passed : List Step) (s : Step) : (ahead : List Step) → List Node
  | [] => [⟨passed, s, []⟩]
  | t :: ts => ⟨passed, s, t :: ts⟩ :: placesFrom (s :: passed) t ts

/-- The places from this one to the last of its spelling. -/
def toLast (n : Node) : List Node :=
  placesFrom n.passed n.step n.ahead

end Node

/-- The spelling of a single key. -/
def Spelling.ofKey (c : Char) : Spelling :=
  ⟨⟨.key c, false⟩, []⟩

end KanaTyping
