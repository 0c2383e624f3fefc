import KanaTyping.Play.Segment

/-!
# Progress through a line

`Progress` is how far a player has come in one line.  The line is typed unit by unit, and a unit
step by step: at an optional step its own key counts, and so does the key of the step after it.
A unit is complete as soon as all steps left of it are optional, one with optional steps alone on
arrival.

* `Progress.start` is the state before the first key, and `Progress.restart` goes on to another
  line.
* `Progress.press` takes a key, which hits or misses; a miss changes nothing.
-/

namespace KanaTyping

/-- Whether a key was wanted. -/
inductive Stroke where
  | hit
  | miss
deriving DecidableEq

namespace Node

/-- The first place from the step `s` on that takes `key`, when only optional steps are passed
over on the way. -/
def reachFrom (key : Char) (passed : List Step) (s : Step) : (ahead : List Step) → Option Node
  | [] => if s.atom.accepts key then some ⟨passed, s, []⟩ else none
  | t :: ts =>
    if s.atom.accepts key then some ⟨passed, s, t :: ts⟩
    else if s.optional then reachFrom key (s :: passed) t ts
    else none

/-- The place where `key` is typed, from the place `n` on. -/
def reach (n : Node) (key : Char) : Option Node :=
  reachFrom key n.passed n.step n.ahead

end Node

/-- The state of typing one line. -/
structure Progress where
  /-- The step the next key is tried against; `none` when the line is finished. -/
  node : Option Node
  /-- The place after the unit being typed. -/
  cursor : Cursor
  /-- The number of units typed. -/
  resolved : Nat
  /-- The number of kana up to the end of the unit being typed. -/
  consumed : Nat
  /-- The number of kana before the unit being typed. -/
  highlighted : Nat
  /-- The glyphs of the unit being typed. -/
  active : List Glyph
  /-- The glyphs of the units completed last. -/
  completed : List Glyph
deriving DecidableEq

/-- The glyphs of the `n` kana from a cursor on. -/
def Cursor.glyphs [Text.Metric] (u : Cursor) : (n : Nat) → List Glyph
  | 0 => []
  | n + 1 => u.glyph.toList ++ u.advance.glyphs n

namespace Progress

/-- Moves on to the next unit that has a step to type, or to the end of the line. -/
def moveOn (x : Lexicon) (p : Progress) : Progress :=
  match _h : x.take p.cursor with
  | none => { p with node := none, highlighted := p.consumed }
  | some (.skipped _, u) => moveOn x { p with cursor := u, consumed := p.consumed + 1 }
  | some (.unit s width, u) =>
    let glyphs := p.cursor.glyphs width
    if s.head.restOptional then
      moveOn x { p with
        cursor := u
        resolved := p.resolved + 1
        consumed := p.consumed + width
        highlighted := p.consumed
        active := []
        completed := p.completed ++ glyphs }
    else
      { p with
        node := some s.head
        cursor := u
        consumed := p.consumed + width
        highlighted := p.consumed
        active := glyphs }
termination_by p.cursor.left
decreasing_by all_goals exact Lexicon.left_lt_of_take _h

/-- Nothing to type. -/
def idle : Progress where
  node := none
  cursor := Lyric.blank.cursor
  resolved := 0
  consumed := 0
  highlighted := 0
  active := []
  completed := []

/-- Starts over on a line, whatever has been typed before. -/
def restart (x : Lexicon) (p : Progress) (l : Lyric) : Progress :=
  moveOn x { p with
    cursor := l.cursor
    resolved := 0
    consumed := 0
    highlighted := 0
    active := []
    completed := [] }

/-- The state at the start of a line. -/
def start (x : Lexicon) (l : Lyric) : Progress :=
  idle.restart x l

/-- Counts the unit being typed as complete and moves on. -/
def completeUnit (x : Lexicon) (p : Progress) : Progress :=
  moveOn x { p with resolved := p.resolved + 1, completed := p.active, active := [] }

/-- The state after the step `n` has been typed. -/
def afterStep (x : Lexicon) (p : Progress) (n : Node) : Progress :=
  match n.next with
  | none => p.completeUnit x
  | some m => if m.restOptional then p.completeUnit x else { p with node := some m }

/-- Takes a key.  An ASCII letter counts as its upper case. -/
def press (x : Lexicon) (p : Progress) (key : Char) : Stroke × Progress :=
  match p.node with
  | none => (.miss, p)
  | some n =>
    match n.reach key.toUpper with
    | none => (.miss, p)
    | some m => (.hit, p.afterStep x m)

/-- Takes the keys one by one: the strokes they were and the state after them. -/
def pressAll (x : Lexicon) (p : Progress) : (keys : List Char) → List Stroke × Progress
  | [] => ([], p)
  | k :: ks =>
    let (stroke, q) := p.press x k
    let (strokes, r) := q.pressAll x ks
    (stroke :: strokes, r)

/-- Whether nothing is left to type. -/
def finished (p : Progress) : Bool :=
  p.node.isNone

end Progress

end KanaTyping
