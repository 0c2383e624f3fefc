import KanaTyping.Spelling.Basic
import KanaTyping.Text.Quoted

/-!
# The grammar of spellings

A spelling is written as its steps one after the other.  A step is a key character, `A` to `Z`,
`0` to `9` or `-`, or several in square brackets, and a `?` after it makes it optional:
`S[YH]A` accepts `SYA` and `SHA`, and `TS?U` accepts `TU` and `TSU`.

`Spelling.write` writes a spelling and `Spelling.parse` reads one back.  The reader takes one
character at a time; what it has seen so far is a `Spelling.Draft`.
-/

namespace KanaTyping

/-- The characters that stand for themselves in a grammar text. -/
def isKeyChar (c : Char) : Bool :=
  c.isUpper || c.isDigit || c == '-'

namespace Atom

def write : Atom → List Char
  | key c => [c]
  | choice c cs => '[' :: c :: (cs ++ [']'])

end Atom

def Step.write (s : Step) : List Char :=
  s.atom.write ++ if s.optional then ['?'] else []

namespace Spelling

/-- The grammar text of a spelling. -/
def write (s : Spelling) : List Char :=
  s.steps.flatMap Step.write

/-- Why a text is not the grammar of a spelling.  Positions count bytes. -/
inductive Fault where
  | empty
  | unexpected (c : Char) (pos : Nat)
  | unterminatedSet (pos : Nat)
  | emptySet (pos : Nat)
  | danglingOptional (pos : Nat)
deriving DecidableEq

def Fault.message : Fault → String
  | empty => "empty pattern"
  | unexpected c pos => s!"unexpected character {Text.quotedChar c} at {pos}"
  | unterminatedSet pos => s!"unterminated '[' opened at {pos}"
  | emptySet pos => s!"empty '[]' at {pos}"
  | danglingOptional pos => s!"'?' at {pos} does not follow an atom"

/-- What has been read of a grammar text: the steps so far, the latest first, and the bracket
that stands open, if any, with its position and its keys so far, the latest first. -/
inductive Draft where
  | steps (done : List Step)
  | set (done : List Step) (start : Nat) (keys : List Char)
deriving DecidableEq

namespace Draft

/-- Takes one more character, which stands at `pos`. -/
def feed (pos : Nat) (c : Char) : Draft → Except Fault Draft
  | steps done =>
    if c = '[' then .ok (set done pos [])
    else if c = '?' then
      match done with
      | ⟨atom, false⟩ :: before => .ok (steps (⟨atom, true⟩ :: before))
      | _ => .error (.danglingOptional pos)
    else if isKeyChar c then .ok (steps (⟨.key c, false⟩ :: done))
    else .error (.unexpected c pos)
  | set done start keys =>
    if c = ']' then
      match keys.reverse with
      | [] => .error (.emptySet start)
      | k :: ks => .ok (steps (⟨.choice k ks, false⟩ :: done))
    else if isKeyChar c then .ok (set done start (c :: keys))
    else .error (.unexpected c pos)

/-- The spelling, at the end of the text. -/
def finish : Draft → Except Fault Spelling
  | set _ start _ => .error (.unterminatedSet start)
  | steps done =>
    match done.reverse with
    | [] => .error .empty
    | s :: ss => .ok ⟨s, ss⟩

/-- Takes the characters of a text, the first of which stands at `pos`, and finishes. -/
def readAll (pos : Nat) (d : Draft) : List Char → Except Fault Spelling
  | [] => d.finish
  | c :: cs =>
    match d.feed pos c with
    | .error e => .error e
    | .ok d => readAll (pos + c.utf8Size) d cs

end Draft

/-- Reads a grammar text. -/
def parse (text : List Char) : Except Fault Spelling :=
  Draft.readAll 0 (.steps []) text

end Spelling

/-- How a place is named: the grammar of its spelling and the number of its step. -/
def Node.describe (n : Node) : String :=
  s!"Node({String.ofList n.spelling.write} @ {n.index})"

end KanaTyping
