/-!
# Scanning TOML

The pieces that a TOML document is read by: blanks, comments and line ends, and a loop for what
repeats.  A reader takes the text from its place on and gives what it has read with the text
after it, or nothing if the text does not fit.
-/

namespace KanaTyping.Toml

/-- Reads from the front of a text. -/
abbrev Reader (α : Type) := List Char → Option (α × List Char)

/-- What one round of a loop leads to: another round, or the result. -/
inductive Round (σ α : Type) where
  | more (s : σ) (rest : List Char)
  | done (a : α) (rest : List Char)

/-- Runs rounds from the state `s`, at most `fuel` of them. -/
def roundsFor {σ α : Type} (round : σ → List Char → Option (Round σ α)) :
    (fuel : Nat) → σ → Reader α
  | 0, _, _ => none
  | fuel + 1, s, cs =>
    match round s cs with
    | none => none
    | some (.more s rest) => roundsFor round fuel s rest
    | some (.done a rest) => some (a, rest)

/-- Runs rounds from the state `s`.  A round that is not the last reads at least a character, so
there are no more rounds than characters, and one. -/
def rounds {σ α : Type} (round : σ → List Char → Option (Round σ α)) (s : σ) : Reader α :=
  fun cs => roundsFor round (cs.length + 1) s cs

/-- A space or a tab. -/
def isBlank (c : Char) : Bool :=
  c == ' ' || c == '\t'

/-- The characters of comments and of texts: all but the controls, the tab apart. -/
def isPlain (c : Char) : Bool :=
  c == '\t' || (' ' ≤ c && c ≤ '~') || '\u0080' ≤ c

def skipBlanks (cs : List Char) : List Char :=
  cs.dropWhile isBlank

/-- The text after a line end. -/
def newline? : List Char → Option (List Char)
  | '\n' :: rest => some rest
  | '\r' :: '\n' :: rest => some rest
  | _ => none

/-- The text after the blanks and the comment that end a line, and after its end. -/
def lineEnd? (cs : List Char) : Option (List Char) :=
  let cs := skipBlanks cs
  let cs := match cs with
    | '#' :: rest => rest.dropWhile isPlain
    | _ => cs
  if cs.isEmpty then some [] else newline? cs

/-- The text after blanks and line ends. -/
def skipLines : List Char → List Char
  | [] => []
  | c :: cs =>
    if isBlank c || c == '\n' || (c == '\r' && cs.head? == some '\n') then skipLines cs
    else c :: cs

/-- The text after blanks, line ends and comments, from inside or outside a comment. -/
def skipTrivia (inComment : Bool) : List Char → List Char
  | [] => []
  | c :: cs =>
    if inComment && isPlain c then skipTrivia true cs
    else if isBlank c || c == '\n' || (c == '\r' && cs.head? == some '\n') then
      skipTrivia false cs
    else if c == '#' then skipTrivia true cs
    else c :: cs

end KanaTyping.Toml
