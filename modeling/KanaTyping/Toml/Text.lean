import KanaTyping.Toml.Scan

/-!
# TOML texts and keys

Texts stand in double quotes, with escapes, or in single quotes, without; in three quotes of
either kind they run over several lines.  A key is a bare word or a text on one line, and a
dotted key is several keys with points between them.
-/

namespace KanaTyping.Toml

def hexValue? (c : Char) : Option Nat :=
  if '0' ≤ c && c ≤ '9' then some (c.toNat - '0'.toNat)
  else if 'a' ≤ c && c ≤ 'f' then some (c.toNat - 'a'.toNat + 10)
  else if 'A' ≤ c && c ≤ 'F' then some (c.toNat - 'A'.toNat + 10)
  else none

/-- Reads a character given by `count` hexadecimal digits, after those that make `n`. -/
def scalar (n : Nat) : (count : Nat) → Reader Char
  | 0, cs => if h : n.isValidChar then some (Char.ofNatAux n h, cs) else none
  | _ + 1, [] => none
  | count + 1, c :: cs =>
    match hexValue? c with
    | none => none
    | some d => scalar (16 * n + d) count cs

/-- Reads an escape, after its backslash. -/
def escape : Reader Char
  | 'b' :: cs => some ('\x08', cs)
  | 't' :: cs => some ('\t', cs)
  | 'n' :: cs => some ('\n', cs)
  | 'f' :: cs => some ('\x0c', cs)
  | 'r' :: cs => some ('\r', cs)
  | '\x22' :: cs => some ('\x22', cs)
  | '\\' :: cs => some ('\\', cs)
  | 'u' :: cs => scalar 0 4 cs
  | 'U' :: cs => scalar 0 8 cs
  | _ => none

/-- One character of a text in double quotes, after those in `done`, the latest first. -/
def basicRound (done : List Char) : List Char → Option (Round (List Char) (List Char))
  | [] => none
  | c :: cs =>
    if c = '\x22' then some (.done done.reverse cs)
    else if c = '\\' then (escape cs).map fun (e, rest) => .more (e :: done) rest
    else if isPlain c then some (.more (c :: done) cs)
    else none

/-- Reads a text on one line, with its quotes. -/
def lineText : Reader (List Char)
  | '\x22' :: cs => rounds basicRound [] cs
  | '\x27' :: cs =>
    let text := cs.takeWhile fun c => isPlain c && c != '\x27'
    match cs.drop text.length with
    | '\x27' :: rest => some (text, rest)
    | _ => none
  | _ => none

/-- The end of a text in three quotes, at its closing quotes: up to two quotes before the three
that close it belong to the text. -/
def closing (quote : Char) (done cs : List Char) : List Char × List Char :=
  let quotes := min 5 (cs.takeWhile (· == quote)).length
  (done.reverse ++ List.replicate (quotes - 3) quote, cs.drop quotes)

/-- One character of a text in three double quotes.  A backslash at the end of a line takes away
the blanks and line ends after it. -/
def longBasicRound (done cs : List Char) : Option (Round (List Char) (List Char)) :=
  match newline? cs with
  | some rest => some (.more ('\n' :: done) rest)
  | none =>
    match cs with
    | [] => none
    | '\x22' :: '\x22' :: '\x22' :: _ =>
      let (text, rest) := closing '\x22' done cs
      some (.done text rest)
    | '\\' :: rest =>
      if (newline? (skipBlanks rest)).isSome then some (.more done (skipLines rest))
      else (escape rest).map fun (e, rest) => .more (e :: done) rest
    | c :: rest => if isPlain c then some (.more (c :: done) rest) else none

/-- One character of a text in three single quotes. -/
def longLiteralRound (done cs : List Char) : Option (Round (List Char) (List Char)) :=
  match newline? cs with
  | some rest => some (.more ('\n' :: done) rest)
  | none =>
    match cs with
    | [] => none
    | '\x27' :: '\x27' :: '\x27' :: _ =>
      let (text, rest) := closing '\x27' done cs
      some (.done text rest)
    | c :: rest => if isPlain c then some (.more (c :: done) rest) else none

/-- Reads a text, with its quotes.  A line end right after three opening quotes is not part of
the text. -/
def anyText : Reader (List Char)
  | '\x22' :: '\x22' :: '\x22' :: cs => rounds longBasicRound [] ((newline? cs).getD cs)
  | '\x27' :: '\x27' :: '\x27' :: cs => rounds longLiteralRound [] ((newline? cs).getD cs)
  | cs => lineText cs

/-- The characters of bare keys. -/
def isBare (c : Char) : Bool :=
  c.isAlphanum || c == '_' || c == '-'

/-- Reads a key without points. -/
def simpleKey (cs : List Char) : Option (List Char × List Char) :=
  match cs with
  | '\x22' :: _ => lineText cs
  | '\x27' :: _ => lineText cs
  | _ =>
    match cs.takeWhile isBare with
    | [] => none
    | key => some (key, cs.drop key.length)

/-- The number of parts that a dotted key has less than, and of arrays and inline tables that
one value has less than around it. -/
def depthLimit : Nat := 80

/-- One part of a dotted key, after those in `done`, the latest first. -/
def keyRound (done : List (List Char)) (cs : List Char) :
    Option (Round (List (List Char)) (List (List Char))) := do
  let (key, rest) ← simpleKey (skipBlanks cs)
  match skipBlanks rest with
  | '.' :: rest => return .more (key :: done) rest
  | rest => return .done (key :: done) rest

/-- Reads a dotted key with the blanks around it: the parts before the last, and the last. -/
def dottedKey (cs : List Char) : Option ((List (List Char) × List Char) × List Char) := do
  match ← rounds keyRound [] cs with
  | ([], _) => none
  | (last :: before, rest) =>
    if before.length + 1 < depthLimit then some ((before.reverse, last), rest) else none

end KanaTyping.Toml
