import KanaTyping.Lyrics.Markup
import KanaTyping.Text.Blank
import KanaTyping.Text.Lines
import KanaTyping.Text.Number
import KanaTyping.Text.Quoted

/-!
# Songs

A song's sheet is a text of lines.  The first names the song: its name, its artist, its genre,
its audio stream and, if there is one, its background image, parted by tabs.  Each line after it
is blank or has the duration of a line of lyrics in milliseconds, a tab, and its markup.

`Song.write` writes a sheet and `Song.parse` reads one.
-/

namespace KanaTyping

/-- A line of a song: how long it lasts, in milliseconds, and its lyrics. -/
structure TimedLyric where
  duration : UInt32
  lyric : Lyric
deriving DecidableEq

/-- A song. -/
structure Song where
  name : List Char
  artist : List Char
  genre : List Char
  stream : List Char
  background : Option (List Char)
  lines : List TimedLyric
deriving DecidableEq

/-- The line of a sheet for a line of lyrics. -/
def TimedLyric.write (t : TimedLyric) : List Char :=
  (toString t.duration.toNat).toList ++ '\t' :: (t.lyric.write ++ ['\n'])

namespace Song

/-- The fields of the first line of a sheet. -/
def header (s : Song) : List (List Char) :=
  [s.name, s.artist, s.genre, s.stream] ++ s.background.toList

/-- The sheet of a song. -/
def write (s : Song) : List Char :=
  ['\t'].intercalate s.header ++ '\n' :: s.lines.flatMap TimedLyric.write

/-- Why a text is not the sheet of a song. -/
inductive Fault where
  | missingHeader
  | header (fields : Nat)
  | fields (line fields : Nat)
  | duration (line : Nat) (field : List Char)
  | markup (line : Nat) (fault : Lyric.Fault)
deriving DecidableEq

def Fault.message : Fault → String
  | missingHeader => "missing header line"
  | header n => s!"header has {n} field(s), expected at least 4"
  | fields line n => s!"line {line}: expected `duration<TAB>text`, got {n} field(s)"
  | duration line field => s!"line {line}: invalid duration {Text.quoted field}"
  | markup line fault => s!"line {line}: {fault.message}"

/-- Reads the line of a sheet with the number `line`; a blank one gives nothing. -/
def parseLine (line : Nat) (text : List Char) : Except Fault (Option TimedLyric) :=
  if text.all Text.isBlank then .ok none
  else
    match Text.fields text with
    | [duration, markup] =>
      match Text.natBelow UInt32.size (Text.trim duration) with
      | none => .error (.duration line duration)
      | some ms =>
        match Lyric.parse markup with
        | .error fault => .error (.markup line fault)
        | .ok lyric => .ok (some ⟨UInt32.ofNat ms, lyric⟩)
    | fs => .error (.fields line fs.length)

/-- Reads the lines of a sheet, the first of which has the number `line`. -/
def parseLines (line : Nat) : List (List Char) → Except Fault (List TimedLyric)
  | [] => .ok []
  | text :: texts =>
    match parseLine line text with
    | .error fault => .error fault
    | .ok found =>
      match parseLines (line + 1) texts with
      | .error fault => .error fault
      | .ok found' => .ok (found.toList ++ found')

/-- The lines of a sheet, without the carriage returns at their ends. -/
def sheetLines (sheet : List Char) : List (List Char) :=
  (Text.lines sheet).map (Text.dropEnd (· == '\r'))

/-- Reads the sheet of a song. -/
def parse (sheet : List Char) : Except Fault Song :=
  match sheetLines sheet with
  | [] => .error .missingHeader
  | first :: rest =>
    match Text.fields first with
    | name :: artist :: genre :: stream :: more =>
      match parseLines 2 rest with
      | .error fault => .error fault
      | .ok lines => .ok ⟨name, artist, genre, stream, more.head?, lines⟩
    | fs => .error (.header fs.length)

end Song

end KanaTyping
