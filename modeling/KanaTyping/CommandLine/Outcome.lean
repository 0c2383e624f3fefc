import KanaTyping.CommandLine.Request
import KanaTyping.Decimal.Places
import KanaTyping.Kana.Builtin
import KanaTyping.Kana.Published
import KanaTyping.Play.Replay
import KanaTyping.Settings.Session
import KanaTyping.Text.Json

/-!
# Outcomes

What a request leads to: what is printed, and whether it failed.  The files are given as a
function from names to contents.
-/

namespace KanaTyping

/-- Why a file cannot be read. -/
inductive ReadFault where
  | missing
  | notDirectory
  | directory
  | nameTooLong
  | notText
  | other (message : String)
deriving DecidableEq

def ReadFault.message : ReadFault → String
  | missing => "No such file or directory (os error 2)"
  | notDirectory => "Not a directory (os error 20)"
  | directory => "Is a directory (os error 21)"
  | nameTooLong => "File name too long (os error 36)"
  | notText => "stream did not contain valid UTF-8"
  | other message => message

/-- The contents of files, by their names. -/
abbrev Files := String → Except ReadFault (List Char)

namespace Request

/-- A text to print, or the message of a failure. -/
abbrev Outcome := Except String String

/-- The content of a file that is not a song. -/
def readFile (files : Files) (file : String) : Except String (List Char) :=
  (files file).mapError fun fault => s!"Error reading {file}: {fault.message}"

/-- The song of a file. -/
def readSong (files : Files) (file : String) : Except String Song :=
  match files file with
  | .error fault => .error s!"Error loading {file}: I/O error: {fault.message}"
  | .ok sheet =>
    (Song.parse sheet).mapError fun fault => s!"Error loading {file}: {fault.message}"

/-- The text with spaces in front, to a length of `width` at least. -/
def padded (width : Nat) (text : String) : String :=
  String.ofList (List.replicate (width - text.length) ' ') ++ text

/-- Lines of text, each with its end. -/
def ofLines (lines : List String) : String :=
  String.join (lines.map (· ++ "\n"))

/-! ### Guides -/

def guideJson (g : Guide) : Text.Json.Layout :=
  Text.Json.object [
    ("duration_ms", Text.Json.integer g.duration.toNat),
    ("surface", Text.Json.text g.surface),
    ("kana", Text.Json.text g.kana),
    ("keys", Text.Json.text g.keys)]

/-- The three lines of a guide: the line as shown, its kana and its keys. -/
def guideLines (number : Nat) (g : Guide) : List String :=
  let margin := "     " ++ padded 8 "" ++ "  "
  ["#" ++ padded 3 (toString number) ++ " " ++ padded 6 (toString g.duration.toNat) ++ "ms  " ++
      String.ofList g.surface,
    margin ++ String.ofList g.kana,
    margin ++ String.ofList g.keys]

def showGuides (song : Song) (json : Bool) : String :=
  let guides := song.guides .builtin
  if json then ofLines [Text.Json.array (guides.map guideJson) 0]
  else
    ofLines ((String.ofList song.name ++ " / " ++ String.ofList song.artist) ::
      (guides.zipIdx 1).flatMap fun (g, number) => guideLines number g)

/-! ### Replays -/

def replayJson (r : Replay) : Text.Json.Layout :=
  let key : Char × Stroke → Text.Json.Layout := fun (c, stroke) =>
    Text.Json.object [("key", Text.Json.text [c]), ("hit", Text.Json.boolean (stroke = .hit))]
  Text.Json.object [
    ("keys", Text.Json.array (r.keys.map key)),
    ("finished", Text.Json.boolean r.finished),
    ("resolved", Text.Json.integer r.resolved),
    ("typed", Text.Json.text r.typed),
    ("pending", Text.Json.text r.pending),
    ("unfinished", Text.Json.integer r.unfinished),
    ("score", Text.Json.integer r.score.points),
    ("max_combo", Text.Json.integer r.score.maxCombo),
    ("misses", Text.Json.integer r.score.misses),
    ("accuracy", Text.Json.float r.score.accuracy)]

/-- The lines of a replay.  A key that missed is shown as a low line. -/
def replayLines (r : Replay) : List String :=
  let marks := r.keys.map fun (c, stroke) => if stroke = .hit then c else '_'
  let percent := String.ofList (Decimal.withPlaces 1 (r.score.accuracy * 100.0))
  ["keys:     " ++ String.ofList (r.keys.map (·.1)),
    "hits:     " ++ String.ofList marks,
    "typed:    [" ++ String.ofList r.typed ++ "]" ++ String.ofList r.pending,
    s!"resolved: {r.resolved}",
    s!"finished: {r.finished}"] ++
  (if r.unfinished = 0 then [] else [s!"charged:  {r.unfinished} unfinished stroke(s)"]) ++
  [s!"score:    {r.score.points} (max combo {r.score.maxCombo}, {r.score.misses} miss(es), " ++
    s!"{percent}%)"]

def showReplay (r : Replay) (json : Bool) : String :=
  ofLines (if json then [replayJson r 0] else replayLines r)

/-! ### Tables and settings -/

def showTable (t : Table) : String :=
  ofLines [
    s!"OK: {t.single.length} single, {t.pair.length} pair, {t.triple.length} triple"]

/-- A positive float in positional notation, with a fraction only if it has one.  Of two shortest
decimals as near it is the greater one. -/
def plainFloat (x : Float) : String :=
  if x.isInf then "inf"
  else String.ofList (((Decimal.Binary.ofFloat x).shortest .up).positional [])

def showSettings (s : Settings) : String :=
  ofLines [
    s!"OK: score.hit={s.score.hit}, score.miss={s.score.miss}, " ++
      s!"level.kana_per_ms_scale={plainFloat s.level.scale}, level.max={s.level.cap}"]

/-! ### Commands -/

/-- The settings in force.  That they cannot be read does not happen. -/
def settingsInForce (n : Settings.Session) : Except String Settings :=
  match n.ask with
  | .error fault => .error s!"settings TOML must be valid: {fault.message}"
  | .ok (s, _) => .ok s

/-- What a command leads to under the given settings. -/
def runCommand (files : Files) (settings : Settings.Session) : Command → Outcome
  | .romaji file json => do
    let song ← readSong files file
    return showGuides song json
  | .level file => do
    let song ← readSong files file
    let rules ← settingsInForce settings
    return ofLines [s!"{String.ofList song.name}: level {song.level .builtin rules.level}"]
  | .replay file line keys json => do
    let song ← readSong files file
    let rules ← settingsInForce settings
    let replay ← (song.replay .builtin rules.score line keys.toList).mapError fun fault =>
      s!"Error: {fault.message}"
    return showReplay replay json
  | .kanaExport => return Table.builtinText
  | .kanaValidate file => do
    let document ← readFile files file
    let table ← (Table.parse document).mapError fun fault => s!"Error: {fault.message}"
    return showTable table
  | .settingsExport => return Settings.standardText
  | .settingsValidate file => do
    let document ← readFile files file
    let settings ← (Settings.parse document).mapError fun fault => s!"Error: {fault.message}"
    return showSettings settings

/-- What a request leads to.  Its settings are read before its command runs. -/
def run (files : Files) (r : Request) : Outcome := do
  let settings ← match r.settings with
    | none => pure .fresh
    | some file => do
      let document ← readFile files file
      (Settings.Session.fresh.give document).mapError fun fault => s!"Error: {fault.message}"
  runCommand files settings r.command

end Request

end KanaTyping
