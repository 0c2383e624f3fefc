import KanaTyping.Play.Difficulty
import KanaTyping.Play.Score
import KanaTyping.Toml.Document

/-!
# Settings

The settings of the game: how strokes are scored and how difficulty is measured.  They are read
from a TOML document with a section for each; the points must not be negative, and the scale and
the cap of levels must be positive.
-/

namespace KanaTyping

/-- The settings. -/
structure Settings where
  score : ScoreRules
  level : LevelRules
deriving DecidableEq

namespace Settings

/-- What is wrong with a value that is of the right kind. -/
inductive Flaw where
  | negative
  | notPositive
deriving DecidableEq

def Flaw.message : Flaw → String
  | negative => "must be non-negative"
  | notPositive => "must be positive"

/-- Why settings were not taken. -/
inductive Fault where
  | malformed
  | invalid (field : String) (flaw : Flaw)
  | alreadyGiven
deriving DecidableEq

def Fault.message : Fault → String
  | malformed => "TOML parse error: not a document of settings"
  | invalid field flaw => s!"invalid value for {field}: {flaw.message}"
  | alreadyGiven => "settings already initialized"

/-- A whole number or a float, as a float. -/
def floatOf? : Toml.Value → Option Float
  | .float x => some x
  | .integer n =>
    let size := Decimal.nearest n.natAbs 0
    some (if n < 0 then -size else size)
  | _ => none

/-- A whole number of 32 bits without sign. -/
def word? (v : Toml.Value) : Option UInt32 := do
  let n ← v.integer?
  if 0 ≤ n && n < UInt32.size then some (UInt32.ofNat n.toNat) else none

/-- The settings of a document, without their checks. -/
def ofValue? (root : Toml.Value) : Option Settings := do
  let score ← root.field? "score" 0
  let level ← root.field? "level" 1
  return {
    score := {
      hit := ← (← score.field? "hit" 0).integer?
      miss := ← (← score.field? "miss" 1).integer? }
    level := {
      scale := ← floatOf? (← level.field? "kana_per_ms_scale" 0)
      cap := ← word? (← level.field? "max" 1) } }

/-- The first flaw in the settings, if there is one. -/
def flaw? (s : Settings) : Option (String × Flaw) :=
  if s.score.hit < 0 then some ("score.hit", .negative)
  else if s.score.miss < 0 then some ("score.miss", .negative)
  else if s.level.scale.isNaN || s.level.scale ≤ 0.0 then
    some ("level.kana_per_ms_scale", .notPositive)
  else if s.level.cap = 0 then some ("level.max", .notPositive)
  else none

/-- Reads settings from a document. -/
def parse [Toml.Decoder] (document : List Char) : Except Fault Settings :=
  match (Toml.Decoder.decode document).bind ofValue? with
  | none => .error .malformed
  | some s =>
    match s.flaw? with
    | some (field, flaw) => .error (.invalid field flaw)
    | none => .ok s

/-- The settings when none are given. -/
def standard : Settings where
  score := { hit := 311, miss := 601 }
  level := { scale := 11000.0, cap := 99 }

/-- The document of the standard settings. -/
def standardText : String :=
  "# Scoring and difficulty settings.\n" ++
  "\n" ++
  "[score]\n" ++
  "# Points added for each correct keystroke.\n" ++
  "hit = 311\n" ++
  "# Points subtracted for each wrong or missed keystroke.\n" ++
  "miss = 601\n" ++
  "\n" ++
  "[level]\n" ++
  "# Level = peak keystrokes per millisecond over all lines, times this scale.\n" ++
  "kana_per_ms_scale = 11000.0\n" ++
  "# Levels are capped at this value.\n" ++
  "max = 99\n"

end Settings

end KanaTyping
