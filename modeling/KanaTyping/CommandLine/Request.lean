import KanaTyping.Text.Number

/-!
# Requests

What the arguments of the command line ask for.  The first word that is not an option names the
command; its own words follow.  An option with a value takes the next argument or what follows an
equals sign, no option is given twice at one place, and after a bare `--` every argument is a
word.  The settings may be named before or after the command; if both are given the latter count.
-/

namespace KanaTyping

/-- A command with its words. -/
inductive Command where
  | romaji (song : String) (json : Bool)
  | level (song : String)
  | replay (song : String) (line : Nat) (keys : String) (json : Bool)
  | kanaExport
  | kanaValidate (file : String)
  | settingsExport
  | settingsValidate (file : String)
deriving DecidableEq

/-- A command and the file of the settings it runs under. -/
structure Request where
  settings : Option String
  command : Command
deriving DecidableEq

namespace Request

/-- The options and words of one part of the arguments. -/
structure Parsed where
  settings : Option String
  json : Bool
  words : List String
deriving DecidableEq

/-- No options and no words. -/
def Parsed.none : Parsed := ⟨Option.none, false, []⟩

/-- Whether an argument is an option rather than a word. -/
def isOption (arg : List Char) : Bool :=
  match arg with
  | '-' :: _ :: _ => true
  | _ => false

/-- Gives the settings file, if it has not been given. -/
def Parsed.withSettings (p : Parsed) (file : String) : Option Parsed :=
  if p.settings.isSome then Option.none else some { p with settings := some file }

/-- The file that an argument names as that of the settings, after an equals sign. -/
def settingsValue? (arg : String) : Option String :=
  let name := "--settings=".toList
  if name.isPrefixOf arg.toList then some (String.ofList (arg.toList.drop name.length))
  else Option.none

/-- Reads options, and words after those in `p`, to the end.  `json` tells whether the command has
an option of that name. -/
def readWords (json : Bool) (p : Parsed) : List String → Option Parsed
  | [] => some p
  | arg :: args =>
    if arg = "--" then some { p with words := p.words ++ args }
    else if arg = "--settings" then
      match args with
      | [] => Option.none
      | file :: args =>
        if isOption file.toList then Option.none
        else (p.withSettings file).bind (readWords json · args)
    else if arg = "--json" then
      if json && !p.json then readWords json { p with json := true } args else Option.none
    else
      match settingsValue? arg with
      | some file => (p.withSettings file).bind (readWords json · args)
      | Option.none =>
        if isOption arg.toList then Option.none
        else readWords json { p with words := p.words ++ [arg] } args

/-- Reads options up to the first word: the settings file, the word and the arguments after. -/
def readCommandName (settings : Option String) :
    List String → Option (Option String × String × List String)
  | [] => none
  | arg :: args =>
    if arg = "--settings" then
      match args with
      | [] => none
      | file :: args =>
        if isOption file.toList || settings.isSome then none
        else readCommandName (some file) args
    else
      match settingsValue? arg with
      | some file => if settings.isSome then none else readCommandName (some file) args
      | none => if isOption arg.toList then none else some (settings, arg, args)

/-- The numbers of lines: those of 64 bits. -/
def lineNumber? (word : String) : Option Nat :=
  Text.natBelow UInt64.size word.toList

/-- The command of a name and what follows it. -/
def command? (name : String) (p : Parsed) : Option Command :=
  match name, p.words with
  | "romaji", [song] => some (.romaji song p.json)
  | "level", [song] => some (.level song)
  | "replay", [song, line, keys] => (lineNumber? line).map (.replay song · keys p.json)
  | "kana-export", [] => some .kanaExport
  | "kana-validate", [file] => some (.kanaValidate file)
  | "settings-export", [] => some .settingsExport
  | "settings-validate", [file] => some (.settingsValidate file)
  | _, _ => none

/-- The request that arguments make, unless they make none. -/
def parse (args : List String) : Option Request := do
  let (outer, name, args) ← readCommandName none args
  let p ← readWords (name = "romaji" || name = "replay") .none args
  let command ← command? name p
  return ⟨p.settings <|> outer, command⟩

end Request

end KanaTyping
