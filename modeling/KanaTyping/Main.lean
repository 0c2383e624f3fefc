import KanaTyping.CommandLine.Outcome

/-!
# The lyric tool

Runs the request that the arguments make.  A failure is told on standard error and ends with the
code 1, arguments that make no request with the code 2.
-/

namespace KanaTyping

/-- The content of a file, or why there is none. -/
def readText (file : String) : IO (Except ReadFault (List Char)) := do
  try
    let bytes ← IO.FS.readBinFile file
    match String.fromUTF8? bytes with
    | some text => return .ok text.toList
    | none => return .error .notText
  catch
    | .noFileOrDirectory .. => return .error .missing
    | .inappropriateType _ 20 _ => return .error .notDirectory
    | .inappropriateType .. => return .error .directory
    | .invalidArgument _ 36 _ => return .error .nameTooLong
    | e => return .error (.other (toString e))

/-- The names of the files that a request reads. -/
def Request.fileNames (r : Request) : List String :=
  r.settings.toList ++
    match r.command with
    | .romaji file _ => [file]
    | .level file => [file]
    | .replay file _ _ _ => [file]
    | .kanaValidate file => [file]
    | .settingsValidate file => [file]
    | .kanaExport => []
    | .settingsExport => []

end KanaTyping

open KanaTyping

def main (args : List String) : IO UInt32 := do
  match Request.parse args with
  | none =>
    IO.eprintln "usage: lyrictool [--settings <SETTINGS>] <COMMAND>"
    return 2
  | some request =>
    let contents ← request.fileNames.mapM fun file => do return (file, ← readText file)
    match request.run fun file => (contents.lookup file).getD (.error .missing) with
    | .ok text =>
      IO.print text
      return 0
    | .error message =>
      IO.eprintln message
      return 1
