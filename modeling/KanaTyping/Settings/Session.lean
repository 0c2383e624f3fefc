import KanaTyping.Settings.Basic

/-!
# Settings in force

The settings of a running program.  A document of settings may be given once, and they are read
when they are first asked for: from the document given by then, or else from the standard one.

* `Session.give` gives a document, and `Session.ask` asks for the settings in force.
* `Session.answerAll` makes such calls one after another.
-/

namespace KanaTyping.Settings

/-- The document that has been taken, and the settings once they have been asked for. -/
structure Session where
  given : Option (List Char)
  fixed : Option Settings

/-- What is asked of a session. -/
inductive Call where
  | give (document : List Char)
  | ask
deriving DecidableEq

/-- What a session answers.  It is `broken` when it is asked for settings that cannot be read. -/
inductive Answer where
  | taken
  | refused (fault : Fault)
  | inForce (s : Settings)
  | broken (fault : Fault)
deriving DecidableEq

namespace Session

/-- No document given, and no settings asked for. -/
def fresh : Session := ⟨none, none⟩

variable [Toml.Decoder]

/-- Gives a document of settings.  A faulty one is refused first, and any once one has been
taken. -/
def give (n : Session) (document : List Char) : Except Fault Session :=
  match parse document with
  | .error fault => .error fault
  | .ok _ =>
    match n.given with
    | some _ => .error .alreadyGiven
    | none => .ok { n with given := some document }

/-- The settings in force, which no later document changes. -/
def ask (n : Session) : Except Fault (Settings × Session) :=
  match n.fixed with
  | some s => .ok (s, n)
  | none =>
    match parse (n.given.getD standardText.toList) with
    | .error fault => .error fault
    | .ok s => .ok (s, { n with fixed := some s })

/-- The answer to a call.  One that fails leaves the session as it was. -/
def answer (n : Session) : Call → Answer × Session
  | .give document =>
    match n.give document with
    | .error fault => (.refused fault, n)
    | .ok m => (.taken, m)
  | .ask =>
    match n.ask with
    | .error fault => (.broken fault, n)
    | .ok (s, m) => (.inForce s, m)

/-- The answers to calls made one after another. -/
def answerAll (n : Session) : List Call → List Answer × Session
  | [] => ([], n)
  | call :: calls =>
    let (a, m) := n.answer call
    let (as, last) := m.answerAll calls
    (a :: as, last)

end Session

end KanaTyping.Settings
