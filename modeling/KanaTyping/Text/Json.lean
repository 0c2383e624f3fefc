import KanaTyping.Decimal.Shortest

/-!
# JSON output

JSON texts over several lines: each item of an array and each field of an object stands on a line
of its own, two spaces further in.  A *layout* is a JSON text that still waits for its depth.
-/

namespace KanaTyping.Text.Json

/-- A JSON text, once it is known how deep it stands. -/
abbrev Layout := (depth : Nat) → String

/-- How `c` stands in a JSON string: the quote, the backslash and the controls are escaped. -/
def escaped (c : Char) : List Char :=
  if c = '\x22' then ['\\', '\x22']
  else if c = '\\' then ['\\', '\\']
  else if c = '\x08' then ['\\', 'b']
  else if c = '\x0c' then ['\\', 'f']
  else if c = '\n' then ['\\', 'n']
  else if c = '\r' then ['\\', 'r']
  else if c = '\t' then ['\\', 't']
  else if c < ' ' then
    ['\\', 'u', '0', '0', Nat.digitChar (c.toNat / 16), Nat.digitChar (c.toNat % 16)]
  else [c]

/-- A text. -/
def text (cs : List Char) : Layout := fun _ =>
  String.ofList ('\x22' :: (cs.flatMap escaped ++ ['\x22']))

def integer (n : Int) : Layout := fun _ => toString n

def boolean (b : Bool) : Layout := fun _ => if b then "true" else "false"

/-- A finite float that is not negative, by its shortest decimal, the even one of two. From a
hundred-thousandth to below ten quadrillion it is written in positional notation, with at least one
place. -/
def float (x : Float) : Layout := fun _ =>
  if x == 0.0 then "0.0"
  else
    let d := (Decimal.Binary.ofFloat x).shortest .even
    let point : Int := d.text.length + d.exponent
    String.ofList (if -5 < point && point ≤ 16 then d.positional ['.', '0'] else d.scientific)

/-- The line break before an item at a depth. -/
def lineBreak (depth : Nat) : String :=
  String.ofList ('\n' :: List.replicate (2 * depth) ' ')

/-- The items between brackets, each on its own line. -/
def between (opening closing : String) (items : List Layout) : Layout := fun depth =>
  if items.isEmpty then opening ++ closing
  else
    opening ++ lineBreak (depth + 1) ++
      ("," ++ lineBreak (depth + 1)).intercalate (items.map (· (depth + 1))) ++
      lineBreak depth ++ closing

def array (items : List Layout) : Layout :=
  between "[" "]" items

def object (fields : List (String × Layout)) : Layout :=
  between "\x7b" "\x7d"
    (fields.map fun (name, value) depth => text name.toList depth ++ ": " ++ value depth)

end KanaTyping.Text.Json
