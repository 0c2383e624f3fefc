import KanaTyping.Text.GraphemeExtend
import KanaTyping.Text.Printable

/-!
# Quoted text

How a character or a text is quoted in a message.  The quote itself and the backslash are
escaped with a backslash; a tab, a line end and the null character have letters of their own;
every other character that is not printable, or that would be drawn on the one before it, is
written by its code point.
-/

namespace KanaTyping.Text

/-- Whether `c` is drawn on the character before it.  The half-width sound marks extend that
character too, but stand in a column of their own. -/
def isDrawnOver (c : Char) : Bool :=
  isGraphemeExtend c && c != 'ﾞ' && c != 'ﾟ'

/-- How `c` stands between two `quote`s. -/
def escaped (quote c : Char) : List Char :=
  if c = quote || c = '\\' then ['\\', c]
  else if c = '\t' then ['\\', 't']
  else if c = '\r' then ['\\', 'r']
  else if c = '\n' then ['\\', 'n']
  else if c.toNat = 0 then ['\\', '0']
  else if isDrawnOver c || !isPrintable c then
    ['\\', 'u', '\x7b'] ++ Nat.toDigits 16 c.toNat ++ ['\x7d']
  else [c]

/-- The text between two `quote`s. -/
def quotedWith (quote : Char) (cs : List Char) : String :=
  String.ofList (quote :: (cs.flatMap (escaped quote) ++ [quote]))

/-- A character in single quotes. -/
def quotedChar (c : Char) : String :=
  quotedWith '\x27' [c]

/-- A text in double quotes. -/
def quoted (cs : List Char) : String :=
  quotedWith '\x22' cs

end KanaTyping.Text
