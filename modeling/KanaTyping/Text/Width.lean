import KanaTyping.Text.Width.Classes

/-!
# Display width

How many columns of a terminal a text takes.  Most characters take one column, the wide ones of
East Asia two, and combining ones none.  Some sequences take less than their characters do one
by one: a carriage return with its line feed, an emoji made of several characters, and the
ligatures of a few scripts.

A text is read from its end, so that each character is met with what follows it already known.
What is drawn only asks a `Metric` for the columns, and that of the terminal is the standard one.
-/

namespace KanaTyping.Text.Width

/-- The ligatures, by the part of them that has been read from the end.  The flag tells whether
a joiner has been read as well. -/
inductive Ligature where
  | alef
  | lamed (joined : Bool)
  | ya (joined : Bool)
  | vowelYa
  | tifinagh (joined : Bool)
  | tifinaghJoined
  | lisuTone
  | orkhonI (joined : Bool)
  | coengLetter
deriving DecidableEq

/-- What stands after a character, as far as it bears on the character's width. -/
inductive Following where
  | other
  | lineFeed
  | skinTone
  | flagLetter
  | flagLetters
  | emoji
  | joinedEmoji
  | joinedKeycap
  | joinedFlagLetter
  | joinedFlagsEven
  | joinedFlagsOdd
  | joinedTags (letters digits : Nat)
  | kiratRaiE
  | kiratRaiAi
  | ligature (l : Ligature)
deriving DecidableEq

/-- What stands after a character, and which variation selectors stand between. -/
structure Context where
  following : Following
  emojiStyle : Bool
  textStyle : Bool
  wideStyle : Bool
deriving DecidableEq

/-- Without variation selectors between. -/
def Following.plain (f : Following) : Context := ⟨f, false, false, false⟩

/-- The context at the end of a text. -/
def Context.start : Context := Following.other.plain

/-- Whether `n` lies from `lo` to `hi`. -/
def within (lo hi n : Nat) : Bool := lo ≤ n && n ≤ hi

def isFlagLetter (n : Nat) : Bool := within 0x1F1E6 0x1F1FF n

def isSkinTone (n : Nat) : Bool := within 0x1F3FB 0x1F3FF n

def isTagLetter (n : Nat) : Bool := within 0xE0061 0xE007A n

def isTagDigit (n : Nat) : Bool := within 0xE0030 0xE0039 n

def isTifinagh (n : Nat) : Bool := within 0x2D31 0x2D65 n || n == 0x2D6F

def isAlef (n : Nat) : Bool :=
  within 0x622 0x623 n || n == 0x625 || n == 0x627 || within 0x671 0x673 n || n == 0x675 ||
    within 0x773 0x774 n || within 0x870 0x882 n

def isLam (n : Nat) : Bool :=
  n == 0x644 || within 0x6B5 0x6B8 n || n == 0x76A || n == 0x8A6 || n == 0x8C7

/-- The Khmer letters that a coeng sign turns into a subscript. -/
def isCoengLetter (n : Nat) : Bool :=
  within 0x1780 0x1782 n || within 0x1784 0x1787 n || within 0x1789 0x178C n ||
    within 0x178E 0x1793 n || within 0x1795 0x1798 n || within 0x179B 0x179D n ||
    n == 0x17A0 || n == 0x17A2 || n == 0x17A7 || within 0x17AB 0x17AC n || n == 0x17AF

/-- The quotation marks, of which a variation selector can ask for the wide form. -/
def isQuotationMark (n : Nat) : Bool :=
  within 0x2018 0x2019 n || within 0x201C 0x201D n

/-- Combining marks that are ignored by default: they may stand inside a ligature. -/
def isIgnorableMark (n : Nat) : Bool :=
  n == 0x34F || within 0x17B4 0x17B5 n || within 0x180B 0x180D n || n == 0x180F ||
    within 0xFE00 0xFE0F n || within 0xE0100 0xE01EF n

/-- The columns of a character with nothing of note after it, and what it is to the character
before it. -/
def alone (c : Char) : Int × Context :=
  let n := c.toNat
  if n = 0x0A then (1, Following.lineFeed.plain)
  else if n ≤ 0xA0 then (1, .start)
  else if n = 0xFE01 then (0, ⟨.other, false, false, true⟩)
  else if n = 0xFE0E then (0, ⟨.other, false, true, false⟩)
  else if n = 0xFE0F then (0, ⟨.other, true, false, false⟩)
  else if n = 0x17D8 then (3, .start)
  else if n = 0x17A4 || n = 0x115F then (2, .start)
  else if n = 0x5DC then (1, (Following.ligature (.lamed false)).plain)
  else if isAlef n then (1, (Following.ligature .alef).plain)
  else if isCoengLetter n then (1, (Following.ligature .coengLetter).plain)
  else if n = 0x1A10 then (1, (Following.ligature (.ya false)).plain)
  else if isTifinagh n then (1, (Following.ligature (.tifinagh false)).plain)
  else if within 0xA4FC 0xA4FD n then (1, (Following.ligature .lisuTone).plain)
  else if n = 0x10C03 then (1, (Following.ligature (.orkhonI false)).plain)
  else if n = 0x16D67 then (1, Following.kiratRaiE.plain)
  else if n = 0x16D68 then (1, Following.kiratRaiAi.plain)
  else if isFlagLetter n then (1, Following.flagLetter.plain)
  else if isSkinTone n then (2, Following.skinTone.plain)
  else if zeroTable.contains c then (0, .start)
  else if emojiTable.contains c then (2, Following.emoji.plain)
  else if wideTable.contains c then (2, .start)
  else (1, .start)

/-- The ligature with a joiner before it, where one may stand there. -/
def Ligature.joiner : Ligature → Option Ligature
  | .alef => none
  | .lamed _ => some (.lamed true)
  | .ya _ => some (.ya true)
  | .tifinagh _ => some (.tifinagh true)
  | .orkhonI _ => some (.orkhonI true)
  | l => some l

/-- The columns that the character `n` adds to a ligature it belongs to, and the ligature with
that character. -/
def Ligature.before (l : Ligature) (c : Char) : Option (Int × Context) :=
  let n := c.toNat
  let whole : Int × Context := (0, .start)
  match l with
  | .alef =>
    if isLam n then some whole
    else if zeroTable.contains c && !nonJoiningTable.contains c then
      some (0, (Following.ligature .alef).plain)
    else none
  | .lamed joined => if joined && n = 0x5D0 then some whole else none
  | .ya joined =>
    if joined && n = 0x1A17 then some (0, (Following.ligature .vowelYa).plain) else none
  | .vowelYa => if n = 0x1A15 then some whole else none
  | .tifinagh joined =>
    if n = 0x2D7F then some (1, (Following.ligature .tifinaghJoined).plain)
    else if joined && isTifinagh n then some whole
    else none
  | .tifinaghJoined => if isTifinagh n then some (-1, .start) else none
  | .lisuTone => if within 0xA4F8 0xA4FB n then some whole else none
  | .orkhonI joined => if joined && n = 0x10C32 then some whole else none
  | .coengLetter => if n = 0x17D2 then some (-1, .start) else none

/-- The columns that `c` adds to an emoji or a vowel sign it belongs to, and the sequence with that
character. -/
def Following.before (f : Following) (c : Char) : Option (Int × Context) :=
  let n := c.toNat
  let joins : Option (Int × Context) :=
    if n = 0x200D then some (0, Following.joinedEmoji.plain) else none
  match f with
  | .skinTone =>
    if skinToneTable.contains c then some (0, Following.emoji.plain) else joins
  | .flagLetter => if isFlagLetter n then some (1, Following.flagLetters.plain) else none
  | .flagLetters => if isFlagLetter n then some (1, Following.flagLetters.plain) else joins
  | .emoji => joins
  | .joinedEmoji =>
    if n = 0x20E3 then some (0, Following.joinedKeycap.plain)
    else if isFlagLetter n then some (1, Following.joinedFlagLetter.plain)
    else if isSkinTone n then some (0, Following.skinTone.plain)
    else if n = 0xE007F then some (0, (Following.joinedTags 0 0).plain)
    else if emojiTable.contains c then some (0, Following.emoji.plain)
    else none
  | .joinedFlagLetter =>
    if isFlagLetter n then some (-1, Following.joinedFlagsEven.plain) else none
  | .joinedFlagsOdd =>
    if isFlagLetter n then some (-1, Following.joinedFlagsEven.plain) else joins
  | .joinedFlagsEven =>
    if isFlagLetter n then some (3, Following.joinedFlagsOdd.plain) else joins
  | .joinedTags letters digits =>
    if isTagLetter n && digits = 0 && letters < 6 then
      some (0, (Following.joinedTags (letters + 1) 0).plain)
    else if isTagDigit n && digits < 3 && (digits > 0 || letters < 5) then
      some (0, (Following.joinedTags letters (digits + 1)).plain)
    else if n = 0x1F3F4 && (digits = 3 || (digits = 0 && letters ≥ 3)) then
      some (0, Following.emoji.plain)
    else none
  | .kiratRaiE =>
    if n = 0x16D63 || n = 0x16D69 then some (0, .start)
    else if n = 0x16D67 then some (0, Following.kiratRaiAi.plain)
    else if n = 0x16D68 then some (1, Following.kiratRaiE.plain)
    else none
  | .kiratRaiAi => if n = 0x16D63 then some (0, .start) else none
  | _ => none

/-- The context with an emoji selector before it. -/
def Context.withEmojiStyle (x : Context) : Context :=
  match x.following with
  | .ligature _ => { x with emojiStyle := true }
  | .joinedEmoji | .joinedKeycap => { x with emojiStyle := true }
  | _ => ⟨.other, true, false, false⟩

/-- The context with its emoji selector forgotten. -/
def Context.withoutEmojiStyle (x : Context) : Context :=
  match x.following with
  | .ligature _ => { x with emojiStyle := false }
  | _ => .start

/-- The context with a text selector before it. -/
def Context.withTextStyle (x : Context) : Context :=
  match x.following with
  | .ligature _ => { x with textStyle := true }
  | _ => ⟨.other, false, true, false⟩

/-- The context with a selector of the wide form before it. -/
def Context.withWideStyle (x : Context) : Context :=
  match x.following with
  | .ligature _ => { x with wideStyle := true }
  | _ => ⟨.other, false, false, true⟩

/-- The context with its text and wide selectors forgotten, as they have not applied to the
character before them. -/
def Context.withoutSelectors (x : Context) : Context :=
  { x with textStyle := false, wideStyle := false }

/-- The columns of a character beyond the Latin-1 controls and spaces, in a context of note. -/
def inContext (c : Char) (x : Context) : Int × Context :=
  let n := c.toNat
  if n = 0xFE0F then (0, x.withEmojiStyle)
  else if n = 0xFE0E then (0, x.withTextStyle)
  else if n = 0xFE01 then (0, x.withWideStyle)
  else if x.textStyle && textStyleTable.contains c then (1, .start)
  else if x.wideStyle && isQuotationMark n then (2, .start)
  else
    let x := x.withoutSelectors
    match x.following with
    | .ligature l =>
      if l.joiner.isSome && isIgnorableMark n then (0, x)
      else if n = 0x200D then
        match l.joiner with
        | some l' => (0, { x with following := .ligature l' })
        | none => (l.before c).getD (alone c)
      else (l.before c).getD (alone c)
    | f => (f.before c).getD (alone c)

/-- The columns that `c` adds to the text after it. -/
def step (c : Char) (x : Context) : Int × Context :=
  let n := c.toNat
  if x.emojiStyle && emojiStyleTable.contains c then
    match x.following with
    | .joinedEmoji | .joinedKeycap => (0, Following.emoji.plain)
    | _ => (2, Following.emoji.plain)
  else
    let x := if x.emojiStyle then x.withoutEmojiStyle else x
    if n ≤ 0xA0 then
      if n = 0x0A then (1, Following.lineFeed.plain)
      else if n = 0x0D && x.following = .lineFeed then (0, .start)
      else (1, .start)
    else if x = .start then alone c
    else inContext c x

/-- The columns of a text and what it is to the text before it. -/
def measure (cs : List Char) : Int × Context :=
  cs.foldr (fun c (sum, x) => let (add, x) := step c x; (sum + add, x)) (0, .start)

end Width

/-- The number of columns that a text takes. -/
def width (cs : List Char) : Nat :=
  (Width.measure cs).1.toNat

/-- How many columns texts take where they are drawn. -/
class Metric where
  width : List Char → Nat

instance : Metric := ⟨width⟩

end KanaTyping.Text
