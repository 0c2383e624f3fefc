/-!
# Scripts

The characters that lyrics are written in, and which of them are typed.  A typed character is
called *kana* throughout: a hiragana, a katakana, the long vowel mark, or a Latin letter or digit
of either width, which lyrics use for foreign words and numbers.
-/

namespace KanaTyping

/-- Whether `c` lies from `first` to `last`. -/
def liesWithin (first last c : Char) : Bool :=
  first ≤ c && c ≤ last

def isHiragana (c : Char) : Bool := liesWithin 'ぁ' 'ゖ' c

def isKatakana (c : Char) : Bool := liesWithin 'ァ' 'ヺ' c

/-- The ideographs of the basic block and of the extensions A and B, and the iteration mark. -/
def isKanji (c : Char) : Bool :=
  liesWithin '\u4E00' '\u9FFF' c || liesWithin '\u3400' '\u4DBF' c ||
    liesWithin (Char.ofNat 0x20000) (Char.ofNat 0x2A6DF) c || c == '々'

def isFullwidthAlphanumeric (c : Char) : Bool :=
  liesWithin 'Ａ' 'Ｚ' c || liesWithin 'ａ' 'ｚ' c || liesWithin '０' '９' c

/-- The long vowel mark, which follows either script. -/
def longVowelMark : Char := 'ー'

/-- Whether `c` is typed. -/
def isKana (c : Char) : Bool :=
  isHiragana c || isKatakana c || c == longVowelMark || c.isAlphanum || isFullwidthAlphanumeric c

/-- The katakana for a hiragana; any other character as it is. -/
def toKatakana (c : Char) : Char :=
  if isHiragana c then Char.ofNat (c.toNat + ('ア'.toNat - 'あ'.toNat)) else c

/-- The full-width form of a Latin letter or digit; any other character as it is. -/
def toFullwidth (c : Char) : Char :=
  if c.isAlphanum then Char.ofNat (c.toNat + ('Ａ'.toNat - 'A'.toNat)) else c

end KanaTyping
