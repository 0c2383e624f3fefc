import KanaTyping.Kana.Lexicon
import KanaTyping.Text.Lines

/-!
# The built-in kana table

The spellings that are used when no other table is given, and the text that the table is
published in.  `Table.document` writes any table as such a text: a heading for each section and
a line for each entry.
-/

namespace KanaTyping

namespace Table

/-- The entry of a unit of one kana. -/
def one (a : Char) (grammar : String) : Entry 1 := ⟨⟨[a], rfl⟩, grammar.toList⟩

/-- The entry of a unit of two kana. -/
def two (a b : Char) (grammar : String) : Entry 2 := ⟨⟨[a, b], rfl⟩, grammar.toList⟩

/-- The entry of a unit of three kana. -/
def three (a b c : Char) (grammar : String) : Entry 3 := ⟨⟨[a, b, c], rfl⟩, grammar.toList⟩

/-- The built-in table. -/
def builtin : Table where
  single :=
    [one 'あ' "A", one 'い' "I", one 'う' "U", one 'え' "E", one 'お' "O", one 'か' "KA",
    one 'き' "KI", one 'く' "KU", one 'け' "KE", one 'こ' "KO", one 'さ' "SA", one 'し' "SH?I",
    one 'す' "SU", one 'せ' "SE", one 'そ' "SO", one 'た' "TA", one 'ち' "[TC]H?I",
    one 'つ' "TS?U", one 'て' "TE", one 'と' "TO", one 'な' "NA", one 'に' "NI", one 'ぬ' "NU",
    one 'ね' "NE", one 'の' "NO", one 'は' "HA", one 'ひ' "HI", one 'ふ' "[HF]U", one 'へ' "HE",
    one 'ほ' "HO", one 'ま' "MA", one 'み' "MI", one 'む' "MU", one 'め' "ME", one 'も' "MO",
    one 'や' "YA", one 'ゆ' "YU", one 'よ' "YO", one 'ら' "RA", one 'り' "RI", one 'る' "RU",
    one 'れ' "RE", one 'ろ' "RO", one 'わ' "WA", one 'ゐ' "WI", one 'ゑ' "WE", one 'を' "WO",
    one 'ん' "N", one 'ー' "-", one 'が' "GA", one 'ぎ' "GI", one 'ぐ' "GU", one 'げ' "GE",
    one 'ご' "GO", one 'ざ' "ZA", one 'じ' "[ZJ]I", one 'ず' "ZU", one 'ぜ' "ZE", one 'ぞ' "ZO",
    one 'だ' "DA", one 'ぢ' "DI", one 'づ' "[DZ]U", one 'で' "DE", one 'ど' "DO", one 'ば' "BA",
    one 'び' "BI", one 'ぶ' "BU", one 'べ' "BE", one 'ぼ' "BO", one 'ぱ' "PA", one 'ぴ' "PI",
    one 'ぷ' "PU", one 'ぺ' "PE", one 'ぽ' "PO", one 'ゔ' "VU", one 'ぁ' "[LX]A",
    one 'ぃ' "[LX]I", one 'ぅ' "[LX]U", one 'ぇ' "[LX]E", one 'ぉ' "[LX]O", one 'ゃ' "[LX]YA",
    one 'ゅ' "[LX]YU", one 'ょ' "[LX]YO", one 'ゎ' "[LX]WA", one 'っ' "[LX]TS?U"]
  pair :=
    [two 'き' 'ゃ' "KYA", two 'き' 'ゅ' "KYU", two 'き' 'ょ' "KYO", two 'し' 'ゃ' "S[YH]A",
    two 'し' 'ゅ' "S[YH]U", two 'し' 'ょ' "S[YH]O", two 'ち' 'ゃ' "[TC][YH]A",
    two 'ち' 'ゅ' "[TC][YH]U", two 'ち' 'ょ' "[TC][YH]O", two 'に' 'ゃ' "NYA", two 'に' 'ゅ' "NYU",
    two 'に' 'ょ' "NYO", two 'ひ' 'ゃ' "HYA", two 'ひ' 'ゅ' "HYU", two 'ひ' 'ょ' "HYO",
    two 'み' 'ゃ' "MYA", two 'み' 'ゅ' "MYU", two 'み' 'ょ' "MYO", two 'り' 'ゃ' "RYA",
    two 'り' 'ゅ' "RYU", two 'り' 'ょ' "RYO", two 'ぎ' 'ゃ' "GYA", two 'ぎ' 'ゅ' "GYU",
    two 'ぎ' 'ょ' "GYO", two 'じ' 'ゃ' "[JZ]Y?A", two 'じ' 'ゅ' "[JZ]Y?U", two 'じ' 'ょ' "[JZ]Y?O",
    two 'ぢ' 'ゃ' "DYA", two 'ぢ' 'ゅ' "DYU", two 'ぢ' 'ょ' "DYO", two 'び' 'ゃ' "BYA",
    two 'び' 'ゅ' "BYU", two 'び' 'ょ' "BYO", two 'ぴ' 'ゃ' "PYA", two 'ぴ' 'ゅ' "PYU",
    two 'ぴ' 'ょ' "PYO", two 'ふ' 'ぁ' "FA", two 'ふ' 'ぃ' "FI", two 'ふ' 'ぇ' "FE",
    two 'ふ' 'ぉ' "FO", two 'て' 'ぃ' "THI", two 'で' 'ぃ' "DHI", two 'ゔ' 'ぁ' "VA",
    two 'ゔ' 'ぃ' "VI", two 'ゔ' 'ぇ' "VE", two 'ゔ' 'ぉ' "VO", two 'っ' 'か' "KKA",
    two 'っ' 'き' "KKI", two 'っ' 'く' "KKU", two 'っ' 'け' "KKE", two 'っ' 'こ' "KKO",
    two 'っ' 'さ' "SSA", two 'っ' 'し' "SSH?I", two 'っ' 'す' "SSU", two 'っ' 'せ' "SSE",
    two 'っ' 'そ' "SSO", two 'っ' 'た' "TTA", two 'っ' 'ち' "[TC][TC]H?I", two 'っ' 'つ' "TTS?U",
    two 'っ' 'て' "TTE", two 'っ' 'と' "TTO", two 'っ' 'は' "HHA", two 'っ' 'ひ' "HHI",
    two 'っ' 'ふ' "[HF][HF]U", two 'っ' 'へ' "HHE", two 'っ' 'ほ' "HHO", two 'っ' 'ま' "MMA",
    two 'っ' 'み' "MMI", two 'っ' 'む' "MMU", two 'っ' 'め' "MME", two 'っ' 'も' "MMO",
    two 'っ' 'や' "YYA", two 'っ' 'ゆ' "YYU", two 'っ' 'よ' "YYO", two 'っ' 'ら' "RRA",
    two 'っ' 'り' "RRI", two 'っ' 'る' "RRU", two 'っ' 'れ' "RRE", two 'っ' 'ろ' "RRO",
    two 'っ' 'わ' "WWA", two 'っ' 'が' "GGA", two 'っ' 'ぎ' "GGI", two 'っ' 'ぐ' "GGU",
    two 'っ' 'げ' "GGE", two 'っ' 'ご' "GGO", two 'っ' 'ざ' "ZZA", two 'っ' 'じ' "[ZJ][ZJ]I",
    two 'っ' 'ず' "ZZU", two 'っ' 'ぜ' "ZZE", two 'っ' 'ぞ' "ZZO", two 'っ' 'だ' "DDA",
    two 'っ' 'ぢ' "DDI", two 'っ' 'づ' "[DZ][DZ]U", two 'っ' 'で' "DDE", two 'っ' 'ど' "DDO",
    two 'っ' 'ば' "BBA", two 'っ' 'び' "BBI", two 'っ' 'ぶ' "BBU", two 'っ' 'べ' "BBE",
    two 'っ' 'ぼ' "BBO", two 'っ' 'ぱ' "PPA", two 'っ' 'ぴ' "PPI", two 'っ' 'ぷ' "PPU",
    two 'っ' 'ぺ' "PPE", two 'っ' 'ぽ' "PPO"]
  triple :=
    [three 'っ' 'き' 'ゃ' "KKYA", three 'っ' 'き' 'ゅ' "KKYU", three 'っ' 'き' 'ょ' "KKYO",
    three 'っ' 'し' 'ゃ' "SS[YH]A", three 'っ' 'し' 'ゅ' "SS[YH]U", three 'っ' 'し' 'ょ' "SS[YH]O",
    three 'っ' 'ち' 'ゃ' "[TC][TC][YH]A", three 'っ' 'ち' 'ゅ' "[TC][TC][YH]U",
    three 'っ' 'ち' 'ょ' "[TC][TC][YH]O", three 'っ' 'に' 'ゃ' "NNYA", three 'っ' 'に' 'ゅ' "NNYU",
    three 'っ' 'に' 'ょ' "NNYO", three 'っ' 'ひ' 'ゃ' "HHYA", three 'っ' 'ひ' 'ゅ' "HHYU",
    three 'っ' 'ひ' 'ょ' "HHYO", three 'っ' 'み' 'ゃ' "MMYA", three 'っ' 'み' 'ゅ' "MMYU",
    three 'っ' 'み' 'ょ' "MMYO", three 'っ' 'り' 'ゃ' "RRYA", three 'っ' 'り' 'ゅ' "RRYU",
    three 'っ' 'り' 'ょ' "RRYO", three 'っ' 'ぎ' 'ゃ' "GGYA", three 'っ' 'ぎ' 'ゅ' "GGYU",
    three 'っ' 'ぎ' 'ょ' "GGYO", three 'っ' 'じ' 'ゃ' "[JZ][JZ]Y?A",
    three 'っ' 'じ' 'ゅ' "[JZ][JZ]Y?U", three 'っ' 'じ' 'ょ' "[JZ][JZ]Y?O",
    three 'っ' 'ぢ' 'ゃ' "DDYA", three 'っ' 'ぢ' 'ゅ' "DDYU", three 'っ' 'ぢ' 'ょ' "DDYO",
    three 'っ' 'び' 'ゃ' "BBYA", three 'っ' 'び' 'ゅ' "BBYU", three 'っ' 'び' 'ょ' "BBYO",
    three 'っ' 'ぴ' 'ゃ' "PPYA", three 'っ' 'ぴ' 'ゅ' "PPYU", three 'っ' 'ぴ' 'ょ' "PPYO"]

/-- The line of an entry. -/
def entryLine {n : Nat} (e : Entry n) : String :=
  "\"" ++ String.ofList e.key.val ++ "\" = \"" ++ String.ofList e.grammar ++ "\"\n"

/-- The lines of a section, after its heading. -/
def sectionLines {n : Nat} (s : Section) (entries : List (Entry n)) : String :=
  "[" ++ s.name ++ "]\n" ++ String.join (entries.map entryLine)

/-- The lines of a table: its three sections, with a blank line between two. -/
def document (t : Table) : String :=
  "\n".intercalate
    [sectionLines .single t.single, sectionLines .pair t.pair, sectionLines .triple t.triple]

/-- The text that the built-in table is published in. -/
def builtinText : String :=
  "# Kana to keystroke grammar table.\n" ++
  "#\n" ++
  "# Grammar: LETTER or [LETTERS], each optionally followed by '?'.\n" ++
  "# Katakana and full-width Latin forms are derived from these entries.\n" ++
  "\n" ++ builtin.document

end Table

/-- The lexicon of the built-in table. -/
def Lexicon.builtin : Lexicon :=
  match ofTable Table.builtin with
  | .ok x => x
  | .error _ => empty

end KanaTyping
