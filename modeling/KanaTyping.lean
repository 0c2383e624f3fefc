import KanaTyping.CommandLine.Outcome
import KanaTyping.CommandLine.Request
import KanaTyping.Decimal.Binary
import KanaTyping.Decimal.Places
import KanaTyping.Decimal.Shortest
import KanaTyping.Kana.Builtin
import KanaTyping.Kana.Lexicon
import KanaTyping.Kana.Published
import KanaTyping.Kana.Script
import KanaTyping.Kana.Table
import KanaTyping.Lyrics.Cursor
import KanaTyping.Lyrics.Lyric
import KanaTyping.Lyrics.Markup
import KanaTyping.Lyrics.Song
import KanaTyping.Main
import KanaTyping.Play.Difficulty
import KanaTyping.Play.Hint
import KanaTyping.Play.Progress
import KanaTyping.Play.Replay
import KanaTyping.Play.Score
import KanaTyping.Play.Segment
import KanaTyping.Play.Words
import KanaTyping.Proofs.Kana.Checked
import KanaTyping.Proofs.Kana.Contents
import KanaTyping.Proofs.Kana.Lookup
import KanaTyping.Proofs.Kana.Sources
import KanaTyping.Proofs.Lyrics.Cells
import KanaTyping.Proofs.Lyrics.FirstFault
import KanaTyping.Proofs.Lyrics.Glyphs
import KanaTyping.Proofs.Lyrics.Layout
import KanaTyping.Proofs.Lyrics.Markup
import KanaTyping.Proofs.Lyrics.MarkupFaults
import KanaTyping.Proofs.Lyrics.Sheet
import KanaTyping.Proofs.Lyrics.Stream
import KanaTyping.Proofs.Lyrics.Walk
import KanaTyping.Proofs.Play.Ahead
import KanaTyping.Proofs.Play.Alike
import KanaTyping.Proofs.Play.Calls
import KanaTyping.Proofs.Play.Charges
import KanaTyping.Proofs.Play.Completions
import KanaTyping.Proofs.Play.Due
import KanaTyping.Proofs.Play.Entries
import KanaTyping.Proofs.Play.Hints
import KanaTyping.Proofs.Play.Joined
import KanaTyping.Proofs.Play.Language
import KanaTyping.Proofs.Play.Misses
import KanaTyping.Proofs.Play.Optional
import KanaTyping.Proofs.Play.Range
import KanaTyping.Proofs.Play.Replays
import KanaTyping.Proofs.Play.Respelling
import KanaTyping.Proofs.Play.Segmentation
import KanaTyping.Proofs.Play.Shortest
import KanaTyping.Proofs.Play.Standing
import KanaTyping.Proofs.Play.Stops
import KanaTyping.Proofs.Play.Tally
import KanaTyping.Proofs.Play.Transitions
import KanaTyping.Proofs.Play.Words
import KanaTyping.Proofs.Settings.Session
import KanaTyping.Proofs.Spelling.Ambiguity
import KanaTyping.Proofs.Spelling.Faults
import KanaTyping.Proofs.Spelling.Grammar
import KanaTyping.Proofs.Spelling.Keys
import KanaTyping.Proofs.Spelling.Language
import KanaTyping.Proofs.Spelling.Places
import KanaTyping.Proofs.Text.Columns
import KanaTyping.Proofs.Text.Pieces
import KanaTyping.Proofs.Text.Scanners
import KanaTyping.Settings.Basic
import KanaTyping.Settings.Session
import KanaTyping.Spelling.Basic
import KanaTyping.Spelling.Grammar
import KanaTyping.Text.Blank
import KanaTyping.Text.GraphemeExtend
import KanaTyping.Text.Json
import KanaTyping.Text.Lines
import KanaTyping.Text.Number
import KanaTyping.Text.Printable
import KanaTyping.Text.Quoted
import KanaTyping.Text.RangeTable
import KanaTyping.Text.Width
import KanaTyping.Text.Width.Classes
import KanaTyping.Toml.Document
import KanaTyping.Toml.Number
import KanaTyping.Toml.Scan
import KanaTyping.Toml.Text
import KanaTyping.Toml.Value
