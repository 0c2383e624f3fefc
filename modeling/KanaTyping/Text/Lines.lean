/-!
# Lines and fields

A text is cut into lines at its line feeds and a line into fields at its tabs.  A line feed ends
a line, so no line follows the last one unless characters do; a run of tabs parts two fields as
a single tab does.
-/

namespace KanaTyping.Text

/-- The lines of a text, without their line feeds. -/
def lines (cs : List Char) : List (List Char) :=
  let pieces := cs.splitOn '\n'
  if pieces.getLast? = some [] then pieces.dropLast else pieces

/-- The fields of a line: its non-empty pieces between tabs. -/
def fields (line : List Char) : List (List Char) :=
  (line.splitOn '\t').filter (!·.isEmpty)

end KanaTyping.Text
