import Stencil.Text.Blank
import Stencil.Text.Lines

/-!
Dedenting a body that was written as an indented literal: the line of the opening delimiter goes,
the indentation of the first line after it is taken from every line, and the text ends in exactly
one line feed.
-/

namespace Stencil.Dedent

/-- The number of blanks before the first visible character; zero for a line without one. -/
def indentation (line : List Char) : Nat :=
  if line.all Text.isBlank then 0 else (line.takeWhile Text.isBlank).length

/-- The lines after the first one, each without as many characters as the first of them is
indented. A line that is shorter becomes empty; one that is indented less loses visible
characters. -/
def body (raw : List Char) : List (List Char) :=
  let lines := (Text.splitLines raw).drop 1
  lines.map (·.drop (indentation (lines.headD [])))

/-- The dedented lines, without blanks at the end of the text and with one line feed instead. -/
def format (raw : List Char) : List Char :=
  Text.trimEnd (Text.joinLines (body raw)) ++ ['\n']

end Stencil.Dedent

namespace Stencil

/-- A body as it is before substitution. -/
def dedent (raw : String) : String :=
  String.ofList (Dedent.format raw.toList)

end Stencil
