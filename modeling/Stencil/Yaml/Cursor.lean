/-!
A place in a document: the characters still to be read, and where they stand. Lines end at carriage
returns, line feeds, next lines and the two Unicode separators.
-/

namespace Stencil.Yaml

/-- A line break. -/
def isBreak (c : Char) : Bool :=
  c = '\n' || c = '\r' || c = '\u0085' || c = '\u2028' || c = '\u2029'

def isSpaceOrTab (c : Char) : Bool :=
  c = ' ' || c = '\t'

def isSpaceOrBreak (c : Char) : Bool :=
  isSpaceOrTab c || isBreak c

/-- A character of names: an ASCII letter or digit, a low line or a dash. -/
def isNameChar (c : Char) : Bool :=
  c.isAlphanum || c = '_' || c = '-'

/-- A character that may stand in a document at all. -/
def isAllowed (c : Char) : Bool :=
  let n := c.toNat
  n = 0x09 || n = 0x0A || n = 0x0D || (0x20 ≤ n && n ≤ 0x7E) || n = 0x85 ||
    (0xA0 ≤ n && n ≤ 0xD7FF) || (0xE000 ≤ n && n ≤ 0xFFFD) || 0x10000 ≤ n

structure Cursor where
  rest : List Char
  /-- How many characters the whole text has. -/
  size : Nat
  /-- How many characters were read. -/
  index : Nat
  line : Nat
  column : Nat

namespace Cursor

def start (text : List Char) : Cursor :=
  ⟨text, text.length, 0, 0, 0⟩

def peek (cursor : Cursor) : Option Char :=
  cursor.rest.head?

/-- Past one character that does not end a line. -/
def skip (cursor : Cursor) : Cursor :=
  { cursor with
    rest := cursor.rest.tail
    index := cursor.index + 1
    column := cursor.column + 1 }

/-- Past several characters that do not end a line. -/
def skipMany (cursor : Cursor) (count : Nat) : Cursor :=
  { cursor with
    rest := cursor.rest.drop count
    index := cursor.index + count
    column := cursor.column + count }

/-- Past the characters of a class without line breaks. -/
def skipWhile (cursor : Cursor) (p : Char → Bool) : Cursor :=
  cursor.skipMany (cursor.rest.takeWhile p).length

/-- Past a line break, with the character that it counts as. A carriage return with a line feed is
one break; all but the Unicode separators count as line feeds. -/
def takeBreak (cursor : Cursor) : List Char × Cursor :=
  let newLine (rest : List Char) (count : Nat) : Cursor :=
    ⟨rest, cursor.size, cursor.index + count, cursor.line + 1, 0⟩
  match cursor.rest with
  | '\r' :: '\n' :: rest => (['\n'], newLine rest 2)
  | c :: rest =>
    if c = '\u2028' ∨ c = '\u2029' then ([c], newLine rest 1)
    else if isBreak c then (['\n'], newLine rest 1)
    else ([], cursor)
  | [] => ([], cursor)

/-- Past everything up to the end of the line. -/
def skipToBreak (cursor : Cursor) : Cursor :=
  cursor.skipWhile fun c => !isBreak c

end Cursor

/-- Whether a blank, a line break or the end follows. -/
def endsWord : List Char → Bool
  | [] => true
  | c :: _ => isSpaceOrBreak c

/-- Three dashes or three dots at the start of a line, set off from what follows. -/
def isDocumentMark (cursor : Cursor) : Bool :=
  cursor.column = 0 &&
    match cursor.rest with
    | '-' :: '-' :: '-' :: rest => endsWord rest
    | '.' :: '.' :: '.' :: rest => endsWord rest
    | _ => false

end Stencil.Yaml
