import Stencil.Yaml.Cursor
import Stencil.Yaml.Token
import Stencil.Text.Numeral

/-!
Reading of scalars. Between the lines of a plain or quoted scalar one break becomes a space and
further breaks stay; a block scalar says itself what becomes of its breaks.
-/

namespace Stencil.Yaml

/-- Blanks and breaks between two parts of a scalar, in reverse. Once a line is broken, the blanks
around the break no longer count. -/
structure Gap where
  blanks : List Char
  broken : Bool
  firstBreak : List Char
  laterBreaks : List Char

namespace Gap

def none : Gap :=
  ⟨[], false, [], []⟩

/-- A break that was escaped, and so does not count. -/
def escaped : Gap :=
  ⟨[], true, [], []⟩

def withBlank (gap : Gap) (c : Char) : Gap :=
  if gap.broken then gap else { gap with blanks := c :: gap.blanks }

def withBreak (gap : Gap) (chars : List Char) : Gap :=
  if gap.broken then { gap with laterBreaks := chars ++ gap.laterBreaks }
  else ⟨[], true, chars, []⟩

def isNone (gap : Gap) : Bool :=
  gap.blanks.isEmpty && !gap.broken

/-- What the gap becomes, in reverse. -/
def folded (gap : Gap) : List Char :=
  if !gap.broken then gap.blanks
  else if gap.firstBreak = ['\n'] then
    if gap.laterBreaks.isEmpty then [' '] else gap.laterBreaks
  else gap.laterBreaks ++ gap.firstBreak

end Gap

/-- Whether a colon or an indicator ends a plain scalar here. -/
def endsPlain (inFlow : Bool) : List Char → Bool
  | [] => true
  | c :: rest =>
    (c = ':' && endsWord rest) ||
      (inFlow && (c = ',' || c = '[' || c = ']' || c = '\x7b' || c = '\x7d'))

/-- A colon that touches an indicator in a flow collection, where it may not stand. -/
def isStrayColon (inFlow : Bool) : List Char → Bool
  | ':' :: next :: _ =>
    inFlow && (next = ',' || next = '?' || next = '[' || next = ']' || next = '\x7b' ||
      next = '\x7d')
  | _ => false

/-- A plain scalar: its text in reverse, where reading stopped, and whether that is on a later line
than its last character. Outside flow collections lines have to be indented to `indent`. The fuel is
at least the number of characters. -/
def readPlain (inFlow : Bool) (indent : Int) :
    Nat → Cursor → List Char → Gap → Option (List Char × Cursor × Bool)
  | 0, _, _, _ => none
  | fuel + 1, cursor, text, gap =>
    let done := some (text, cursor, gap.broken)
    match cursor.rest with
    | [] => done
    | c :: _ =>
      if isSpaceOrTab c then
        if gap.broken ∧ (cursor.column : Int) < indent ∧ c = '\t' then none
        else readPlain inFlow indent fuel cursor.skip text (gap.withBlank c)
      else if isBreak c then
        let (chars, next) := cursor.takeBreak
        readPlain inFlow indent fuel next text (gap.withBreak chars)
      else if !gap.isNone ∧
          ((!inFlow ∧ (cursor.column : Int) < indent) ∨ isDocumentMark cursor ∨ c = '#') then
        done
      else if isStrayColon inFlow cursor.rest then none
      else if endsPlain inFlow cursor.rest then done
      else readPlain inFlow indent fuel cursor.skip (c :: (gap.folded ++ text)) Gap.none

/-- The character of an escape by number. -/
def escapedPoint? (count : Nat) (rest : List Char) : Option (Char × Nat) := do
  let digits := rest.take count
  let c ← Text.charOfHex? digits
  if digits.length = count then some (c, count + 1) else none

/-- The character of an escape, and how many characters after the backslash write it. -/
def escape? : List Char → Option (Char × Nat)
  | [] => none
  | c :: rest =>
    match c with
    | '0' => some ('\x00', 1)
    | 'a' => some ('\x07', 1)
    | 'b' => some ('\x08', 1)
    | 't' => some ('\t', 1)
    | '\t' => some ('\t', 1)
    | 'n' => some ('\n', 1)
    | 'v' => some ('\x0B', 1)
    | 'f' => some ('\x0C', 1)
    | 'r' => some ('\r', 1)
    | 'e' => some ('\x1B', 1)
    | ' ' => some (' ', 1)
    | '\x22' => some ('\x22', 1)
    | '/' => some ('/', 1)
    | '\\' => some ('\\', 1)
    | 'N' => some ('\u0085', 1)
    | '_' => some ('\u00A0', 1)
    | 'L' => some ('\u2028', 1)
    | 'P' => some ('\u2029', 1)
    | 'x' => escapedPoint? 2 rest
    | 'u' => escapedPoint? 4 rest
    | 'U' => escapedPoint? 8 rest
    | _ => none

/-- The rest of a quoted scalar after its opening quote: its text in reverse and what follows the
closing quote. -/
def readQuoted (single : Bool) : Nat → Cursor → List Char → Gap → Option (List Char × Cursor)
  | 0, _, _, _ => none
  | fuel + 1, cursor, text, gap =>
    match cursor.rest with
    | [] => none
    | c :: rest =>
      if isSpaceOrTab c then
        readQuoted single fuel cursor.skip text (gap.withBlank c)
      else if isBreak c then
        let (chars, next) := cursor.takeBreak
        readQuoted single fuel next text (gap.withBreak chars)
      else if isDocumentMark cursor then none
      else
        let text := gap.folded ++ text
        if single then
          if c ≠ '\x27' then readQuoted single fuel cursor.skip (c :: text) Gap.none
          else if rest.head? = some '\x27' then
            readQuoted single fuel (cursor.skipMany 2) ('\x27' :: text) Gap.none
          else some (text, cursor.skip)
        else if c = '\x22' then some (text, cursor.skip)
        else if c ≠ '\\' then readQuoted single fuel cursor.skip (c :: text) Gap.none
        else if rest.head?.any isBreak then
          readQuoted single fuel cursor.skip.takeBreak.2 text Gap.escaped
        else
          match escape? rest with
          | some (char, count) =>
            readQuoted single fuel (cursor.skipMany (count + 1)) (char :: text) Gap.none
          | none => none

/-- What becomes of the breaks at the end of a block scalar. -/
inductive Chomping where
  | strip
  | clip
  | keep
  deriving DecidableEq, Repr

/-- The indicators after the bar or angle of a block scalar, in either order. -/
def blockHeader? (cursor : Cursor) : Option (Chomping × Nat × Cursor) :=
  let chomping? (c : Option Char) : Option Chomping :=
    if c = some '+' then some .keep else if c = some '-' then some .strip else none
  let digit? (c : Option Char) : Option Nat :=
    match c with
    | some c => if c.isDigit then some (c.toNat - 48) else none
    | none => none
  let (chomping, cursor) : Option Chomping × Cursor := match chomping? cursor.peek with
    | some chomping => (some chomping, cursor.skip)
    | none => (none, cursor)
  let (increment, cursor) : Option Nat × Cursor := match digit? cursor.peek with
    | some n => (some n, cursor.skip)
    | none => (none, cursor)
  let (chomping, cursor) : Option Chomping × Cursor :=
    match chomping, increment, chomping? cursor.peek with
    | none, some _, some later => (some later, cursor.skip)
    | _, _, _ => (chomping, cursor)
  if increment = some 0 then none
  else some (chomping.getD .clip, increment.getD 0, cursor)

/-- Skips the indentation of lines, and blank lines as a whole: their breaks in reverse, the
greatest column reached, and the first line that is not blank. An indentation of zero is not known
yet. -/
def readBlankLines (indent : Nat) :
    Nat → Cursor → List Char → Nat → Option (List Char × Nat × Cursor)
  | 0, _, _, _ => none
  | fuel + 1, cursor, breaks, widest =>
    let spaces := (cursor.rest.takeWhile (· = ' ')).length
    let cursor :=
      cursor.skipMany (if indent = 0 then spaces else min spaces (indent - cursor.column))
    let widest := max widest cursor.column
    let shallow := indent = 0 ∨ cursor.column < indent
    match cursor.rest with
    | [] => some (breaks, widest, cursor)
    | c :: _ =>
      if shallow ∧ c = '\t' then none
      else if isBreak c then
        let (chars, next) := cursor.takeBreak
        readBlankLines indent fuel next (chars ++ breaks) widest
      else some (breaks, widest, cursor)

/-- The lines of a block scalar, as long as they reach its indentation: the text in reverse, the
break after the last line, the breaks after that, and where reading stopped. `blank` tells whether
the line before begins with a blank. -/
def readBlockLines (literal : Bool) (indent : Nat) :
    Nat → Cursor → List Char → List Char → List Char → Bool →
      Option (List Char × List Char × List Char × Cursor)
  | 0, _, _, _, _, _ => none
  | fuel + 1, cursor, text, lastBreak, laterBreaks, blank =>
    if cursor.column ≠ indent ∨ cursor.rest.isEmpty then
      some (text, lastBreak, laterBreaks, cursor)
    else
      let nowBlank := cursor.peek.any isSpaceOrTab
      let folds := !literal && lastBreak = ['\n'] && !blank && !nowBlank
      let text :=
        if folds then
          if laterBreaks.isEmpty then ' ' :: text else laterBreaks ++ text
        else laterBreaks ++ (lastBreak ++ text)
      let line := cursor.rest.takeWhile fun c => !isBreak c
      let (lineBreak, next) := (cursor.skipMany line.length).takeBreak
      match readBlankLines indent (next.size + 1) next [] 0 with
      | none => none
      | some (breaks, _, next) =>
        readBlockLines literal indent fuel next (line.reverse ++ text) lineBreak breaks nowBlank

/-- Past blanks and a comment to the end of the line. -/
def skipLineEnd? (cursor : Cursor) : Option Cursor :=
  let cursor := cursor.skipWhile isSpaceOrTab
  let cursor := if cursor.peek = some '#' then cursor.skipToBreak else cursor
  if cursor.rest.isEmpty ∨ cursor.peek.any isBreak then some cursor.takeBreak.2 else none

/-- A block scalar after its bar or angle, in a block indented by `outer`. Without an indentation
indicator the first line that is not blank sets the indentation. -/
def readBlock (literal : Bool) (outer : Int) (cursor : Cursor) :
    Option (List Char × Cursor) := do
  let (chomping, increment, cursor) ← blockHeader? cursor
  let cursor ← skipLineEnd? cursor
  let known := if increment = 0 then 0 else (max outer 0).toNat + increment
  let (breaks, widest, cursor) ←
    readBlankLines known (cursor.size + 1) cursor [] 0
  let indent := if known = 0 then max widest (max (outer + 1) 1).toNat else known
  let (text, lastBreak, laterBreaks, cursor) ←
    readBlockLines literal indent (cursor.size + 1) cursor [] [] breaks false
  some (match chomping with
    | .strip => (text, cursor)
    | .clip => (lastBreak ++ text, cursor)
    | .keep => (laterBreaks ++ (lastBreak ++ text), cursor))

end Stencil.Yaml
