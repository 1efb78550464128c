import Stencil.Yaml.Scalar

/-!
Reading of anchors, aliases, tags and directives. Each reader gives a token and what follows it.
-/

namespace Stencil.Yaml

/-- The name of an anchor or alias. A blank, a line break, the end or one of a few indicators has to
follow it. -/
def readAnchorName (cursor : Cursor) : Option (String × Cursor) :=
  let name := cursor.rest.takeWhile isNameChar
  let next := cursor.skipMany name.length
  let ends := endsWord next.rest || next.rest.head?.any fun c =>
    c = '?' || c = ':' || c = ',' || c = ']' || c = '\x7d' || c = '%' || c = '@' || c = '\x60'
  if name.isEmpty || !ends then none else some (String.ofList name, next)

/-- A character that stands for itself in a tag. Brackets and commas only do so in a tag that is
delimited otherwise. -/
def isUriChar (delimited : Bool) (c : Char) : Bool :=
  isNameChar c || c = ';' || c = '/' || c = '?' || c = ':' || c = '@' || c = '&' || c = '=' ||
    c = '+' || c = '$' || c = '.' || c = '!' || c = '~' || c = '*' || c = '\x27' || c = '(' ||
    c = ')' || (delimited && (c = ',' || c = '[' || c = ']'))

/-- A byte written as a percent sign and two digits. -/
def percentByte? : List Char → Option (Nat × List Char)
  | '%' :: high :: low :: rest => (Text.numeral? 16 [high, low]).map fun byte => (byte, rest)
  | _ => none

/-- The later bytes of a character. -/
def readContinuation : Nat → Nat → List Char → Option (Nat × List Char)
  | 0, point, rest => some (point, rest)
  | count + 1, point, rest => do
    let (byte, rest) ← percentByte? rest
    if byte / 64 = 2 then readContinuation count (point * 64 + byte % 64) rest else none

/-- A character written as percent-escaped bytes, and how many bytes these are. -/
def readEscapedChar (rest : List Char) : Option (Char × Nat × List Char) := do
  let (first, rest) ← percentByte? rest
  let (count, start) ←
    if first < 0x80 then some (0, first)
    else if first / 32 = 6 then some (1, first % 32)
    else if first / 16 = 14 then some (2, first % 16)
    else if first / 8 = 30 then some (3, first % 8)
    else none
  let (point, rest) ← readContinuation count start rest
  some (Char.ofNat point, count + 1, rest)

/-- The longest tag text that follows, with escapes replaced. The fuel is at least the number of
characters. -/
def readUri (delimited : Bool) : Nat → Cursor → List Char → Option (List Char × Cursor)
  | 0, _, _ => none
  | fuel + 1, cursor, text =>
    match cursor.rest with
    | [] => some (text.reverse, cursor)
    | c :: _ =>
      if c = '%' then
        match readEscapedChar cursor.rest with
        | some (char, bytes, _) =>
          readUri delimited fuel (cursor.skipMany (3 * bytes)) (char :: text)
        | none => none
      else if isUriChar delimited c then readUri delimited fuel cursor.skip (c :: text)
      else some (text.reverse, cursor)

/-- A tag text that may not be empty. -/
def readNonemptyUri (delimited : Bool) (cursor : Cursor) : Option (List Char × Cursor) :=
  match readUri delimited (cursor.size + 1) cursor [] with
  | some (text, next) => if text.isEmpty then none else some (text, next)
  | none => none

/-- A tag: delimited by angles, a shorthand with a handle, or the exclamation mark with or without
a text. -/
def readTag (inFlow : Bool) (cursor : Cursor) : Option (Token × Cursor) := do
  let (token, next) ←
    match cursor.rest with
    | '!' :: '<' :: _ =>
      match readNonemptyUri true (cursor.skipMany 2) with
      | some (text, next) =>
        if next.peek = some '>' then some (Token.tag "" (String.ofList text), next.skip) else none
      | none => none
    | _ =>
      let name := cursor.rest.tail.takeWhile isNameChar
      let after := cursor.skipMany (name.length + 1)
      if after.peek = some '!' then
        match readNonemptyUri false after.skip with
        | some (text, next) =>
          some (Token.tag (String.ofList ('!' :: name ++ ['!'])) (String.ofList text), next)
        | none => none
      else
        match readUri false (after.size + 1) after [] with
        | some (text, next) =>
          let suffix := name ++ text
          some (if suffix.isEmpty then Token.tag "" "!" else Token.tag "!" (String.ofList suffix),
            next)
        | none => none
  if endsWord next.rest ∨ (inFlow ∧ next.peek = some ',') then some (token, next) else none

/-- A number of a version, of at most nine digits. -/
def readVersionNumber (cursor : Cursor) : Option (Nat × Cursor) :=
  let digits := cursor.rest.takeWhile Char.isDigit
  if 9 < digits.length then none
  else (Text.numeral? 10 digits).map fun n => (n, cursor.skipMany digits.length)

/-- The version in a directive. -/
def readVersion (cursor : Cursor) : Option (Token × Cursor) := do
  let (major, cursor) ← readVersionNumber (cursor.skipWhile isSpaceOrTab)
  if cursor.peek ≠ some '.' then none
  else
    let (minor, cursor) ← readVersionNumber cursor.skip
    some (.version major minor, cursor)

/-- The handle and the meaning of a shorthand in a directive. -/
def readShorthand (cursor : Cursor) : Option (Token × Cursor) := do
  let cursor := cursor.skipWhile isSpaceOrTab
  if cursor.peek ≠ some '!' then none
  else
    let name := cursor.rest.tail.takeWhile isNameChar
    let cursor := cursor.skipMany (name.length + 1)
    let closed := cursor.peek = some '!'
    if !closed ∧ !name.isEmpty then none
    else
      let handle := '!' :: name ++ (if closed then ['!'] else [])
      let cursor := if closed then cursor.skip else cursor
      if !cursor.peek.any isSpaceOrTab then none
      else
        let (meaning, cursor) ← readNonemptyUri true (cursor.skipWhile isSpaceOrTab)
        if endsWord cursor.rest then
          some (.tagShorthand (String.ofList handle) (String.ofList meaning), cursor)
        else none

/-- A directive, after its percent sign, up to the end of its line. -/
def readDirective (cursor : Cursor) : Option (Token × Cursor) := do
  let name := cursor.rest.takeWhile isNameChar
  let cursor := cursor.skipMany name.length
  if !endsWord cursor.rest then none
  else
    let (token, cursor) ←
      match String.ofList name with
      | "YAML" => readVersion cursor
      | "TAG" => readShorthand cursor
      | _ => none
    some (token, ← skipLineEnd? cursor)

end Stencil.Yaml
