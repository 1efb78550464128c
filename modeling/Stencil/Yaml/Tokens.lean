import Stencil.Yaml.Property

/-!
A document as a list of tokens. Indentation is made explicit by tokens that open and close blocks.
A key is only known for one at the colon after it, so every place where a key could begin is kept
until then, one for each open collection, and the tokens for it are put in there.
-/

namespace Stencil.Yaml

/-- A place where a key could begin. -/
structure KeyPlace where
  /-- How many tokens come before it. -/
  tokens : Nat
  /-- Whether nothing but a key can stand here. -/
  required : Bool
  cursor : Cursor

/-- The layout of what was read: the tokens so far in reverse, the indentations of the open blocks
and the places for keys, both innermost first. There is one place more than open flow
collections. -/
structure Layout where
  cursor : Cursor
  tokens : List Token
  /-- How many tokens there are. -/
  count : Nat
  indent : Int
  outerIndents : List Int
  places : List (Option KeyPlace)
  /-- Whether a key may begin here. -/
  keyAllowed : Bool

namespace Layout

def start (text : List Char) : Layout :=
  ⟨Cursor.start text, [], 0, -1, [], [none], true⟩

def inFlow (s : Layout) : Bool :=
  1 < s.places.length

def push (s : Layout) (token : Token) : Layout :=
  { s with tokens := token :: s.tokens, count := s.count + 1 }

/-- Puts a token behind the first `count` ones. -/
def pushAt (s : Layout) (count : Nat) (token : Token) : Layout :=
  let later := s.count - count
  { s with
    tokens := s.tokens.take later ++ token :: s.tokens.drop later
    count := s.count + 1 }

/-- Gives up the innermost place for a key; not possible where a key is required. -/
def dropPlace? (s : Layout) : Option Layout :=
  match s.places with
  | some place :: outer => if place.required then none else some { s with places := none :: outer }
  | _ => some s

/-- Notes that a key may begin here, where it may. -/
def savePlace? (s : Layout) : Option Layout :=
  if s.keyAllowed then do
    let required := !s.inFlow && s.indent = s.cursor.column
    let dropped ← s.dropPlace?
    some { dropped with
      places := some ⟨s.count, required, s.cursor⟩ :: dropped.places.drop 1 }
  else some s

/-- Gives up the places that are on an earlier line or more than 1024 characters back. -/
def dropStale? (s : Layout) : Option Layout := do
  let places ← s.places.mapM fun place =>
    match place with
    | none => some none
    | some place =>
      if place.cursor.line < s.cursor.line ∨ place.cursor.index + 1024 < s.cursor.index then
        if place.required then none else some none
      else some (some place)
  some { s with places := places }

/-- Opens a block at a column that is deeper than the present one, before the token number
`count`. -/
def openBlock (s : Layout) (column count : Nat) (token : Token) : Layout :=
  if !s.inFlow ∧ s.indent < column then
    { s.pushAt count token with indent := column, outerIndents := s.indent :: s.outerIndents }
  else s

/-- Closes the blocks that are deeper than a column, given the indentations around. -/
def closeBlocks (s : Layout) (column : Int) : List Int → Layout
  | [] => s
  | outer :: rest =>
    if column < s.indent then
      closeBlocks { s.push .blockEnd with indent := outer, outerIndents := rest } column rest
    else s

/-- Closes the blocks that are deeper than a column; none inside flow collections. -/
def closeDeeper (s : Layout) (column : Int) : Layout :=
  if s.inFlow then s else s.closeBlocks column s.outerIndents

/-- Past blanks, comments and breaks to the next token. Tabs may not stand where a key could begin.
A byte order mark is skipped at the start. The fuel is at least the number of characters. -/
def skipToToken : Nat → Layout → Layout
  | 0, s => s
  | fuel + 1, s =>
    let cursor :=
      if s.cursor.index = 0 ∧ s.cursor.peek = some '\uFEFF' then s.cursor.skip else s.cursor
    let tabs := s.inFlow || !s.keyAllowed
    let cursor := cursor.skipWhile fun c => c = ' ' || (tabs && c = '\t')
    let cursor := if cursor.peek = some '#' then cursor.skipToBreak else cursor
    if cursor.peek.any isBreak then
      skipToToken fuel { s with
        cursor := cursor.takeBreak.2
        keyAllowed := s.keyAllowed || !s.inFlow }
    else { s with cursor := cursor }

/-- Past `count` characters, with a token for them. -/
def take (s : Layout) (count : Nat) (token : Token) : Layout :=
  { s.push token with cursor := s.cursor.skipMany count }

/-- The result of a reader as the next token. -/
def accept? (s : Layout) (read : Option (Token × Cursor)) : Option Layout :=
  read.map fun (token, cursor) => { s.push token with cursor := cursor }

/-- A directive or a document mark: all blocks end before it. -/
def atMargin? (s : Layout) : Option Layout := do
  let s ← (s.closeDeeper (-1)).dropPlace?
  some { s with keyAllowed := false }

def openFlow? (s : Layout) (token : Token) : Option Layout := do
  let s ← s.savePlace?
  some ({ s with places := none :: s.places, keyAllowed := true }.take 1 token)

def closeFlow? (s : Layout) (token : Token) : Option Layout := do
  let s ← s.dropPlace?
  let places := if s.inFlow then s.places.drop 1 else s.places
  some ({ s with places := places, keyAllowed := false }.take 1 token)

def flowEntry? (s : Layout) : Option Layout := do
  let s ← s.dropPlace?
  some ({ s with keyAllowed := true }.take 1 .flowEntry)

/-- A dash. Outside flow collections it opens a sequence where it is deeper. -/
def blockEntry? (s : Layout) : Option Layout := do
  if !s.inFlow ∧ !s.keyAllowed then none
  else
    let s ← (s.openBlock s.cursor.column s.count .blockSequenceStart).dropPlace?
    some ({ s with keyAllowed := true }.take 1 .blockEntry)

/-- A question mark before a key. -/
def explicitKey? (s : Layout) : Option Layout := do
  if !s.inFlow ∧ !s.keyAllowed then none
  else
    let s ← (s.openBlock s.cursor.column s.count .blockMappingStart).dropPlace?
    some ({ s with keyAllowed := !s.inFlow }.take 1 .key)

/-- A colon. If a key could begin on this line, it did, and its token goes there. -/
def value? (s : Layout) : Option Layout :=
  match s.places with
  | some place :: outer =>
    let s := { s.pushAt place.tokens .key with places := none :: outer, keyAllowed := false }
    some ((s.openBlock place.cursor.column place.tokens .blockMappingStart).take 1 .value)
  | _ =>
    if !s.inFlow ∧ !s.keyAllowed then none
    else
      let s := s.openBlock s.cursor.column s.count .blockMappingStart
      some ({ s with keyAllowed := !s.inFlow }.take 1 .value)

/-- An anchor, alias, tag or quoted scalar: a key may begin with it, but not after it. -/
def keyStart? (s : Layout) (read : Cursor → Option (Token × Cursor)) : Option Layout := do
  let s ← s.savePlace?
  { s with keyAllowed := false }.accept? (read s.cursor)

def named (token : String → Token) (cursor : Cursor) : Option (Token × Cursor) :=
  (readAnchorName cursor.skip).map fun (name, next) => (token name, next)

def quoted (style : Style) (cursor : Cursor) : Option (Token × Cursor) :=
  (readQuoted (style == .singleQuoted) (cursor.size + 1) cursor.skip [] Gap.none).map
    fun (text, next) => (.scalar style (String.ofList text.reverse), next)

def block? (s : Layout) (style : Style) : Option Layout := do
  let s ← s.dropPlace?
  let (text, next) ← readBlock (style == .literal) s.indent s.cursor.skip
  some { s.push (.scalar style (String.ofList text.reverse)) with
    cursor := next
    keyAllowed := true }

/-- A plain scalar. After one of several lines a key may begin. -/
def plain? (s : Layout) : Option Layout := do
  let s ← s.savePlace?
  let (text, next, broken) ←
    readPlain s.inFlow (s.indent + 1) (s.cursor.size + 1) s.cursor [] Gap.none
  some { s.push (.scalar .plain (String.ofList text.reverse)) with
    cursor := next
    keyAllowed := broken }

/-- A character that no plain scalar begins with. -/
def isIndicator (c : Char) : Bool :=
  c = '-' || c = '?' || c = ':' || c = ',' || c = '[' || c = ']' || c = '\x7b' || c = '\x7d' ||
    c = '#' || c = '&' || c = '*' || c = '!' || c = '|' || c = '>' || c = '\x27' || c = '\x22' ||
    c = '%' || c = '@' || c = '\x60'

/-- Whether a plain scalar begins here. Three indicators may begin one when text follows. -/
def beginsPlain (inFlow : Bool) (c : Char) (rest : List Char) : Bool :=
  !(isSpaceOrBreak c || isIndicator c) ||
    (c = '-' && !rest.head?.any isSpaceOrTab) ||
    (!inFlow && (c = '?' || c = ':') && !endsWord rest)

/-- Reads the token at the cursor, which is not at the end. -/
def token? (s : Layout) (c : Char) (rest : List Char) : Option Layout :=
  if s.cursor.column = 0 ∧ c = '%' then do
    let s ← s.atMargin?
    s.accept? (readDirective s.cursor.skip)
  else if isDocumentMark s.cursor then do
    let s ← s.atMargin?
    some (s.take 3 (if c = '-' then .documentStart else .documentEnd))
  else
    let separate := s.inFlow || endsWord rest
    match c with
    | '[' => s.openFlow? .flowSequenceStart
    | '\x7b' => s.openFlow? .flowMappingStart
    | ']' => s.closeFlow? .flowSequenceEnd
    | '\x7d' => s.closeFlow? .flowMappingEnd
    | ',' => s.flowEntry?
    | '*' => s.keyStart? (named .alias)
    | '&' => s.keyStart? (named .anchor)
    | '!' => s.keyStart? (readTag s.inFlow)
    | '\x27' => s.keyStart? (quoted .singleQuoted)
    | '\x22' => s.keyStart? (quoted .doubleQuoted)
    | _ =>
      if c = '-' ∧ endsWord rest then s.blockEntry?
      else if c = '?' ∧ separate then s.explicitKey?
      else if c = ':' ∧ separate then s.value?
      else if c = '|' ∧ !s.inFlow then s.block? .literal
      else if c = '>' ∧ !s.inFlow then s.block? .folded
      else if beginsPlain s.inFlow c rest then s.plain?
      else none

/-- All tokens up to the end, where the blocks that are still open end. The fuel is greater than
the number of characters, since each token takes at least one. -/
def run? : Nat → Layout → Option (List Token)
  | 0, _ => none
  | fuel + 1, s => do
    let s ← (skipToToken (s.cursor.size + 1) s).dropStale?
    let s := s.closeDeeper s.cursor.column
    match s.cursor.rest with
    | [] =>
      let s ← (s.closeDeeper (-1)).dropPlace?
      some s.tokens.reverse
    | c :: rest => run? fuel (← s.token? c rest)

end Layout

/-- The tokens of a text in which every character is allowed. -/
def Token.ofText? (text : List Char) : Option (List Token) :=
  if text.all isAllowed then (Layout.start text).run? (text.length + 1) else none

end Stencil.Yaml
