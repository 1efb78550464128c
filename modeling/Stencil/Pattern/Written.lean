import Stencil.Pattern.Basic
import Stencil.Pattern.Regex
import Stencil.Text.Alphanumeric
import Stencil.Text.Numeral

/-!
The written form of regular expressions: literals, escapes, classes, groups with and without names
and flags, alternatives and repetitions. Reading keeps a stack of the groups that are open. It is a
part of the language: classes by Unicode properties are not read, and without Unicode only the named
classes change.
-/

namespace Stencil.Pattern

/-- What flags say about the expressions after them in the same group. -/
structure Flags where
  ignoreCase : Bool
  multiLine : Bool
  dotMatchesAll : Bool
  /-- Blanks and comments between the parts do not count. -/
  spaced : Bool
  /-- Named classes mean their ASCII members. -/
  ascii : Bool
  /-- A carriage return ends a line too. -/
  returns : Bool
  deriving Repr

def Flags.none : Flags :=
  ⟨false, false, false, false, false, false⟩

/-- What a flag letter does when it is switched on or off. The letter `U` only bears on
which of several matches is found. -/
def Flags.set? (flags : Flags) (letter : Char) (on : Bool) : Option Flags :=
  match letter with
  | 'i' => some { flags with ignoreCase := on }
  | 'm' => some { flags with multiLine := on }
  | 's' => some { flags with dotMatchesAll := on }
  | 'x' => some { flags with spaced := on }
  | 'u' => some { flags with ascii := !on }
  | 'U' => some flags
  | 'R' => some { flags with returns := on }
  | _ => Option.none

/-- The text after blanks and after comments, which end with their line. -/
def dropComments (inComment : Bool) : List Char → List Char
  | [] => []
  | c :: rest =>
    if inComment then dropComments (c ≠ '\n') rest
    else if Text.isBlank c then dropComments false rest
    else if c = '#' then dropComments true rest
    else c :: rest

/-- The next character that counts. -/
def skipSpaced (flags : Flags) (chars : List Char) : List Char :=
  if flags.spaced then dropComments false chars else chars

/-- What an escape stands for. -/
inductive Escape where
  | literal (c : Char)
  | chars (chars : CharClass)
  | anchor (anchor : Anchor)

/-- A character by its code point: a fixed number of digits, or any number in braces. -/
def readHex (count : Nat) : List Char → Option (Escape × List Char)
  | '\x7b' :: rest =>
    let digits := rest.takeWhile (· ≠ '\x7d')
    if digits.length < rest.length then
      (Text.charOfHex? digits).map fun c => (.literal c, rest.drop (digits.length + 1))
    else none
  | rest =>
    if rest.length < count then none
    else (Text.charOfHex? (rest.take count)).map fun c => (.literal c, rest.drop count)

/-- The classes of digits, blanks and word characters. -/
def shorthandClass (flags : Flags) (unicode : CharClass) (asciiName : String) (negated : Bool) :
    Escape :=
  let chars := if flags.ascii then (CharClass.named? asciiName).getD unicode else unicode
  .chars (if negated then .negate chars else chars)

/-- An escape, without its backslash. -/
def readEscape (flags : Flags) : List Char → Option (Escape × List Char)
  | [] => none
  | c :: rest =>
    match c with
    | 'x' => readHex 2 rest
    | 'u' => readHex 4 rest
    | 'U' => readHex 8 rest
    | 'd' => some (shorthandClass flags .digit "digit" false, rest)
    | 'D' => some (shorthandClass flags .digit "digit" true, rest)
    | 's' => some (shorthandClass flags .space "space" false, rest)
    | 'S' => some (shorthandClass flags .space "space" true, rest)
    | 'w' => some (shorthandClass flags .word "word" false, rest)
    | 'W' => some (shorthandClass flags .word "word" true, rest)
    | 'a' => some (.literal '\x07', rest)
    | 'f' => some (.literal '\x0C', rest)
    | 't' => some (.literal '\t', rest)
    | 'n' => some (.literal '\n', rest)
    | 'r' => some (.literal '\r', rest)
    | 'v' => some (.literal '\x0B', rest)
    | 'A' => some (.anchor .textStart, rest)
    | 'z' => some (.anchor .textEnd, rest)
    | 'b' => some (.anchor .wordEdge, rest)
    | 'B' => some (.anchor .noWordEdge, rest)
    | '<' => some (.anchor .wordStart, rest)
    | '>' => some (.anchor .wordEnd, rest)
    | _ => if c.toNat < 0x80 ∧ !c.isAlphanum then some (.literal c, rest) else none

/-- How two operands of a class combine. -/
inductive ClassOp where
  | both
  | minus
  | either

def ClassOp.apply : ClassOp → CharClass → CharClass → CharClass
  | .both, left, right => .both left right
  | .minus, left, right => left.minus right
  | .either, left, right => left.either right

/-- A class that is being read: whether it is negated, the operation that waits for its right
operand, and the members read since. -/
structure OpenClass where
  negated : Bool
  pending : Option (CharClass × ClassOp)
  members : List CharClass

/-- The operand read so far, combined with what waits for it. -/
def OpenClass.operand (cls : OpenClass) : CharClass :=
  let members := CharClass.ofList cls.members
  match cls.pending with
  | some (left, op) => op.apply left members
  | none => members

def OpenClass.withMember (cls : OpenClass) (member : CharClass) : OpenClass :=
  { cls with members := member :: cls.members }

/-- The class when it is closed. Case variants come before negation. -/
def OpenClass.close (cls : OpenClass) (flags : Flags) : CharClass :=
  let chars := if flags.ignoreCase then .anyCase cls.operand else cls.operand
  if cls.negated then .negate chars else chars

/-- What follows an opening bracket: a caret negates, and after it dashes, or a closing bracket
where there are none, are members. -/
def readClassStart (flags : Flags) (chars : List Char) : Option (OpenClass × List Char) :=
  let chars := skipSpaced flags chars
  let negated := chars.head? = some '^'
  let chars := if negated then skipSpaced flags (chars.drop 1) else chars
  let dashes := chars.takeWhile (· = '-')
  let rest := skipSpaced flags (chars.drop dashes.length)
  let start : OpenClass := ⟨negated, none, dashes.map CharClass.single⟩
  match dashes, rest with
  | [], ']' :: rest => if rest.isEmpty then none else some (start.withMember (.single ']'), rest)
  | _, rest => if rest.isEmpty then none else some (start, rest)

/-- A class named between `[:` and `:]`, without the opening bracket. -/
def readNamedClass? : List Char → Option (CharClass × List Char)
  | ':' :: rest =>
    let negated := rest.head? = some '^'
    let rest := if negated then rest.drop 1 else rest
    let name := rest.takeWhile (· ≠ ':')
    match rest.drop name.length with
    | ':' :: ']' :: rest =>
      (CharClass.named? (String.ofList name)).map fun chars =>
        (if negated then .negate chars else chars, rest)
    | _ => none
  | _ => none

/-- One member of a class: a character or an escape. Anchors are none. -/
def readMember (flags : Flags) : List Char → Option (Escape × List Char)
  | [] => none
  | '\\' :: rest =>
    match readEscape flags rest with
    | some (.anchor _, _) => none
    | other => other
  | c :: rest => some (.literal c, rest)

/-- A member or a range of a class. -/
def readRange (flags : Flags) (chars : List Char) : Option (CharClass × List Char) := do
  let (first, rest) ← readMember flags chars
  let rest := skipSpaced flags rest
  let alone : Option (CharClass × List Char) :=
    match first with
    | .literal c => some (.single c, rest)
    | .chars chars => some (chars, rest)
    | .anchor _ => none
  match rest with
  | '-' :: after =>
    match skipSpaced flags after with
    | ']' :: _ => alone
    | '-' :: _ => alone
    | after =>
      match first, ← readMember flags after with
      | .literal low, (.literal high, rest) =>
        if low.toNat ≤ high.toNat then some (.range low high, rest) else none
      | _, _ => none
  | _ => alone

/-- The rest of a class after its opening bracket; `outer` are the classes around it, the nearest
first. The fuel is at least the number of characters. -/
def readClass (flags : Flags) : Nat → OpenClass → List OpenClass → List Char →
    Option (CharClass × List Char)
  | 0, _, _, _ => none
  | fuel + 1, cls, outer, chars =>
    let operator (op : ClassOp) (rest : List Char) :=
      readClass flags fuel { cls with pending := some (cls.operand, op), members := [] } outer rest
    match skipSpaced flags chars with
    | [] => none
    | '[' :: rest =>
      match readNamedClass? rest with
      | some (member, rest) => readClass flags fuel (cls.withMember member) outer rest
      | none =>
        match readClassStart flags rest with
        | some (inner, rest) => readClass flags fuel inner (cls :: outer) rest
        | none => none
    | ']' :: rest =>
      match outer with
      | [] => some (cls.close flags, rest)
      | around :: outer => readClass flags fuel (around.withMember (cls.close flags)) outer rest
    | '&' :: '&' :: rest => operator .both rest
    | '-' :: '-' :: rest => operator .minus rest
    | '~' :: '~' :: rest => operator .either rest
    | chars =>
      match readRange flags chars with
      | some (member, rest) => readClass flags fuel (cls.withMember member) outer rest
      | none => none

/-- A group that is being read: the flags to go back to after it, the alternatives before the
present one, and the parts of that one in reverse. A part that only sets flags cannot be
repeated. -/
structure OpenGroup where
  outerFlags : Flags
  alternatives : List Regex
  parts : List (Option Regex)

/-- The parts one after the other. -/
def OpenGroup.sequence (group : OpenGroup) : Regex :=
  match group.parts.filterMap id with
  | [] => .empty
  | last :: before => before.foldl (fun rest part => .sequence part rest) last

/-- All alternatives. -/
def OpenGroup.close (group : OpenGroup) : Regex :=
  group.alternatives.foldl (fun rest alternative => .choice alternative rest) group.sequence

def OpenGroup.withPart (group : OpenGroup) (part : Option Regex) : OpenGroup :=
  { group with parts := part :: group.parts }

def OpenGroup.nextAlternative (group : OpenGroup) : OpenGroup :=
  { group with alternatives := group.sequence :: group.alternatives, parts := [] }

/-- Repeats the last part. -/
def OpenGroup.repeatLast? (group : OpenGroup) (least : Nat) (most : Option Nat) :
    Option OpenGroup :=
  match group.parts with
  | some part :: before => some { group with parts := some (.repeated part least most) :: before }
  | _ => none

/-- A count: digits with blanks around them, small enough for 32 bits. -/
def readCount (chars : List Char) : Option (Nat × List Char) :=
  let chars := chars.dropWhile Text.isBlank
  let digits := chars.takeWhile Char.isDigit
  match Text.numeral? 10 digits with
  | some n =>
    if n < Nat.pow 2 32 then some (n, (chars.drop digits.length).dropWhile Text.isBlank) else none
  | none => none

/-- The bounds of a counted repetition, without the opening brace. -/
def readBounds (chars : List Char) : Option ((Nat × Option Nat) × List Char) := do
  let (least, rest) ← readCount chars
  match rest with
  | '\x7d' :: rest => some ((least, some least), rest)
  | ',' :: rest =>
    match rest.dropWhile Text.isBlank with
    | '\x7d' :: rest => some ((least, none), rest)
    | rest =>
      match ← readCount rest with
      | (most, '\x7d' :: rest) => if least ≤ most then some ((least, some most), rest) else none
      | _ => none
  | _ => none

/-- Flag letters up to a colon or a closing parenthesis, at most one dash among them and none
twice. Tells which of the two ended them. -/
def readFlags (flags : Flags) (seen : List Char) (on : Bool) :
    List Char → Option (Flags × Bool × List Char)
  | [] => none
  | ':' :: rest => if seen.head? = some '-' then none else some (flags, true, rest)
  | ')' :: rest =>
    if seen.isEmpty ∨ seen.head? = some '-' then none else some (flags, false, rest)
  | c :: rest =>
    if seen.contains c then none
    else if c = '-' then readFlags flags (c :: seen) false rest
    else
      match flags.set? c on with
      | some flags => readFlags flags (c :: seen) on rest
      | none => none

/-- The name of a group up to the closing bracket. -/
def readGroupName (chars : List Char) : Option (String × List Char) :=
  let name := chars.takeWhile (· ≠ '>')
  let isStart (c : Char) : Bool := c = '_' || (Text.isAlphanumeric c && !Text.isDecimalDigit c)
  let isLater (c : Char) : Bool :=
    Text.isAlphanumeric c || c = '_' || c = '.' || c = '[' || c = ']'
  match name with
  | [] => none
  | first :: later =>
    if name.length < chars.length ∧ isStart first ∧ later.all isLater then
      some (String.ofList name, chars.drop (name.length + 1))
    else none

/-- What an opening parenthesis begins. -/
inductive GroupStart where
  | group (name : Option String) (flags : Flags)
  | flags (flags : Flags)

/-- The part of a group that tells its kind, after the opening parenthesis. Looking around is not
possible. -/
def readGroupStart (flags : Flags) : List Char → Option (GroupStart × List Char)
  | '?' :: 'P' :: '<' :: rest =>
    (readGroupName rest).map fun (name, rest) => (.group (some name) flags, rest)
  | '?' :: '<' :: rest =>
    (readGroupName rest).map fun (name, rest) => (.group (some name) flags, rest)
  | '?' :: rest =>
    (readFlags flags [] true rest).map fun (flags, opens, rest) =>
      if opens then (.group none flags, rest) else (.flags flags, rest)
  | rest => some (.group none flags, rest)

/-- What a dot does not match. -/
def Flags.lineBreaks (flags : Flags) : CharClass :=
  if flags.dotMatchesAll then CharClass.none
  else if flags.returns then .union (.single '\n') (.single '\r')
  else .single '\n'

/-- A test for one character. -/
def oneChar (flags : Flags) (chars : CharClass) : Regex :=
  .one (if flags.ignoreCase then .anyCase chars else chars)

/-- Reads an expression; `outer` are the groups around the present one and `names` the names taken
so far. The fuel is at least the number of characters. -/
def readParts (flags : Flags) : Nat → OpenGroup → List OpenGroup → List String → List Char →
    Option Regex
  | 0, _, _, _, _ => none
  | fuel + 1, group, outer, names, chars =>
    let go (group : OpenGroup) (rest : List Char) := readParts flags fuel group outer names rest
    let part (regex : Regex) (rest : List Char) := go (group.withPart (some regex)) rest
    let repeated (least : Nat) (most : Option Nat) (rest : List Char) :=
      match group.repeatLast? least most with
      | some group => go group (if rest.head? = some '?' then rest.drop 1 else rest)
      | none => none
    match skipSpaced flags chars with
    | [] => if outer.isEmpty then some group.close else none
    | '(' :: rest =>
      match readGroupStart flags rest with
      | none => none
      | some (.flags flags, rest) => readParts flags fuel (group.withPart none) outer names rest
      | some (.group name inner, rest) =>
        if name.any names.contains then none
        else
          readParts inner fuel ⟨flags, [], []⟩ (group :: outer) (name.toList ++ names) rest
    | ')' :: rest =>
      match outer with
      | [] => none
      | around :: outer =>
        readParts group.outerFlags fuel (around.withPart (some group.close)) outer names rest
    | '|' :: rest => go group.nextAlternative rest
    | '?' :: rest => repeated 0 (some 1) rest
    | '*' :: rest => repeated 0 none rest
    | '+' :: rest => repeated 1 none rest
    | '\x7b' :: rest =>
      match readBounds rest with
      | some ((least, most), rest) => repeated least most rest
      | none => none
    | '[' :: rest =>
      match readClassStart flags rest with
      | none => none
      | some (cls, rest) =>
        match readClass flags (rest.length + 1) cls [] rest with
        | some (chars, rest) => part (.one chars) rest
        | none => none
    | '.' :: rest =>
      part (.one (.negate flags.lineBreaks)) rest
    | '^' :: rest =>
      part (.anchor (if flags.multiLine then .lineStart flags.returns else .textStart)) rest
    | '$' :: rest =>
      part (.anchor (if flags.multiLine then .lineEnd flags.returns else .textEnd)) rest
    | '\\' :: rest =>
      match readEscape flags rest with
      | some (.literal c, rest) => part (oneChar flags (.single c)) rest
      | some (.chars chars, rest) => part (.one chars) rest
      | some (.anchor anchor, rest) => part (.anchor anchor) rest
      | none => none
    | c :: rest => part (oneChar flags (.single c)) rest

/-- The most tests that an expression may have when its repetitions are written out. -/
def Regex.sizeLimit : Nat := 400000

/-- The expression that a text writes, if it writes one of reasonable size. -/
def Regex.read? (text : List Char) : Option Regex := do
  let regex ← readParts Flags.none (text.length + 1) ⟨Flags.none, [], []⟩ [] [] text
  if regex.expandedSize ≤ Regex.sizeLimit then some regex else none

/-- The reader of this part of the language. -/
def Regex.reader : Reader := fun text =>
  (Regex.read? text).map Regex.occursIn

end Stencil.Pattern
