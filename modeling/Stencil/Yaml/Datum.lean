import Stencil.Yaml.Document
import Stencil.Value.Basic

/-!
What a node says. A plain scalar without a tag is read for what it looks like; a quoted or block
scalar is a text. Aliases are followed, which is bounded in depth and in number.
-/

namespace Stencil.Yaml

open Decimal (Binary64)

/-- Data as written: a whole number keeps the way it was read, and keys may be anything. -/
inductive Datum where
  | null
  | bool (flag : Bool)
  | natural (n : Nat)
  /-- A number with a minus sign, zero included. -/
  | negative (n : Int)
  /-- A finite number; `none` for infinities and NaN. -/
  | float (x : Option Binary64)
  | text (text : String)
  | list (items : List Datum)
  | map (fields : List (Datum × Datum))
  deriving Repr, Inhabited

/-- A word for null. Nothing at all is also null, but not everywhere. -/
def isNullWord (text : String) : Bool :=
  text = "~" || text = "null" || text = "Null" || text = "NULL"

def boolWord? (text : String) : Option Bool :=
  if text = "true" ∨ text = "True" ∨ text = "TRUE" then some true
  else if text = "false" ∨ text = "False" ∨ text = "FALSE" then some false
  else none

/-- A base mark and the base it stands for. -/
def baseOf? : List Char → Option (Nat × List Char)
  | '0' :: 'x' :: rest => some (16, rest)
  | '0' :: 'o' :: rest => some (8, rest)
  | '0' :: 'b' :: rest => some (2, rest)
  | _ => none

/-- Zeros in front of other digits: a text, not a number. -/
def isPaddedNumeral (text : List Char) : Bool :=
  let digits := match text with
    | '-' :: rest => rest
    | '+' :: rest => rest
    | _ => text
  match digits with
  | '0' :: rest => !rest.isEmpty && rest.all Char.isDigit
  | _ => false

/-- A whole number below a bound, with or without a plus sign. -/
def natural? (bound : Nat) (text : List Char) : Option Nat :=
  let unsigned := match text with
    | '+' :: rest => rest
    | _ => text
  let based : Option Nat := do
    let (base, digits) ← baseOf? unsigned
    (Text.numeral? base digits).filter (· < bound)
  let decimal : Option Nat :=
    if isPaddedNumeral text then none else (Text.numeral? 10 unsigned).filter (· < bound)
  based <|> decimal

/-- A whole number with a minus sign, of magnitude at most a bound. -/
def negative? (bound : Nat) (text : List Char) : Option Int :=
  match text with
  | '-' :: rest =>
    let based : Option Nat := do
      let (base, digits) ← baseOf? rest
      (Text.numeral? base digits).filter (· ≤ bound)
    let decimal : Option Nat :=
      if isPaddedNumeral text then none else (Text.numeral? 10 rest).filter (· ≤ bound)
    (based <|> decimal).map fun n => -(n : Int)
  | _ => none

/-- What reading a whole number comes to. Numbers of up to 128 bits are recognised but do not
fit. -/
inductive WholeReading where
  | number (datum : Datum)
  | tooLarge
  | other

def readWhole (text : List Char) : WholeReading :=
  match natural? (Nat.pow 2 64) text, negative? (Nat.pow 2 63) text with
  | some n, _ => .number (.natural n)
  | none, some n => .number (.negative n)
  | none, none =>
    if (natural? (Nat.pow 2 128) text).isSome ∨ (negative? (Nat.pow 2 127) text).isSome then
      .tooLarge
    else .other

/-- An unsigned decimal with a point, an exponent, both or neither: the number nearest to it. At
least one digit stands before the exponent, and at least one in it. -/
def decimal? (negated : Bool) (text : List Char) : Option Binary64 :=
  let whole := text.takeWhile Char.isDigit
  let rest := text.drop whole.length
  let (fraction, rest) := match rest with
    | '.' :: after => (after.takeWhile Char.isDigit, after.dropWhile Char.isDigit)
    | _ => ([], rest)
  let exponent? : Option Int :=
    match rest with
    | [] => some 0
    | c :: after =>
      if c = 'e' ∨ c = 'E' then
        match after with
        | '-' :: digits => (Text.numeral? 10 digits).map fun n => -(n : Int)
        | '+' :: digits => (Text.numeral? 10 digits).map Int.ofNat
        | digits => (Text.numeral? 10 digits).map Int.ofNat
      else none
  match exponent?, Text.numeral? 10 (whole ++ fraction) with
  | some exponent, some coefficient =>
    some (Binary64.ofDecimal negated coefficient (exponent - (fraction.length : Int)))
  | _, _ => none

/-- A floating-point number: a decimal, or one of the words for infinities and NaN. A decimal that
is out of range is none. -/
def readFloat (text : List Char) : Option (Option Binary64) :=
  let word := String.ofList text
  if [".inf", ".Inf", ".INF", "+.inf", "+.Inf", "+.INF", "-.inf", "-.Inf", "-.INF", ".nan", ".NaN",
      ".NAN"].contains word then some none
  else
    let x := match text with
      | '+' :: rest => decimal? false rest
      | '-' :: rest => decimal? true rest
      | _ => decimal? false text
    (x.filter Binary64.isFinite).map some

/-- What a plain scalar without a tag looks like; `none` for a whole number that does not fit. -/
def Datum.ofPlain? (text : String) : Option Datum :=
  if text.isEmpty || isNullWord text then some .null
  else
    match boolWord? text with
    | some flag => some (.bool flag)
    | none =>
      match readWhole text.toList with
      | .number datum => some datum
      | .tooLarge => none
      | .other =>
        if isPaddedNumeral text.toList then some (.text text)
        else
          match readFloat text.toList with
          | some x => some (.float x)
          | none => some (.text text)

/-- A tag that only an application knows. -/
def isLocalTag (tag : String) : Bool :=
  tag.startsWith "!"

def boolTag : String := "tag:yaml.org,2002:bool"

def nullTag : String := "tag:yaml.org,2002:null"

def intTag : String := "tag:yaml.org,2002:int"

def floatTag : String := "tag:yaml.org,2002:float"

/-- What a scalar says. The tags of booleans, numbers and null ask for such a word in any style;
other tags make a text. -/
def Datum.ofScalar? (tag : Option String) (style : Style) (text : String) : Option Datum :=
  let untagged := if style = .plain then Datum.ofPlain? text else some (.text text)
  match tag with
  | none => untagged
  | some tag =>
    if isLocalTag tag then none
    else if tag = boolTag then (boolWord? text).map .bool
    else if tag = intTag then
      match readWhole text.toList with
      | .number datum => some datum
      | _ => none
    else if tag = floatTag then (readFloat text.toList).map .float
    else if tag = nullTag then if isNullWord text then some .null else none
    else some (.text text)

/-- Reading of a document, with the number of aliases followed so far. -/
abbrev Resolving := StateT Nat Option

/-- The node itself, or the one that an alias stands for. -/
def Document.follow (document : Document) : Node → Resolving Node
  | .alias number => do
    let followed := (← get) + 1
    if document.aliasLimit < followed then failure
    else
      set followed
      match document.node? number with
      | some node => return node
      | none => failure
  | node => return node

/-- How deep the collections of a document may lie in each other. -/
def depthLimit : Nat := 128

/-- What a node says, when its collections are at most `depth` deep. Local tags have no meaning
here. -/
def Document.datum (document : Document) (depth : Nat) (node : Node) : Resolving Datum := do
  match depth, ← document.follow node with
  | _, .scalar tag style text =>
    match Datum.ofScalar? tag style text with
    | some datum => return datum
    | none => failure
  | depth + 1, .sequence tag items =>
    if tag.any isLocalTag then failure
    else return .list (← items.mapM (document.datum depth))
  | depth + 1, .mapping tag fields =>
    if tag.any isLocalTag then failure
    else
      return .map (← fields.mapM fun (key, value) => do
        let key ← document.datum depth key
        return (key, ← document.datum depth value))
  | _, _ => failure

end Stencil.Yaml
