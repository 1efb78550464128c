import Stencil.Decimal.Binary64

/-!
The values that replacers hold: null, booleans, numbers, texts, lists and objects. An object's
fields are in increasing order of their keys, without repetition.
-/

namespace Stencil

open Decimal (Binary64)

/-- A whole number from `-2 ^ 63` to `2 ^ 64 - 1`, or a finite floating-point number. `1` and `1.0`
are different numbers. -/
inductive Number where
  | whole (n : Int)
  | float (x : Binary64)
  deriving DecidableEq, Repr, Inhabited

/-- A whole number, when it is in range. -/
def Number.whole? (n : Int) : Option Number :=
  if -(Nat.pow 2 63 : Int) ≤ n ∧ n < (Nat.pow 2 64 : Int) then some (.whole n) else none

def Number.isZero : Number → Bool
  | .whole n => n = 0
  | .float x => x.isZero || x.isNaN

inductive Value where
  | null
  | bool (flag : Bool)
  | number (n : Number)
  | string (text : String)
  | array (items : List Value)
  | object (fields : List (String × Value))
  deriving Repr, Inhabited

/-- The shape of a value, without its content. -/
inductive Kind where
  | null
  | bool
  | number
  | string
  | array
  | object
  deriving DecidableEq, Repr, Inhabited

/-- The word for a kind in messages. -/
def Kind.word : Kind → String
  | .null => "null"
  | .bool => "bool"
  | .number => "number"
  | .string => "string"
  | .array => "array"
  | .object => "object"

namespace Value

def kind : Value → Kind
  | .null => .null
  | .bool _ => .bool
  | .number _ => .number
  | .string _ => .string
  | .array _ => .array
  | .object _ => .object

/-- Whether a value counts as given: null, `false`, zero and the empty text do not. -/
def isPresent : Value → Bool
  | .null => false
  | .bool flag => flag
  | .number n => !n.isZero
  | .string text => !text.isEmpty
  | .array _ => true
  | .object _ => true

/-- Puts a field where its key belongs; a field of the same key is replaced. -/
def insertField (key : String) (value : Value) :
    List (String × Value) → List (String × Value)
  | [] => [(key, value)]
  | (other, held) :: rest =>
    if key < other then (key, value) :: (other, held) :: rest
    else if key = other then (key, value) :: rest
    else (other, held) :: insertField key value rest

/-- An object of fields in any order, of which the last of a key counts. -/
def ofFields (fields : List (String × Value)) : Value :=
  .object (fields.foldl (fun sorted (key, value) => insertField key value sorted) [])

end Value

end Stencil
