import Stencil.Yaml.Tokens

/-!
The nodes of a document. An alias names the node it stands for by number; which node has a number
is only settled when the document has been read to its end.
-/

namespace Stencil.Yaml

inductive Node where
  | scalar (tag : Option String) (style : Style) (text : String)
  | sequence (tag : Option String) (items : List Node)
  | mapping (tag : Option String) (fields : List (Node × Node))
  | alias (number : Nat)
  deriving Repr, Inhabited

/-- The scalar that stands where nothing is written. -/
def Node.absent : Node :=
  .scalar none .plain ""

/-- A node with an anchor: its number, and how many anchors come before it in the document. -/
structure Anchored where
  number : Nat
  rank : Nat
  node : Node

/-- A document: its root, its anchored nodes, and how many aliases may be followed in it. -/
structure Document where
  root : Node
  anchored : List Anchored
  aliasLimit : Nat

mutual

/-- How many events a node is: one for a scalar or alias, and two around the parts of a
collection. -/
def Node.events : Node → Nat
  | .scalar _ _ _ => 1
  | .alias _ => 1
  | .sequence _ items => 2 + Node.itemEvents items
  | .mapping _ fields => 2 + Node.fieldEvents fields

def Node.itemEvents : List Node → Nat
  | [] => 0
  | item :: rest => item.events + Node.itemEvents rest

def Node.fieldEvents : List (Node × Node) → Nat
  | [] => 0
  | (key, value) :: rest => key.events + value.events + Node.fieldEvents rest

end

/-- The node that an alias stands for. Where anchors share a number, the last one counts. -/
def Document.node? (document : Document) (number : Nat) : Option Node :=
  let same := document.anchored.filter (·.number = number)
  let last := same.foldl (fun best anchored =>
    match best with
    | none => some anchored
    | some other => if other.rank < anchored.rank then some anchored else some other) none
  last.map Anchored.node

end Stencil.Yaml
