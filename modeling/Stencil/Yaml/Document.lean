import Stencil.Yaml.Node

/-!
Documents from tokens, by descent through the grammar: blocks, flow collections, and what may stand
in front of a node. A text holds one document.
-/

namespace Stencil.Yaml

/-- What is left to read, the tag shorthands of the document, the number of each anchor name so
far, and the anchored nodes found. -/
structure Progress where
  tokens : List Token
  shorthands : List (String × String)
  numbers : List (String × Nat)
  ranks : Nat
  anchored : List Anchored

abbrev Reading := StateT Progress Option

namespace Reading

def peek : Reading (Option Token) := do
  return (← get).tokens.head?

def skip : Reading Unit :=
  modify fun s => { s with tokens := s.tokens.tail }

/-- Whether the next token is one of the given ones. -/
def sees (tokens : List Token) : Reading Bool := do
  return (← peek).any tokens.contains

/-- Skips the next token if it is the given one. -/
def skipIf (token : Token) : Reading Bool := do
  if (← peek) = some token then
    skip
    return true
  else return false

/-- The meaning of a tag. A shorthand of the document comes before the two that always exist. -/
def tagOf (handle suffix : String) : Reading String := do
  if handle.isEmpty then return suffix
  else
    let known := (← get).shorthands ++ [("!", "!"), ("!!", "tag:yaml.org,2002:")]
    match known.lookup handle with
    | some meaning => return meaning ++ suffix
    | none => failure

/-- Numbers an anchor. A name that is used again keeps its place in the count of names, so that its
new number may be given to another name too. -/
def openAnchor (name : String) : Reading (Nat × Nat) := do
  let s ← get
  let number := s.numbers.length
  set { s with
    numbers := (name, number) :: s.numbers.filter (·.1 ≠ name)
    ranks := s.ranks + 1 }
  return (number, s.ranks)

/-- Keeps a node under the number of its anchor. -/
def closeAnchor (place : Option (Nat × Nat)) (node : Node) : Reading Node := do
  match place with
  | none => return node
  | some (number, rank) =>
    modify fun s => { s with anchored := ⟨number, rank, node⟩ :: s.anchored }
    return node

/-- The anchor and the tag in front of a node, in either order. -/
def properties : Reading (Option String × Option (String × String)) := do
  match ← peek with
  | some (.anchor name) =>
    skip
    match ← peek with
    | some (.tag handle suffix) =>
      skip
      return (some name, some (handle, suffix))
    | _ => return (some name, none)
  | some (.tag handle suffix) =>
    skip
    match ← peek with
    | some (.anchor name) =>
      skip
      return (some name, some (handle, suffix))
    | _ => return (none, some (handle, suffix))
  | _ => return (none, none)

mutual

/-- A node. `inBlock` tells whether it may be a block collection, `indentless` whether it may be a
sequence as deep as the mapping around it. -/
def node (inBlock indentless : Bool) : Nat → Reading Node
  | 0 => failure
  | fuel + 1 => do
    match ← peek with
    | some (.alias name) =>
      skip
      match (← get).numbers.lookup name with
      | some number => return .alias number
      | none => failure
    | _ =>
      let (name, written) ← properties
      let tag ← written.mapM fun (handle, suffix) => tagOf handle suffix
      let token ← peek
      let opened := name.mapM openAnchor
      if indentless ∧ token = some .blockEntry then
        let place ← opened
        closeAnchor place (.sequence tag (← indentlessItems fuel))
      else
        match token with
        | some (.scalar style text) =>
          skip
          closeAnchor (← opened) (.scalar tag style text)
        | some .flowSequenceStart =>
          let place ← opened
          skip
          closeAnchor place (.sequence tag (← flowItems true fuel))
        | some .flowMappingStart =>
          let place ← opened
          skip
          closeAnchor place (.mapping tag (← flowFields true fuel))
        | _ =>
          if inBlock ∧ token = some .blockSequenceStart then
            let place ← opened
            skip
            closeAnchor place (.sequence tag (← blockItems fuel))
          else if inBlock ∧ token = some .blockMappingStart then
            let place ← opened
            skip
            closeAnchor place (.mapping tag (← blockFields fuel))
          else if name.isSome ∨ tag.isSome then
            closeAnchor (← opened) (.scalar tag .plain "")
          else failure

/-- A node, or the absent one if one of the given tokens comes first. -/
def nodeUnless (tokens : List Token) (inBlock indentless : Bool) : Nat → Reading Node
  | 0 => failure
  | fuel + 1 => do
    if ← sees tokens then return Node.absent else node inBlock indentless fuel

/-- The items of a block sequence up to its end. -/
def blockItems : Nat → Reading (List Node)
  | 0 => failure
  | fuel + 1 => do
    if ← skipIf .blockEntry then
      let item ← nodeUnless [.blockEntry, .blockEnd] true false fuel
      return item :: (← blockItems fuel)
    else if ← skipIf .blockEnd then return []
    else failure

/-- The items of a sequence that no tokens enclose. -/
def indentlessItems : Nat → Reading (List Node)
  | 0 => failure
  | fuel + 1 => do
    if ← skipIf .blockEntry then
      let item ← nodeUnless [.blockEntry, .key, .value, .blockEnd] true false fuel
      return item :: (← indentlessItems fuel)
    else return []

/-- The value after a key, absent when no colon comes. -/
def valueUnless (tokens : List Token) (inBlock : Bool) : Nat → Reading Node
  | 0 => failure
  | fuel + 1 => do
    if ← skipIf .value then nodeUnless tokens inBlock inBlock fuel else return Node.absent

/-- The fields of a block mapping up to its end. -/
def blockFields : Nat → Reading (List (Node × Node))
  | 0 => failure
  | fuel + 1 => do
    if ← skipIf .key then
      let key ← nodeUnless [.key, .value, .blockEnd] true true fuel
      let value ← valueUnless [.key, .value, .blockEnd] true fuel
      return (key, value) :: (← blockFields fuel)
    else if ← skipIf .blockEnd then return []
    else failure

/-- A single field as an item of a flow sequence, after the token of its key. Where no key is
written, the next token is taken in its place. -/
def flowPair : Nat → Reading Node
  | 0 => failure
  | fuel + 1 => do
    let key ←
      if ← sees [.value, .flowEntry, .flowSequenceEnd] then
        skip
        pure Node.absent
      else node false false fuel
    let value ← valueUnless [.flowEntry, .flowSequenceEnd] false fuel
    return .mapping none [(key, value)]

/-- The items of a flow sequence up to its end. -/
def flowItems (first : Bool) : Nat → Reading (List Node)
  | 0 => failure
  | fuel + 1 => do
    if ← skipIf .flowSequenceEnd then return []
    else
      if !first then
        if !(← skipIf .flowEntry) then failure
      if ← skipIf .key then
        let item ← flowPair fuel
        return item :: (← flowItems false fuel)
      else if ← skipIf .flowSequenceEnd then return []
      else
        let item ← node false false fuel
        return item :: (← flowItems false fuel)

/-- The fields of a flow mapping up to its end. -/
def flowFields (first : Bool) : Nat → Reading (List (Node × Node))
  | 0 => failure
  | fuel + 1 => do
    if ← skipIf .flowMappingEnd then return []
    else
      if !first then
        if !(← skipIf .flowEntry) then failure
      if ← skipIf .key then
        let key ← nodeUnless [.value, .flowEntry, .flowMappingEnd] false false fuel
        let value ← valueUnless [.flowEntry, .flowMappingEnd] false fuel
        return (key, value) :: (← flowFields false fuel)
      else if ← skipIf .flowMappingEnd then return []
      else
        let key ← node false false fuel
        return (key, Node.absent) :: (← flowFields false fuel)

end

/-- The directives in front of a document. The version may be given once, and each shorthand
once. -/
def directives (versioned : Bool) : Nat → Reading Unit
  | 0 => failure
  | fuel + 1 => do
    match ← peek with
    | some (.version major minor) =>
      if versioned ∨ major ≠ 1 ∨ (minor ≠ 1 ∧ minor ≠ 2) then failure
      else
        skip
        directives true fuel
    | some (.tagShorthand handle meaning) =>
      let s ← get
      if (s.shorthands.lookup handle).isSome then failure
      else
        set { s with shorthands := s.shorthands ++ [(handle, meaning)] }
        skip
        directives versioned fuel
    | _ => return ()

/-- Whether directives or three dashes begin the document. -/
def isExplicit : Option Token → Bool
  | some (.version _ _) => true
  | some (.tagShorthand _ _) => true
  | some .documentStart => true
  | _ => false

/-- What stands where a document has no content. -/
def content (fuel : Nat) : Reading Node := do
  let token ← peek
  if token.isNone ∨ isExplicit token ∨ token = some .documentEnd then return Node.absent
  else node true false fuel

/-- The root of the only document, and after it nothing but marks of its end. -/
def root (fuel : Nat) : Reading Node := do
  let node ←
    if isExplicit (← peek) then
      directives false fuel
      if !(← skipIf .documentStart) then failure
      content fuel
    else node true false fuel
  if (← get).tokens.all (· = .documentEnd) then return node else failure

end Reading

/-- The document of a list of tokens. Each step of the descent takes a token or leads to one that
does, so the fuel suffices. -/
def Document.ofTokens? (tokens : List Token) : Option Document := do
  let (root, s) ← (Reading.root (8 * tokens.length + 8)).run ⟨tokens, [], [], 0, []⟩
  some ⟨root, s.anchored, 100 * root.events⟩

/-- The document that a text holds. -/
def Document.ofText? (text : String) : Option Document := do
  Document.ofTokens? (← Token.ofText? text.toList)

end Stencil.Yaml
