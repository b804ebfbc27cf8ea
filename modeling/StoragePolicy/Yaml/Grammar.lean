import StoragePolicy.Yaml.Lexer
import StoragePolicy.Yaml.Node

/-!
# From Tokens to Nodes

The grammar of YAML, one function for each kind of collection. In block style
the tokens already mark where collections begin and end, except for a sequence
that stands at the column of the key above it, which ends with its last entry.
Where an entry has a mark but no content, the empty scalar stands.

Anchors are numbered as they are met. A name that is used again gets the number
that comes next to the names known by then, which two names can come to share;
an alias then means whichever of the nodes under the number was begun last.

Every call is given fuel for the calls below it. A document nests no deeper and
has no more entries than it has tokens, so twice their number is never used up.

## Main definitions

* `Reading`: The tokens still unread and what was anchored so far.
* `node`: One node in block or flow style.
* `Document.ofTokens?`: The only document of a text.
* `Document.ofText?`: The same, from the text itself.
-/

namespace StoragePolicy

namespace Yaml

/-- A node that is anchored, with its number and its place in the order in
    which anchored nodes were begun. -/
structure Anchored where
  number : Nat
  place : Nat
  node : Node

/-- The tokens still unread and what was anchored so far. -/
structure Reading where
  tokens : List Token
  shorthands : List (String × String)
  names : List (String × Nat) := []
  begun : Nat := 0
  anchored : List Anchored := []

/-- A step of reading, which may find that the text is no YAML. -/
abbrev Read := StateT Reading Option

/-- The next token. -/
def next : Read (Option Token) := return (← get).tokens.head?

/-- Moves over a token. -/
def drop : Read Unit := modify fun r => { r with tokens := r.tokens.drop 1 }

/-- Moves over a token of the given kind, if it is next. -/
def take (t : Token) : Read Bool := do
  if (← next) == some t then
    drop
    return true
  return false

/-- Finds the text to be no YAML. -/
def refuse {α : Type} : Read α := fun _ => none

/-- The number for an anchor's name, and the place of the node begun with it. -/
def beginAnchor (name : String) : Read (Nat × Nat) := do
  let r ← get
  let number := r.names.length
  set { r with
    names := (name, number) :: r.names.filter (·.1 ≠ name)
    begun := r.begun + 1 }
  return (number, r.begun)

/-- Keeps a node under the number that its anchor was given. -/
def keepAnchored (anchor : Option (Nat × Nat)) (n : Node) : Read Node := do
  match anchor with
  | some (number, place) =>
    modify fun r => { r with anchored := ⟨number, place, n⟩ :: r.anchored }
  | none => pure ()
  return n

/-- The name of a tag: what its handle stands for, then its suffix. -/
def tagName (handle suffix : String) : Read String := do
  if handle.isEmpty then return suffix
  match (← get).shorthands.find? (·.1 = handle) with
  | some (_, expansion) => return expansion ++ suffix
  | none => refuse

/-- The anchor and the tag before a node, each at most once and in either
    order. -/
def properties : Read (Option String × Option String) := do
  match ← next with
  | some (.anchor name) =>
    drop
    match ← next with
    | some (.tag handle suffix) =>
      drop
      return (some name, some (← tagName handle suffix))
    | _ => return (some name, none)
  | some (.tag handle suffix) =>
    drop
    let anchor ← match ← next with
      | some (.anchor name) =>
        drop
        pure (some name)
      | _ => pure none
    return (anchor, some (← tagName handle suffix))
  | _ => return (none, none)

/-- The tokens after which a block mapping's key or value is empty. -/
def endsBlockEntry (t : Option Token) : Bool :=
  t == some .key || t == some .value || t == some .blockEnd

mutual

/-- One node. In block style block collections may begin here, and after a key
    also a sequence at the key's own column. -/
def node (inBlock afterKey : Bool) : Nat → Read Node
  | 0 => refuse
  | fuel + 1 => do
    if let some (.alias name) ← next then
      drop
      match (← get).names.find? (·.1 = name) with
      | some (_, number) => return .alias number
      | none => refuse
    else
      let (name, tag) ← properties
      let anchor ← name.mapM beginAnchor
      let t ← next
      if afterKey && t == some .blockEntry then
        keepAnchored anchor (.sequence (← plainSequence fuel))
      else match t with
        | some (.scalar value style) =>
          drop
          keepAnchored anchor (.scalar value style tag)
        | some .flowSequenceStart =>
          drop
          keepAnchored anchor (.sequence (← flowSequence true fuel))
        | some .flowMappingStart =>
          drop
          keepAnchored anchor (.mapping (← flowMapping true fuel))
        | some .blockSequenceStart =>
          if !inBlock then refuse
          drop
          keepAnchored anchor (.sequence (← blockSequence fuel))
        | some .blockMappingStart =>
          if !inBlock then refuse
          drop
          keepAnchored anchor (.mapping (← blockMapping fuel))
        | _ =>
          if anchor.isNone && tag.isNone then refuse
          keepAnchored anchor (.scalar "" .plain tag)

/-- The entries of a sequence at the column of the key above it. -/
def plainSequence : Nat → Read (List Node)
  | 0 => refuse
  | fuel + 1 => do
    if !(← take .blockEntry) then return []
    let t ← next
    let item ← if t == some .blockEntry || endsBlockEntry t then pure Node.empty
      else node true false fuel
    return item :: (← plainSequence fuel)

/-- The entries of a block sequence, up to and with its end. -/
def blockSequence : Nat → Read (List Node)
  | 0 => refuse
  | fuel + 1 => do
    if ← take .blockEnd then return []
    if !(← take .blockEntry) then refuse
    let t ← next
    let item ← if t == some .blockEntry || t == some .blockEnd then pure Node.empty
      else node true false fuel
    return item :: (← blockSequence fuel)

/-- The entries of a block mapping, up to and with its end. -/
def blockMapping : Nat → Read (List (Node × Node))
  | 0 => refuse
  | fuel + 1 => do
    if ← take .blockEnd then return []
    if !(← take .key) then refuse
    let k ← if endsBlockEntry (← next) then pure Node.empty else node true true fuel
    let v ←
      if ← take .value then
        if endsBlockEntry (← next) then pure Node.empty else node true true fuel
      else pure Node.empty
    return (k, v) :: (← blockMapping fuel)

/-- The items of a flow sequence, up to and with its end. An item with a key is
    a mapping of one entry. -/
def flowSequence (first : Bool) : Nat → Read (List Node)
  | 0 => refuse
  | fuel + 1 => do
    if ← take .flowSequenceEnd then return []
    if !first then
      if !(← take .flowEntry) then refuse
      if ← take .flowSequenceEnd then return []
    let item ← if ← take .key then flowPair fuel else node false false fuel
    return item :: (← flowSequence false fuel)

/-- A mapping of one entry inside a flow sequence, after the mark of its key.
    Where the key is empty, the token behind the mark is not looked at again. -/
def flowPair : Nat → Read Node
  | 0 => refuse
  | fuel + 1 => do
    let t ← next
    let k ← if t == some .value || t == some .flowEntry || t == some .flowSequenceEnd then do
        drop
        pure Node.empty
      else node false false fuel
    let v ←
      if ← take .value then do
        let t ← next
        if t == some .flowEntry || t == some .flowSequenceEnd then pure Node.empty
        else node false false fuel
      else pure Node.empty
    return .mapping [(k, v)]

/-- The entries of a flow mapping, up to and with its end. A key needs no
    value. -/
def flowMapping (first : Bool) : Nat → Read (List (Node × Node))
  | 0 => refuse
  | fuel + 1 => do
    if ← take .flowMappingEnd then return []
    if !first then
      if !(← take .flowEntry) then refuse
      if ← take .flowMappingEnd then return []
    let marked ← take .key
    let t ← next
    let k ← if marked && (t == some .value || t == some .flowEntry || t == some .flowMappingEnd)
      then pure Node.empty else node false false fuel
    let v ←
      if marked then
        if ← take .value then
          let t ← next
          if t == some .flowEntry || t == some .flowMappingEnd then pure Node.empty
          else node false false fuel
        else pure Node.empty
      else pure Node.empty
    return (k, v) :: (← flowMapping false fuel)

end

/-- The directives before a document: at most one version, which has to be a
    known one, and at most one meaning for each tag handle. -/
def directives (versioned : Bool) : Nat → Read Unit
  | 0 => refuse
  | fuel + 1 => do
    match ← next with
    | some (.version major minor) =>
      if versioned || major ≠ 1 || (minor ≠ 1 && minor ≠ 2) then refuse
      drop
      directives true fuel
    | some (.tagShorthand handle expansion) =>
      if (← get).shorthands.any (·.1 = handle) then refuse
      drop
      modify fun r => { r with shorthands := r.shorthands ++ [(handle, expansion)] }
      directives versioned fuel
    | _ => return ()

/-- The handles that need no directive; a directive goes before them. -/
def usualShorthands : List (String × String) := [("!", "!"), ("!!", "tag:yaml.org,2002:")]

/-- Whether a token can only stand before or after a document. -/
def isOutside : Option Token → Bool
  | some (.version _ _) | some (.tagShorthand _ _) | some .documentStart | some .documentEnd
  | none => true
  | _ => false

/-- The root of a document that begins at the next token. -/
def documentRoot (fuel : Nat) : Read Node := do
  let t ← next
  let explicit := match t with
    | some (.version _ _) | some (.tagShorthand _ _) | some .documentStart => true
    | _ => false
  if explicit then directives false fuel
  modify fun r => { r with shorthands := r.shorthands ++ usualShorthands }
  if explicit then
    if !(← take .documentStart) then refuse
    if isOutside (← next) then return Node.empty
  node true false fuel

/-- What may follow the only document: marks of its end and nothing else. -/
def noMoreDocuments : List Token → Bool
  | [] => true
  | .documentEnd :: rest => noMoreDocuments rest
  | _ => false

/-- The nodes kept under numbers, the one begun last first. -/
def latestFirst (anchored : List Anchored) : List (Nat × Node) :=
  (anchored.mergeSort fun a b => b.place ≤ a.place).map fun a => (a.number, a.node)

/-- The only document of a text. A text without any holds an empty scalar. -/
def Document.ofTokens? (tokens : List Token) : Option Document :=
  if tokens.isEmpty then some (.ofNode .empty)
  else do
    let (root, r) ← (documentRoot (2 * tokens.length + 2)).run { tokens, shorthands := [] }
    if noMoreDocuments r.tokens then
      return { root, anchored := latestFirst r.anchored }
    none

/-- The only document of a text. -/
def Document.ofText? (text : String) : Option Document := do
  Document.ofTokens? (← tokens? text)

end Yaml

end StoragePolicy
