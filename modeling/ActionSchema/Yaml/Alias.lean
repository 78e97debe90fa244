import ActionSchema.Table
import ActionSchema.Yaml.Node

/-! Anchors and aliases. Replacing every alias by the node that it stands for leaves a tree without
anchors and aliases, a `Node Empty`. A short text can stand for a huge tree, and an alias inside its
own node for an endless one, so only so many aliases are replaced, in the order of the text, and the
next one cuts the tree. -/

namespace ActionSchema.Yaml.Node

mutual

/-- Numbers the anchors and resolves the aliases, in the order of the text. An anchor has as its
number the count of names before it, so a name used again does not take a number from later ones.
An alias of an unknown name cuts the tree. -/
def number (names : Table Nat) : Node String → Node Nat × Option (Table Nat)
  | ⟨.cut, _, _⟩ => (cut, none)
  | ⟨.aliasOf name, _, _⟩ =>
    match names.get? name with
    | some id => (⟨.aliasOf id, none, []⟩, some names)
    | none => (cut, none)
  | ⟨.scalar value plain tag, anchor, _⟩ =>
    let (anchor, names) := anchorNumber names anchor
    (⟨.scalar value plain tag, anchor, []⟩, some names)
  | ⟨.sequence, anchor, children⟩ =>
    let (anchor, names) := anchorNumber names anchor
    let (children, names) := numberAll names children
    (⟨.sequence, anchor, children⟩, names)
  | ⟨.mapping, anchor, children⟩ =>
    let (anchor, names) := anchorNumber names anchor
    let (children, names) := numberAll names children
    (⟨.mapping, anchor, children⟩, names)
where
  anchorNumber (names : Table Nat) : Option String → Option Nat × Table Nat
    | some name => (some names.size, names.insert name names.size)
    | none => (none, names)

def numberAll (names : Table Nat) : List (Node String) → List (Node Nat) × Option (Table Nat)
  | [] => ([], some names)
  | node :: rest =>
    match number names node with
    | (node, none) => ([node], none)
    | (node, some names) =>
      let (nodes, names) := numberAll names rest
      (node :: nodes, names)

end

mutual

def anchored : Node Nat → List (Nat × Node Nat)
  | ⟨content, anchor, children⟩ =>
    (anchor.map (·, ⟨content, anchor, children⟩)).toList ++ anchoredAll children

def anchoredAll : List (Node Nat) → List (Nat × Node Nat)
  | [] => []
  | node :: rest => anchored node ++ anchoredAll rest

end

mutual

/-- How much of a document a node makes up: a scalar or an alias counts once, a collection once for
its start and once for its end. Also says whether the end is there. -/
def extent : Node Nat → Nat × Bool
  | ⟨.cut, _, _⟩ => (0, false)
  | ⟨.aliasOf _, _, _⟩ | ⟨.scalar .., _, _⟩ => (1, true)
  | ⟨.sequence, _, children⟩ | ⟨.mapping, _, children⟩ =>
    let (n, ended) := extentAll children
    (if ended then n + 2 else n + 1, ended)

def extentAll : List (Node Nat) → Nat × Bool
  | [] => (0, true)
  | node :: rest =>
    let (n, ended) := extent node
    let (m, restEnded) := extentAll rest
    (n + m, ended && restEnded)

end

/-- A tree without aliases, and how many may still be replaced behind it unless it was cut. -/
abbrev Expansion := Node Empty × Option Nat

mutual

def expandWith (follow : Nat → Nat → Expansion) (most : Nat) : Node Nat → Expansion
  | ⟨.cut, _, _⟩ => (cut, none)
  | ⟨.aliasOf id, _, _⟩ =>
    match most with
    | 0 => (cut, none)
    | most + 1 => follow id most
  | ⟨.scalar value plain tag, _, _⟩ => (⟨.scalar value plain tag, none, []⟩, some most)
  | ⟨.sequence, _, children⟩ =>
    let (children, most) := expandAllWith follow most children
    (⟨.sequence, none, children⟩, most)
  | ⟨.mapping, _, children⟩ =>
    let (children, most) := expandAllWith follow most children
    (⟨.mapping, none, children⟩, most)

def expandAllWith (follow : Nat → Nat → Expansion) (most : Nat) :
    List (Node Nat) → List (Node Empty) × Option Nat
  | [] => ([], some most)
  | node :: rest =>
    match expandWith follow most node with
    | (node, none) => ([node], none)
    | (node, some most) =>
      let (nodes, most) := expandAllWith follow most rest
      (node :: nodes, most)

end

def expand (find : Nat → Node Nat) (depth most : Nat) (node : Node Nat) : Expansion :=
  match depth with
  | 0 => expandWith (fun _ _ => (cut, none)) most node
  | depth + 1 => expandWith (fun id most => expand find depth most (find id)) most node

/-- How many aliases inside one another are replaced, more than a record has levels. -/
def aliasDepth : Nat := 128

def aliasesPerUnit : Nat := 100

/-- The tree without anchors and aliases, and whether it is whole. Of the anchors with one number
the last one counts. -/
def resolve (root : Node String) : Node Empty × Bool :=
  let root := (number Table.empty root).1
  -- the last anchor of a number comes first
  let anchors := root.anchored.reverse
  let find (id : Nat) : Node Nat := (anchors.lookup id).getD cut
  let (root, left) := root.expand find aliasDepth (aliasesPerUnit * root.extent.1)
  (root, left.isSome)

end ActionSchema.Yaml.Node
