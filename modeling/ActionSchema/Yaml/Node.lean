import ActionSchema.Yaml.Token

/-! The tree of a YAML document. A tree is kept up to the place where its text goes wrong, and shows
that place as a cut. Nothing behind a cut has been read. -/

namespace ActionSchema.Yaml

inductive Content (ρ : Type)
  | cut
  | aliasOf (target : ρ)
  | scalar (value : String) (plain : Bool) (tag : Option String)
  | sequence
  | mapping

/-- A node, its anchor, and the nodes below it: the items of a sequence, or the keys and values of a
mapping by turns. Anchors and aliases are of type `ρ`. -/
inductive Node (ρ : Type)
  | mk (content : Content ρ) (anchor : Option ρ) (children : List (Node ρ))

namespace Node

def cut {ρ : Type} : Node ρ := ⟨.cut, none, []⟩

def blank {ρ : Type} : Node ρ := ⟨.scalar "" true none, none, []⟩

/-! ### Reading tokens -/

/-- A node, and the tokens after it unless it was cut. -/
abbrev Reading := Node String × Option (List Token)

abbrev ListReading := List (Node String) × Option (List Token)

def cutHere : ListReading := ([cut], none)

def leftOut : ListReading → ListReading
  | (nodes, rest) => (blank :: nodes, rest)

def andThen (first : Reading) (next : List Token → ListReading) : ListReading :=
  match first with
  | (node, none) => ([node], none)
  | (node, some rest) =>
    let (nodes, rest) := next rest
    (node :: nodes, rest)

/-- The end of a lone pair, which is seen only with the token after it. -/
def pairEnd : List Token → ListReading
  | [] => cutHere
  | rest => ([], some rest)

abbrev Handles := List (String × String)

def standardHandles : Handles := [("!", "!"), ("!!", "tag:yaml.org,2002:")]

def resolveTag? (handles : Handles) (name : TagName) : Option String :=
  if name.handle.isEmpty then some name.suffix
  else (handles.lookup name.handle).map (· ++ name.suffix)

def properties : List Token → Option String × Option TagName × List Token
  | .anchor anchor :: .tag tag :: rest => (some anchor, some tag, rest)
  | .tag tag :: .anchor anchor :: rest => (some anchor, some tag, rest)
  | .anchor anchor :: rest => (some anchor, none, rest)
  | .tag tag :: rest => (none, some tag, rest)
  | rest => (none, none, rest)

mutual

/-- One node. Block collections need the block context; only as a key or value of a block mapping
may a sequence do without an indentation of its own. -/
def read (handles : Handles) (block indentless : Bool) (fuel : Nat) (tokens : List Token) :
    Reading :=
  match fuel with
  | 0 => (cut, none)
  | fuel + 1 =>
    match tokens with
    | .aliasOf name :: rest => (⟨.aliasOf name, none, []⟩, some rest)
    | tokens =>
      let (anchor, name, tokens) := properties tokens
      match name.map (resolveTag? handles) with
      | some none => (cut, none)
      | tag =>
        let tag := tag.join
        let node (content : Content String) : ListReading → Reading
          | (children, rest) => (⟨content, anchor, children⟩, rest)
        let empty : Reading :=
          if anchor.isSome || tag.isSome then (⟨.scalar "" true tag, anchor, []⟩, some tokens)
          else (cut, none)
        match tokens with
        | [] => (cut, none)
        | .scalar value plain :: rest => (⟨.scalar value plain tag, anchor, []⟩, some rest)
        | .flowSequenceStart :: rest => node .sequence (flowItems handles true fuel rest)
        | .flowMappingStart :: rest => node .mapping (flowEntries handles true fuel rest)
        | .blockEntry :: _ =>
          if indentless then node .sequence (indentlessItems handles fuel tokens) else empty
        | .blockSequenceStart :: rest =>
          if block then node .sequence (blockItems handles fuel rest) else empty
        | .blockMappingStart :: rest =>
          if block then node .mapping (blockKeys handles fuel rest) else empty
        | _ => empty

def blockItems (handles : Handles) (fuel : Nat) (tokens : List Token) : ListReading :=
  match fuel with
  | 0 => cutHere
  | fuel + 1 =>
    match tokens with
    | .blockEntry :: rest =>
      match rest with
      | [] => cutHere
      | .blockEntry :: _ | .blockEnd :: _ => leftOut (blockItems handles fuel rest)
      | _ => andThen (read handles true false fuel rest) fun rest => blockItems handles fuel rest
    | .blockEnd :: rest => ([], some rest)
    | _ => cutHere

def indentlessItems (handles : Handles) (fuel : Nat) (tokens : List Token) : ListReading :=
  match fuel with
  | 0 => cutHere
  | fuel + 1 =>
    match tokens with
    | [] => cutHere
    | .blockEntry :: rest =>
      match rest with
      | [] => cutHere
      | .blockEntry :: _ | .key :: _ | .value :: _ | .blockEnd :: _ =>
        leftOut (indentlessItems handles fuel rest)
      | _ =>
        andThen (read handles true false fuel rest) fun rest => indentlessItems handles fuel rest
    | _ => ([], some tokens)

def blockKeys (handles : Handles) (fuel : Nat) (tokens : List Token) : ListReading :=
  match fuel with
  | 0 => cutHere
  | fuel + 1 =>
    match tokens with
    | .key :: rest =>
      match rest with
      | [] => cutHere
      | .key :: _ | .value :: _ | .blockEnd :: _ => leftOut (blockValues handles fuel rest)
      | _ => andThen (read handles true true fuel rest) fun rest => blockValues handles fuel rest
    | .blockEnd :: rest => ([], some rest)
    | _ => cutHere

def blockValues (handles : Handles) (fuel : Nat) (tokens : List Token) : ListReading :=
  match fuel with
  | 0 => cutHere
  | fuel + 1 =>
    match tokens with
    | [] => cutHere
    | .value :: rest =>
      match rest with
      | [] => cutHere
      | .key :: _ | .value :: _ | .blockEnd :: _ => leftOut (blockKeys handles fuel rest)
      | _ => andThen (read handles true true fuel rest) fun rest => blockKeys handles fuel rest
    | _ => leftOut (blockKeys handles fuel tokens)

def flowItems (handles : Handles) (first : Bool) (fuel : Nat) (tokens : List Token) :
    ListReading :=
  match fuel with
  | 0 => cutHere
  | fuel + 1 =>
    match tokens with
    | .flowSequenceEnd :: rest => ([], some rest)
    | .flowEntry :: .flowSequenceEnd :: rest =>
      if first then flowItem handles fuel tokens else ([], some rest)
    | .flowEntry :: rest => flowItem handles fuel (if first then tokens else rest)
    | _ => if first then flowItem handles fuel tokens else cutHere

def flowItem (handles : Handles) (fuel : Nat) (tokens : List Token) : ListReading :=
  match fuel with
  | 0 => cutHere
  | fuel + 1 =>
    match tokens with
    | .key :: rest =>
      let (children, rest) := pairKey handles fuel rest
      andThen (⟨.mapping, none, children⟩, rest) fun rest => flowItems handles false fuel rest
    | _ =>
      andThen (read handles false false fuel tokens) fun rest => flowItems handles false fuel rest

/-- A lone pair. A token found in the place of its key is passed over. -/
def pairKey (handles : Handles) (fuel : Nat) (tokens : List Token) : ListReading :=
  match fuel with
  | 0 => cutHere
  | fuel + 1 =>
    match tokens with
    | .value :: rest | .flowEntry :: rest | .flowSequenceEnd :: rest =>
      leftOut (pairValue handles fuel rest)
    | _ => andThen (read handles false false fuel tokens) fun rest => pairValue handles fuel rest

def pairValue (handles : Handles) (fuel : Nat) (tokens : List Token) : ListReading :=
  match fuel with
  | 0 => cutHere
  | fuel + 1 =>
    match tokens with
    | [] => cutHere
    | .value :: rest =>
      match rest with
      | [] => cutHere
      | .flowEntry :: _ | .flowSequenceEnd :: _ => leftOut (pairEnd rest)
      | _ => andThen (read handles false false fuel rest) pairEnd
    | _ => leftOut (pairEnd tokens)

def flowEntries (handles : Handles) (first : Bool) (fuel : Nat) (tokens : List Token) :
    ListReading :=
  match fuel with
  | 0 => cutHere
  | fuel + 1 =>
    match tokens with
    | .flowMappingEnd :: rest => ([], some rest)
    | .flowEntry :: .flowMappingEnd :: rest =>
      if first then flowKey handles fuel tokens else ([], some rest)
    | .flowEntry :: rest => flowKey handles fuel (if first then tokens else rest)
    | _ => if first then flowKey handles fuel tokens else cutHere

def flowKey (handles : Handles) (fuel : Nat) (tokens : List Token) : ListReading :=
  match fuel with
  | 0 => cutHere
  | fuel + 1 =>
    match tokens with
    | .key :: rest =>
      match rest with
      | .value :: _ | .flowEntry :: _ | .flowMappingEnd :: _ =>
        leftOut (flowValue handles fuel rest)
      | _ => andThen (read handles false false fuel rest) fun rest => flowValue handles fuel rest
    | _ =>
      andThen (read handles false false fuel tokens) fun
        | [] => cutHere
        | rest => leftOut (flowEntries handles false fuel rest)

def flowValue (handles : Handles) (fuel : Nat) (tokens : List Token) : ListReading :=
  match fuel with
  | 0 => cutHere
  | fuel + 1 =>
    match tokens with
    | [] => cutHere
    | .value :: rest =>
      match rest with
      | [] => cutHere
      | .flowEntry :: _ | .flowMappingEnd :: _ => leftOut (flowEntries handles false fuel rest)
      | _ =>
        andThen (read handles false false fuel rest) fun rest => flowEntries handles false fuel rest
    | _ => leftOut (flowEntries handles false fuel tokens)

end

end Node

end ActionSchema.Yaml
