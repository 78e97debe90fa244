import ActionSchema.Record
import ActionSchema.Yaml.Alias

/-! A YAML text with one document, as a source of records. Every scalar can be read as the text it
is written with; only where something optional or empty may stand does it matter how. -/

namespace ActionSchema.Yaml

structure Document where
  root : Node Empty
  /-- Whether the text goes right to its end and holds no other document. -/
  sound : Bool

namespace Document

open Node

/-- The directives in front of a document: the handles they declare, and the tokens after them. A
handle or version declared twice is an error, and so is a version other than 1.1 and 1.2. -/
def directives (handles : Handles) (versioned : Bool) : List Token → Option (Handles × List Token)
  | .versionDirective major minor :: rest =>
    if versioned || major != 1 || (minor != 1 && minor != 2) then none
    else directives handles true rest
  | .tagDirective handle text :: rest =>
    if handles.any (·.1 == handle) then none
    else directives ((handle, text) :: handles) versioned rest
  | rest => some (handles, rest)

def endsAfterRoot (rest : List Token) : Bool :=
  match rest.dropWhile fun | .documentEnd => true | _ => false with
  | [.streamEnd] => true
  | _ => false

def close : Reading → Document
  | (root, rest) =>
    let (root, whole) := root.resolve
    ⟨root, whole && rest.any endsAfterRoot⟩

def readRoot (handles : Handles) (tokens : List Token) : Document :=
  close (read handles true false (4 * tokens.length + 8) tokens)

def broken : Document := ⟨cut, false⟩

def readMarked (tokens : List Token) : Document :=
  match directives [] false tokens with
  | some (handles, .documentStart :: rest) =>
    match rest with
    | [] => broken
    | .versionDirective .. :: _ | .tagDirective .. :: _ | .documentStart :: _
    | .documentEnd :: _ | .streamEnd :: _ => close (blank, some rest)
    | _ => readRoot (handles ++ standardHandles) rest
  | _ => broken

def ofText (text : String) : Document :=
  match Token.ofText text.toList with
  | .streamStart :: rest =>
    match rest with
    | [] => broken
    | .streamEnd :: _ => ⟨blank, true⟩
    | .versionDirective .. :: _ | .tagDirective .. :: _ | .documentStart :: _ => readMarked rest
    | _ => readRoot standardHandles rest
  | _ => broken

end Document

namespace Node

def text? : Node Empty → Option String
  | ⟨.scalar value _ _, _, _⟩ => some value
  | _ => none

def entries : List (Node Empty) → List (Option String × Node Empty)
  | key :: value :: rest => (key.text?, value) :: entries rest
  | [_] => [(none, cut)]
  | [] => []

def nullTag : String := "tag:yaml.org,2002:null"

def isNullText (value : String) : Bool := ["null", "Null", "NULL", "~"].contains value

/-- Nodes as values. The empty plain scalar stands for an empty sequence or mapping too. -/
def source : Record.Source (Node Empty) where
  string node :=
    match node.text? with
    | some value => .ok value
    | none => .error .malformed
  bool _ := .error .malformed
  present? node :=
    match node with
    | ⟨.scalar value true none, _, _⟩ =>
      .ok (if value.isEmpty || isNullText value then none else some node)
    | ⟨.scalar value true (some tag), _, _⟩ =>
      if tag != nullTag then .ok (some node)
      else if isNullText value then .ok none
      else .error .malformed
    | ⟨.cut, _, _⟩ => .error .malformed
    | _ => .ok (some node)
  items node :=
    match node with
    | ⟨.sequence, _, children⟩ => .ok children
    | ⟨.scalar "" true _, _, _⟩ => .ok []
    | _ => .error .malformed
  fields _ node :=
    match node with
    | ⟨.mapping, _, children⟩ => .ok (.named (entries children))
    | ⟨.scalar "" true _, _, _⟩ => .ok (.named [])
    | _ => .error .malformed
  json _ := .error .malformed
  skip _ := .error .malformed
  surplus _ := .malformed

end Node

def readText {α : Type} (read : Record.Source (Node Empty) → Node Empty → Except Record.Fault α)
    (text : String) : Except Record.Fault α := do
  let d := Document.ofText text
  let value ← read Node.source d.root
  if d.sound then return value else throw .malformed

end ActionSchema.Yaml
