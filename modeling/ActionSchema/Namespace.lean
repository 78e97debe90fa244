import ActionSchema.Text.Blank
import ActionSchema.Text.Quoted

/-! Namespaces, which keep the action types of independent schemas apart. A namespace is put in
front of a type with one separator between them; the empty one leaves types as they are. -/

namespace ActionSchema

structure Namespace where
  name : String
  clean : ∀ c ∈ name.toList, ¬ (Text.isBlank c ∨ Text.isControl c)
deriving DecidableEq

namespace Namespace

def separator : Char := '_'

def disallowed? (name : String) : Option Char :=
  name.toList.find? fun c => Text.isBlank c || Text.isControl c

def ofString (name : String) : Except Char Namespace :=
  match h : disallowed? name with
  | some c => .error c
  | none => .ok ⟨name, by simpa [disallowed?, List.find?_eq_none] using h⟩

def none : Namespace := ⟨"", by simp⟩

def isEmpty (ns : Namespace) : Bool := ns.name.isEmpty

def qualify (ns : Namespace) (type : String) : String :=
  if ns.isEmpty then type else ns.name ++ separator.toString ++ type

def refusal (name : String) (c : Char) : String :=
  "invalid namespace '" ++ name ++ "': contains disallowed character " ++ Text.quotedChar c

end Namespace

end ActionSchema
