import ActionSchema.Creator
import ActionSchema.Schema.Maps
import ActionSchema.Tester

/-! Compiled schemas. Compiling parses every declaration in order and derives from it one entry in
each of four tables; it stops at the first declaration that does not parse or repeats a type. -/

namespace ActionSchema

structure CompiledSchema (A : Type) where
  format : Format A
  ns : Namespace
  schema : SchemaMap := {}
  actions : ActionTypeMap := {}
  testers : Testers := {}
  creators : ActionCreators A := {}

namespace CompiledSchema

variable {A : Type}

def add (s : CompiledSchema A) (d : Declaration) : Except SchemaError (CompiledSchema A) := do
  let parsed ← d.parse
  let schema ← s.schema.insert parsed
  let namespaced := s.ns.qualify parsed.type
  return { s with
    schema
    actions := s.actions.insert parsed.type namespaced
    testers := s.testers.insert namespaced parsed.tester
    creators := s.creators.insert parsed.type ⟨namespaced, parsed, s.format⟩ }

end CompiledSchema

def compile {A : Type} (format : Format A) (ns : Namespace) (ds : List Declaration) :
    Except SchemaError (CompiledSchema A) :=
  ds.foldlM CompiledSchema.add { format, ns }

namespace CompiledSchema

variable {A : Type}

def creator (s : CompiledSchema A) (type : String) : Except SchemaError (ActionCreator A) :=
  s.creators.get type

def size (s : CompiledSchema A) : Nat := s.schema.size

def isEmpty (s : CompiledSchema A) : Bool := s.schema.isEmpty

def toList (s : CompiledSchema A) : List ParsedAction := s.schema.toList

def test (s : CompiledSchema A) (action : A) : Option Bool :=
  let parts := s.format.unformat action
  s.testers.test parts.type parts.payload

end CompiledSchema

end ActionSchema
