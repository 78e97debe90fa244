import ActionSchema.Predicate

/-! Declarations of actions as their authors write them, and the faults a schema may have. -/

namespace ActionSchema

inductive ArgumentDecl
  | whole (test : Predicate)
  | named (id : String) (test : Predicate)
  | documented (id doc : String) (test : Predicate)

inductive Part
  /-- Documentation. It is legal only as the first part. -/
  | doc (text : String)
  | arg (decl : ArgumentDecl)

structure Declaration where
  type : String
  parts : List Part

namespace Declaration

def start (type : String) : Declaration := ⟨type, []⟩

def add (d : Declaration) (part : Part) : Declaration := { d with parts := d.parts ++ [part] }

end Declaration

inductive SchemaError
  | emptyActionType
  | emptyArgumentId (type : String) (position : Nat)
  | misplacedWholePayload (type : String) (position count : Nat)
  | misplacedDoc (type : String) (position : Nat)
  | duplicateArgument (type id : String)
  | duplicateActionType (type : String)
  | unknownActionType (type : String)
  | unknownHandler (type : String)
deriving DecidableEq

def SchemaError.message : SchemaError → String
  | emptyActionType => "action type must not be empty"
  | emptyArgumentId type position =>
    "argument " ++ toString position ++ " of '" ++ type ++ "' has an empty id"
  | misplacedWholePayload type position count =>
    "whole-payload argument of '" ++ type ++ "' must be the only argument (found at position "
      ++ toString position ++ " of " ++ toString count ++ ")"
  | misplacedDoc type position =>
    "doc string of '" ++ type ++ "' must come before its arguments (found at part "
      ++ toString position ++ ")"
  | duplicateArgument type id =>
    "argument '" ++ id ++ "' is declared more than once on '" ++ type ++ "'"
  | duplicateActionType type => "action type '" ++ type ++ "' is declared more than once"
  | unknownActionType type => "unknown action type '" ++ type ++ "'"
  | unknownHandler type => "unknown action '" ++ type ++ "' in handler table"

end ActionSchema
