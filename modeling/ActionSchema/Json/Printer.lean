import ActionSchema.Decimal.Shortest
import ActionSchema.Json.Basic

/-! JSON text without blanks. Strings escape the quote, the backslash and the controls only. -/

namespace ActionSchema

namespace Number

def toText : Number → String
  | int value _ => toString value
  | float value => value.toText

end Number

namespace Json

def escape (c : Char) : String :=
  match c with
  | '"' => "\\\""
  | '\\' => "\\\\"
  | '\n' => "\\n"
  | '\r' => "\\r"
  | '\t' => "\\t"
  | '\x08' => "\\b"
  | '\x0c' => "\\f"
  | c =>
    if c.toNat < 0x20 then
      "\\u00" ++ String.ofList [Nat.digitChar (c.toNat / 16), Nat.digitChar (c.toNat % 16)]
    else c.toString

def stringText (s : String) : String := "\"" ++ String.join (s.toList.map escape) ++ "\""

mutual

def toText : Json → String
  | null => "null"
  | bool value => if value then "true" else "false"
  | num value => value.toText
  | str value => stringText value
  | arr items => "[" ++ itemsText items ++ "]"
  | obj fields => "\x7b" ++ fieldsText fields ++ "\x7d"

def itemsText : List Json → String
  | [] => ""
  | [item] => item.toText
  | item :: rest => item.toText ++ "," ++ itemsText rest

def fieldsText {floor : Option String} : Table.Entries Json floor → String
  | .nil => ""
  | .cons key value _ .nil => stringText key ++ ":" ++ value.toText
  | .cons key value _ rest => stringText key ++ ":" ++ value.toText ++ "," ++ fieldsText rest

end

end Json

end ActionSchema
