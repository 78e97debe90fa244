import ActionSchema.Text.Formless

/-! Text in quotes. The quote and the backslash take a backslash, a few controls have a letter, and
any other character without a form of its own is given by number. -/

namespace ActionSchema.Text

def hexDigits (n : Nat) : String := String.ofList (Nat.toDigits 16 n)

def escape (quote c : Char) : String :=
  if c = quote ∨ c = '\\' then String.ofList ['\\', c]
  else if c = '\t' then "\\t"
  else if c = '\n' then "\\n"
  else if c = '\r' then "\\r"
  else if c = '\x00' then "\\0"
  else if isFormless c then "\\u\x7b" ++ hexDigits c.toNat ++ "\x7d"
  else c.toString

def quotedChar (c : Char) : String := "'" ++ escape '\'' c ++ "'"

def quoted (s : String) : String := "\"" ++ String.join (s.toList.map (escape '"')) ++ "\""

example : quoted "a\"b'\t\x7f" = "\"a\\\"b'\\t\\u\x7b7f\x7d\"" := by decide +kernel

example : quotedChar ' ' = "' '" ∧ quotedChar '\u0085' = "'\\u\x7b85\x7d'" := by decide +kernel

end ActionSchema.Text
