import LogForwarding.Text.Hidden

/-!
# Quoted text

A text inside a message stands between double quotes, so that its ends can be seen.
Inside, a quote and a backslash get a backslash, line breaks and the like their
usual short forms, and every other character that does not show its code point.
-/

namespace LogForwarding.Text

/-- The digits of a number in base 16, in lower case. -/
def lowerHex (n : Nat) : String :=
  String.ofList (Nat.toDigits 16 n)

/-- The code point of a character as an escape. -/
def codePointEscape (c : Char) : String :=
  "\\u\x7b" ++ lowerHex c.toNat ++ "\x7d"

/-- How a character is written between quotes. -/
def quoteChar (c : Char) : String :=
  match c with
  | '"' => "\\\""
  | '\\' => "\\\\"
  | '\n' => "\\n"
  | '\r' => "\\r"
  | '\t' => "\\t"
  | '\x00' => "\\0"
  | c => if isHidden c then codePointEscape c else c.toString

/-- A text between quotes. -/
def quoted (text : String) : String :=
  "\"" ++ String.join (text.toList.map quoteChar) ++ "\""

/-- Several written values as one list. -/
def listed (items : List String) : String :=
  "[" ++ ", ".intercalate items ++ "]"

end LogForwarding.Text
