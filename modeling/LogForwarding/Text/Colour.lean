/-!
# Coloured text

On a terminal some texts stand out by their colour or weight. An emphasis is switched on
by a control sequence in front of a text and off by another behind it. Without colours a
text stays as it is.
-/

namespace LogForwarding.Text

/-- How a text stands out. -/
inductive Emphasis where
  /-- By its weight. -/
  | bold
  /-- As a success. -/
  | green
  /-- As a half success. -/
  | yellow
  /-- As a failure. -/
  | red
  /-- As a success, and by its weight. -/
  | boldGreen
  /-- As a failure, and by its weight. -/
  | boldRed
  deriving DecidableEq, Repr

namespace Emphasis

/-- The codes of an emphasis. -/
def codes : Emphasis → String
  | bold => "1"
  | green => "32"
  | yellow => "33"
  | red => "31"
  | boldGreen => "1;32"
  | boldRed => "1;31"

/-- What switches an emphasis on. -/
def opening (emphasis : Emphasis) : String := "\x1b[" ++ emphasis.codes ++ "m"

/-- What switches any emphasis off. -/
def closing : String := "\x1b[0m"

/-- A text with an emphasis. Where the text itself switches emphasis off, it is switched
on again. -/
def apply (emphasis : Emphasis) (coloured : Bool) (text : String) : String :=
  if coloured then
    emphasis.opening ++ (closing ++ emphasis.opening).intercalate (text.splitOn closing) ++ closing
  else text

end Emphasis

/-- A text filled up with spaces to a width. -/
def padded (width : Nat) (text : String) : String :=
  text ++ String.ofList (List.replicate (width - text.length) ' ')

end LogForwarding.Text
