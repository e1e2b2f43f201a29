/-!
# Blank characters

The characters that only take up space, spaces and line breaks of all kinds, as they
are listed under the property `White_Space`.
-/

namespace LogForwarding.Text

/-- Whether a character only takes up space. -/
def isBlank (c : Char) : Bool :=
  c = ' ' || ('\t' ≤ c && c ≤ '\r') || c = '\u0085' || c = '\u00A0' || c = '\u1680'
    || ('\u2000' ≤ c && c ≤ '\u200A') || c = '\u2028' || c = '\u2029' || c = '\u202F'
    || c = '\u205F' || c = '\u3000'

end LogForwarding.Text
