-- SUMMARY: Quoted text for log and error messages, in which every character can be told apart.
import FeedPage.Text.Printable

/-!
# Quoted text

Messages show a text between quotes: single quotes, or double quotes when it holds a single quote
and no double one. The quote in use and the backslash are escaped, and so is every character that
cannot be shown as it is.
-/

namespace FeedPage.Text

/-- `digits` with zeros in front, up to the given width. -/
def padZeros (width : Nat) (digits : Text) : Text :=
  List.replicate (width - digits.length) '0' ++ digits

/-- The quote that surrounds a text. -/
def quoteFor (s : Text) : Char := if '\'' ∈ s ∧ '"' ∉ s then '"' else '\''

/-- One character between the quotes `q`. -/
def escapeQuoted (q c : Char) : Text :=
  if c = q ∨ c = '\\' then ['\\', c]
  else if c = '\t' then "\\t".toList
  else if c = '\n' then "\\n".toList
  else if c = '\r' then "\\r".toList
  else if isPrintable c then [c]
  else if c.toNat < 0x100 then "\\x".toList ++ padZeros 2 (hexOfNat c.toNat)
  else if c.toNat < 0x10000 then "\\u".toList ++ padZeros 4 (hexOfNat c.toNat)
  else "\\U".toList ++ padZeros 8 (hexOfNat c.toNat)

/-- A text between quotes. -/
def quoted (s : Text) : Text :=
  let q := quoteFor s
  q :: s.flatMap (escapeQuoted q) ++ [q]

end FeedPage.Text
