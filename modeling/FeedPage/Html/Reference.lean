-- SUMMARY: Character references in attribute values: numbers, names, and names cut short.
import FeedPage.Html.Entity
import FeedPage.Text.Integer
import FeedPage.Text.Windows1252

/-!
# Character references in attribute values

An attribute value may hold references: `&#38;`, `&#x26;`, `&amp;`. A semicolon ends a reference,
but a number needs none, and neither do the names inherited from the first versions of the
language, even with letters right behind them: `&ltx` is `<x`. Numbers that name no character become
replacement characters, numbers of controls vanish, and the numbers 128 to 159 are read as
Windows-1252. A decimal number with more digits than integers may have cannot be read at all
(`tooLong?`).
-/

namespace FeedPage.Html.Reference

/-- Code points that no text should hold: controls and non-characters. -/
def isBarred (n : Nat) : Bool :=
  (1 ≤ n && n ≤ 8) || n == 0xB || (0xE ≤ n && n ≤ 0x1F) || (0x7F ≤ n && n ≤ 0x9F) ||
    (0xFDD0 ≤ n && n ≤ 0xFDEF) || n % 0x10000 ≥ 0xFFFE

/-- The text that a numeric reference stands for. -/
def ofNumber (n : Nat) : Text :=
  if n = 0 then ['\ufffd']
  else if n = 0xD then ['\r']
  else if 0x80 ≤ n ∧ n ≤ 0x9F then [(Text.windows1252? n).getD (Char.ofNat n)]
  else if (0xD800 ≤ n ∧ n ≤ 0xDFFF) ∨ 0x10FFFF < n then ['\ufffd']
  else if isBarred n then []
  else [Char.ofNat n]

/-- The longest beginning of `name`, of at least two characters, that is a name without semicolon,
with the number of its characters; `n` bounds that number. -/
def longestShort? (name : Text) : Nat → Option (Nat × Text)
  | 0 => none
  | 1 => none
  | n + 2 =>
    let start := name.take (n + 2)
    if Entity.isShort start then (Entity.named? start).map fun t => (n + 2, t)
    else longestShort? name (n + 1)

/-- The text that a named reference stands for: the name as a whole, else the longest name it
begins with, else the reference as it was written. -/
def ofName (name : Text) (closed : Bool) : Text :=
  let written := if closed then name ++ [';'] else name
  let whole := if closed || Entity.isShort name then Entity.named? name else none
  match whole with
  | some t => t
  | none => match longestShort? name (if closed then name.length else name.length - 1) with
    | some (n, t) => t ++ written.drop n
    | none => '&' :: written

/-- Characters that may stand in the name of a reference. -/
def isNameChar (c : Char) : Bool :=
  !(c == '\t' || c == '\n' || c == '\x0c' || c == ' ' || c == '<' || c == '&' || c == '#' ||
    c == ';')

/-- One more character is taken when a semicolon follows. -/
def closing (rest : Text) : Nat := if rest.head? = some ';' then 1 else 0

/-- The reference at the front of a text: how many characters it takes, and what it stands for. -/
def at? : Text → Option (Nat × Text)
  | '&' :: '#' :: x :: s =>
    if x.isDigit then
      let (digits, rest) := Text.run Char.isDigit (x :: s)
      some (2 + digits.length + closing rest, ofNumber (Text.ofDecimalDigits digits))
    else if x = 'x' ∨ x = 'X' then
      let (digits, rest) := Text.run Text.isHexDigit s
      if digits.isEmpty then none
      else some (3 + digits.length + closing rest, ofNumber (Text.ofHexDigits digits))
    else none
  | '&' :: s =>
    let name := (s.takeWhile isNameChar).take 32
    if name.isEmpty then none
    else
      let closed := (s.drop name.length).head? = some ';'
      some (1 + name.length + (if closed then 1 else 0), ofName name closed)
  | _ => none

/-- The number of decimal digits of the numeric reference at the front of a text. -/
def digitsAt : Text → Nat
  | '&' :: '#' :: s => (s.takeWhile Char.isDigit).length
  | _ => 0

/-- The numbers of decimal digits of all references in an attribute value. -/
def digitCounts (value : Text) : List Nat :=
  Text.collect (fun s => (at? s).map fun (n, _) => (n, digitsAt s)) value

/-- The number of digits of the first reference in an attribute value that has too many of them. -/
def tooLong? (value : Text) : Option Nat := (digitCounts value).find? (Text.maxDigits < ·)

/-- The text of an attribute value. -/
def resolveAll (value : Text) : Text := Text.substitute at? value

end FeedPage.Html.Reference
