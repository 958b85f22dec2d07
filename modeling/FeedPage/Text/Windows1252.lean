-- SUMMARY: The characters that the code points 128 to 159 stand for in text written on Windows.
import FeedPage.Text.Basic

/-!
# Windows-1252

Documents use the code points 128 to 159, which are controls, for the punctuation that the
Windows-1252 character set has in these places. Five of the places are empty there.
-/

namespace FeedPage.Text

/-- The characters of the places 128 to 159; a space marks an empty place. -/
def windows1252Row : Text :=
  "€ ‚ƒ„…†‡ˆ‰Š‹Œ Ž  ‘’“”•–—˜™š›œ žŸ".toList

/-- What a code point from 128 to 159 stands for in Windows-1252. -/
def windows1252? (n : Nat) : Option Char :=
  if n < 128 then none else (windows1252Row[n - 128]?).filter (· ≠ ' ')

/-- A control from 128 to 159 as the character it was meant to be. -/
def fromWindows1252 (c : Char) : Char := (windows1252? c.toNat).getD c

theorem fromWindows1252_of_lt {c : Char} (h : c.toNat < 128) : fromWindows1252 c = c := by
  simp [fromWindows1252, windows1252?, h]

end FeedPage.Text
