-- SUMMARY: White space, in the three classes that the library's formats use, and trimming.
import FeedPage.Text.Basic

/-!
# White space

Three classes of blanks: `isBlank` holds the white space of all scripts (with the separators U+001C
to U+001F and the next-line character), `isAsciiSpace` that of ASCII, and `isAsciiBlank` the five
blanks that markup collapses, which leave out the vertical tab.
-/

namespace FeedPage.Text

/-- White space of all scripts. -/
def isBlank (c : Char) : Bool :=
  let n := c.toNat
  (9 ≤ n && n ≤ 13) || (28 ≤ n && n ≤ 32) || n == 0x85 || n == 0xA0 || n == 0x1680 ||
    (0x2000 ≤ n && n ≤ 0x200A) || n == 0x2028 || n == 0x2029 || n == 0x202F || n == 0x205F ||
    n == 0x3000

/-- The blanks of markup: space, tab, line feed, form feed, carriage return. -/
def isAsciiBlank (c : Char) : Bool :=
  c == ' ' || c == '\t' || c == '\n' || c == '\x0c' || c == '\r'

/-- White space of ASCII. -/
def isAsciiSpace (c : Char) : Bool := c = ' ' || ('\t' ≤ c && c ≤ '\r')

theorem isBlank_of_isAsciiBlank {c : Char} (h : isAsciiBlank c = true) : isBlank c = true := by
  simp only [isAsciiBlank, Bool.or_eq_true, beq_iff_eq] at h
  rcases h with (((rfl | rfl) | rfl) | rfl) | rfl <;> rfl

/-- The text without the blanks at its front. -/
def trimLeft (s : Text) : Text := s.dropWhile isBlank

/-- The text without the blanks at its end. -/
def trimRight (s : Text) : Text := (s.reverse.dropWhile isBlank).reverse

/-- The text without the blanks at both ends. -/
def trim (s : Text) : Text := trimRight (trimLeft s)

/-- A text that neither begins nor ends with a blank is left as it is. -/
theorem trim_eq_self {s : Text} (hl : ∀ c ∈ s.head?, isBlank c = false)
    (hr : ∀ c ∈ s.getLast?, isBlank c = false) : trim s = s := by
  have h1 : trimLeft s = s := by
    cases s with
    | nil => rfl
    | cons c s => simp [trimLeft, hl c (by simp)]
  rw [trim, h1, trimRight]
  cases hs : s.reverse with
  | nil => simpa using hs.symm
  | cons c t =>
    have : s.getLast? = some c := by
      rw [← List.head?_reverse, hs]; rfl
    rw [List.dropWhile_cons, hr c (by simp [this])]
    simp [← hs]

/-- The words of a text: its longest parts free of blanks. -/
def words (s : Text) : List Text := go [] s
where
  /-- Collects the current word in reverse. -/
  go (word : Text) : Text → List Text
    | [] => if word.isEmpty then [] else [word.reverse]
    | c :: s =>
      if isBlank c then (if word.isEmpty then go [] s else word.reverse :: go [] s)
      else go (c :: word) s

end FeedPage.Text
