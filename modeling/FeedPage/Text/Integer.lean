-- SUMMARY: Integers as they are written in settings and dates: a sign, and digits of all scripts in groups.
import FeedPage.Text.Blank
import FeedPage.Text.Digit

/-!
# Integers

An integer is written with blanks around it, perhaps a sign, and digits of any script in groups
joined by single underscores. More than 4300 digits are refused.
-/

namespace FeedPage.Text

/-- The largest number of digits of an integer. -/
def maxDigits : Nat := 4300

/-- The wording that refuses a number of so many digits. -/
def tooManyDigits (digits : Nat) : Text :=
  "Exceeds the limit (4300 digits) for integer string conversion: value has ".toList ++
    ofNat digits ++ " digits; use sys.set_int_max_str_digits() to increase the limit".toList

/-- Blanks around an integer: white space without the separators U+001C to U+001F. -/
def isNumberBlank (c : Char) : Bool := isBlank c && !(28 ≤ c.toNat && c.toNat ≤ 31)

/-- The digits of groups joined by single underscores, the first of them required at once. -/
def digits? : Text → Option (List Nat)
  | [] => none
  | c :: s => match digit? c with
    | none => none
    | some d => match s with
      | [] => some [d]
      | e :: t => if e = '_' then (digits? t).map (d :: ·) else (digits? (e :: t)).map (d :: ·)

/-- The number that digits denote. -/
def ofDigits (ds : List Nat) : Nat := ds.foldl (fun n d => 10 * n + d) 0

/-- The sign at the front of a text, whether it is a minus, and the rest. -/
def takeSign : Text → Bool × Text
  | '-' :: s => (true, s)
  | '+' :: s => (false, s)
  | s => (false, s)

/-- A number with its sign. -/
def signed (negative : Bool) (n : Nat) : Int := if negative then -(n : Int) else n

/-- The text without the blanks around a number. -/
def trimNumber (s : Text) : Text :=
  ((s.dropWhile isNumberBlank).reverse.dropWhile isNumberBlank).reverse

/-- The integer that a text denotes. -/
def integer? (s : Text) : Option Int :=
  let (negative, s) := takeSign (trimNumber s)
  match digits? s with
  | none => none
  | some ds => if maxDigits < ds.length then none else some (signed negative (ofDigits ds))

end FeedPage.Text
