-- SUMMARY: Reading all of Unicode from bytes: wide units, UTF-7, escapes and numbered insertions.
import FeedPage.Text.Utf8

/-!
# Sets that hold every character

Beside UTF-8 there are several ways to write any character in bytes: units of two and four bytes,
runs of base-64 digits between ASCII characters (UTF-7), escapes that a backslash opens, and
insertions that a text of plain characters tells behind its last hyphen (Punycode).

Half characters are no characters of a text, so that bytes which spell one alone are not read. Two
things are left out: escapes that give a character by its name, and labels of domain names that
hold other characters in the form of ASCII.
-/

namespace FeedPage.Text.Charset

/-! ## Units of two and four bytes -/

/-- Pairs of bytes as numbers; nothing when a byte is left over. -/
def units16? (big : Bool) : Bytes → Option (List Nat)
  | [] => some []
  | [_] => none
  | a :: b :: s =>
    (units16? big s).map
      ((if big then a.toNat * 256 + b.toNat else b.toNat * 256 + a.toNat) :: ·)

/-- The text of UTF-16 units. -/
def ofUnits16? : List Nat → Option Text
  | [] => some []
  | [u] => if 0xD800 ≤ u ∧ u ≤ 0xDFFF then none else some [Char.ofNat u]
  | u :: v :: s =>
    if 0xD800 ≤ u ∧ u ≤ 0xDBFF then
      if 0xDC00 ≤ v ∧ v ≤ 0xDFFF then
        (ofUnits16? s).map (Char.ofNat (0x10000 + (u - 0xD800) * 0x400 + (v - 0xDC00)) :: ·)
      else none
    else if 0xDC00 ≤ u ∧ u ≤ 0xDFFF then none
    else (ofUnits16? (v :: s)).map (Char.ofNat u :: ·)

/-- The text of UTF-16 in the given byte order. -/
def decode16? (big : Bool) (b : Bytes) : Option Text := (units16? big b).bind ofUnits16?

/-- The text of UTF-32 in the given byte order. -/
def decode32? (big : Bool) : Bytes → Option Text
  | [] => some []
  | a :: b :: c :: d :: s =>
    let n := if big then ((a.toNat * 256 + b.toNat) * 256 + c.toNat) * 256 + d.toNat
      else ((d.toNat * 256 + c.toNat) * 256 + b.toNat) * 256 + a.toNat
    if (0xD800 ≤ n ∧ n ≤ 0xDFFF) ∨ 0x10FFFF < n then none
    else (decode32? big s).map (Char.ofNat n :: ·)
  | _ => none

/-! ## UTF-7 -/

/-- The value of a digit of base 64. -/
def base64Digit? (c : Char) : Option Nat :=
  if 'A' ≤ c ∧ c ≤ 'Z' then some (c.toNat - 65)
  else if 'a' ≤ c ∧ c ≤ 'z' then some (c.toNat - 71)
  else if '0' ≤ c ∧ c ≤ '9' then some (c.toNat + 4)
  else if c = '+' then some 62
  else if c = '/' then some 63
  else none

/-- The UTF-16 units of a run of base-64 digits: sixteen bits each, with less than a digit of zero
bits left over. `bits` and `value` are what is already held. -/
def units7? (bits value : Nat) : List Nat → Option (List Nat)
  | [] => if bits < 6 ∧ value = 0 then some [] else none
  | d :: ds =>
    let value := value * 64 + d
    let bits := bits + 6
    if 16 ≤ bits then
      (units7? (bits - 16) (value % 2 ^ (bits - 16)) ds).map (value / 2 ^ (bits - 16) :: ·)
    else units7? bits value ds

/-- The text of UTF-7. Inside a shifted run, `run` holds its digits in reverse. -/
def decode7? (run : Option (List Nat)) : Text → Option Text
  | [] => match run with
    | none => some []
    | some ds => (units7? 0 0 ds.reverse).bind ofUnits16?
  | c :: s => match run with
    | none =>
      if c = '+' then
        if s.head? = some '-' then (decode7? none (s.drop 1)).map ('+' :: ·)
        else if s.head?.any fun d => (base64Digit? d).isNone then none
        else decode7? (some []) s
      else if c.toNat < 128 then (decode7? none s).map (c :: ·)
      else none
    | some ds => match base64Digit? c with
      | some d => decode7? (some (d :: ds)) s
      | none => do
        let shifted ← (units7? 0 0 ds.reverse).bind ofUnits16?
        if c = '-' then (decode7? none s).map (shifted ++ ·)
        else if c.toNat < 128 then (decode7? none s).map fun t => shifted ++ c :: t
        else none
termination_by s => s.length
decreasing_by
  all_goals
    simp only [List.length_cons, List.length_drop]
    omega

/-! ## Escapes -/

/-- The character of a code point. -/
def ofCodePoint? (n : Nat) : Option Char := if n.isValidChar then some (Char.ofNat n) else none

/-- The character whose code point the first `n` characters give in hexadecimal digits. -/
def ofHex? (n : Nat) (s : Text) : Option Char :=
  let digits := s.take n
  if digits.length = n ∧ digits.all isHexDigit then ofCodePoint? (ofHexDigits digits) else none

/-- The letters and marks that stand for one character behind a backslash. -/
def letterEscapes : List (Char × Char) :=
  [('\\', '\\'), ('\x27', '\x27'), ('"', '"'), ('a', '\x07'), ('b', '\x08'), ('f', '\x0c'),
    ('n', '\n'), ('r', '\r'), ('t', '\t'), ('v', '\x0b')]

/-- The text for which a backslash stands together with what follows it, and how many of the
characters that follow belong to it. -/
def escape? : Text → Option (Text × Nat)
  | [] | 'N' :: _ => none
  | 'x' :: s => (ofHex? 2 s).map ([·], 3)
  | 'u' :: s => (ofHex? 4 s).map ([·], 5)
  | 'U' :: s => (ofHex? 8 s).map ([·], 9)
  | '\n' :: _ => some ([], 1)
  | c :: s =>
    let octal := ((c :: s).take 3).takeWhile fun d => '0' ≤ d && d ≤ '7'
    if octal.isEmpty then
      match letterEscapes.lookup c with
      | some d => some ([d], 1)
      | none => some (['\\', c], 1)
    else
      some ([Char.ofNat (octal.foldl (fun n d => 8 * n + (d.toNat - 48)) 0)], octal.length)

/-- What `escape?` gives where code points are all that can be escaped. -/
def codeEscape? : Text → Option (Text × Nat)
  | [] => some (['\\'], 0)
  | 'u' :: s => (ofHex? 4 s).map ([·], 5)
  | 'U' :: s => (ofHex? 8 s).map ([·], 9)
  | c :: _ => some (['\\', c], 1)

/-- The text with its escapes resolved. -/
def decodeEscapes? (escape? : Text → Option (Text × Nat)) : Text → Option Text
  | [] => some []
  | '\\' :: s => do
    let (t, n) ← escape? s
    (decodeEscapes? escape? (s.drop n)).map (t ++ ·)
  | c :: s => (decodeEscapes? escape? s).map (c :: ·)
termination_by s => s.length
decreasing_by
  all_goals
    simp only [List.length_cons, List.length_drop]
    omega

/-! ## Punycode -/

/-- ASCII bytes as text. -/
def ascii? (b : Bytes) : Option Text := if b.all (· < 0x80) then some (ofAscii b) else none

/-- The value of a digit: letters of either case, then the ten digits. -/
def insertionDigit? (c : Char) : Option Nat :=
  if c.isAlpha then some (c.toUpper.toNat - 65)
  else if c.isDigit then some (c.toNat - 22)
  else none

/-- The value from which on a digit in the given place is not the last of its number. -/
def threshold (place bias : Nat) : Nat := min 26 (max 1 (36 * (place + 1) - bias))

/-- The number at the front of the digits, and the digits behind it. -/
def insertionNumber? (bias place weight : Nat) : List Nat → Option (Nat × List Nat)
  | [] => none
  | d :: ds =>
    let t := threshold place bias
    if d < t then some (d * weight, ds)
    else (insertionNumber? bias (place + 1) (weight * (36 - t)) ds).map fun (n, rest) =>
      (d * weight + n, rest)

theorem length_insertionNumber? {bias place weight n : Nat} {ds rest : List Nat}
    (h : insertionNumber? bias place weight ds = some (n, rest)) : rest.length < ds.length := by
  induction ds generalizing place weight n with
  | nil => cases h
  | cons d ds ih =>
    simp only [insertionNumber?] at h
    split at h
    · cases h
      exact Nat.lt_succ_self _
    · simp only [Option.map_eq_some_iff, Prod.exists, Prod.mk.injEq] at h
      obtain ⟨m, r, hm, -, rfl⟩ := h
      exact Nat.lt_succ_of_lt (ih hm)

/-- How often a number is divided by 35 until it is at most 455, 36 for each time, and what is
left. -/
def scale (n : Nat) : Nat × Nat :=
  if 455 < n then
    let (times, rest) := scale (n / 35)
    (36 + times, rest)
  else (0, n)
termination_by n
decreasing_by omega

/-- The bias behind an insertion at the distance `delta`; `size` is the length of the text then. -/
def adapt (delta size : Nat) (first : Bool) : Nat :=
  let delta := if first then delta / 700 else delta / 2
  let (times, rest) := scale (delta + delta / size)
  times + 36 * rest / (rest + 38)

/-- The text with the characters inserted that the digits tell: `place` is the place behind the
last insertion, and code points count from `code` on. -/
def insertAll? (t : Text) (code place bias : Nat) (first : Bool) (ds : List Nat) : Option Text :=
  if ds = [] then some t
  else match h : insertionNumber? bias 0 1 ds with
    | none => none
    | some (delta, rest) => do
      have : rest.length < ds.length := length_insertionNumber? h
      let size := t.length + 1
      let code := code + (place + delta) / size
      let place := (place + delta) % size
      let c ← ofCodePoint? code
      insertAll? (t.take place ++ c :: t.drop place) code (place + 1) (adapt delta size first) false
        rest
termination_by ds.length

/-- The text of Punycode: plain characters, and behind the last hyphen the digits of the others. -/
def decodePunycode? (b : Bytes) : Option Text := do
  let s ← ascii? b
  let behind := (s.reverse.takeWhile (· ≠ '-')).reverse
  let digits ← behind.mapM insertionDigit?
  insertAll? (s.take (s.length - behind.length - 1)) 128 0 72 true digits

example : decodePunycode? (toUtf8 "Bcher-kva".toList) = some "Bücher".toList := by decide +kernel

/-! ## Domain names -/

/-- The text of a domain name. -/
def decodeDomain? (b : Bytes) : Option Text :=
  (ascii? b).filter fun s => (pieces '.' s).all fun label => !"xn--".toList.isPrefixOf label

end FeedPage.Text.Charset
