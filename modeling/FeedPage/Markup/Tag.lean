-- SUMMARY: Start tags of lenient markup: where they end, and their attributes.
import FeedPage.Text.Blank
import FeedPage.Text.Case
import FeedPage.Text.Digit
import FeedPage.Text.Word

/-!
# Start tags

A start tag ends at the first bracket outside of its quoted values, as long as each quoted value is
followed by something that can follow it. Where the quotes are not in order, it ends at the first
bracket of its line. Attributes are read as long as they look like attributes.

There is a short form as well: a name and a slash, the text of the element, and another slash.
-/

namespace FeedPage.Markup

/-- An attribute. Without a value its name is its value. -/
structure Attr where
  name : Text
  value : Text
  deriving DecidableEq, Repr

/-! ## The end of a tag -/

/-- Whether what follows a quoted value can follow it: the end of the tag, a slash, a blank, or the
name of another attribute with its equals sign. -/
def canFollowValue (s : Text) : Bool :=
  match s with
  | [] => false
  | c :: _ =>
    c = '>' || c = '/' || Text.isBlank c ||
      (Text.isWord c && (s.dropWhile Text.isWord).head? = some '=')

/-- The rest of a tag from its bracket on, when its quotes are in order. The number bounds the
length. -/
def orderlyEnd? : Nat → Text → Option Text
  | 0, _ => none
  | _, [] => none
  | n + 1, c :: s =>
    if c = '<' ∨ c = '>' then some (c :: s)
    else if c = '"' ∨ c = '\'' then
      match Text.cutChar? c s with
      | some (_, rest) => if canFollowValue rest then orderlyEnd? n rest else none
      | none => none
    else orderlyEnd? n s

/-- The rest from the first bracket on, when it stands on the first line. -/
def lineEnd? : Text → Option Text
  | [] => none
  | c :: s =>
    if c = '<' ∨ c = '>' then some (c :: s) else if c = '\n' then none else lineEnd? s

/-- The rest of a tag from its bracket on. -/
def tagEnd? (s : Text) : Option Text := orderlyEnd? (s.length + 1) s <|> lineEnd? s

/-- The text before the first bracket, and the text behind it; an opening bracket stays. -/
def cutBracket? : Text → Option (Text × Text)
  | [] => none
  | c :: s =>
    if c = '>' then some ([], s)
    else if c = '<' then some ([], c :: s)
    else (cutBracket? s).map fun (inside, rest) => (c :: inside, rest)

/-! ## Attributes -/

/-- Characters of an attribute name after its first. -/
def isAttrChar (c : Char) : Bool := c.isAlphanum || "-:._".toList.contains c

/-- Characters of a bare value. -/
def isBareChar (c : Char) : Bool :=
  c.isAlphanum || "][-./,:;+*%?!&$()_#=~'\"@".toList.contains c

/-- The value behind the equals sign. A quote without a partner is part of a bare value. -/
def value (s : Text) : Text × Text :=
  let bare := Text.run isBareChar s
  match s with
  | q :: t => if q = '\'' ∨ q = '"' then (Text.cutChar? q t).getD bare' else bare
  | [] => bare
where
  /-- A bare value that begins with a quote; it loses both quotes when it ends with one. -/
  bare' : Text × Text :=
    let run := Text.run isBareChar s
    if run.1.head? = run.1.getLast? then (run.1.drop 1).dropLast |> fun v => (v, run.2) else run

/-- References in a value: numbers get the semicolon that they lack. -/
def completeNumber? (s : Text) : Option (Nat × Text) :=
  match s with
  | '&' :: '#' :: t =>
    let digits := t.takeWhile Char.isDigit
    if digits.isEmpty then none
    else
      let closed := (t.drop digits.length).head? = some ';'
      some (2 + digits.length + (if closed then 1 else 0), "&#".toList ++ digits ++ [';'])
  | _ => none

/-- The attribute at the front, and the rest. Blanks may stand before it, and a dollar sign behind
its name. -/
def attr? (s : Text) : Option (Attr × Text) :=
  match s.dropWhile Text.isBlank with
  | [] => none
  | c :: t =>
    if c.isAlpha ∨ c = '_' then
      let name := c :: t.takeWhile isAttrChar
      let rest := t.dropWhile isAttrChar
      let rest := if rest.head? = some '$' then rest.drop 1 else rest
      match rest.dropWhile Text.isBlank with
      | '=' :: t =>
        let (v, rest) := value (t.dropWhile Text.isBlank)
        some (⟨Text.lower name, Text.substitute completeNumber? v⟩, rest)
      | _ => some (⟨Text.lower name, name⟩, rest)
    else none

/-- The attributes that begin before the end of the tag, of which `endLength` characters are left.
The number bounds their count. -/
def attrs : Nat → (endLength : Nat) → Text → List Attr
  | 0, _, _ => []
  | n + 1, endLength, s =>
    if s.length ≤ endLength then []
    else match attr? s with
      | none => []
      | some (a, rest) => a :: attrs n endLength rest

/-! ## Tags -/

/-- A start tag in its two forms, and the rest. -/
inductive Tag where
  /-- An element with its text, closed at once. -/
  | short (name inside rest : Text)
  | full (name : Text) (attrs : List Attr) (rest : Text)

/-- Characters of a tag name. -/
def isNameChar (c : Char) : Bool := c.isAlphanum || "-_.:".toList.contains c

/-- Characters of a tag name in the short form. -/
def isShortNameChar (c : Char) : Bool := c.isAlphanum || c = '-' || c = '.'

/-- The start tag behind `<`, which a letter or `>` follows. Without a name it repeats the `last`
one. -/
def readTag (last s : Text) : Option Tag :=
  let short := s.takeWhile isShortNameChar
  match s.head?, s.dropWhile isShortNameChar with
  | some '>', _ => some (.full last [] (s.drop 1))
  | _, '/' :: t =>
    (Text.cutChar? '/' t).map fun (inside, rest) => .short (Text.lower short) inside rest
  | _, _ => (tagEnd? s).map fun ending =>
    let name := s.takeWhile isNameChar
    let found := attrs s.length ending.length (s.dropWhile isNameChar)
    .full (Text.lower name) found (if ending.head? = some '>' then ending.drop 1 else ending)

end FeedPage.Markup
