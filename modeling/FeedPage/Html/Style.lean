-- SUMMARY: The declarations of a style attribute that may be shown.
import FeedPage.Text.Blank
import FeedPage.Text.Case
import FeedPage.Text.Digit
import FeedPage.Text.Word

/-!
# Styles

Of a style only harmless declarations are kept. URLs are taken out first. A style is dropped as a
whole when it holds a character that harmless styles have no use for, or a part that is no
declaration.
-/

namespace FeedPage.Html.Style

/-- Properties that are kept with any value. -/
def properties : List Text :=
  ["azimuth", "background-color", "border-bottom-color", "border-collapse", "border-color",
    "border-left-color", "border-right-color", "border-top-color", "clear", "color", "cursor",
    "direction", "display", "elevation", "float", "font", "font-family", "font-size", "font-style",
    "font-variant", "font-weight", "height", "letter-spacing", "line-height", "overflow", "pause",
    "pause-after", "pause-before", "pitch", "pitch-range", "richness", "speak", "speak-header",
    "speak-numeral", "speak-punctuation", "speech-rate", "stress", "text-align", "text-decoration",
    "text-indent", "unicode-bidi", "vertical-align", "voice-family", "volume", "white-space",
    "width"].map String.toList

/-- Properties of drawings. -/
def drawingProperties : List Text :=
  ["fill", "fill-opacity", "fill-rule", "stroke", "stroke-linecap", "stroke-linejoin",
    "stroke-opacity", "stroke-width"].map String.toList

/-- Families of properties that are kept with known values only. -/
def families : List Text := ["background", "border", "margin", "padding"].map String.toList

/-- Known words of values. -/
def keywords : List Text :=
  ["!important", "aqua", "auto", "black", "block", "blue", "bold", "both", "bottom", "brown",
    "center", "collapse", "dashed", "dotted", "fuchsia", "gray", "green", "italic", "left", "lime",
    "maroon", "medium", "navy", "none", "normal", "nowrap", "olive", "pointer", "purple", "red",
    "right", "silver", "solid", "teal", "top", "transparent", "underline", "white", "yellow"].map
    String.toList

/-- Digits of all scripts. -/
def isDigit (c : Char) : Bool := (Text.digit? c).isSome

/-! ## Values -/

/-- Units of lengths, and what may stand in their place. -/
def units : List Text :=
  ["", "cm", "em", "ex", "in", "mm", "pc", "pt", "px", "%", ",", ")"].map String.toList

/-- Whether a word is a length: up to two digits, perhaps a point, up to two digits, a unit. -/
def isLength (s : Text) : Bool :=
  let whole := s.takeWhile isDigit
  match s.dropWhile isDigit with
  | '.' :: t =>
    whole.length ≤ 2 && (t.takeWhile isDigit).length ≤ 2 && t.dropWhile isDigit ∈ units
  | t => whole.length ≤ 4 && t ∈ units

/-- The rest behind digits, of which there are at least `least`, and perhaps a percent sign. -/
def afterShare? (least : Nat) (s : Text) : Option Text :=
  if (s.takeWhile isDigit).length < least then none
  else match s.dropWhile isDigit with
    | '%' :: t => some t
    | t => some t

/-- Whether a word is a colour, by its digits or by its three shares, the last two of which may be
incomplete. -/
def isColour (s : Text) : Bool :=
  match s with
  | '#' :: t => !t.isEmpty && t.all fun c => c.isDigit || ('a' ≤ c && c ≤ 'f')
  | s => match (Text.after? "rgb(".toList s).bind (afterShare? 1) with
    | some (',' :: t) =>
      let t := (afterShare? 0 t).getD []
      let t := if t.head? = some ',' then t.drop 1 else t
      let t := (afterShare? 0 t).getD []
      t = [] || t = [')']
    | _ => false

/-- Whether a word may stand in a value that is checked. -/
def isKnownWord (s : Text) : Bool := s ∈ keywords || isColour s || isLength s

/-! ## Harmless styles -/

/-- A URL and the blanks around it, which a space replaces. -/
def url? (s : Text) : Option (Nat × Text) :=
  match Text.after? "url".toList s with
  | none => none
  | some t => match t.dropWhile Text.isBlank with
    | '(' :: t =>
      let t := t.dropWhile Text.isBlank
      let isPart (c : Char) : Bool := !Text.isBlank c && c ≠ ')'
      match t.takeWhile isPart, (t.dropWhile isPart).dropWhile Text.isBlank with
      | _ :: _, ')' :: rest => some (s.length - (rest.dropWhile Text.isBlank).length, [' '])
      | _, _ => none
    | _ => none

/-- Characters that a harmless style holds anywhere. -/
def isHarmlessChar (c : Char) : Bool :=
  ":,;#%.!".toList.contains c || Text.isBlank c || c.isAlphanum

/-- Whether a style is made of harmless characters, of words with a hyphen in them, of quoted words,
and of numbers in brackets. The number bounds the length. -/
def isHarmless : Nat → Text → Bool
  | 0, _ => false
  | _, [] => true
  | n + 1, c :: s =>
    let enclosed (closing : Char) (p : Char → Bool) : Bool :=
      match s.takeWhile p, s.dropWhile p with
      | _ :: _, d :: rest => d = closing && isHarmless n rest
      | _, _ => false
    match s with
    | '-' :: d :: rest => if Text.isWord c && Text.isWord d then isHarmless n rest else false
    | _ =>
      if isHarmlessChar c then isHarmless n s
      else if c = '\'' ∨ c = '"' then enclosed c fun c => Text.isBlank c || Text.isWord c
      else if c = '(' then enclosed ')' fun c => isDigit c || c = ',' || Text.isBlank c
      else false

/-- Characters of a property's name. -/
def isPropertyChar (c : Char) : Bool := c = '-' || Text.isWord c

/-- Characters of a value. -/
def isValueChar (c : Char) : Bool := c ≠ ':' && c ≠ ';'

/-- A declaration: property, value, and the rest. -/
def declaration? (s : Text) : Option (Text × Text × Text) :=
  match s.takeWhile isPropertyChar, (s.dropWhile isPropertyChar).dropWhile Text.isBlank with
  | p :: ps, ':' :: t =>
    let t := t.dropWhile Text.isBlank
    some (p :: ps, t.takeWhile isValueChar, t.dropWhile isValueChar)
  | _, _ => none

/-- Whether nothing is left of a style when its declarations are taken away. -/
def isAllDeclarations (s : Text) : Bool :=
  let taken? (s : Text) : Option (Nat × Text) :=
    (declaration? (s.dropWhile Text.isBlank)).map fun (_, _, rest) =>
      let rest := if rest.head? = some ';' then rest.drop 1 else rest
      (s.length - rest.length, [])
  (Text.trim (Text.substitute taken? s)).isEmpty

/-- The declarations of a style. -/
def declarations (s : Text) : List (Text × Text) :=
  Text.collect
    (fun s => (declaration? s).map fun (p, v, rest) => (s.length - rest.length, (p, v))) s

/-- Whether a declaration is kept; `drawing` tells whether it stands in a drawing. -/
def isKept (drawing : Bool) (property value : Text) : Bool :=
  let name := Text.lower property
  if name ∈ properties then true
  else if Text.lower (Text.partition '-' property).1 ∈ families then
    (Text.words value).all isKnownWord
  else drawing && name ∈ drawingProperties

/-- The harmless part of a style. -/
def sanitize (drawing : Bool) (s : Text) : Text :=
  let s := Text.substitute url? s
  if !isHarmless (s.length + 1) s || !isAllDeclarations s then []
  else
    let kept := (declarations s).filter fun (p, v) => !v.isEmpty && isKept drawing p v
    Text.join [' '] (kept.map fun (p, v) => p ++ ": ".toList ++ v ++ [';'])

end FeedPage.Html.Style
