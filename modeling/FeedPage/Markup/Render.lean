-- SUMMARY: Lenient markup as text again: tokens rendered in one canonical form.
import FeedPage.Html.Entity
import FeedPage.Markup.Token
import FeedPage.Text.Windows1252

/-!
# Rendering lenient markup

Tokens become text again in one form: attributes in order of their names, each once and in double
quotes, and references complete. A reference to nothing known is text that begins with an ampersand.
-/

namespace FeedPage.Markup

/-! ## Attributes -/

/-- Names whose values are not case-sensitive. -/
def foldedNames : List Text := ["rel", "type"].map String.toList

/-- An attribute with its name, and with what is not case-sensitive, in lower case. -/
def Attr.fold (a : Attr) : Attr :=
  let name := Text.lower a.name
  ⟨name, if name ∈ foldedNames then Text.lower a.value else a.value⟩

/-- Attributes in order of their names; of those of one name the last counts. -/
def normalize (attrs : List Attr) : List Attr :=
  let attrs := attrs.map fun a => { a with name := Text.lower a.name }
  let last := attrs.reverse.foldl
    (fun kept a => if kept.any (·.name = a.name) then kept else a :: kept) []
  (last.mergeSort fun a b => Text.precedes a.name b.name).map Attr.fold

/-- Whether a complete reference stands behind an ampersand. -/
def isReference (s : Text) : Bool :=
  let ends (p : Char → Bool) (s : Text) :=
    !(s.takeWhile p).isEmpty && (s.dropWhile p).head? = some ';'
  match s with
  | '#' :: 'x' :: s => ends Text.isHexDigit s
  | '#' :: s => ends (fun c => (Text.digit? c).isSome) s
  | s => ends Text.isWord s

/-- An ampersand that is no part of a reference, as a reference. -/
def bareAmpersand? (s : Text) : Option (Nat × Text) :=
  match s with
  | '&' :: t => if isReference t then none else some (1, "&amp;".toList)
  | _ => none

/-- A value without quotes and brackets, and with all ampersands in references. -/
def escapeValue (v : Text) : Text :=
  Text.substitute bareAmpersand? <| v.flatMap fun c =>
    if c = '>' then "&gt;".toList
    else if c = '<' then "&lt;".toList
    else if c = '"' then "&quot;".toList
    else [c]

/-- The text of an attribute. -/
def Attr.render (a : Attr) : Text :=
  ' ' :: a.name ++ "=\"".toList ++ escapeValue a.value ++ ['"']

/-! ## Tokens -/

/-- The number that digits denote, hexadecimal ones behind an `x`. -/
def numberOf (digits : Text) : Nat :=
  match digits with
  | 'x' :: s | 'X' :: s => Text.ofHexDigits s
  | s => s.foldl (fun n c => 10 * n + (Text.digit? c).getD 0) 0

/-- The text of a numbered character; controls stand for the punctuation that is meant. -/
def renderNumber (digits : Text) : Text :=
  match Text.windows1252? (numberOf digits) with
  | some c => "&#x".toList ++ Text.hexOfNat c.toNat ++ [';']
  | none => "&#".toList ++ Text.lowerAscii digits ++ [';']

/-- The text of a token. -/
def Token.render : Token → Text
  | text s => s
  | section_ _ => []
  | number digits => renderNumber digits
  | named name =>
    if (Html.Entity.classic? name).isSome || name = "apos".toList then '&' :: name ++ [';']
    else "&amp;".toList ++ name
  | startTag name attrs =>
    '<' :: name ++ attrs.flatMap Attr.render ++
      (if name ∈ emptyElements then " />".toList else ['>'])
  | endTag name => if name ∈ emptyElements then [] else "</".toList ++ name ++ ['>']
  | comment s => "<!--".toList ++ s ++ "-->".toList
  | instruction s => "<?".toList ++ s ++ ['>']
  | doctype s => "<!".toList ++ s ++ ['>']

end FeedPage.Markup
