-- SUMMARY: Lenient markup: the tokens of any text, whether its tags are in order or not.
import FeedPage.Markup.Tag
import FeedPage.Markup.Declaration

/-!
# Tokens of lenient markup

Any text is markup of some kind. What looks like a tag, a reference, a comment or a declaration is a
token, and everything else is text. What is begun and never ends is text too, with all that follows.

Before it is cut, a text is put in shape (`tidy`): declarations other than those known lose their
opening bracket, an empty tag without attributes becomes a start tag and an end tag, and numbered
quotes become quotes.
-/

namespace FeedPage.Markup

/-- A token of lenient markup. -/
inductive Token where
  | text (s : Text)
  /-- Text that was marked as such as a whole. -/
  | section_ (s : Text)
  /-- A numbered character, by its digits; hexadecimal digits follow an `x`. -/
  | number (digits : Text)
  | named (name : Text)
  | startTag (name : Text) (attrs : List Attr)
  | endTag (name : Text)
  | comment (s : Text)
  | instruction (s : Text)
  | doctype (s : Text)
  deriving DecidableEq, Repr

/-- The ways in which the readers of lenient markup differ. -/
structure Dialect where
  /-- Whether a tag that ends in `/>` is an end tag as well. -/
  closesEmpty : Bool
  /-- Whether sections of text are kept, and all other declarations are read over. -/
  keepsSections : Bool := false
  /-- Whether a comment without end is dropped, with all that follows. -/
  dropsOpenComments : Bool := false
  deriving DecidableEq, Repr

/-! ## Putting in shape -/

/-- Elements without an end tag. -/
def emptyElements : List Text :=
  ["area", "base", "basefont", "br", "col", "command", "embed", "frame", "hr", "img", "input",
    "isindex", "keygen", "link", "meta", "param", "source", "track", "wbr"].map String.toList

/-- Whether a known declaration stands behind `<!`. -/
def isKnownDeclaration (s : Text) : Bool :=
  Text.startsWith ['['] s || Text.startsWith "--".toList s ||
    (Text.afterFolded? "doctype".toList s).isSome

/-- The opening of an unknown declaration, with its bracket as a reference. -/
def unknownDeclaration? (s : Text) : Option (Nat × Text) :=
  match s with
  | '<' :: '!' :: t => if isKnownDeclaration t then none else some (2, "&lt;!".toList)
  | _ => none

/-- An empty tag without attributes, as a start tag and an end tag, or as a start tag that has
none. -/
def emptyTag? (s : Text) : Option (Nat × Text) :=
  match s with
  | '<' :: t =>
    let run := t.takeWhile fun c => c ≠ '<' && c ≠ '>' && !Text.isBlank c
    let rest := t.drop run.length
    let blanks := rest.takeWhile Text.isBlank
    let found :=
      if blanks.isEmpty then
        if run.getLast? = some '/' ∧ 2 ≤ run.length ∧ rest.head? = some '>' then
          some run.dropLast
        else none
      else if !run.isEmpty && Text.startsWith "/>".toList (rest.drop blanks.length) then some run
      else none
    found.map fun name =>
      (name.length + blanks.length + 3,
        if name ∈ emptyElements then '<' :: name ++ " />".toList
        else '<' :: name ++ "></".toList ++ name ++ ['>'])
  | _ => none

/-- The text in the shape in which it is cut. -/
def tidy (s : Text) : Text :=
  let s := Text.substitute unknownDeclaration? s
  let s := Text.substitute emptyTag? s
  Text.replace "&#34;".toList ['"'] (Text.replace "&#39;".toList ['\''] s)

/-! ## References -/

/-- Digits of a numbered character, and the rest behind the semicolon. -/
def number? (s : Text) : Option (Text × Text) :=
  let found (lead : Text) (isDigit : Char → Bool) (s : Text) :=
    match s.takeWhile isDigit, s.dropWhile isDigit with
    | d :: ds, ';' :: rest => some (lead ++ d :: ds, rest)
    | _, _ => none
  match s with
  | '#' :: c :: s =>
    if c = 'x' ∨ c = 'X' then found [c] Text.isHexDigit s
    else found [] (fun c => (Text.digit? c).isSome) (c :: s)
  | _ => none

/-- Characters of an entity name. -/
def isEntityChar (c : Char) : Bool := c.isAlphanum || c = '-' || c = '.'

/-- The name of an entity, and the rest behind it and perhaps a semicolon. At the end of the text
the name ends before its last hyphen or full stop. -/
def entity? (s : Text) : Option (Text × Text) :=
  match s with
  | [] => none
  | c :: _ =>
    if !c.isAlpha then none else
    let name := s.takeWhile isEntityChar
    match s.dropWhile isEntityChar with
    | ';' :: rest => some (name, rest)
    | d :: rest => some (name, d :: rest)
    | [] =>
      let tail := (name.reverse.takeWhile Char.isAlphanum).length + 1
      let kept := name.length - tail
      if tail < name.length then some (name.take kept, name.drop kept) else none

/-! ## Tokens -/

/-- What stands at the front of a text. -/
inductive Front where
  /-- Tokens, the name of the last start tag from here on, and the rest. -/
  | tokens (out : List Token) (last : Text) (rest : Text)
  /-- Something that never ends. -/
  | endless
  /-- A declaration that cannot be read, because it has no name. -/
  | nameless

/-- A part that is text, and the rest; at the end of the text it may have been the beginning of
something. -/
def plain (last part rest : Text) : Front :=
  if rest.isEmpty then .endless else .tokens [.text part] last rest

/-- The reference behind an ampersand. -/
def frontOfReference (last s : Text) : Front :=
  match number? s with
  | some (digits, rest) => .tokens [.number digits] last rest
  | none => match entity? s with
    | some (name, rest) => .tokens [.named name] last rest
    | none => match s with
      | '#' :: t =>
        plain last ('&' :: '#' :: t.takeWhile Char.isDigit) (t.dropWhile Char.isDigit)
      | c :: _ => if c.isAlpha then .endless else plain last ['&'] s
      | [] => .endless

/-- The start tag behind `<`. -/
def frontOfTag (d : Dialect) (last s : Text) : Front :=
  match readTag last s with
  | none => .endless
  | some (.short name inside rest) =>
    .tokens [.startTag name [], .text inside, .endTag name] last rest
  | some (.full name attrs rest) =>
    let last := if Text.startsWith ['>'] s then last else name
    let consumed := s.take (s.length - rest.length)
    let closed := if d.closesEmpty && Text.endsWith "/>".toList consumed then [.endTag last] else []
    .tokens (.startTag name attrs :: closed) last rest

/-- The declaration behind `<!`. -/
def frontOfDeclaration (d : Dialect) (last s : Text) : Front :=
  if d.keepsSections then
    match Text.after? "[CDATA[".toList s with
    | some s => match Text.cut? "]]>".toList s with
      | some (inside, rest) => .tokens [.section_ inside] last rest
      | none => .tokens [] last []
    | none => match Text.cutChar? '>' s with
      | some (_, rest) => .tokens [] last rest
      | none => .endless
  else
    match readDeclaration d.dropsOpenComments s with
    | .doctype inside rest => .tokens [.doctype inside] last rest
    | .other rest => .tokens [] last rest
    | .refused => .tokens [.text "&lt;".toList] last ('!' :: s)
    | .endless => .endless
    | .nameless => .nameless

/-- What stands at the front of a text that is not empty. The first `last` is the name of the last
start tag. -/
def front (d : Dialect) (last : Text) (s : Text) : Front :=
  match s with
  | '<' :: '/' :: t =>
    match cutBracket? ('/' :: t) with
    | some (inside, rest) => .tokens [.endTag (Text.lower (Text.trim (inside.drop 1)))] last rest
    | none => .endless
  | '<' :: '!' :: '-' :: '-' :: t =>
    match comment? t with
    | some (inside, rest) => .tokens [.comment inside] last rest
    | none =>
      if d.dropsOpenComments then .tokens [] last ((afterOpenComment? t).getD []) else .endless
  | '<' :: '?' :: t =>
    match Text.cutChar? '>' t with
    | some (inside, rest) => .tokens [.instruction inside] last rest
    | none => .endless
  | '<' :: '!' :: t => frontOfDeclaration d last t
  | '<' :: c :: t =>
    if c.isAlpha ∨ c = '>' then frontOfTag d last (c :: t) else plain last ['<'] (c :: t)
  | ['<'] => .endless
  | '&' :: t => frontOfReference last t
  | s => .tokens [.text (s.takeWhile isRunning)] last (s.dropWhile isRunning)
where
  /-- Characters of running text. -/
  isRunning (c : Char) : Bool := c ≠ '<' && c ≠ '&'

/-- The tokens of `s`, a part of `whole`. The number bounds their count. A declaration without a
name gives the whole text as text, before the part that begins with it is given twice. -/
def tokensFrom (d : Dialect) (whole : Text) : Nat → (last s : Text) → List Token
  | 0, _, _ => []
  | n + 1, last, s =>
    if s.isEmpty then [] else
    match front d last s with
    | .tokens out last rest => out ++ tokensFrom d whole n last rest
    | .endless => [.text s]
    | .nameless => [.text whole, .text s, .text s]

/-- The tokens of a text. -/
def tokens (d : Dialect) (s : Text) : List Token :=
  let s := tidy s
  tokensFrom d s (s.length + 1) "???".toList s

end FeedPage.Markup
