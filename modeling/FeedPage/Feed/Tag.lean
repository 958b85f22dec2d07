-- SUMMARY: What tags, text and references do to the state of reading.
import FeedPage.Feed.Element
import FeedPage.Html.Entity
import FeedPage.Text.Digit

/-!
# Tags and text

Between tags and the meaning of elements stand names and prose. A tag's qualifier is replaced by the
short name of its vocabulary, and its base is that of all references within. In prose of an XML type
tags are pieces of text; where a feed announces other prose and yet writes tags in it, that prose is
XHTML from there on.
-/

namespace FeedPage.Feed.State

/-! ## Text -/

/-- Text as content of XML. -/
def escapeContent (s : Text) : Text :=
  s.flatMap fun c =>
    if c = '&' then "&amp;".toList
    else if c = '<' then "&lt;".toList
    else if c = '>' then "&gt;".toList
    else [c]

/-- Text is read. -/
def addText (q : State) (s : Text) : State :=
  q.addPiece { text := if q.prose.type = some xhtml then escapeContent s else s }

/-- Numbers of characters that markup is made of; references to them stay references. -/
def markupNumbers : List Text :=
  ["34", "38", "39", "60", "62", "x22", "x26", "x27", "x3c", "x3e"].map String.toList

/-- The number that digits of any script denote; hexadecimal digits follow an `x`. -/
def numberOf (digits : Text) : Except Fault Nat :=
  match digits with
  | 'x' :: s => .ok (Text.ofHexDigits s)
  | s =>
    if Text.maxDigits < s.length then .error (.numberTooLong s.length)
    else .ok (s.foldl (fun n c => 10 * n + (Text.digit? c).getD 0) 0)

/-- The character of a number. -/
def characterOf (n : Nat) : Except Fault Char :=
  if 0x80000000 ≤ n then .error .numberTooLarge
  else if 0x110000 ≤ n then .error .numberOutOfRange
  else if 0xD800 ≤ n ∧ n ≤ 0xDFFF then .error (.halfCharacter n)
  else .ok (Char.ofNat n)

/-- A numbered character is read. -/
def addNumber (q : State) (digits : Text) : Except Fault State :=
  if q.stack.isEmpty then .ok q
  else
    let digits := Text.lower digits
    if digits ∈ markupNumbers then .ok (q.addPiece { text := "&#".toList ++ digits ++ [';'] })
    else do
      let c ← characterOf (← numberOf digits)
      return q.addPiece { text := [c], isCharacter := true }

/-- Names of characters that markup is made of; references to them stay references. -/
def markupEntities : List Text := ["lt", "gt", "quot", "amp", "apos"].map String.toList

/-- What a reference to a named entity is read as. An entity that stands for a number is kept as a
reference to something unknown. -/
def ofEntity (entities : List (Text × Text)) (name : Text) : Piece :=
  let reference (s : Text) : Piece := { text := '&' :: s ++ [';'] }
  if name ∈ markupEntities then reference name
  else match entities.lookup name with
    | some s =>
      if Text.startsWith "&#".toList s && Text.endsWith [';'] s then reference s else { text := s }
    | none => match Html.Entity.classic? name with
      | some c => { text := [c], isCharacter := true }
      | none => reference name

/-- A named entity is read. -/
def addEntity (q : State) (name : Text) : State := q.addPiece (ofEntity q.entities name)

/-! ## Names -/

/-- The namespace that a qualifier stands for, or the default one. -/
def declareSpace (q : State) (qualifier : Option Text) (space : Text) : State :=
  let q :=
    if q.version.isEmpty then { q with version := (versionOfSpace? qualifier space).getD [] } else q
  let space := unifySpace space
  match shortName? space with
  | some short =>
    { q with
      qualifiers := (qualifier, short) :: q.qualifiers
      spaces := assign short space q.spaces }
  | none => { q with spaces := assign (qualifier.getD []) space q.spaces }

/-- The parts of a name before and behind its colon. -/
def splitName (tag : Text) : Text × Text := (Text.cutChar? ':' tag).getD ([], tag)

/-- The short name of a tag's vocabulary. -/
def shortOf (q : State) (tag : Text) : Text :=
  (q.qualifiers.lookup (some (splitName tag).1)).getD (splitName tag).1

/-- The name of the element that a tag starts or ends. -/
def nameOf (q : State) (tag : Text) : Text :=
  let short := q.shortOf tag
  if short.isEmpty then (splitName tag).2 else short ++ '_' :: (splitName tag).2

/-! ## Attributes -/

/-- An attribute as it is read: its name in lower case, and its value too where case means nothing.
Lenient markup leaves ampersands of values as references. -/
def readAttribute (lenient : Bool) (name value : Text) : Text × Text :=
  let name := Text.lower name
  let value := if name = "rel".toList ∨ name = "type".toList then Text.lower value else value
  (name, if lenient then Text.replace "&amp;".toList ['&'] value else value)

/-- The namespaces that attributes declare. -/
def declareSpaces (q : State) (attrs : Attributes) : State :=
  attrs.foldl
    (fun q (name, value) =>
      match Text.after? "xmlns:".toList name with
      | some qualifier => q.declareSpace (some qualifier) value
      | none => if name = "xmlns".toList then q.declareSpace none value else q)
    q

/-- The base of references becomes the one that attributes give. -/
def enterBase (q : State) (attrs : Attributes) : State :=
  let given := (attrs.get? "xml:base" <|> attrs.get? "base").getD []
  let given := if given.isEmpty then q.base else given
  let base :=
    if q.base.isEmpty then Url.join [] given
    else
      let url := Url.safe q.base given
      if url.isEmpty then q.base else url
  { q with base, bases := base :: q.bases }

/-- The base of references becomes that of the element around. -/
def leaveBase (q : State) : State :=
  match q.bases with
  | _ :: base :: bases =>
    { q with base := if base.isEmpty then q.base else base, bases := base :: bases }
  | _ => { q with bases := [] }

/-! ## Prose -/

/-- Whether prose of another than an XML type is read. -/
def isInPlainProse (q : State) : Bool := q.proseDepth ≠ 0 && !q.isXml

/-- Whether XHTML is read. -/
def isInXhtml (q : State) : Bool := q.proseDepth ≠ 0 && q.prose.type = some xhtml

/-- Whether a tag in plain prose only wraps it. -/
def isWrapper (tag : Text) : Bool := tag ∈ ["xhtml:div".toList, "div".toList]

/-- Plain prose becomes XHTML. -/
def asXhtml (q : State) : State :=
  if q.isInPlainProse then { q with prose := { q.prose with type := some xhtml } } else q

/-- Attributes as text. In lenient markup all but the quotes is as it should be. -/
def renderAttributes (lenient : Bool) (attrs : Attributes) : Text :=
  attrs.flatMap fun (name, value) =>
    ' ' :: name ++ "=\"".toList ++
      Text.replace ['"'] "&quot;".toList (if lenient then value else escapeContent value) ++ ['"']

/-- Names of elements with the namespace in which they are drawings or formulas. -/
def drawingSpaces : List (Text × Text) :=
  [("math", "http://www.w3.org/1998/Math/MathML"), ("svg", "http://www.w3.org/2000/svg")].map
    fun (name, space) => (name.toList, space.toList)

/-- A start tag is read as a piece of XHTML, without its qualifier. -/
def addStartTag (q : State) (tag : Text) (attrs : Attributes) : State :=
  let (qualifier, name) := splitName tag
  let space := if ':' ∈ tag then (q.spaces.lookup qualifier).getD [] else []
  let attrs :=
    if drawingSpaces.contains (name, space) then attrs ++ [("xmlns".toList, space)] else attrs
  { q with drawings := if name = "svg".toList then q.drawings + 1 else q.drawings }.addPiece
    { text := '<' :: name ++ renderAttributes q.lenient attrs ++ ['>'] }

/-- An end tag is read as a piece of XHTML, without its qualifiers. -/
def addEndTag (q : State) (tag : Text) : State :=
  q.addPiece { text := "</".toList ++ (Text.pieces ':' tag).getLastD [] ++ ['>'] }

/-! ## Tags -/

/-- Elements that may belong to a text input. -/
def textInputNames : List Text := ["title", "link", "description", "name"].map String.toList

/-- Elements that may belong to an image. -/
def imageNames : List Text :=
  ["title", "link", "description", "url", "href", "width", "height"].map String.toList

/-- An element starts. One without a meaning is a text that belongs to what surrounds it, or a part
of that if it has attributes. -/
def openElement (q : State) (tag : Text) (attrs : Attributes) : Except Fault State :=
  let q :=
    if (q.shortOf tag).isEmpty then
      { q with
        inTextInput := q.inTextInput && tag ∈ textInputNames
        inImage := q.inImage && tag ∈ imageNames }
    else q
  let name := q.nameOf tag
  match Opening.ofName? name with
  | some opening => q.open_ attrs opening
  | none =>
    if attrs.isEmpty then .ok (q.push name true) else q.mapSurroundings (·.attach name)

/-- A start tag is read. -/
def startTag (q : State) (tag : Text) (attrs : Attributes) : Except Fault State :=
  let attrs := attrs.map fun (name, value) => readAttribute q.lenient name value
  let q := ({ q with depth := q.depth + 1 }.enterBase attrs).declareSpaces attrs
  if q.isInPlainProse && isWrapper tag then .ok q
  else if q.asXhtml.isInXhtml then .ok (q.asXhtml.addStartTag tag attrs)
  else q.openElement tag attrs

/-- An element ends. In drawings nothing has a meaning. -/
def closeElement (q : State) (name : Text) : Except Fault State := do
  let closed ← match Closing.ofName? name with
    | some closing => if 0 < q.drawings then pure none else q.close closing
    | none => pure none
  match closed with
  | some q => return q
  | none => return (← q.pop name).2

/-- An end tag is read. -/
def endTag (q : State) (tag : Text) : Except Fault State := do
  let name := q.nameOf tag
  let leavesDrawing : Bool := (splitName tag).2 = "svg".toList
  let q := if leavesDrawing then { q with drawings := q.drawings - 1 } else q
  let q ← q.closeElement name
  if q.isInPlainProse && isWrapper tag then return q
  else
    let q := if q.asXhtml.isInXhtml then q.asXhtml.addEndTag tag else q
    return { q.leaveBase with depth := q.depth - 1 }

end FeedPage.Feed.State
