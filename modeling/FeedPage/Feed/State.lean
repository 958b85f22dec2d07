-- SUMMARY: Where the reading of a feed stands: what is open, what surrounds it, and what has been read.
import FeedPage.Feed.Fault
import FeedPage.Feed.Vocabulary
import FeedPage.Html.Absolute
import FeedPage.Html.Guess
import FeedPage.Text.Base64
import FeedPage.Text.Blank
import FeedPage.Text.Windows1252

/-!
# The state of reading

While a feed is read, a stack of elements is open, each with the pieces of its text. When an element
is closed, its text is refined (`State.refine`) and goes into what surrounds it (`State.keep`): the
feed, one of its items, its image, its text input, or the source that an item quotes. What surrounds
an element is told by marks that elements set and clear, not by the stack, because feeds are not
always well-formed.
-/

namespace FeedPage.Feed

/-! ## Records -/

/-- What has been read of a feed, an item, or another part of a feed. Only the texts that are shown
are kept; of all others only that they are there. A summary may be there without a text. -/
structure Record where
  title : Option Text := none
  link : Option Text := none
  published : Option Text := none
  updated : Option Text := none
  summary : Option (Option Text) := none
  /-- How many relations to other documents there are, when there is a place for them. -/
  relations : Option Nat := none
  /-- The names of other parts. -/
  parts : List Text := []
  deriving DecidableEq, Repr

/-- The record with a text under a name. -/
def Record.put (r : Record) (name text : Text) : Record :=
  if name = "title".toList then { r with title := some text }
  else if name = "link".toList then { r with link := some text }
  else if name = "published".toList then { r with published := some text }
  else if name = "updated".toList ∨ name = "date".toList then { r with updated := some text }
  else if name = "summary".toList then { r with summary := some (some text) }
  else if name = "license".toList then { r with parts := name :: r.parts }
  else r

/-- The record with a part. -/
def Record.attach (r : Record) (part : Text) : Record :=
  if part ∈ r.parts then r else { r with parts := part :: r.parts }

/-- The record without a part. -/
def Record.detach (r : Record) (part : Text) : Record :=
  { r with parts := r.parts.filter (· ≠ part) }

/-- The record with one more relation. -/
def Record.relate (r : Record) : Record := { r with relations := some (r.relations.getD 0 + 1) }

/-- An item, with the depths of the elements that its texts come from. -/
structure Entry where
  record : Record := {}
  depths : List (Text × Int) := []
  deriving DecidableEq, Repr

/-! ## States -/

/-- A piece of the text of an element. -/
structure Piece where
  text : Text
  /-- Whether a reference to a character is what stood there. -/
  isCharacter : Bool := false
  deriving DecidableEq, Repr

/-- Whether a piece is blank. Among characters only the blanks of ASCII are. -/
def Piece.isBlank (p : Piece) : Bool :=
  if p.isCharacter then p.text.all Text.isAsciiSpace else (Text.trim p.text).isEmpty

/-- An element that is open. -/
structure Frame where
  name : Text
  /-- Whether its text goes into what surrounds it. -/
  kept : Bool
  /-- The pieces of its text, the last one first. -/
  pieces : List Piece := []
  deriving DecidableEq, Repr

/-- What is known of the prose that is read. -/
structure Prose where
  type : Option Text := none
  base64 : Bool := false
  deriving DecidableEq, Repr

/-- Where the reading of a feed stands. -/
structure State where
  /-- Whether the feed is read as lenient markup. -/
  lenient : Bool := false
  /-- The entities that the document declares. -/
  entities : List (Text × Text) := []
  version : Text := []
  inFeed : Bool := false
  inItem : Bool := false
  inImage : Bool := false
  inTextInput : Bool := false
  inSource : Bool := false
  inChapters : Bool := false
  /-- How many elements are open; ends without a start count too. -/
  depth : Int := 0
  /-- The depth of the title that counts, from which on titles are passed over. -/
  titleDepth : Int := -1
  /-- How many elements with prose are open; ends without a start count too. -/
  proseDepth : Int := 0
  prose : Prose := {}
  /-- Whether a summary is read as content. -/
  summaryIsContent : Bool := false
  hasContent : Bool := false
  idIsLink : Bool := false
  /-- How many drawings are open in prose. -/
  drawings : Nat := 0
  /-- The base of references, and those of the elements that are open. -/
  base : Text := []
  bases : List Text := []
  /-- The short names of the vocabularies by qualifier. -/
  qualifiers : List (Option Text × Text) := []
  /-- The namespaces by short name, or by qualifier when they have none. -/
  spaces : List (Text × Text) := []
  /-- Declarations of links that the next element has as attributes. -/
  links : List (Text × Text) := []
  stack : List Frame := []
  feed : Record := {}
  image : Record := {}
  textInput : Record := {}
  source : Record := {}
  /-- The items, the last one first. -/
  items : List Entry := []
  deriving DecidableEq, Repr

namespace State

/-! ## What surrounds an element -/

/-- A record that elements can belong to. -/
inductive Place where
  | source
  | image
  | textInput
  | item
  | feed
  deriving DecidableEq, Repr

/-- The place of what is read next. A text input that the feed lacks is a fault. -/
def place (q : State) : Except Fault Place :=
  if q.inSource then .ok .source
  else if q.inImage && q.feed.parts.contains "image".toList then .ok .image
  else if q.inTextInput then
    if q.feed.parts.contains "textinput".toList then .ok .textInput
    else .error (.missingPart "textinput".toList)
  else if q.inItem then .ok .item
  else .ok .feed

/-- The record at a place. -/
def record (q : State) : Place → Record
  | .source => q.source
  | .image => q.image
  | .textInput => q.textInput
  | .item => (q.items.head?.map (·.record)).getD {}
  | .feed => q.feed

/-- Changes the last item. -/
def mapItem (q : State) (f : Entry → Entry) : State :=
  match q.items with
  | [] => q
  | e :: rest => { q with items := f e :: rest }

/-- Changes the record at a place. -/
def mapRecord (q : State) (f : Record → Record) : Place → State
  | .source => { q with source := f q.source }
  | .image => { q with image := f q.image }
  | .textInput => { q with textInput := f q.textInput }
  | .item => q.mapItem fun e => { e with record := f e.record }
  | .feed => { q with feed := f q.feed }

/-- Changes the record of what surrounds. -/
def mapSurroundings (q : State) (f : Record → Record) : Except Fault State := do
  return q.mapRecord f (← q.place)

/-- Looks for what surrounds, without a change. -/
def look (q : State) : Except Fault State := q.mapSurroundings id

/-- Whether there is anything that surrounds what is read. -/
def isSurrounded (q : State) : Bool := q.inFeed || q.inItem || q.inSource

/-! ## The stack -/

/-- Opens an element. -/
def push (q : State) (name : Text) (kept : Bool) : State :=
  { q with stack := { name, kept } :: q.stack }

/-- Adds a piece to the text of the innermost element. -/
def addPiece (q : State) (p : Piece) : State :=
  match q.stack with
  | [] => q
  | f :: rest => { q with stack := { f with pieces := p :: f.pieces } :: rest }

/-- Makes a text the only piece of the innermost element. -/
def setPiece (q : State) (s : Text) : State :=
  match q.stack with
  | [] => q
  | f :: rest => { q with stack := { f with pieces := [{ text := s }] } :: rest }

/-! ## Media types -/

/-- The media type of XHTML. -/
def xhtml : Text := "application/xhtml+xml".toList

/-- The full name of a media type. -/
def fullType (type : Text) : Text :=
  let type := Text.lower type
  if type = "text".toList ∨ type = "plain".toList then "text/plain".toList
  else if type = "html".toList then "text/html".toList
  else if type = "xhtml".toList then xhtml
  else type

/-- Media types of markup. -/
def markupTypes : List Text := ["text/html".toList, xhtml]

/-- Whether the prose that is read is of an XML type; no prose counts as such. -/
def isXml (q : State) : Bool := q.prose.type.all (Text.endsWith "xml".toList)

/-- Whether text of a media type is in Base64 when nothing else is said. -/
def isBinary (type : Text) : Bool :=
  !(Text.startsWith "text/".toList type || Text.endsWith "+xml".toList type ||
    Text.endsWith "/xml".toList type)

/-- Opens an element with prose. -/
def pushProse (q : State) (name : Text) (type mode : Option Text) (fallback : Text)
    (kept : Bool) : State :=
  let type := fullType (type.getD fallback)
  { q with
    proseDepth := q.proseDepth + 1
    prose := { type := some type, base64 := mode = some "base64".toList || isBinary type } }.push
    name kept

/-! ## Refining text -/

/-- Whether the pieces of markup before the last one belong to the element that the first one opens.
A character cannot be looked at as a tag. -/
def isEnclosed (pieces : List Piece) : Except Fault Bool :=
  go 0 pieces.dropLast
where
  /-- Whether `depth`, over which more elements are open, is never left. -/
  go (depth : Int) : List Piece → Except Fault Bool
    | [] => .ok true
    | p :: ps =>
      if p.isCharacter then .error .characterForTag
      else if Text.startsWith "</".toList p.text then
        if depth - 1 = 0 then .ok false else go (depth - 1) ps
      else if Text.startsWith ['<'] p.text && !Text.endsWith "/>".toList p.text then
        go (depth + 1) ps
      else go depth ps

/-- Pieces without the blank ones at the front; one piece stays. -/
def dropBlank : List Piece → List Piece
  | [] => []
  | [p] => [p]
  | p :: ps => if p.isBlank then dropBlank ps else p :: ps

/-- The pieces of XHTML without the element that encloses them all. -/
def unwrap (pieces : List Piece) : Except Fault (List Piece) :=
  let pieces := dropBlank (dropBlank pieces.reverse).reverse
  match pieces with
  | [] => .ok []
  | p :: ps =>
    if p.isCharacter then .error .characterForTag
    else if (p.text = "<div>".toList ∨ Text.startsWith "<div ".toList p.text) ∧
        pieces.getLast?.any (·.text = "</div>".toList) then do
      if ← isEnclosed pieces then return ps.dropLast else return pieces
    else .ok pieces

/-- Elements whose text may be a relative reference. -/
def referenceNames : List Text :=
  ["comments", "docs", "href", "icon", "id", "link", "logo", "url", "wfw_comment",
    "wfw_commentrss"].map String.toList

/-- Elements whose text may hold markup. -/
def markupNames : List Text :=
  ["content", "copyright", "description", "info", "rights", "subtitle", "summary", "tagline",
    "title"].map String.toList

/-- References that lenient reading leaves in the text, with what they are replaced by; the second
list counts only where the text is not XML. -/
def leftReferences : List (String × String) × List (String × String) :=
  ([("&#60;", "&lt;"), ("&#x3c;", "&lt;"), ("&#x3C;", "&lt;"), ("&#62;", "&gt;"),
    ("&#x3e;", "&gt;"), ("&#x3E;", "&gt;"), ("&#38;", "&amp;"), ("&#x26;", "&amp;"),
    ("&#34;", "&quot;"), ("&#x22;", "&quot;"), ("&#39;", "&apos;"), ("&#x27;", "&apos;")],
   [("&lt;", "<"), ("&gt;", ">"), ("&amp;", "&"), ("&quot;", "\""), ("&apos;", "'"),
    ("&#x2f;", "/"), ("&#x2F;", "/")])

/-- A text with replacements made one after the other. -/
def replaceAll (replacements : List (String × String)) (s : Text) : Text :=
  replacements.foldl (fun s (old, new) => Text.replace old.toList new.toList s) s

/-- A text whose characters are the bytes of UTF-8, read as such. -/
def reread (s : Text) : Text :=
  if s.all fun c => c.toNat < 256 then
    (Text.ofUtf8? (s.map fun c => UInt8.ofNat c.toNat)).getD s
  else s

/-- The text of an element in the form in which it is kept. -/
def refine (q : State) (name text : Text) : Text × State :=
  let encoded := q.prose.base64
  let text :=
    if encoded then ((Text.Base64.decode? text).bind Text.ofUtf8?).getD text else text
  let text :=
    if name ∈ referenceNames ∧ !text.isEmpty ∧ (name ≠ "id".toList ∨ q.idIsLink) then
      Url.join q.base text
    else text
  let text :=
    if encoded || !q.lenient then text
    else
      let text := replaceAll leftReferences.1 text
      if q.isXml then text else replaceAll leftReferences.2 text
  let type :=
    if !Text.startsWith "atom".toList q.version && q.prose.type = some "text/plain".toList &&
        Html.looksLikeMarkup text then some "text/html".toList
    else q.prose.type
  let text :=
    if fullType (type.getD "text/html".toList) ∈ markupTypes ∧ name ∈ markupNames then
      let isXhtml : Bool := type = some xhtml
      Html.sanitize isXhtml (Html.absolute q.base isXhtml text)
    else text
  ((reread text).map Text.fromWindows1252, { q with prose := { type, base64 := false } })

/-! ## Keeping text -/

/-- Names whose text is not kept, but used otherwise. -/
def usedNames : List Text := ["category", "tags", "itunes_keywords"].map String.toList

/-- A link with parameters that look like references. -/
def unescapeParameters (s : Text) : Text :=
  let isParameter (c : Char) : Bool := c.isAlphanum || c = '_'
  Text.substitute (fun s => match s with
    | '&' :: t =>
      if !(t.takeWhile isParameter).isEmpty && (t.dropWhile isParameter).head? = some ';' then
        some ((t.takeWhile isParameter).length + 2, '&' :: t.takeWhile isParameter)
      else none
    | _ => none) s

/-- Needs a relation that a link can complete. -/
def needRelation (r : Record) : Except Fault Unit :=
  match r.relations with
  | none => .error (.missingPart "links".toList)
  | some 0 => .error .noRelation
  | some _ => .ok ()

/-- Keeps the text of an element of an item. Of several elements those of the least depth count. -/
def keepInItem (q : State) (name text : Text) : Except Fault State :=
  if name = "content".toList then .ok q
  else if name = "link".toList then
    if q.inImage then .ok q
    else do
      let link := unescapeParameters (Text.replace "&amp;".toList ['&'] text)
      if !link.isEmpty then needRelation (q.record .item)
      return q.mapRecord (·.put name link) .item
  else
    let name := if name = "description".toList then "summary".toList else name
    .ok <| q.mapItem fun e =>
      if (e.depths.lookup name).all fun d => decide (q.depth ≤ d) then
        { record := e.record.put name text, depths := (name, q.depth) :: e.depths }
      else e

/-- Keeps the text of an element outside of items. -/
def keepOutside (q : State) (name text : Text) : Except Fault State := do
  let place ← q.place
  if name = "link".toList then
    needRelation (q.record place)
    return q.mapRecord (·.put name (unescapeParameters text)) place
  else
    let name := if name = "description".toList then "subtitle".toList else name
    return q.mapRecord (·.put name text) place

/-- Keeps the text of an element where it belongs. -/
def keep (q : State) (name text : Text) : Except Fault State :=
  if name ∈ usedNames then .ok q
  else if name = "title".toList ∧ -1 < q.titleDepth ∧ q.titleDepth ≤ q.depth then .ok q
  else if q.inItem && !q.inSource then q.keepInItem name text
  else if q.inFeed || q.inSource then q.keepOutside name text
  else .ok q

/-- Closes the innermost element, when it has the given name, and gives its text. -/
def pop (q : State) (name : Text) : Except Fault (Option Text × State) :=
  match q.stack with
  | [] => .ok (none, q)
  | f :: stack =>
    if f.name ≠ name then .ok (none, q)
    else do
      let q := { q with stack }
      let pieces ←
        if q.version = "atom10".toList ∧ q.prose.type = some xhtml then unwrap f.pieces.reverse
        else pure f.pieces.reverse
      let text := Text.trim (pieces.flatMap (·.text))
      if !f.kept then return (some text, q)
      else
        let refined := q.refine name text
        let q ← refined.2.keep name refined.1
        return (some refined.1, q)

/-- Closes an element with prose. -/
def popProse (q : State) (name : Text) : Except Fault (Option Text × State) := do
  let (text, q) ← q.pop name
  return (text, { q with proseDepth := q.proseDepth - 1, prose := {} })

end State
end FeedPage.Feed
