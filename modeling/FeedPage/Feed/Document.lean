-- SUMMARY: Feed documents as they are read: their text, the version their document type tells, and their safe entities.
import FeedPage.Text.Blank
import FeedPage.Text.Case
import FeedPage.Text.Charset
import FeedPage.Xml.Declaration

/-!
# Feed documents

A feed arrives as bytes. Its character set is told by a byte-order mark, by the way its first
characters are encoded, or by its XML declaration (`decode`). Before its first element it may have
document types and entities. Only entities are kept that stand for plain text or for one numbered
character; they are put into a document type of their own, and all others are removed
(`Document.ofText`).

A set in which a document cannot be read is passed over, whatever the reason. That a few declared
sets (Punycode and domain names) end the reading of the document instead is left out.
-/

namespace FeedPage.Feed

/-! ## Bytes -/

/-- The document without its byte-order mark, and the label of the set that the mark tells. -/
def takeMark (b : Bytes) : Option (Bytes × Text) :=
  match b with
  | 0 :: 0 :: 0xFE :: 0xFF :: rest => some (rest, "utf-32be".toList)
  | 0xFF :: 0xFE :: 0 :: 0 :: rest => some (rest, "utf-32le".toList)
  | 0xFE :: 0xFF :: rest =>
    if rest.take 2 = [0, 0] then none else some (rest, "utf-16be".toList)
  | 0xFF :: 0xFE :: rest => some (rest, "utf-16le".toList)
  | 0xEF :: 0xBB :: 0xBF :: rest => some (rest, "utf-8".toList)
  | _ => none

/-- The label of a set in which the document seems to begin with an XML declaration. -/
def guess? (b : Bytes) : Option Text :=
  match b with
  | 0x4C :: 0x6F :: 0xA7 :: 0x94 :: _ => some "cp037".toList
  | 0x00 :: 0x3C :: 0x00 :: 0x3F :: _ => some "utf-16be".toList
  | 0x3C :: 0x00 :: 0x3F :: 0x00 :: _ => some "utf-16le".toList
  | 0x00 :: 0x00 :: 0x00 :: 0x3C :: _ => some "utf-32be".toList
  | 0x3C :: 0x00 :: 0x00 :: 0x00 :: _ => some "utf-32le".toList
  | _ => none

/-- Labels that name a family of sets; the mark tells which one is meant. -/
def familyLabels : List Text :=
  ["u16", "utf-16", "utf16", "utf_16", "u32", "utf-32", "utf32", "utf_32", "iso-10646-ucs-2",
    "iso-10646-ucs-4", "csucs4", "csunicode", "ucs-2", "ucs-4"].map String.toList

/-- The label that the XML declaration gives, when `seen` is what the beginning tells. A document
that cannot be read as what it seems to be declares nothing. -/
def declared? (b : Bytes) (seen : Option Text) : Option Text := do
  let readable ← match seen with
    | none => some b
    | some label => (Text.decodeAs? label b).map Text.toUtf8
  let label ← Xml.declaredEncoding? Text.after? (Text.ofAscii readable)
  let label := Text.lower (Text.ofUtf8Marking (label.map fun c => UInt8.ofNat c.toNat))
  match seen with
  | some family => if label ∈ familyLabels then some family else some label
  | none => some label

/-- The label under which a set is tried: a Chinese set stands for the larger one that holds it. -/
def triedLabel (label : Text) : Text :=
  if label = "gb2312".toList then "gb18030".toList else label

/-- The text of the first set in which the document can be read: the declared one, the one that is
told by its beginning, UTF-8, Windows-1252, Latin-2. -/
def decode (b : Bytes) : Text :=
  let (b, seen) := match takeMark b with
    | some (b, label) => (b, some label)
    | none => (b, guess? b)
  let labels := ((declared? b seen).filter (!·.isEmpty)).toList.map triedLabel ++ seen.toList ++
    ["utf-8", "windows-1252", "iso-8859-2"].map String.toList
  let labels := if (declared? b seen).all List.isEmpty then "utf-8".toList :: labels else labels
  (labels.findSome? (Text.decodeAs? · b)).getD []

/-! ## Document types -/

/-- A feed document. -/
structure Document where
  /-- What follows the XML declaration. -/
  text : Text
  /-- The version that the document type tells. -/
  version : Option Text := none
  /-- The entities that stand for plain text or one character; the last one of a name counts. -/
  entities : List (Text × Text) := []
  deriving DecidableEq, Repr

/-- Letters, digits and the underscore of ASCII. -/
def isWordChar (c : Char) : Bool := c.isAlphanum || c = '_'

/-- What a declaration holds between its opening `word` and `>`, and the rest. White space may
stand before it. -/
def declaration? (word s : Text) : Option (Text × Text) :=
  (Text.after? word (s.dropWhile Text.isAsciiSpace)).bind (Text.cutChar? '>')

theorem length_declaration? {word s inside rest : Text}
    (h : declaration? word s = some (inside, rest)) : rest.length < s.length := by
  simp only [declaration?, Option.bind_eq_some_iff] at h
  obtain ⟨t, ht, hc⟩ := h
  have := Text.length_after? ht
  have := Text.length_cutChar? hc
  have := Text.length_dropWhile_le Text.isAsciiSpace s
  omega

/-- The declarations that begin a line, and the text with `new` in their place. The first argument
tells whether a line begins at the front. -/
def takeDeclarations (atLine : Bool) (word new : Text) (s : Text) : List Text × Text :=
  match h : if atLine then declaration? word s else none with
  | some (inside, rest) =>
    have : rest.length < s.length := by
      split at h
      · exact length_declaration? h
      · cases h
    let (found, rest) := takeDeclarations false word new rest
    (inside :: found, new ++ rest)
  | none => match s with
    | [] => ([], [])
    | c :: s =>
      let (found, rest) := takeDeclarations (c = '\n') word new s
      (found, c :: rest)
termination_by s.length

/-- The name and the value of an entity that stands for plain text or for one reference to a
character. -/
def safeEntity? (s : Text) : Option (Text × Text) :=
  let name := (s.dropWhile Text.isAsciiSpace).takeWhile isWordChar
  let t := (s.dropWhile Text.isAsciiSpace).dropWhile isWordChar
  if !s.head?.any Text.isAsciiSpace || name.isEmpty || !t.head?.any Text.isAsciiSpace then none else
  match t.dropWhile Text.isAsciiSpace with
  | '"' :: t =>
    match Text.cutChar? '"' t with
    | none => none
    | some (value, _) =>
      if value.all (· ≠ '&') || isReference value then some (name, value) else none
  | _ => none
where
  /-- Whether a text is one numbered reference. -/
  isReference (value : Text) : Bool :=
    match Text.after? "&#".toList value with
    | none => false
    | some t => match t.dropWhile isWordChar with
      | [';'] => t.length ≠ 1
      | _ => false

/-- The text before and behind the first `<` that a letter, a digit or an underscore follows; the
`<` belongs to the first part. -/
def cutBeforeElement : Text → Option (Text × Text)
  | '<' :: c :: s =>
    if isWordChar c then some (['<'], c :: s)
    else (cutBeforeElement (c :: s)).map fun (head, rest) => ('<' :: head, rest)
  | c :: s => (cutBeforeElement s).map fun (head, rest) => (c :: head, rest)
  | [] => none

/-- The document type that declares the given entities. -/
def doctypeOf (entities : List Text) : Text :=
  if entities.isEmpty then []
  else "<!DOCTYPE feed [\n<!ENTITY".toList ++ Text.join ">\n<!ENTITY ".toList entities ++
    ">\n]>".toList

/-- The document of a text: what stands before its first element is reduced to the entities that
are safe, when exactly one document type is there. -/
def Document.ofText (s : Text) : Document :=
  let (s, atLine) := match Xml.afterDeclaration? s with
    | some s => (s, false)
    | none => ('\n' :: s, false)
  match cutBeforeElement s with
  | none => { text := s }
  | some (head, body) =>
    let (entities, head) := takeDeclarations atLine "<!ENTITY".toList [] head
    let doctypes := (takeDeclarations atLine "<!DOCTYPE".toList [] head).1
    let safe := if doctypes.length = 1 then entities.filter (safeEntity? · |>.isSome) else []
    { text := (takeDeclarations atLine "<!DOCTYPE".toList (doctypeOf safe) head).2 ++ body
      version :=
        match doctypes with
        | d :: _ =>
          if (Text.cut? "netscape".toList (Text.lowerAscii d)).isSome then some "rss091n".toList
          else none
        | [] => none
      entities := (safe.filterMap safeEntity?).reverse }

/-- The document that arrives as the given bytes. -/
def Document.ofBytes (b : Bytes) : Document := Document.ofText (decode b)

end FeedPage.Feed
