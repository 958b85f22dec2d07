-- SUMMARY: The text of a page that arrives as bytes: which character set it is in.
import FeedPage.Text.Charset
import FeedPage.Text.Blank
import FeedPage.Xml.Declaration

/-!
# The text of a page

A page arrives as bytes. Its character set is told by a byte-order mark, by the encoding of an XML
declaration, or by a `meta` element near its beginning. The sets that these name are tried first;
then UTF-8, then Windows-1252, and at last UTF-8 and Windows-1252 with what cannot be read marked.
No set is guessed from the bytes themselves: a detector of character sets, where one is installed,
would have its turn between the declared sets and UTF-8, and is left out.
-/

namespace FeedPage.Html.Document

/-- The page without its byte-order mark, and the label of the set that the mark tells. -/
def takeMark (b : Bytes) : Bytes × Option Text :=
  match b with
  | 0xFF :: 0xFE :: 0 :: 0 :: rest => (rest, some "utf-32le".toList)
  | 0 :: 0 :: 0xFE :: 0xFF :: rest => (rest, some "utf-32be".toList)
  | 0xFE :: 0xFF :: x :: y :: rest =>
    if x = 0 ∧ y = 0 then (b, none) else (x :: y :: rest, some "utf-16be".toList)
  | 0xFF :: 0xFE :: x :: y :: rest => (x :: y :: rest, some "utf-16le".toList)
  | 0xEF :: 0xBB :: 0xBF :: rest => (rest, some "utf-8".toList)
  | _ => (b, none)

/-- Blanks of ASCII, the vertical tab included. -/
def isSpace (c : Char) : Bool := Text.isAsciiBlank c || c == '\x0b'

/-- Characters that end a bare character-set label. -/
def endsLabel (c : Char) : Bool :=
  c == ' ' || c == '/' || c == ';' || c == '\'' || c == '"' || c == '>'

/-- The label behind `charset`: an equals sign with blanks around it, perhaps a quote, and the
label up to a character that ends it. -/
def charsetValue? (s : Text) : Option Text :=
  match (s.dropWhile isSpace) with
  | '=' :: t =>
    let t := t.dropWhile isSpace
    let bare (u : Text) : Option Text :=
      let label := u.takeWhile fun c => !endsLabel c
      if (u.drop label.length).isEmpty then none else some label
    match t with
    | q :: u => if q = '"' ∨ q = '\'' then bare u <|> bare t else bare t
    | [] => none
  | _ => none

/-- The label in the attributes of a `meta` element: the last `charset` before its end that has
one. At least one character stands before the word. -/
def metaLabel? : Text → Option Text
  | [] => none
  | c :: s =>
    if c = '>' then none
    else metaLabel? s <|> (Text.afterFolded? "charset".toList s).bind charsetValue?

/-- The label of the first `meta` element that names one. -/
def declaredByMeta? : Text → Option Text
  | [] => none
  | c :: s =>
    let here :=
      if c = '<' then (Text.afterFolded? "meta".toList (s.dropWhile isSpace)).bind metaLabel?
      else none
    here <|> declaredByMeta? s

/-- The label that the page declares, in lower case. The XML declaration must stand in the first
1024 bytes and the `meta` element in the first 2048 or the first twentieth. -/
def declared? (b : Bytes) : Option Text :=
  let s := Text.ofAscii b
  let label := Xml.declaredEncoding? Text.afterFolded? ((s.take 1024).dropWhile isSpace) <|>
    declaredByMeta? (s.take (max 2048 (s.length / 20)))
  (label.filter (!·.isEmpty)).map Text.lowerAscii

/-- The label under which a set is known, for labels that pages use in their own way. -/
def knownLabel (label : Text) : Text :=
  if label = "macintosh".toList then "mac-roman".toList
  else if label = "x-sjis".toList then "shift-jis".toList
  else label

/-- The text of the first label in which the bytes can be read; an empty text does not count. -/
def firstReadable? (b : Bytes) (labels : List Text) : Option Text :=
  labels.findSome? fun l => (Text.decodeAs? (knownLabel l) b).filter (!·.isEmpty)

/-- The text of a page. -/
def decode (page : Bytes) : Text :=
  let (b, mark) := takeMark page
  let labels := mark.toList ++ (declared? b).toList ++
    ["utf-8".toList, "windows-1252".toList]
  (firstReadable? b labels).getD (Text.ofUtf8Marking b)

end FeedPage.Html.Document
