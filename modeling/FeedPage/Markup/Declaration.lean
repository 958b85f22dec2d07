-- SUMMARY: Comments and declarations of lenient markup, and how they end.
import FeedPage.Text.Blank

/-!
# Comments and declarations

A comment ends at two hyphens and `>`, with blanks between them. A document type holds names, quoted
texts and perhaps declarations in square brackets. A marked section has a name, which tells how it
ends. A declaration that holds something else is refused.
-/

namespace FeedPage.Markup

/-! ## Comments -/

/-- What follows the end of a comment at the front: two hyphens, blanks and `>`. -/
def afterCommentEnd? (s : Text) : Option Text :=
  match Text.after? "--".toList s with
  | some t => match t.dropWhile Text.isBlank with
    | '>' :: rest => some rest
    | _ => none
  | none => none

/-- The text of a comment that is opened before `s`, and the rest. -/
def comment? (s : Text) : Option (Text × Text) := Text.search? afterCommentEnd? s

/-- What follows two hyphens and the next `>`, where a comment has no end. -/
def afterOpenComment? (s : Text) : Option Text :=
  ((Text.cut? "--".toList s).bind fun (_, t) => Text.cutChar? '>' t).map (·.2)

/-! ## Names -/

/-- Characters of a name in a declaration after its first. -/
def isDeclarationChar (c : Char) : Bool := c.isAlphanum || "-_.:".toList.contains c

/-- What stands where a name is expected. -/
inductive NameScan where
  /-- A name in lower case; the rest behind it and blanks is not empty. -/
  | name (word rest : Text)
  | endless
  | nameless

/-- The name at the front. -/
def scanName (s : Text) : NameScan :=
  match s with
  | [] => .endless
  | c :: t =>
    if c.isAlpha then
      match (t.dropWhile isDeclarationChar).dropWhile Text.isBlank with
      | [] => .endless
      | rest => .name (Text.lowerAscii (c :: t.takeWhile isDeclarationChar)) rest
    else .nameless

/-! ## Declarations -/

/-- A declaration. -/
inductive Declaration where
  /-- A document type, what it holds, and the rest. -/
  | doctype (inside rest : Text)
  /-- Something that is read over, and the rest. -/
  | other (rest : Text)
  /-- Something that is no declaration after all. -/
  | refused
  | endless
  /-- Something without a name where there must be one. -/
  | nameless

/-- The rest behind a quoted text and blanks. -/
def afterQuotation? (q : Char) (s : Text) : Option Text :=
  (Text.cutChar? q s).map fun (_, rest) => rest.dropWhile Text.isBlank

/-- The rest of a document type from its final `>` on, given what follows an opening square bracket.
The number bounds the length. -/
def subset (dropsOpenComments : Bool) : Nat → Text → Declaration
  | 0, _ => .endless
  | n + 1, s =>
    match s with
    | [] => .endless
    | '<' :: '!' :: '-' :: '-' :: t =>
      match comment? t with
      | some (_, rest) => subset dropsOpenComments n rest
      | none =>
        if dropsOpenComments then subset dropsOpenComments n ((afterOpenComment? t).getD [])
        else .endless
    | '<' :: '!' :: t =>
      if t.length < 2 then .endless else
      match scanName t with
      | .name .. => .refused
      | .endless => .endless
      | .nameless => .nameless
    | ['<'] => .endless
    | '%' :: t =>
      match scanName t with
      | .name _ (';' :: rest) => subset dropsOpenComments n rest
      | .name _ rest => subset dropsOpenComments n rest
      | .endless => .endless
      | .nameless => .nameless
    | ']' :: t =>
      match t.dropWhile Text.isBlank with
      | [] => .endless
      | '>' :: rest => .other ('>' :: rest)
      | _ => .refused
    | c :: t => if Text.isBlank c then subset dropsOpenComments n t else .refused

/-- The rest of a declaration behind its first word. The number bounds the length. -/
def body (dropsOpenComments isDoctype : Bool) : Nat → Text → Declaration
  | 0, _ => .endless
  | n + 1, s =>
    match s with
    | [] => .endless
    | c :: t =>
      if c = '>' then .other t
      else if c = '"' ∨ c = '\'' then
        match afterQuotation? c t with
        | some rest => body dropsOpenComments isDoctype n rest
        | none => .endless
      else if c.isAlpha then
        match scanName s with
        | .name _ rest => body dropsOpenComments isDoctype n rest
        | .endless => .endless
        | .nameless => .nameless
      else if c = '[' ∧ isDoctype then
        match subset dropsOpenComments (t.length + 1) t with
        | .other rest => body dropsOpenComments isDoctype n rest
        | failed => failed
      else .refused

/-- Names of marked sections that end at `]]>`. -/
def sectionNames : List Text := ["temp", "cdata", "ignore", "include", "rcdata"].map String.toList

/-- Names of marked sections that end at `]>`. -/
def conditionNames : List Text := ["if", "else", "endif"].map String.toList

/-- What follows closing brackets with blanks between them. -/
def afterClosing? (brackets : Text) (s : Text) : Option Text :=
  match brackets with
  | [] => some s
  | b :: brackets => match s with
    | c :: t =>
      if b ≠ c then none
      else if brackets.isEmpty then some t
      else afterClosing? brackets (t.dropWhile Text.isBlank)
    | [] => none

/-- The rest behind a marked section, given what follows its opening bracket. -/
def markedSection (s : Text) : Declaration :=
  match scanName s with
  | .nameless => .nameless
  | .endless => .endless
  | .name word _ =>
    let closing :=
      if word ∈ sectionNames then some "]]>".toList
      else if word ∈ conditionNames then some "]>".toList
      else none
    match closing with
    | none => .refused
    | some brackets => match Text.search? (afterClosing? brackets) s with
      | some (_, rest) => .other rest
      | none => .endless

/-- The declaration behind `<!`. -/
def readDeclaration (dropsOpenComments : Bool) (s : Text) : Declaration :=
  match s with
  | '>' :: rest => .other rest
  | [] | '-' :: _ => .endless
  | '[' :: t => markedSection t
  | s =>
    match scanName s with
    | .nameless => .nameless
    | .endless => .endless
    | .name word t =>
      let isDoctype : Bool := word = "doctype".toList
      match body dropsOpenComments isDoctype (t.length + 1) t with
      | .other rest =>
        if isDoctype then .doctype (s.take (s.length - rest.length - 1)) rest else .other rest
      | failed => failed

end FeedPage.Markup
