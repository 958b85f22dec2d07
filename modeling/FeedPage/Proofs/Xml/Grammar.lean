-- SUMMARY: The grammar of well-formed XML, from references and tags to content and documents, with the tree that each text stands for.
import FeedPage.Xml.Doctype

/-!
# The grammar of XML

A text is well-formed content when the productions of XML 1.0 derive it (`Content`): its elements are
closed in order and their names agree, attribute values are quoted and attribute names do not repeat,
each `&` begins a complete reference, and each character, written or referred to, is one that
documents may hold. A derivation also tells the tree that the text stands for. A document
(`Document`) has one element, perhaps behind a document type; an XML declaration and declarations of
entities are left out, so the only entities are those of markup itself.

Names are those of the reader, with colons as XML without name spaces has them. Characters and values
are as they are written or referred to, line ends and white space included.
-/

namespace FeedPage.Xml

/-- What content holds. Comments and instructions leave nothing behind. -/
inductive Node where
  | char (c : Char)
  | element (name : Text) (attrs : List (Text × Text)) (content : List Node)

/-- All characters of a text are ones that documents may hold. -/
def Legal (s : Text) : Prop := ∀ c ∈ s, isDocumentChar c = true

instance (s : Text) : Decidable (Legal s) :=
  decidable_of_iff (s.all isDocumentChar = true) List.all_eq_true

/-! ## Parts of markup -/

/-- White space, or nothing. -/
def Blank (s : Text) : Prop := ∀ c ∈ s, isSpace c = true

instance (s : Text) : Decidable (Blank s) :=
  decidable_of_iff (s.all isSpace = true) List.all_eq_true

/-- A name. -/
def IsName : Text → Prop
  | [] => False
  | c :: t => (isNameStart c = true ∨ c = ':') ∧ ∀ d ∈ t, isNameChar d = true ∨ d = ':'

instance : (s : Text) → Decidable (IsName s)
  | [] => inferInstanceAs (Decidable False)
  | c :: t =>
    decidable_of_iff
      ((isNameStart c = true ∨ c = ':') ∧ (t.all fun d => isNameChar d || d == ':') = true)
      (by simp [IsName])

/-- What stands between `&` and `;`, and the character that it refers to. -/
inductive Reference : Text → Char → Prop where
  | named {name : Text} {c : Char} (known : predefined? name = some c) : Reference name c
  | decimal {ds : Text} {c : Char} (digits : ds ≠ [] ∧ ∀ d ∈ ds, d.isDigit = true)
    (code : Text.ofDecimalDigits ds = c.toNat) (legal : isDocumentChar c = true) :
    Reference ('#' :: ds) c
  | hexadecimal {ds : Text} {c : Char} (digits : ds ≠ [] ∧ ∀ d ∈ ds, Text.isHexDigit d = true)
    (code : Text.ofHexDigits ds = c.toNat) (legal : isDocumentChar c = true) :
    Reference ('#' :: 'x' :: ds) c

/-- What stands between the quotes `q` of an attribute, and the value. -/
inductive Value (q : Char) : Text → Text → Prop where
  | nil : Value q [] []
  | char {c : Char} {s value : Text} (legal : isDocumentChar c = true)
    (plain : c ≠ '<' ∧ c ≠ '&' ∧ c ≠ q) (rest : Value q s value) :
    Value q (c :: s) (c :: value)
  | reference {r s value : Text} {c : Char} (reference : Reference r c)
    (rest : Value q s value) : Value q ('&' :: r ++ ';' :: s) (c :: value)

/-- The attributes of a tag. -/
inductive Attributes : Text → List (Text × Text) → Prop where
  | nil : Attributes [] []
  | cons {gap name before after raw value s : Text} {q : Char} {attrs : List (Text × Text)}
    (apart : gap ≠ [] ∧ Blank gap) (isName : IsName name)
    (around : Blank before ∧ Blank after) (quote : q = '"' ∨ q = '\'')
    (inside : Value q raw value) (fresh : ∀ a ∈ attrs, a.1 ≠ name) (rest : Attributes s attrs) :
    Attributes (gap ++ name ++ before ++ '=' :: after ++ q :: raw ++ q :: s)
      ((name, value) :: attrs)

/-- The tag that opens an element. -/
inductive StartTag : Text → Text → List (Text × Text) → Prop where
  | mk {name written gap : Text} {attrs : List (Text × Text)} (isName : IsName name)
    (attributes : Attributes written attrs) (blank : Blank gap) :
    StartTag ('<' :: name ++ written ++ gap ++ ['>']) name attrs

/-- The tag of an element without content. -/
inductive EmptyTag : Text → Text → List (Text × Text) → Prop where
  | mk {name written gap : Text} {attrs : List (Text × Text)} (isName : IsName name)
    (attributes : Attributes written attrs) (blank : Blank gap) :
    EmptyTag ('<' :: name ++ written ++ gap ++ ['/', '>']) name attrs

/-- The tag that closes an element. -/
inductive EndTag : Text → Text → Prop where
  | mk {name gap : Text} (isName : IsName name) (blank : Blank gap) :
    EndTag ('<' :: '/' :: name ++ gap ++ ['>']) name

/-- A comment. -/
inductive Comment : Text → Prop where
  | mk {s : Text} (legal : Legal s) (single : ¬ ['-', '-'] <:+: s ++ ['-']) :
    Comment ("<!--".toList ++ s ++ "-->".toList)

/-- A processing instruction. -/
inductive Instruction : Text → Prop where
  | mk {target s : Text} (isName : IsName target) (other : Text.lowerAscii target ≠ "xml".toList)
    (apart : s = [] ∨ ∃ c t, s = c :: t ∧ isSpace c = true) (legal : Legal s)
    (unended : ¬ ['?', '>'] <:+: s) : Instruction ("<?".toList ++ target ++ s ++ "?>".toList)

/-! ## Content -/

/-- Well-formed content, and what it holds. -/
inductive Content : Text → List Node → Prop where
  | nil : Content [] []
  | char {c : Char} {s : Text} {ns : List Node} (legal : isDocumentChar c = true)
    (plain : c ≠ '<' ∧ c ≠ '&') (unended : ¬ [']', ']', '>'] <+: c :: s) (rest : Content s ns) :
    Content (c :: s) (.char c :: ns)
  | reference {r s : Text} {c : Char} {ns : List Node} (reference : Reference r c)
    (rest : Content s ns) : Content ('&' :: r ++ ';' :: s) (.char c :: ns)
  | element {t body e s name : Text} {attrs : List (Text × Text)} {ms ns : List Node}
    (start : StartTag t name attrs) (inside : Content body ms) (finish : EndTag e name)
    (rest : Content s ns) : Content (t ++ body ++ e ++ s) (.element name attrs ms :: ns)
  | empty {t s name : Text} {attrs : List (Text × Text)} {ns : List Node}
    (tag : EmptyTag t name attrs) (rest : Content s ns) :
    Content (t ++ s) (.element name attrs [] :: ns)
  | comment {t s : Text} {ns : List Node} (comment : Comment t) (rest : Content s ns) :
    Content (t ++ s) ns
  | instruction {t s : Text} {ns : List Node} (instruction : Instruction t)
    (rest : Content s ns) : Content (t ++ s) ns
  | cdata {t s : Text} {ns : List Node} (legal : Legal t) (unended : ¬ [']', ']', '>'] <:+: t)
    (rest : Content s ns) :
    Content ("<![CDATA[".toList ++ t ++ "]]>".toList ++ s) (t.map .char ++ ns)

/-! ## Documents -/

/-- What may stand around the parts of a document. -/
inductive Misc : Text → Prop where
  | nil : Misc []
  | space {c : Char} {s : Text} (space : isSpace c = true) (rest : Misc s) : Misc (c :: s)
  | comment {t s : Text} (comment : Comment t) (rest : Misc s) : Misc (t ++ s)
  | instruction {t s : Text} (instruction : Instruction t) (rest : Misc s) : Misc (t ++ s)

/-- A quoted text all of whose characters are in a class. -/
inductive Quoted (p : Char → Bool) : Text → Prop where
  | mk {q : Char} {s : Text} (quote : q = '"' ∨ q = '\'') (inside : ∀ c ∈ s, p c = true)
    (unended : q ∉ s) : Quoted p (q :: s ++ [q])

/-- Where the declarations of a document type are found, if anywhere. -/
inductive External : Text → Prop where
  | nil : External []
  | system {gap gap' location : Text} (apart : gap ≠ [] ∧ Blank gap)
    (apart' : gap' ≠ [] ∧ Blank gap') (quoted : Quoted isDocumentChar location) :
    External (gap ++ "SYSTEM".toList ++ gap' ++ location)
  | named {gap gap' gap'' name location : Text} (apart : gap ≠ [] ∧ Blank gap)
    (apart' : gap' ≠ [] ∧ Blank gap') (apart'' : gap'' ≠ [] ∧ Blank gap'')
    (quotedName : Quoted Doctype.isPublicChar name) (quoted : Quoted isDocumentChar location) :
    External (gap ++ "PUBLIC".toList ++ gap' ++ name ++ gap'' ++ location)

/-- A document type declaration without declarations of its own. -/
inductive DocumentType : Text → Prop where
  | mk {gap name location gap' : Text} (apart : gap ≠ [] ∧ Blank gap) (isName : IsName name)
    (external : External location) (blank : Blank gap') :
    DocumentType ("<!DOCTYPE".toList ++ gap ++ name ++ location ++ gap' ++ ['>'])

/-- What stands before the root of a document. -/
inductive Prolog : Text → Prop where
  | plain {s : Text} (misc : Misc s) : Prolog s
  | typed {s t s' : Text} (before : Misc s) (type : DocumentType t) (after : Misc s') :
    Prolog (s ++ t ++ s')

/-- A well-formed document, and its root. -/
inductive Document : Text → Node → Prop where
  | element {p t body e back name : Text} {attrs : List (Text × Text)} {ns : List Node}
    (prolog : Prolog p) (start : StartTag t name attrs) (inside : Content body ns)
    (finish : EndTag e name) (misc : Misc back) :
    Document (p ++ t ++ body ++ e ++ back) (.element name attrs ns)
  | empty {p t back name : Text} {attrs : List (Text × Text)} (prolog : Prolog p)
    (tag : EmptyTag t name attrs) (misc : Misc back) :
    Document (p ++ t ++ back) (.element name attrs [])

end FeedPage.Xml
