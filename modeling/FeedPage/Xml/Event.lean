-- SUMMARY: The events of a well-formed XML document: elements with their namespaces, and their text.
import FeedPage.Xml.Token

/-!
# Events

A well-formed document is a sequence of events: an element starts, text stands in it, it ends. The
events of an element follow the namespaces that it declares. Entities are replaced by what they
stand for, within which elements must be closed as everywhere. A document that is not well-formed,
in its syntax, its nesting or its namespaces, has no events (`Event.ofDocument?`).
-/

namespace FeedPage.Xml

/-- A name with the namespace that it belongs to. -/
structure ExpandedName where
  space : Option Text := none
  base : Text
  deriving DecidableEq, Repr

/-- An attribute with its value and both forms of its name. -/
structure Attribute where
  name : ExpandedName
  written : Name
  value : Text
  deriving DecidableEq, Repr

/-- An event of a document. -/
inductive Event where
  /-- A namespace gets a qualifier, or becomes the default. -/
  | declare (qualifier : Option Text) (space : Text)
  | start (name : ExpandedName) (attrs : List Attribute)
  | finish (name : ExpandedName)
  | text (s : Text)
  deriving DecidableEq, Repr

/-! ## Attribute values -/

/-- The text that parts of an attribute value stand for; every white space is a space, unless it is
written as a number. The first argument bounds the nesting of entities. -/
def valueText? (d : Doctype) : Nat → List Part → Option Text
  | _, [] => some []
  | n, .plain c :: parts =>
    (valueText? d n parts).map ((if isSpace c then ' ' else c) :: ·)
  | n, .char c :: parts => (valueText? d n parts).map (c :: ·)
  | n, .entity name :: parts =>
    match predefined? name with
    | some c => (valueText? d n parts).map (c :: ·)
    | none => match d.entities.lookup name, n with
      | some (.internal s), n + 1 => do
        let inside ← valueText? d n (← parts? Token.barredInValues (lineFeeds s))
        let rest ← valueText? d (n + 1) parts
        some (inside ++ rest)
      | none, n => if d.openEnded then valueText? d n parts else none
      | _, _ => none

/-! ## Namespaces -/

/-- The namespace of the qualifier `xml`. -/
def xmlSpace : Text := "http://www.w3.org/XML/1998/namespace".toList

/-- The namespace of namespace declarations. -/
def declarationSpace : Text := "http://www.w3.org/2000/xmlns/".toList

/-- The namespaces in force by qualifier, the innermost first; the empty one is none. -/
abbrev Bindings := List (Option Text × Text)

/-- What is in force outside of all elements. -/
def Bindings.outermost : Bindings := [(some "xml".toList, xmlSpace)]

/-- The qualifier that an attribute of this name declares. -/
def Name.declares? (n : Name) : Option (Option Text) :=
  if n.qualifier = some "xmlns".toList then some (some n.base)
  else if n.qualifier = none ∧ n.base = "xmlns".toList then some none
  else none

/-- Whether a qualifier may stand for a namespace. -/
def mayDeclare (qualifier : Option Text) (space : Text) : Bool :=
  !(qualifier.isSome && space.isEmpty) && qualifier ≠ some "xmlns".toList &&
    ((qualifier = some "xml".toList) == (space = xmlSpace)) && space ≠ declarationSpace &&
    !space.contains ' '

/-- The expanded form of an element's name. -/
def Bindings.element? (b : Bindings) (n : Name) : Option ExpandedName :=
  match n.qualifier, b.lookup n.qualifier with
  | none, none => some ⟨none, n.base⟩
  | none, some space => some ⟨if space.isEmpty then none else some space, n.base⟩
  | some _, some space => some ⟨some space, n.base⟩
  | some _, none => none

/-- The expanded form of an attribute's name; without a qualifier it belongs to no namespace. -/
def Bindings.attribute? (b : Bindings) (n : Name) : Option ExpandedName :=
  match n.qualifier with
  | none => some ⟨none, n.base⟩
  | some _ => (b.lookup n.qualifier).map fun space => ⟨some space, n.base⟩

/-- A start tag with all names expanded. -/
structure Opening where
  declared : List (Option Text × Text)
  inner : Bindings
  name : ExpandedName
  attrs : List Attribute

/-- Expands a start tag. No attribute may stand twice, neither as written nor as expanded. -/
def Opening.read? (d : Doctype) (b : Bindings) (name : Name) (attrs : List Attr) :
    Option Opening := do
  let values ← attrs.mapM fun a =>
    (valueText? d (d.entities.length + 1) a.value).map fun v => (a.name, v)
  let declared := values.filterMap fun (n, v) => n.declares?.map fun q => (q, v)
  let inner : Bindings := declared.reverse ++ b
  let attrs ← (values.filter fun (n, _) => n.declares?.isNone).mapM fun (n, v) =>
    (inner.attribute? n).map fun e => (⟨e, n, v⟩ : Attribute)
  let qualified := attrs.filter (·.written.qualifier.isSome)
  let name ← inner.element? name
  if (values.map (·.1)).Nodup ∧ (qualified.map (·.name)).Nodup ∧
      declared.all (fun (q, v) => mayDeclare q v) then
    some ⟨declared, inner, name, attrs⟩
  else none

/-- The events of a start tag. -/
def Opening.events (o : Opening) : List Event :=
  (o.declared.map fun (q, v) => .declare q v) ++ [.start o.name o.attrs]

/-! ## Content -/

/-- An element that is open: its name in both forms, and what is in force outside. -/
structure OpenElement where
  written : Name
  name : ExpandedName
  outer : Bindings
  deriving DecidableEq, Repr

/-- The events of content in which `opened` is open, the innermost first, and in which all is closed
at the end. The number bounds the nesting of entities. -/
def content? (d : Doctype) (n : Nat) (b : Bindings) (opened : List OpenElement) :
    List Token → Option (List Event)
  | [] => if opened.isEmpty then some [] else none
  | .text s :: ts | .section_ s :: ts => (content? d n b opened ts).map (.text s :: ·)
  | .char c :: ts => (content? d n b opened ts).map (.text [c] :: ·)
  | .aside :: ts => content? d n b opened ts
  | .doctype _ :: _ => none
  | .startTag name attrs :: ts => do
    let o ← Opening.read? d b name attrs
    let rest ← content? d n o.inner (⟨name, o.name, b⟩ :: opened) ts
    some (o.events ++ rest)
  | .emptyTag name attrs :: ts => do
    let o ← Opening.read? d b name attrs
    let rest ← content? d n b opened ts
    some (o.events ++ .finish o.name :: rest)
  | .endTag name :: ts =>
    match opened with
    | [] => none
    | e :: opened =>
      if e.written = name then (content? d n e.outer opened ts).map (.finish e.name :: ·) else none
  | .entity name :: ts =>
    match predefined? name with
    | some c => (content? d n b opened ts).map (.text [c] :: ·)
    | none => match d.entities.lookup name, n with
      | some (.internal s), n + 1 => do
        let inside ← content? d n b [] (← Token.all? (lineFeeds s))
        let rest ← content? d (n + 1) b opened ts
        some (inside ++ rest)
      | some .external, n => content? d n b opened ts
      | none, n => if d.openEnded then content? d n b opened ts else none
      | _, _ => none
termination_by ts => (n, ts.length)

/-! ## Documents -/

/-- Whether a token may stand outside of the document's element. -/
def Token.isOutside : Token → Bool
  | .text s => s.all isSpace
  | .aside => true
  | _ => false

/-- Whether tokens, of which `depth` elements are open, close the last of them at their end. -/
def closesAtEnd : (depth : Nat) → List Token → Bool
  | _, [] => false
  | depth, .endTag _ :: ts => if depth = 1 then ts.isEmpty else closesAtEnd (depth - 1) ts
  | depth, .startTag .. :: ts => closesAtEnd (depth + 1) ts
  | depth, _ :: ts => closesAtEnd depth ts

/-- Whether tokens are one element. -/
def isElement : List Token → Bool
  | [.emptyTag ..] => true
  | .startTag .. :: ts => closesAtEnd 1 ts
  | _ => false

/-- Neighbouring texts as one. -/
def mergeText : List Event → List Event
  | [] => []
  | .text s :: es => match mergeText es with
    | .text t :: es => .text (s ++ t) :: es
    | es => .text s :: es
  | e :: es => e :: mergeText es

/-- The events of a document behind its XML declaration, when it is well-formed: perhaps a document
type, then one element, with nothing around it but asides and white space. -/
def Event.ofDocument? (s : Text) : Option (List Event) := do
  let ts ← Token.all? (lineFeeds s)
  let (d, ts) := match ts.dropWhile Token.isOutside with
    | .doctype d :: ts => (d, ts.dropWhile Token.isOutside)
    | ts => ({}, ts)
  let ts := (ts.reverse.dropWhile Token.isOutside).reverse
  if isElement ts then
    (content? d (d.entities.length + 1) Bindings.outermost [] ts).map mergeText
  else none

end FeedPage.Xml
