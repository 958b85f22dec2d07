-- SUMMARY: The document type declaration of an XML document, for the entities it declares.
import FeedPage.Xml.Aside
import FeedPage.Xml.Reference

/-!
# Document types

Of a document type declaration only its entities matter. The first declaration of a name counts. A
declaration with an external part, or with a reference to a parameter entity, is open-ended: what
lies outside is not read, so that a name without a declaration need not be a mistake.
-/

namespace FeedPage.Xml

/-- What an entity stands for. -/
inductive Entity where
  | internal (text : Text)
  /-- A document elsewhere, which is not read. -/
  | external
  /-- Something that is no text. -/
  | unparsed
  deriving DecidableEq, Repr

/-- A document type declaration. -/
structure Doctype where
  entities : List (Text × Entity) := []
  openEnded : Bool := false
  deriving DecidableEq, Repr

namespace Doctype

/-- What follows white space that must be there. -/
def space? (s : Text) : Option Text :=
  if s.head?.any isSpace then some (s.dropWhile isSpace) else none

/-- A quoted text without references, and the rest. -/
def quotation? (s : Text) : Option (Text × Text) :=
  match s with
  | c :: t =>
    if c = '"' ∨ c = '\'' then
      (Text.cutChar? c t).filter fun found => found.1.all isDocumentChar
    else none
  | [] => none

/-- Characters of a public identifier. -/
def isPublicChar (c : Char) : Bool :=
  c.isAlphanum || " \r\n-'()+,./:=?;!*#@$_%".toList.contains c

/-- What follows an external identifier. -/
def externalId? (s : Text) : Option Text :=
  match Text.after? "SYSTEM".toList s with
  | some s => do
    let s ← space? s
    let (_, s) ← quotation? s
    some s
  | none => do
    let s ← space? (← Text.after? "PUBLIC".toList s)
    let (publicId, s) ← quotation? s
    if publicId.all isPublicChar then
      let s ← space? s
      let (_, s) ← quotation? s
      some s
    else none

/-- The text that an entity value stands for: numbered characters are replaced, entities stay. -/
def valueText (parts : List Part) : Text :=
  parts.flatMap fun
    | .plain c => [c]
    | .char c => [c]
    | .entity name => '&' :: name ++ [';']

/-- The entity that a declaration gives, behind its name. -/
def entity? (s : Text) : Option (Entity × Text) :=
  match literal? ['%'] s with
  | some (parts, s) => some (.internal (valueText parts), s)
  | none => do
    let s ← externalId? s
    match (space? s).bind (Text.after? "NDATA".toList) with
    | none => some (.external, s)
    | some s =>
      let (_, s) ← word? (← space? s)
      some (.unparsed, s)

/-- The end of a declaration. -/
def close? (s : Text) : Option Text :=
  match s.dropWhile isSpace with
  | '>' :: s => some s
  | _ => none

/-- Reads an entity declaration behind its keyword. Declarations of parameter entities have no
effect; where `known` is false, an earlier declaration may lie outside, and none has. -/
def declareEntity? (known : Bool) (d : Doctype) (s : Text) : Option (Doctype × Text) := do
  let s ← space? s
  match s with
  | '%' :: s =>
    let (_, s) ← word? (← space? s)
    let (_, s) ← entity? (← space? s)
    some (d, ← close? s)
  | s =>
    let (name, s) ← word? s
    let (entity, s) ← entity? (← space? s)
    let s ← close? s
    if known && (d.entities.lookup name).isNone then
      some ({ d with entities := d.entities ++ [(name, entity)] }, s)
    else some (d, s)

/-- What follows a declaration that is read over. Quoted parts may hold `>`. -/
def skip? (quote : Option Char) : Text → Option Text
  | [] => none
  | c :: s =>
    if !isDocumentChar c then none
    else match quote with
      | some q => skip? (if c = q then none else quote) s
      | none =>
        if c = '>' then some s
        else if c = '<' then none
        else skip? (if c = '"' ∨ c = '\'' then some c else none) s

/-- Declarations that are read over. -/
def skippedKeywords : List Text := ["<!ELEMENT", "<!ATTLIST", "<!NOTATION"].map String.toList

/-- The declarations up to the closing bracket, and the rest. The first argument bounds their
number. -/
def declarations? : Nat → Bool → Doctype → Text → Option (Doctype × Text)
  | 0, _, _, _ => none
  | n + 1, known, d, s =>
    match s.dropWhile isSpace with
    | ']' :: s => some (d, s)
    | '%' :: s =>
      match word? s with
      | some (_, ';' :: s) => declarations? n false { d with openEnded := true } s
      | _ => none
    | '<' :: '!' :: '-' :: '-' :: s => (comment? s).bind (declarations? n known d)
    | '<' :: '?' :: s => (instruction? s).bind (declarations? n known d)
    | s =>
      match Text.after? "<!ENTITY".toList s with
      | some s => (declareEntity? known d s).bind fun (d, s) => declarations? n known d s
      | none =>
        match skippedKeywords.findSome? (Text.after? · s) with
        | some s => ((space? s).bind (skip? none)).bind (declarations? n known d)
        | none => none

/-- The document type behind `<!DOCTYPE`, and the rest. -/
def read? (s : Text) : Option (Doctype × Text) :=
  found.filter fun (_, rest) => rest.length < s.length
where
  /-- The declaration and the rest. -/
  found : Option (Doctype × Text) := do
    let (_, t) ← Name.read? (← space? s)
    let outside := (space? t).bind externalId?
    let d : Doctype := { openEnded := outside.isSome }
    let t := (outside.getD t).dropWhile isSpace
    match t with
    | '[' :: t =>
      let (d, t) ← declarations? t.length true d t
      some (d, ← close? t)
    | t => some (d, ← close? t)

theorem length_read? {s rest : Text} {d : Doctype} (h : read? s = some (d, rest)) :
    rest.length < s.length := by
  simpa using (Option.filter_eq_some_iff.1 h).2

end Doctype
end FeedPage.Xml
