-- SUMMARY: The tokens of an XML document: tags, text, references, asides, the document type.
import FeedPage.Xml.Doctype

/-!
# Tokens

A document is cut into tokens without regard to how they nest; each token ends where the next one
begins, and a document with a part that is no token has none (`Token.all?`). Line ends are line
feeds before a text is cut (`lineFeeds`).
-/

namespace FeedPage.Xml

/-- An attribute as it is written. -/
structure Attr where
  name : Name
  value : List Part
  deriving DecidableEq, Repr

/-- A token of a document. -/
inductive Token where
  | text (s : Text)
  /-- Text that was marked as such as a whole. -/
  | section_ (s : Text)
  | char (c : Char)
  | entity (name : Text)
  | startTag (name : Name) (attrs : List Attr)
  | endTag (name : Name)
  /-- A start tag and its end tag in one. -/
  | emptyTag (name : Name) (attrs : List Attr)
  | aside
  | doctype (d : Doctype)
  deriving DecidableEq, Repr

/-- The text with each line end, of whatever kind, as a line feed. -/
def lineFeeds : Text → Text
  | '\r' :: '\n' :: s => '\n' :: lineFeeds s
  | '\r' :: s => '\n' :: lineFeeds s
  | c :: s => c :: lineFeeds s
  | [] => []

/-- A text without carriage returns stays as it is. -/
theorem lineFeeds_eq_self {s : Text} (h : '\r' ∉ s) : lineFeeds s = s := by
  fun_induction lineFeeds s with
  | case1 => simp at h
  | case2 => simp at h
  | case3 c s _ _ ih => rw [ih fun hc => h (by simp [hc])]
  | case4 => rfl

namespace Token

/-! ## Tags -/

/-- Characters that an attribute value holds only by reference. -/
def barredInValues : List Char := ['<']

/-- An attribute and the rest. -/
def attr? (s : Text) : Option (Attr × Text) :=
  match Name.read? s with
  | none => none
  | some (name, s) => match s.dropWhile isSpace with
    | '=' :: s =>
      (literal? barredInValues (s.dropWhile isSpace)).map fun (v, s) => (⟨name, v⟩, s)
    | _ => none

theorem length_attr? {s rest : Text} {a : Attr} (h : attr? s = some (a, rest)) :
    rest.length < s.length := by
  unfold attr? at h
  split at h
  · cases h
  · next n t hn =>
    have h1 := Name.length_read? hn
    have h2 := Text.length_dropWhile_le isSpace t
    split at h
    · next u hu =>
      have h3 := Text.length_dropWhile_le isSpace u
      simp only [Option.map_eq_some_iff, Prod.mk.injEq, Prod.exists] at h
      obtain ⟨_, _, hl, _, rfl⟩ := h
      have h4 := length_literal? hl
      rw [hu] at h2
      simp at h2
      omega
    · cases h

/-- The rest of a start tag behind its name: attributes, whether the element ends at once, and what
follows. White space stands before each attribute. -/
def tagRest? (s : Text) : Option (List Attr × Bool × Text) :=
  match s.dropWhile isSpace with
  | '>' :: rest => some ([], false, rest)
  | '/' :: '>' :: rest => some ([], true, rest)
  | _ =>
    if s.head?.any isSpace then
      match h : attr? (s.dropWhile isSpace) with
      | none => none
      | some (a, rest) =>
        have := length_attr? h
        have := Text.length_dropWhile_le isSpace s
        (tagRest? rest).map fun (as, ends, rest) => (a :: as, ends, rest)
    else none
termination_by s.length

theorem length_tagRest? {s rest : Text} {as : List Attr} {ends : Bool}
    (h : tagRest? s = some (as, ends, rest)) : rest.length < s.length := by
  induction hn : s.length using Nat.strongRecOn generalizing s as ends rest with
  | _ n ih =>
    subst hn
    unfold tagRest? at h
    have hd := Text.length_dropWhile_le isSpace s
    split at h
    · next hs => rw [hs] at hd; simp at h hd; rw [← h.2.2]; omega
    · next hs => rw [hs] at hd; simp at h hd; rw [← h.2.2]; omega
    · split at h
      · split at h
        · cases h
        · next ha =>
          have ha := length_attr? ha
          simp only [Option.map_eq_some_iff, Prod.mk.injEq, Prod.exists] at h
          obtain ⟨_, _, _, ht, _, _, rfl⟩ := h
          have := ih _ (by omega) ht rfl
          omega
      · cases h

/-- The start tag behind its `<`, and the rest. -/
def startTag? (s : Text) : Option (Token × Text) :=
  match Name.read? s with
  | none => none
  | some (name, t) => (tagRest? t).map fun (attrs, ends, rest) =>
    (if ends then .emptyTag name attrs else .startTag name attrs, rest)

/-- The end tag behind its `</`, and the rest. -/
def endTag? (s : Text) : Option (Token × Text) :=
  match Name.read? s with
  | none => none
  | some (name, t) => match t.dropWhile isSpace with
    | '>' :: rest => some (.endTag name, rest)
    | _ => none

theorem length_startTag? {s rest : Text} {t : Token} (h : startTag? s = some (t, rest)) :
    rest.length < s.length := by
  unfold startTag? at h
  split at h
  · cases h
  · next hn =>
    simp only [Option.map_eq_some_iff, Prod.mk.injEq, Prod.exists] at h
    obtain ⟨_, _, _, ht, _, rfl⟩ := h
    have := length_tagRest? ht
    have := Name.length_read? hn
    omega

theorem length_endTag? {s rest : Text} {t : Token} (h : endTag? s = some (t, rest)) :
    rest.length < s.length := by
  unfold endTag? at h
  split at h
  · cases h
  · next n u hn =>
    have := Name.length_read? hn
    have hd := Text.length_dropWhile_le isSpace u
    split at h
    · next hu => rw [hu] at hd; simp at h hd; rw [← h.2]; omega
    · cases h

/-! ## Tokens -/

/-- Characters of running text. -/
def isTextChar (c : Char) : Bool := c ≠ '<' && c ≠ '&'

/-- The token at the front of a text that is not empty, and the rest. Running text goes up to the
next `<` or `&`, and holds no `]]>`. -/
def next? (s : Text) : Option (Token × Text) :=
  match s with
  | [] => none
  | '<' :: '/' :: s => endTag? s
  | '<' :: '?' :: s => (instruction? s).map fun rest => (.aside, rest)
  | '<' :: '!' :: '-' :: '-' :: s => (comment? s).map fun rest => (.aside, rest)
  | '<' :: '!' :: s =>
    match Text.after? "[CDATA[".toList s with
    | some s => match Text.cut? "]]>".toList s with
      | some (inside, rest) =>
        if inside.all isDocumentChar then some (.section_ inside, rest) else none
      | none => none
    | none => match Text.after? "DOCTYPE".toList s with
      | some s => (Doctype.read? s).map fun (d, rest) => (.doctype d, rest)
      | none => none
  | '<' :: s => startTag? s
  | '&' :: s => (reference? s).map fun
    | (.entity name, rest) => (.entity name, rest)
    | (.char c, rest) | (.plain c, rest) => (.char c, rest)
  | s =>
    if (s.takeWhile isTextChar).all isDocumentChar ∧
        (Text.cut? "]]>".toList (s.takeWhile isTextChar)).isNone then
      some (.text (s.takeWhile isTextChar), s.dropWhile isTextChar)
    else none

theorem length_next? {s rest : Text} {t : Token} (h : next? s = some (t, rest)) :
    rest.length < s.length := by
  unfold next? at h
  split at h
  · cases h
  · have := length_endTag? h; simp; omega
  · simp only [Option.map_eq_some_iff, Prod.mk.injEq] at h
    obtain ⟨_, hi, _, rfl⟩ := h
    have := length_instruction? hi
    simp; omega
  · simp only [Option.map_eq_some_iff, Prod.mk.injEq] at h
    obtain ⟨_, hi, _, rfl⟩ := h
    have := length_comment? hi
    simp; omega
  · split at h
    · next ha =>
      have ha := Text.length_after? ha
      split at h
      · next hc =>
        have := Text.length_cut? hc
        split at h
        · simp_all
          omega
        · cases h
      · cases h
    · split at h
      · next ha =>
        have ha := Text.length_after? ha
        simp only [Option.map_eq_some_iff, Prod.mk.injEq, Prod.exists] at h
        obtain ⟨_, _, hd, _, rfl⟩ := h
        have := Doctype.length_read? hd
        simp at ha ⊢
        omega
      · cases h
  · have := length_startTag? h; simp; omega
  · simp only [Option.map_eq_some_iff, Prod.exists] at h
    obtain ⟨a, r, hr, h⟩ := h
    have := length_reference? hr
    cases a <;> simp at h <;> rw [← h.2] <;> simp <;> omega
  · next c1 c2 c3 c4 c5 c6 c7 =>
    split at h
    · simp only [Option.some.injEq, Prod.mk.injEq] at h
      rw [← h.2]
      cases hs : s with
      | nil => simp [hs] at *
      | cons c u =>
        have hc : isTextChar c = true := by
          by_cases h1 : c = '<'
          · subst h1; exact (c6 _ hs).elim
          · by_cases h2 : c = '&'
            · subst h2; exact (c7 _ hs).elim
            · simp [isTextChar, h1, h2]
        have := Text.length_dropWhile_le isTextChar u
        rw [List.dropWhile_cons, if_pos hc]
        simp
        omega
    · cases h

/-- The tokens of a text, when it is made of tokens. -/
def all? (s : Text) : Option (List Token) :=
  if s.isEmpty then some [] else
  match h : next? s with
  | none => none
  | some (t, rest) =>
    have := length_next? h
    (all? rest).map (t :: ·)
termination_by s.length

end Token
end FeedPage.Xml
