-- SUMMARY: References in XML documents, and texts that hold them: attribute values and entity values.
import FeedPage.Xml.Name

/-!
# References

A reference names a character by its number, or an entity. A number must be that of a character that
documents may hold. Names are looked up when the text is used; the five entities of markup itself
need no declaration.
-/

namespace FeedPage.Xml

/-- A part of a text with references. -/
inductive Part where
  | plain (c : Char)
  /-- A character that was written as a reference. -/
  | char (c : Char)
  | entity (name : Text)
  deriving DecidableEq, Repr

/-- The character of a number, when documents may hold it. -/
def numbered? (n : Nat) : Option Char :=
  if n.isValidChar then some (Char.ofNat n) |>.filter isDocumentChar else none

/-- The entities of markup itself. -/
def predefined? (name : Text) : Option Char :=
  if name = "lt".toList then some '<'
  else if name = "gt".toList then some '>'
  else if name = "amp".toList then some '&'
  else if name = "apos".toList then some '\''
  else if name = "quot".toList then some '"'
  else none

/-- Digits that end in a semicolon, as a character. -/
def digits? (isDigit : Char → Bool) (value : Text → Nat) (s : Text) : Option (Part × Text) :=
  match s.takeWhile isDigit, s.dropWhile isDigit with
  | _ :: _, ';' :: rest => (numbered? (value (s.takeWhile isDigit))).map fun c => (.char c, rest)
  | _, _ => none

/-- The reference whose ampersand stands before `s`, and the rest. -/
def reference? (s : Text) : Option (Part × Text) :=
  match s with
  | '#' :: 'x' :: s => digits? Text.isHexDigit Text.ofHexDigits s
  | '#' :: s => digits? Char.isDigit Text.ofDecimalDigits s
  | s => match word? s with
    | some (name, ';' :: rest) => some (.entity name, rest)
    | _ => none

theorem length_digits? {p : Char → Bool} {v : Text → Nat} {s rest : Text} {a : Part}
    (h : digits? p v s = some (a, rest)) : rest.length < s.length := by
  unfold digits? at h
  split at h
  · next hd =>
    have := Text.length_dropWhile_le p s
    simp only [Option.map_eq_some_iff, Prod.mk.injEq] at h
    obtain ⟨_, _, _, rfl⟩ := h
    rw [hd] at this
    simp at this
    omega
  · cases h

theorem length_reference? {s rest : Text} {a : Part} (h : reference? s = some (a, rest)) :
    rest.length < s.length := by
  unfold reference? at h
  split at h
  · have := length_digits? h; simp; omega
  · have := length_digits? h; simp; omega
  · split at h
    · next hw =>
      have := length_word? hw
      simp only [Option.some.injEq, Prod.mk.injEq] at h
      rw [← h.2]
      simp at this
      omega
    · cases h

/-! ## Texts with references -/

/-- The parts of a text. The characters in `barred` may not stand in it, except by reference. -/
def parts? (barred : List Char) (s : Text) : Option (List Part) :=
  match s with
  | [] => some []
  | '&' :: t =>
    match h : reference? t with
    | none => none
    | some (a, rest) =>
      have := length_reference? h
      (parts? barred rest).map (a :: ·)
  | c :: t =>
    if c ∈ barred ∨ !isDocumentChar c then none else (parts? barred t).map (.plain c :: ·)
termination_by s.length

/-- A text without references and barred characters is its characters. -/
theorem parts?_plain {barred : List Char} {s : Text}
    (h : ∀ c ∈ s, c ≠ '&' ∧ c ∉ barred ∧ isDocumentChar c = true) :
    parts? barred s = some (s.map .plain) := by
  induction s with
  | nil => rw [parts?]; rfl
  | cons c s ih =>
    obtain ⟨h1, h2, h3⟩ := h c (by simp)
    rw [parts?]
    · simp [h2, h3, ih fun c hc => h c (by simp [hc])]
    · exact h1

/-- A quoted text and the rest behind it. -/
def literal? (barred : List Char) (s : Text) : Option (List Part × Text) :=
  match s with
  | q :: t =>
    if q = '"' ∨ q = '\'' then
      match Text.cutChar? q t with
      | none => none
      | some (inside, rest) => (parts? barred inside).map fun parts => (parts, rest)
    else none
  | [] => none

theorem length_literal? {barred : List Char} {s rest : Text} {parts : List Part}
    (h : literal? barred s = some (parts, rest)) : rest.length < s.length := by
  unfold literal? at h
  split at h
  · split at h
    · split at h
      · cases h
      · next hc =>
        have := Text.length_cutChar? hc
        simp only [Option.map_eq_some_iff, Prod.mk.injEq] at h
        obtain ⟨_, _, _, rfl⟩ := h
        simp
        omega
    · cases h
  · cases h

end FeedPage.Xml
