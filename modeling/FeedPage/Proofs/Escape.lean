-- SUMMARY: Escaped text: which characters it lacks, and how it is read back.
import FeedPage.Rows

/-!
# Escaped text

Escaping writes the five characters of markup as references. So escaped text lacks the characters
that delimit it, and a reader that puts the characters back for the references gets the text as it
was, whatever it holds.
-/

namespace FeedPage

/-! ## The references -/

/-- The references of escaped text, with the characters that they stand for. -/
def references : List (Text × Char) :=
  [("&amp;".toList, '&'), ("&lt;".toList, '<'), ("&gt;".toList, '>'), ("&#34;".toList, '"'),
    ("&#39;".toList, '\'')]

/-- The characters that delimit texts in markup. -/
def isDelimiter (c : Char) : Bool := c = '<' || c = '>' || c = '\'' || c = '"'

/-- A character has a reference, or is no character of markup and stands for itself. -/
theorem escapeChar_cases (c : Char) :
    (escapeChar c, c) ∈ references ∨ (escapeChar c = [c] ∧ c ≠ '&' ∧ isDelimiter c = false) := by
  unfold escapeChar
  split
  · next h => subst h; exact .inl (by decide)
  · next h1 =>
    split
    · next h => subst h; exact .inl (by decide)
    · next h2 =>
      split
      · next h => subst h; exact .inl (by decide)
      · next h3 =>
        split
        · next h => subst h; exact .inl (by decide)
        · next h4 =>
          split
          · next h => subst h; exact .inl (by decide)
          · next h5 => exact .inr ⟨rfl, h1, by simp [isDelimiter, h2, h3, h4, h5]⟩

/-! ## What escaped text holds -/

@[simp] theorem escape_nil : escape [] = [] := rfl

@[simp] theorem escape_cons (c : Char) (s : Text) : escape (c :: s) = escapeChar c ++ escape s := rfl

theorem not_isDelimiter_of_mem_reference {r : Text × Char} (h : r ∈ references) {d : Char}
    (hd : d ∈ r.1) : isDelimiter d = false := by
  have hall : (references.all fun r => r.1.all fun d => !isDelimiter d) = true := by decide
  simpa using List.all_eq_true.1 (List.all_eq_true.1 hall r h) d hd

theorem not_isDelimiter_of_mem_escape {s : Text} {d : Char} (h : d ∈ escape s) :
    isDelimiter d = false := by
  obtain ⟨c, -, hd⟩ := List.mem_flatMap.1 h
  rcases escapeChar_cases c with hc | ⟨hc, -, hn⟩
  · exact not_isDelimiter_of_mem_reference hc hd
  · rw [hc] at hd
    obtain rfl := List.mem_singleton.1 hd
    exact hn

/-- Escaped text lacks every delimiter. -/
theorem not_mem_escape {d : Char} (hd : isDelimiter d = true) (s : Text) : d ∉ escape s := by
  intro h
  simp [not_isDelimiter_of_mem_escape h] at hd

/-! ## Reading it back -/

/-- The reference at the front of a text: how many characters it takes, and what it stands for. -/
def referenceAt? (s : Text) : Option (Nat × Text) :=
  references.findSome? fun (written, c) =>
    (Text.after? written s).map fun _ => (written.length, [c])

/-- The text with each reference replaced by its character, all at once from the left. -/
def unescape (s : Text) : Text := Text.substitute referenceAt? s

theorem referenceAt?_eq_none {c : Char} (s : Text) (h : c ≠ '&') :
    referenceAt? (c :: s) = none := by
  simp [referenceAt?, references, Text.after?, h.symm]

theorem unescape_reference_append {r : Text} {c : Char} (h : (r, c) ∈ references) (s : Text) :
    unescape (r ++ s) = c :: unescape s := by
  simp only [references, List.mem_cons, List.not_mem_nil, or_false, Prod.mk.injEq] at h
  rcases h with ⟨rfl, rfl⟩ | ⟨rfl, rfl⟩ | ⟨rfl, rfl⟩ | ⟨rfl, rfl⟩ | ⟨rfl, rfl⟩ <;> rfl

/-- What escaping makes of one character is read back as that character, whatever follows. -/
theorem unescape_escapeChar_append (c : Char) (s : Text) :
    unescape (escapeChar c ++ s) = c :: unescape s := by
  rcases escapeChar_cases c with hc | ⟨hc, hn, -⟩
  · exact unescape_reference_append hc s
  · rw [hc, List.singleton_append]
    simp only [unescape, Text.substitute, Text.substituteFrom, referenceAt?_eq_none s hn]

theorem unescape_escape (s : Text) : unescape (escape s) = s := by
  induction s with
  | nil => rfl
  | cons c s ih => rw [escape_cons, unescape_escapeChar_append, ih]

/-- A reference that stands in the text already is not taken for one that escaping made. -/
example : unescape (escape "&lt;b&gt;".toList) = "&lt;b&gt;".toList := by decide

end FeedPage
