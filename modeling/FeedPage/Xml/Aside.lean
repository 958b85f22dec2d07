-- SUMMARY: The asides of an XML document, comments and processing instructions, and how they end.
import FeedPage.Xml.Name

/-!
# Asides

A comment ends at its first two hyphens, which `>` must follow. A processing instruction has a
target, which is not the word `xml` in any case, and ends at the first `?>`. Neither holds a
character that documents may not hold.
-/

namespace FeedPage.Xml

/-- What follows the comment that is opened before `s`. -/
def comment? (s : Text) : Option Text :=
  match Text.cut? "--".toList s with
  | some (inside, '>' :: rest) => if inside.all isDocumentChar then some rest else none
  | _ => none

/-- What follows the processing instruction that is opened before `s`. -/
def instruction? (s : Text) : Option Text :=
  match word? s with
  | none => none
  | some (target, t) =>
    if Text.lowerAscii target = "xml".toList then none
    else if Text.startsWith "?>".toList t ∨ t.head?.any isSpace then
      match Text.cut? "?>".toList t with
      | some (inside, rest) => if inside.all isDocumentChar then some rest else none
      | none => none
    else none

theorem length_comment? {s rest : Text} (h : comment? s = some rest) : rest.length < s.length := by
  unfold comment? at h
  split at h
  · next hc =>
    have := Text.length_cut? hc
    split at h
    · simp_all
      omega
    · cases h
  · cases h

theorem length_instruction? {s rest : Text} (h : instruction? s = some rest) :
    rest.length < s.length := by
  unfold instruction? at h
  split at h
  · cases h
  · next hw =>
    have hw := length_word? hw
    split at h
    · cases h
    · split at h
      · split at h
        · next hc =>
          have := Text.length_cut? hc
          split at h
          · simp_all
            omega
          · cases h
        · cases h
      · cases h

end FeedPage.Xml
