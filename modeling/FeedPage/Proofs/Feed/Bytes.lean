-- SUMMARY: Documents in ASCII that begin with an element: their bytes are read as UTF-8, and their text stays as it is.
import FeedPage.Feed.Read
import Mathlib.Data.List.Infix

/-!
# ASCII documents

A document whose text is ASCII and begins with an element has no mark, no declaration and no
document type. Its bytes are read as UTF-8, and nothing of its text is changed; only a line end is
put in front (`Document.ofBytes_ascii`).
-/

namespace FeedPage

/-- A text of ASCII. -/
def Text.IsAscii (s : Text) : Prop := ∀ c ∈ s, c.toNat < 128

namespace Text

theorem toUtf8_ascii {s : Text} (h : s.IsAscii) :
    toUtf8 s = s.map fun c => UInt8.ofNat c.toNat := by
  induction s with
  | nil => rfl
  | cons c s ih =>
    have hc : String.utf8EncodeChar c = [UInt8.ofNat c.toNat] :=
      if_pos (Nat.le_of_lt_succ (h c (by simp)))
    have := ih fun d hd => h d (List.mem_cons_of_mem c hd)
    simp [toUtf8, hc] at this ⊢
    exact this

theorem toNat_byte {c : Char} (h : c.toNat < 128) : (UInt8.ofNat c.toNat).toNat = c.toNat := by
  simp [Nat.mod_eq_of_lt (show c.toNat < 256 by omega)]

/-- The bytes of ASCII. -/
theorem toNat_lt_of_mem_toUtf8 {s : Text} (h : s.IsAscii) {b : UInt8} (hb : b ∈ toUtf8 s) :
    b.toNat < 128 := by
  rw [toUtf8_ascii h] at hb
  obtain ⟨c, hc, rfl⟩ := List.mem_map.1 hb
  rw [toNat_byte (h c hc)]
  exact h c hc

theorem not_mem_toUtf8 {s : Text} (h : s.IsAscii) {b : UInt8} (hb : 128 ≤ b.toNat) :
    b ∉ toUtf8 s := fun hmem => Nat.not_le_of_lt (toNat_lt_of_mem_toUtf8 h hmem) hb

theorem ofNat_toNat_byte {c : Char} (h : c.toNat < 128) :
    Char.ofNat (UInt8.ofNat c.toNat).toNat = c := by rw [toNat_byte h, Char.ofNat_toNat]

theorem ofAscii_toUtf8 {s : Text} (h : s.IsAscii) : ofAscii (toUtf8 s) = s := by
  rw [toUtf8_ascii h, ofAscii, List.map_map]
  exact List.map_congr_left (fun c hc => ofNat_toNat_byte (h c hc)) |>.trans (List.map_id s)

theorem Utf8.groups_ascii {s : Text} (h : s.IsAscii) :
    Utf8.groups (s.map fun c => UInt8.ofNat c.toNat) = s.map some := by
  induction s with
  | nil => simp [Utf8.groups]
  | cons c s ih =>
    have hc := h c (by simp)
    have hlow : UInt8.ofNat c.toNat < 0x80 := by
      rw [UInt8.lt_iff_toNat_lt, toNat_byte hc]
      exact hc
    rw [List.map_cons, Utf8.groups.eq_def]
    simp only [hlow, if_true, ofNat_toNat_byte hc,
      ih fun d hd => h d (List.mem_cons_of_mem c hd), List.map_cons]

/-- Bytes that are ASCII are valid UTF-8 for the same text. -/
theorem ofUtf8?_ascii {s : Text} (h : s.IsAscii) :
    ofUtf8? (s.map fun c => UInt8.ofNat c.toNat) = some s := by
  rw [ofUtf8?, Utf8.groups_ascii h]
  induction s with
  | nil => rfl
  | cons c s ih =>
    simp [List.mapM_cons, ih fun d hd => h d (List.mem_cons_of_mem c hd)]

/-- A part that begins with `c` begins in the second of two texts, or in the first and takes in the
second. -/
theorem isSuffix_append_cases {c : Char} {t first second : Text} (h : c :: t <:+ first ++ second) :
    c :: t <:+ second ∨ ∃ u, t = u ++ second ∧ c :: u <:+ first := by
  obtain ⟨before, hbefore⟩ := h
  rcases List.append_eq_append_iff.1 hbefore with ⟨u, rfl, ht⟩ | ⟨u, -, rfl⟩
  · cases u with
    | nil => exact .inl ⟨[], ht⟩
    | cons d u =>
      obtain ⟨rfl, rfl⟩ := List.cons.inj ht
      exact .inr ⟨u, rfl, List.suffix_append ..⟩
  · exact .inl (List.suffix_append ..)

end Text

namespace Feed

theorem takeMark_ascii {s : Text} (h : s.IsAscii) : takeMark (Text.toUtf8 s) = none := by
  have hfirst : (0xFF : UInt8) ∉ Text.toUtf8 s := Text.not_mem_toUtf8 h (by decide)
  have hsecond : (0xFE : UInt8) ∉ Text.toUtf8 s := Text.not_mem_toUtf8 h (by decide)
  have hthird : (0xEF : UInt8) ∉ Text.toUtf8 s := Text.not_mem_toUtf8 h (by decide)
  generalize Text.toUtf8 s = b at hfirst hsecond hthird
  unfold takeMark
  split <;> simp_all

/-- A text of ASCII without a declaration is read as it is, when its bytes cannot be read in the
charset that they seem to be in. -/
theorem decode_ascii {s : Text} (h : s.IsAscii)
    (hseen : ∀ label ∈ guess? (Text.toUtf8 s), Text.decodeAs? label (Text.toUtf8 s) = none)
    (undeclared : Xml.declaredEncoding? Text.after? s = none) : decode (Text.toUtf8 s) = s := by
  have hread : Text.decodeAs? "utf-8".toList (Text.toUtf8 s) = some s := by
    rw [Text.toUtf8_ascii h]
    exact Text.ofUtf8?_ascii h
  have hdeclared : declared? (Text.toUtf8 s) (guess? (Text.toUtf8 s)) = none := by
    cases hguess : guess? (Text.toUtf8 s) with
    | some label => simp [declared?, hseen label hguess]
    | none => simp [declared?, Text.ofAscii_toUtf8 h, undeclared]
  unfold decode
  simp only [takeMark_ascii h, hdeclared, Option.filter_none, Option.toList_none, List.map_nil,
    List.nil_append, Option.all_none, if_true, List.findSome?_cons, hread, Option.getD_some]

/-- No declaration stands in front of an element. -/
theorem declaredEncoding?_element {s : Text} {c : Char} (hc : isWordChar c = true) :
    Xml.declaredEncoding? Text.after? ('<' :: c :: s) = none := by
  have hquestion : c ≠ '?' := by rintro rfl; exact absurd hc (by decide)
  simp [Xml.declaredEncoding?, Text.after?, hquestion.symm]

/-- A text that begins with an element seems to be in no other charset. -/
theorem guess?_element {s : Text} {c : Char} (h : Text.IsAscii ('<' :: c :: s))
    (hc : isWordChar c = true) : guess? (Text.toUtf8 ('<' :: c :: s)) = none := by
  have hzero : UInt8.ofNat c.toNat ≠ 0 := by
    intro h0
    have hnat := Text.toNat_byte (h c (by simp))
    rw [h0] at hnat
    obtain rfl : c = Char.ofNat 0 := by rw [← Char.ofNat_toNat c, ← hnat]; rfl
    exact absurd hc (by decide)
  rw [Text.toUtf8_ascii h, List.map_cons, List.map_cons]
  generalize UInt8.ofNat c.toNat = x at hzero
  unfold guess?
  split <;> simp_all

/-! ## The text of a document -/

theorem takeDeclarations_nil {atLine : Bool} {word : Text} (new : Text)
    (h : (if atLine then declaration? word [] else none) = none) :
    takeDeclarations atLine word new [] = ([], []) := by
  rw [takeDeclarations]
  split
  · next hsome => rw [h] at hsome; cases hsome
  · rfl

theorem takeDeclarations_cons {atLine : Bool} {word : Text} (new : Text) {c : Char} {s : Text}
    (h : (if atLine then declaration? word (c :: s) else none) = none) :
    takeDeclarations atLine word new (c :: s) =
      ((takeDeclarations (c = '\n') word new s).1,
        c :: (takeDeclarations (c = '\n') word new s).2) := by
  rw [takeDeclarations]
  split
  · next hsome => rw [h] at hsome; cases hsome
  · rfl

/-- A text in which no declaration stands is left as it is. -/
theorem takeDeclarations_eq_self {word s : Text} (new : Text)
    (h : ∀ t, t <:+ s → declaration? word t = none) (atLine : Bool) :
    takeDeclarations atLine word new s = ([], s) := by
  induction s generalizing atLine with
  | nil => exact takeDeclarations_nil new (by rw [h [] (List.suffix_refl _), ite_self])
  | cons c s ih =>
    have htail : ∀ t, t <:+ s → declaration? word t = none :=
      fun t ht => h t (ht.trans (List.suffix_cons c s))
    rw [takeDeclarations_cons new (by rw [h (c :: s) (List.suffix_refl _), ite_self]), ih htail]

/-- A text that begins with an element is the document, behind a line end. -/
theorem Document.ofText_element {s : Text} {c : Char} (hc : isWordChar c = true) :
    Document.ofText ('<' :: c :: s) = { text := '\n' :: '<' :: c :: s } := by
  have hquestion : c ≠ '?' := by rintro rfl; exact absurd hc (by decide)
  have hplain : Xml.afterDeclaration? ('<' :: c :: s) = none := by
    simp [Xml.afterDeclaration?, Text.after?, hquestion.symm]
  have hcut : cutBeforeElement ('\n' :: '<' :: c :: s) = some (['\n', '<'], c :: s) := by
    simp [cutBeforeElement, hc]
  have hnone {word : Text} (hword : ∀ t ∈ ['\n', '<'].tails, declaration? word t = none)
      (new : Text) : takeDeclarations false word new ['\n', '<'] = ([], ['\n', '<']) :=
    takeDeclarations_eq_self new (fun t ht => hword t ((List.mem_tails ..).2 ht)) false
  have hentities := hnone (by decide :
    ∀ t ∈ ['\n', '<'].tails, declaration? "<!ENTITY".toList t = none)
  have hdoctypes := hnone (by decide :
    ∀ t ∈ ['\n', '<'].tails, declaration? "<!DOCTYPE".toList t = none)
  unfold Document.ofText
  simp only [hplain, hcut, hentities, hdoctypes]
  rfl

/-- The document of ASCII bytes that begin with an element. -/
theorem Document.ofBytes_ascii {s : Text} {c : Char} (h : Text.IsAscii ('<' :: c :: s))
    (hc : isWordChar c = true) :
    Document.ofBytes (Text.toUtf8 ('<' :: c :: s)) = { text := '\n' :: '<' :: c :: s } := by
  have hseen : ∀ label ∈ guess? (Text.toUtf8 ('<' :: c :: s)),
      Text.decodeAs? label (Text.toUtf8 ('<' :: c :: s)) = none := by
    simp [guess?_element h hc]
  have hdecode := decode_ascii h hseen (declaredEncoding?_element hc)
  rw [Document.ofBytes, hdecode, Document.ofText_element hc]

end Feed
end FeedPage
