-- SUMMARY: Pages in ASCII: when they declare no character set, and that they are then read as they are.
import FeedPage.Html.Document
import FeedPage.Proofs.Feed.Bytes

/-!
# The text of ASCII pages

The bytes of an ASCII page are read as UTF-8 unless the page itself declares another character set
(`Document.decode_ascii`). Only an XML declaration at its front and the word `charset` in what
begins with `<meta` can do that, and the readers look at the beginning of the page only, so a page
without them (`Document.Silent`) declares nothing wherever it is cut off
(`Document.declared?_eq_none`).
-/

namespace FeedPage

namespace Text

theorem lowerAscii_append (s t : Text) : lowerAscii (s ++ t) = lowerAscii s ++ lowerAscii t :=
  List.map_append ..

/-- What follows a literal that is taken off the front in any case. -/
theorem afterFolded?_eq_some {lit s r : Text} :
    afterFolded? lit s = some r ↔ ∃ w, s = w ++ r ∧ lowerAscii w = lit := by
  induction lit generalizing s with
  | nil => simp [afterFolded?, lowerAscii, eq_comm]
  | cons p ps ih =>
    cases s with
    | nil => simp [afterFolded?, lowerAscii]
    | cons c s =>
      by_cases hp : p = c.toLower
      · subst hp
        simp only [afterFolded?, if_true, ih]
        constructor
        · rintro ⟨w, rfl, rfl⟩
          exact ⟨c :: w, rfl, rfl⟩
        · rintro ⟨w, hw, hlit⟩
          obtain ⟨d, w, rfl⟩ : ∃ d v, w = d :: v := List.exists_cons_of_ne_nil (by
            rintro rfl
            cases hlit)
          obtain ⟨rfl, rfl⟩ := List.cons.inj hw
          exact ⟨w, rfl, (List.cons.inj hlit).2⟩
      · simp only [afterFolded?, hp, if_false, reduceCtorEq, false_iff, not_exists, not_and]
        rintro w hw hlit
        cases w with
        | nil => cases hlit
        | cons d w =>
          obtain ⟨rfl, -⟩ := List.cons.inj hw
          exact hp (List.cons.inj hlit).1.symm

/-- A literal is at the front, in any case, when the text in lower case begins with it. -/
theorem afterFolded?_eq_none {lit s : Text} :
    afterFolded? lit s = none ↔ ¬ lit <+: lowerAscii s := by
  rw [Option.eq_none_iff_forall_ne_some]
  constructor
  · rintro h ⟨t, ht⟩
    obtain ⟨w, r, rfl, hw, -⟩ := List.map_eq_append_iff.1 ht.symm
    exact h r (afterFolded?_eq_some.2 ⟨w, rfl, hw⟩)
  · rintro h r hr
    obtain ⟨w, rfl, rfl⟩ := afterFolded?_eq_some.1 hr
    exact h ⟨lowerAscii r, (lowerAscii_append w r).symm⟩

theorem isPrefix_lowerAscii {s t : Text} (h : s <+: t) : lowerAscii s <+: lowerAscii t :=
  h.map Char.toLower

theorem isInfix_lowerAscii {s t : Text} (h : s <:+: t) : lowerAscii s <:+: lowerAscii t :=
  h.map Char.toLower

/-- A word without `>` stands in front of the first `>` when it stands at the front. -/
theorem isPrefix_takeWhile {word s : Text} (hword : '>' ∉ word) (h : word <+: lowerAscii s) :
    word <+: lowerAscii (s.takeWhile (· ≠ '>')) := by
  induction word generalizing s with
  | nil => exact List.nil_prefix
  | cons p ps ih =>
    cases s with
    | nil => simp [lowerAscii] at h
    | cons c s =>
      obtain ⟨hp, hps⟩ := List.cons_prefix_cons.1 h
      have hc : c ≠ '>' := by
        rintro rfl
        exact hword (by simp [hp])
      have hrest := ih (fun hmem => hword (List.mem_cons_of_mem p hmem)) hps
      simpa [lowerAscii, hc, hp] using hrest

end Text

/-- No single-byte set finds a text where there are no bytes. -/
theorem Text.Charset.filter_decodeSingle?_nil (name : String) :
    (Text.Charset.decodeSingle? name []).filter (!·.isEmpty) = none := by
  unfold Text.Charset.decodeSingle?
  rcases Text.Charset.singleTables[name]? with _ | ⟨start, cells⟩ <;> rfl

namespace Html.Document

/-! ## Declarations -/

/-- No element of a text tells a character set: what begins with `<meta` does not hold the word
`charset` in front of its `>`. -/
def Silent (s : Text) : Prop :=
  ∀ t, '<' :: t <:+ s → "meta".toList <+: Text.lowerAscii (t.dropWhile isSpace) →
    ¬ "charset".toList <:+: Text.lowerAscii (t.takeWhile (· ≠ '>'))

theorem isPrefix_dropWhile {p : Char → Bool} {s t : Text} (h : s <+: t) :
    s.dropWhile p <+: t.dropWhile p := by
  obtain ⟨rest, rfl⟩ := h
  rw [List.dropWhile_append]
  split
  · next hempty =>
    rw [List.isEmpty_iff.1 hempty]
    exact List.nil_prefix
  · exact List.prefix_append ..

theorem isPrefix_takeWhile {p : Char → Bool} {s t : Text} (h : s <+: t) :
    s.takeWhile p <+: t.takeWhile p := by
  obtain ⟨rest, rfl⟩ := h
  rw [List.takeWhile_append]
  split
  · exact (List.takeWhile_prefix p).trans (List.prefix_append ..)
  · exact List.prefix_refl _

theorem Silent.of_prefix {s t : Text} (h : Silent t) (hst : s <+: t) : Silent s := by
  rintro u ⟨before, rfl⟩ hmeta hcharset
  obtain ⟨rest, rfl⟩ := hst
  have hsuffix : '<' :: (u ++ rest) <:+ (before ++ '<' :: u) ++ rest := ⟨before, by simp⟩
  have hu : u <+: u ++ rest := List.prefix_append ..
  exact h (u ++ rest) hsuffix
    (hmeta.trans (Text.isPrefix_lowerAscii (isPrefix_dropWhile hu)))
    (hcharset.trans (Text.isInfix_lowerAscii (isPrefix_takeWhile hu).isInfix))

theorem metaLabel?_eq_none {s : Text}
    (h : ¬ "charset".toList <:+: Text.lowerAscii (s.takeWhile (· ≠ '>'))) :
    metaLabel? s = none := by
  induction s with
  | nil => rfl
  | cons c s ih =>
    rw [metaLabel?]
    split
    · rfl
    · next hc =>
      have htake : (c :: s).takeWhile (· ≠ '>') = c :: s.takeWhile (· ≠ '>') := by simp [hc]
      have htail : ¬ "charset".toList <:+: Text.lowerAscii (s.takeWhile (· ≠ '>')) := by
        intro hinner
        rw [htake] at h
        exact h (hinner.trans (Text.isInfix_lowerAscii (List.suffix_cons ..).isInfix))
      have hword : Text.afterFolded? "charset".toList s = none := by
        rw [Text.afterFolded?_eq_none]
        intro hfront
        exact htail (Text.isPrefix_takeWhile (by decide) hfront).isInfix
      rw [ih htail, hword]
      rfl

theorem Silent.declaredByMeta?_eq_none {s : Text} (h : Silent s) : declaredByMeta? s = none := by
  induction s with
  | nil => rfl
  | cons c s ih =>
    have hrest : Silent s := fun t ht => h t (ht.trans (List.suffix_cons c s))
    rw [declaredByMeta?, ih hrest]
    split
    · next hc =>
      subst hc
      cases hmeta : Text.afterFolded? "meta".toList (s.dropWhile isSpace) with
      | none => rfl
      | some rest =>
        have hquiet := h s (List.suffix_refl _) (by
          refine Decidable.byContradiction fun hnone => ?_
          rw [← Text.afterFolded?_eq_none, hmeta] at hnone
          cases hnone)
        obtain ⟨word, hword, hlower⟩ := Text.afterFolded?_eq_some.1 hmeta
        have hspaces : ∀ c ∈ s.takeWhile isSpace, (decide (c ≠ '>')) = true := by
          intro c hc
          have hspace : isSpace c = true := List.all_eq_true.1 List.all_takeWhile c hc
          rw [decide_eq_true_eq]
          rintro rfl
          exact absurd hspace (by decide)
        have hletters : ∀ c ∈ word, (decide (c ≠ '>')) = true := by
          intro c hc
          have hmem := List.mem_map_of_mem (f := Char.toLower) hc
          rw [decide_eq_true_eq]
          rintro rfl
          rw [← Text.lowerAscii, hlower] at hmem
          exact absurd hmem (by decide)
        have hinner : ¬ "charset".toList <:+: Text.lowerAscii (rest.takeWhile (· ≠ '>')) := by
          intro hcharset
          refine hquiet (hcharset.trans (Text.isInfix_lowerAscii ?_))
          rw [← List.takeWhile_append_dropWhile (p := isSpace) (l := s), hword,
            List.takeWhile_append_of_pos hspaces, List.takeWhile_append_of_pos hletters]
          exact ((List.suffix_append ..).trans (List.suffix_append ..)).isInfix
        rw [Option.bind_some, metaLabel?_eq_none hinner]
        rfl
    · rfl

/-- A silent page that does not begin with an XML declaration declares no character set. -/
theorem declared?_eq_none {s : Text} (ascii : s.IsAscii)
    (front : ¬ "<?".toList <+: s.dropWhile isSpace) (silent : Silent s) :
    declared? (Text.toUtf8 s) = none := by
  have hxml : Xml.declaredEncoding? Text.afterFolded? ((s.take 1024).dropWhile isSpace) = none := by
    have hafter : Text.after? "<?".toList ((s.take 1024).dropWhile isSpace) = none :=
      Text.after?_eq_none_iff.2 fun hfront =>
        front (hfront.trans (isPrefix_dropWhile (List.take_prefix ..)))
    rw [Xml.declaredEncoding?, hafter]
  have hmeta (n : Nat) : declaredByMeta? (s.take n) = none :=
    (silent.of_prefix (List.take_prefix n s)).declaredByMeta?_eq_none
  simp only [declared?, Text.ofAscii_toUtf8 ascii, hxml, hmeta]
  rfl

/-! ## Decoding -/

theorem takeMark_ascii {s : Text} (h : s.IsAscii) :
    takeMark (Text.toUtf8 s) = (Text.toUtf8 s, none) := by
  have hfirst : (0xFF : UInt8) ∉ Text.toUtf8 s := Text.not_mem_toUtf8 h (by decide)
  have hsecond : (0xFE : UInt8) ∉ Text.toUtf8 s := Text.not_mem_toUtf8 h (by decide)
  have hthird : (0xEF : UInt8) ∉ Text.toUtf8 s := Text.not_mem_toUtf8 h (by decide)
  generalize Text.toUtf8 s = b at hfirst hsecond hthird
  unfold takeMark
  split <;> simp_all

theorem decode_nil : decode [] = [] := by
  have hdeclared : declared? [] = none := by decide +kernel
  have hutf8 : (Text.decodeAs? (knownLabel "utf-8".toList) []).filter (!·.isEmpty) = none := by
    decide +kernel
  have hlabel : Text.Charset.ofLabel? (knownLabel "windows-1252".toList) =
      some (.single "cp1252") := by decide +kernel
  have hwindows :
      (Text.decodeAs? (knownLabel "windows-1252".toList) []).filter (!·.isEmpty) = none := by
    rw [Text.decodeAs?, hlabel]
    exact Text.Charset.filter_decodeSingle?_nil "cp1252"
  -- No bytes make an empty text in either charset, and an empty text counts as unreadable.
  have hunread : firstReadable? [] ["utf-8".toList, "windows-1252".toList] = none := by
    simp only [firstReadable?, List.findSome?, hutf8, hwindows]
  have hmarked : Text.ofUtf8Marking [] = [] := by decide +kernel
  simp only [decode, takeMark, hdeclared, Option.toList_none, List.nil_append, hunread,
    Option.getD_none, hmarked]

/-- An ASCII page that declares no character set is read as it is. -/
theorem decode_ascii {s : Text} (ascii : s.IsAscii) (hdeclared : declared? (Text.toUtf8 s) = none) :
    decode (Text.toUtf8 s) = s := by
  cases s with
  | nil => exact decode_nil
  | cons c t =>
    have hutf8 : Text.decodeAs? (knownLabel "utf-8".toList) (Text.toUtf8 (c :: t)) =
        some (c :: t) := by
      rw [Text.toUtf8_ascii ascii]
      exact Text.ofUtf8?_ascii ascii
    simp only [decode, takeMark_ascii ascii, hdeclared, Option.toList_none, List.nil_append,
      firstReadable?, List.findSome?_cons, hutf8]
    rfl

end Html.Document

end FeedPage
