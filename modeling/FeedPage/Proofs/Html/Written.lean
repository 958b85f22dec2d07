-- SUMMARY: Tags, comments and raw elements as they are written, and the tokens that they are cut into.
import FeedPage.Proofs.Html.Spelled
import FeedPage.Proofs.Xml.Written
import Mathlib.Data.Nat.Init

/-!
# Written pages

A page that is put together from tags, comments and raw elements is cut into the tokens that were
meant, wherever they stand in it. A tag is written with its attributes in double quotes and their
values escaped; the values that are read are those that were meant.
-/

namespace FeedPage.Html

/-! ## Names -/

/-- A name of a tag: letters and digits of ASCII, a letter first. -/
structure IsName (name : Text) : Prop where
  letter : ∃ c ∈ name.head?, c.isAlpha = true
  alphanumeric : ∀ c ∈ name, c.isAlphanum = true

theorem isName_of_isTag {name : Text} (h : Xml.IsTag name) : IsName name where
  letter := by
    obtain ⟨c, t, rfl⟩ := List.exists_cons_of_ne_nil h.1
    exact ⟨c, rfl, h.2 c (by simp)⟩
  alphanumeric c hc := Text.isAlphanum_of_isAlpha (h.2 c hc)

/-- A name goes on behind its first letter. -/
theorem IsName.exists_cons {name : Text} (h : IsName name) :
    ∃ c t, name = c :: t ∧ c.isAlpha = true := by
  obtain ⟨c, hc, halpha⟩ := h.letter
  obtain ⟨t, rfl⟩ := List.head?_eq_some_iff.1 hc
  exact ⟨c, t, rfl, halpha⟩

/-- Characters that no letter and no digit is. -/
theorem ne_of_isAlphanum {c d : Char} (hc : c.isAlphanum = true) (hd : d.isAlphanum = false) :
    c ≠ d := by
  rintro rfl
  exact absurd hc (by simp [hd])

theorem not_isBlank_of_isAlphanum {c : Char} (hc : c.isAlphanum = true) :
    Text.isBlank c = false := by
  have := Text.toNat_of_isAlphanum hc
  rw [Bool.eq_false_iff]
  simp only [Text.isBlank, ne_eq, Bool.or_eq_true, Bool.and_eq_true, decide_eq_true_eq, beq_iff_eq]
  omega

namespace Token

theorem isNameChar_of_isAlphanum {c : Char} (hc : c.isAlphanum = true) : isNameChar c = true := by
  have hne {d : Char} (hd : d.isAlphanum = false) : (c == d) = false :=
    beq_eq_false_iff_ne.2 (ne_of_isAlphanum hc hd)
  simp [isNameChar, hne]

theorem isAttrChar_of_isAlphanum {c : Char} (hc : c.isAlphanum = true) : isAttrChar c = true := by
  have hne {d : Char} (hd : d.isAlphanum = false) : (c == d) = false :=
    beq_eq_false_iff_ne.2 (ne_of_isAlphanum hc hd)
  simp [isAttrChar, hne, not_isBlank_of_isAlphanum hc]

theorem isEndNameChar_of_isAlphanum {c : Char} (hc : c.isAlphanum = true) :
    isEndNameChar c = true := by simp [isEndNameChar, hc]

end Token

/-! ## Attributes -/

/-- Attributes as they are written, their values escaped. -/
def writeAttrs (attrs : List (Text × Text)) : Text :=
  Xml.writeAttributes (attrs.map fun (name, value) => (name, escape value))

/-- The attribute that is read for a name and a value. -/
def Attr.ofPair (a : Text × Text) : Attr := ⟨Text.lower a.1, a.2⟩

/-- The attribute of a name and a value as it is written. -/
def Attr.writtenFor (a : Text × Text) : Attr := ⟨Text.lower a.1, escape a.2⟩

namespace Token

theorem resolve_writtenFor (a : Text × Text) : resolve (Attr.writtenFor a) = Attr.ofPair a := by
  simp [resolve, Attr.writtenFor, Attr.ofPair, Reference.resolveAll_escape]

/-- No written attribute has a reference with too many digits. -/
theorem unlessTooLong_written (as : List (Text × Text)) {s : Text} (x : Step s) :
    unlessTooLong (as.map Attr.writtenFor) x = x := by
  have hnone : (as.map Attr.writtenFor).findSome? (Reference.tooLong? ·.value) = none := by
    simp [List.findSome?_map, List.findSome?_eq_none_iff, Attr.writtenFor, Reference.tooLong?_escape]
  simp only [unlessTooLong, hnone]

theorem skipSeparators_cons {c : Char} (hblank : Text.isBlank c = false) (hslash : c ≠ '/')
    (s : Text) : skipSeparators (c :: s) = c :: s := by
  simp [skipSeparators, hblank, hslash]

theorem attr?_append {a : Text × Text} (h : Xml.IsTag a.1) (rest : Text) :
    attr? (a.1 ++ '=' :: '"' :: (escape a.2 ++ '"' :: rest)) = some (Attr.writtenFor a, rest) := by
  obtain ⟨name, value⟩ := a
  obtain ⟨c, t, rfl⟩ := List.exists_cons_of_ne_nil h.1
  have halphanum (d : Char) (hd : d ∈ c :: t) : d.isAlphanum = true :=
    Text.isAlphanum_of_isAlpha (h.2 d hd)
  have hc := halphanum c (by simp)
  have hslash : c ≠ '/' := ne_of_isAlphanum hc (by decide)
  have hangle : c ≠ '>' := ne_of_isAlphanum hc (by decide)
  have hrun := Text.run_append (p := isAttrChar) (s := t) (c := '=')
    (fun d hd => isAttrChar_of_isAlphanum (halphanum d (List.mem_cons_of_mem c hd))) (by decide)
    ('"' :: (escape value ++ '"' :: rest))
  obtain ⟨htake, hdrop⟩ := Prod.mk.inj hrun
  have hcut : Text.cutChar? '"' (escape value ++ '"' :: rest) = some (escape value, rest) :=
    Text.cutChar?_eq_some.2 ⟨rfl, not_mem_escape (by decide) value⟩
  have hvalue : assigned? ('=' :: '"' :: (escape value ++ '"' :: rest)) =
      some (escape value, rest) := by
    have hequals : ('=' :: '"' :: (escape value ++ '"' :: rest)).dropWhile Text.isBlank =
        '=' :: '"' :: (escape value ++ '"' :: rest) := rfl
    have hquote : ('"' :: (escape value ++ '"' :: rest)).dropWhile Text.isBlank =
        '"' :: (escape value ++ '"' :: rest) := rfl
    simp [assigned?, value?, hequals, hquote, hcut]
  simp only [List.cons_append, attr?, not_isBlank_of_isAlphanum hc, hslash, hangle, htake, hdrop,
    hvalue, Bool.false_eq_true, or_self, if_false, Attr.writtenFor]

theorem attrs_of_attr?_eq_none {s : Text} (h : attr? s = none) (free : Bool) :
    attrs free s = ([], s) := by
  cases free with
  | false => rw [attrs, if_neg (by simp)]
  | true =>
    rw [attrs, if_pos rfl]
    split
    · rfl
    · next hsome => rw [h] at hsome; cases hsome

/-- The last character that was taken in front of the rest. -/
theorem getLast?_taken (front : Text) (c : Char) (rest : Text) :
    ((front ++ c :: rest).take ((front ++ c :: rest).length - rest.length)).getLast? = some c := by
  have hfront : front ++ c :: rest = (front ++ [c]) ++ rest := by simp
  rw [hfront, List.length_append, Nat.add_sub_cancel, List.take_left, List.getLast?_concat]

/-- Written attributes are read in front of what is no attribute. -/
theorem attrs_writeAttrs {as : List (Text × Text)} (h : ∀ a ∈ as, Xml.IsTag a.1) {ending : Text}
    (hend : attr? (skipSeparators ending) = none) {free : Bool} (hfree : as ≠ [] → free = true) :
    attrs free (skipSeparators (writeAttrs as ++ ending)) =
      (as.map Attr.writtenFor, skipSeparators ending) := by
  induction as generalizing free with
  | nil => exact attrs_of_attr?_eq_none hend free
  | cons a as ih =>
    have hrest : attrs true (skipSeparators (writeAttrs as ++ ending)) =
        (as.map Attr.writtenFor, skipSeparators ending) :=
      ih (fun b hb => h b (List.mem_cons_of_mem a hb)) fun _ => rfl
    have ha := h a (List.mem_cons_self ..)
    have hattr := attr?_append ha (writeAttrs as ++ ending)
    have hwritten : writeAttrs (a :: as) ++ ending =
        ' ' :: (a.1 ++ '=' :: '"' :: (escape a.2 ++ '"' :: (writeAttrs as ++ ending))) := by
      simp [writeAttrs, Xml.writeAttributes]
    have hskip : skipSeparators (writeAttrs (a :: as) ++ ending) =
        a.1 ++ '=' :: '"' :: (escape a.2 ++ '"' :: (writeAttrs as ++ ending)) := by
      obtain ⟨c, t, hct⟩ := List.exists_cons_of_ne_nil ha.1
      have hc : c.isAlphanum = true := Text.isAlphanum_of_isAlpha (ha.2 c (by simp [hct]))
      rw [hwritten, skipSeparators, if_pos (by decide), hct, List.cons_append]
      exact skipSeparators_cons (not_isBlank_of_isAlphanum hc) (ne_of_isAlphanum hc (by decide)) _
    rw [hskip, hfree (by simp), attrs, if_pos rfl]
    split
    · next hnone => rw [hattr] at hnone; cases hnone
    · next b rest hsome =>
      rw [hattr] at hsome
      obtain ⟨rfl, rfl⟩ := Prod.mk.inj (Option.some.inj hsome)
      have hquoted := getLast?_taken (a.1 ++ '=' :: '"' :: escape a.2) '"' (writeAttrs as ++ ending)
      simp only [List.append_assoc, List.cons_append] at hquoted
      have hnext (b : Bool) :
          (b || Option.any (fun c => c == '\'' || c == '"') (some '"')) = true := by simp
      simp only [hquoted, hnext, hrest, List.map_cons]

end Token

/-! ## Tags -/

/-- The ends of a start tag. -/
inductive Ending where
  | angle
  | slash
  | spacedSlash
  deriving DecidableEq, Repr

/-- An end as it is written. -/
def Ending.written : Ending → Text
  | .angle => ">".toList
  | .slash => "/>".toList
  | .spacedSlash => " />".toList

/-- Whether a tag that ends so has no content. -/
def Ending.closes : Ending → Bool
  | .angle => false
  | _ => true

/-- A start tag to be written: its name and attributes in any case, the attributes with their
values. -/
structure StartTag where
  name : Text
  attrs : List (Text × Text)
  ending : Ending
  isName : IsName name
  areTags : ∀ a ∈ attrs, Xml.IsTag a.1

/-- A start tag as it is written. -/
def StartTag.written (t : StartTag) : Text :=
  '<' :: (t.name ++ (writeAttrs t.attrs ++ t.ending.written))

/-- The token of a start tag. -/
def StartTag.token (t : StartTag) : Token :=
  .startTag (Text.lower t.name) (t.attrs.map Attr.ofPair) t.ending.closes

/-- The raw element that a start tag opens. -/
def StartTag.opens (t : StartTag) : Option Text :=
  if t.ending.closes = false ∧ Token.isRaw (Text.lower t.name) = true then some (Text.lower t.name)
  else none

namespace Token

theorem skipSeparators_ending (e : Ending) (rest : Text) :
    skipSeparators (e.written ++ rest) =
      (if e.closes then "/>".toList else ">".toList) ++ rest := by
  cases e <;> simp [Ending.written, Ending.closes, skipSeparators, Text.isBlank]

theorem attr?_ending (e : Ending) (rest : Text) :
    attr? (skipSeparators (e.written ++ rest)) = none := by
  rw [skipSeparators_ending]
  cases e <;> simp [Ending.closes, attr?]

/-- The name of a tag is cut off in front of its attributes. -/
theorem run_name (t : StartTag) (rest : Text) :
    Text.run isNameChar (t.name ++ (writeAttrs t.attrs ++ (t.ending.written ++ rest))) =
      (t.name, writeAttrs t.attrs ++ (t.ending.written ++ rest)) := by
  have hname : ∀ d ∈ t.name, isNameChar d = true := fun d hd =>
    isNameChar_of_isAlphanum (t.isName.alphanumeric d hd)
  have hend : ∃ c u, writeAttrs t.attrs ++ (t.ending.written ++ rest) = c :: u ∧
      isNameChar c = false := by
    cases t.attrs with
    | nil => cases t.ending <;> exact ⟨_, _, rfl, by decide⟩
    | cons a as => exact ⟨_, _, rfl, by decide⟩
  obtain ⟨c, u, hcu, hc⟩ := hend
  rw [hcu]
  exact Text.run_append hname hc u

/-- A start tag whose attributes are read in front of its end. -/
theorem startStep_of_attrs {s t name behind rest : Text} {as : List (Text × Text)} {closes : Bool}
    (hs : t.length < s.length) (hrun : Text.run isNameChar t = (name, behind))
    (hattrs : ∀ b, attrs (decide ((skipSeparators behind).length < behind.length) || b)
      (skipSeparators behind) =
        (as.map Attr.writtenFor, (if closes then "/>".toList else ">".toList) ++ rest)) :
    ∃ shorter, startStep s t hs =
      .emit [.startTag (Text.lower name) (as.map Attr.ofPair) closes]
      (if closes = false ∧ isRaw (Text.lower name) = true then some (Text.lower name) else none)
      rest shorter := by
  have hshort : rest.length < s.length := by
    have hleft := length_attrs (decide ((skipSeparators behind).length < behind.length) || false)
      (skipSeparators behind)
    have hskip := length_skipSeparators behind
    have hbehind := Text.length_dropWhile_le isNameChar t
    rw [(Prod.mk.inj hrun).2] at hbehind
    rw [hattrs, List.length_append] at hleft
    omega
  obtain ⟨rfl, rfl⟩ := Prod.mk.inj hrun
  refine ⟨hshort, ?_⟩
  have hresolved : (as.map Attr.writtenFor).map resolve = as.map Attr.ofPair := by
    simp [resolve_writtenFor]
  simp only [startStep]
  cases closes with
  | false =>
    split
    · next h => simp [hattrs] at h
    · next u h =>
      obtain rfl : rest = u := by simpa [hattrs] using h
      simp [hattrs, hresolved, unlessTooLong_written]
    · next h => simp [hattrs] at h
    · next c u hangle _ h =>
      have hc : '>' = c := by simpa [hattrs] using congrArg List.head? h
      exact absurd hc.symm hangle
  | true =>
    split
    · next h => simp [hattrs] at h
    · next h => simp [hattrs] at h
    · next u h =>
      obtain rfl : rest = u := by simpa [hattrs] using h
      simp [hattrs, hresolved, unlessTooLong_written]
    · next c u _ hslash h =>
      have hcu : '/' :: '>' :: rest = c :: u := by simpa [hattrs] using h
      obtain ⟨rfl, rfl⟩ := List.cons.inj hcu
      exact absurd rfl (hslash rest rfl)

theorem startStep_written (t : StartTag) (rest s : Text)
    (hs : (t.name ++ (writeAttrs t.attrs ++ (t.ending.written ++ rest))).length < s.length) :
    ∃ shorter, startStep s (t.name ++ (writeAttrs t.attrs ++ (t.ending.written ++ rest))) hs =
      .emit [t.token] t.opens rest shorter := by
  refine startStep_of_attrs hs (run_name t rest) fun b => ?_
  rw [← skipSeparators_ending]
  refine attrs_writeAttrs t.areTags (attr?_ending t.ending rest) fun has => ?_
  obtain ⟨a, as, hcons⟩ := List.exists_cons_of_ne_nil has
  have hblank : writeAttrs (a :: as) ++ (t.ending.written ++ rest) = ' ' ::
      (a.1 ++ "=\"".toList ++ escape a.2 ++ ['"'] ++ writeAttrs as ++
        (t.ending.written ++ rest)) := by
    simp [writeAttrs, Xml.writeAttributes]
  have := length_skipSeparators
    (a.1 ++ "=\"".toList ++ escape a.2 ++ ['"'] ++ writeAttrs as ++ (t.ending.written ++ rest))
  rw [hcons, hblank, skipSeparators, if_pos (by decide)]
  simp only [List.length_cons, Bool.or_eq_true, decide_eq_true_eq]
  omega

theorem markupStep_letter {c : Char} (hc : c.isAlpha = true) (s t : Text)
    (hs : (c :: t).length < s.length) : markupStep s (c :: t) hs = startStep s (c :: t) hs := by
  have hslash : c ≠ '/' := by rintro rfl; exact absurd hc (by decide)
  have hquestion : c ≠ '?' := by rintro rfl; exact absurd hc (by decide)
  have hbang : c ≠ '!' := by rintro rfl; exact absurd hc (by decide)
  rw [markupStep.eq_7 s c t hs hslash hquestion (fun _ _ _ h _ => hbang h)
    (fun _ _ _ h _ => hbang h) hbang]
  exact if_pos hc

/-- A construct that is complete is emitted in the first round. -/
theorem step_markup {t rest : Text} {out : List Token} {raw : Option Text}
    {shorter : rest.length < ('<' :: t).length}
    (hmarkup : markupStep ('<' :: t) t (Nat.lt_succ_self _) = .emit out raw rest shorter) :
    step false none ('<' :: t) (by simp) = .emit out raw rest shorter := by
  simp only [step, if_true, hmarkup]

/-- A start tag is emitted with its attributes. -/
theorem step_startTag (t : StartTag) (rest : Text) :
    ∃ filled shorter, step false none (t.written ++ rest) filled =
      .emit [t.token] t.opens rest shorter := by
  have hwritten : t.written ++ rest =
      '<' :: (t.name ++ (writeAttrs t.attrs ++ (t.ending.written ++ rest))) := by
    simp [StartTag.written]
  obtain ⟨shorter, hstart⟩ := startStep_written t rest
    ('<' :: (t.name ++ (writeAttrs t.attrs ++ (t.ending.written ++ rest)))) (Nat.lt_succ_self _)
  obtain ⟨c, u, hu, halpha⟩ := t.isName.exists_cons
  rw [hwritten]
  refine ⟨by simp, shorter, step_markup ?_⟩
  rw [← hstart]
  simp only [hu, List.cons_append]
  exact markupStep_letter halpha _ _ _

end Token

/-! ## End tags -/

/-- An end tag as it is written. -/
def writeEnd (name : Text) : Text := '<' :: '/' :: (name ++ ['>'])

namespace Token

theorem plainEnd?_append {name : Text} (h : IsName name) (rest : Text) :
    plainEnd? (name ++ '>' :: rest) = some (Text.lower name, rest) := by
  obtain ⟨c, u, rfl, halpha⟩ := h.exists_cons
  have hblank := not_isBlank_of_isAlphanum (h.alphanumeric c (by simp))
  obtain ⟨htake, hdrop⟩ := Prod.mk.inj (Text.run_append (p := isEndNameChar) (s := u) (c := '>')
    (fun d hd => isEndNameChar_of_isAlphanum (h.alphanumeric d (List.mem_cons_of_mem c hd)))
    (by decide) rest)
  have hangle : ('>' :: rest).dropWhile Text.isBlank = '>' :: rest := rfl
  simp [plainEnd?, hblank, isLetter, halpha, htake, hdrop, hangle]

theorem step_endTag {name : Text} (h : IsName name) (rest : Text) :
    ∃ filled shorter, step false none (writeEnd name ++ rest) filled =
      .emit [.endTag (Text.lower name)] none rest shorter := by
  have hwritten : writeEnd name ++ rest = '<' :: '/' :: (name ++ '>' :: rest) := by simp [writeEnd]
  have hcut : Text.cutChar? '>' (name ++ '>' :: rest) = some (name, rest) :=
    Text.cutChar?_eq_some.2 ⟨rfl, fun hmem =>
      absurd (h.alphanumeric _ hmem) (by decide)⟩
  rw [hwritten]
  refine ⟨by simp, by simp; omega, step_markup ?_⟩
  simp only [markupStep, endStep]
  split
  · next hnone => rw [hcut] at hnone; cases hnone
  · split
    · next hsome =>
      rw [plainEnd?_append h] at hsome
      cases hsome
      rfl
    · next hnone => rw [plainEnd?_append h] at hnone; cases hnone

end Token

/-! ## Comments -/

/-- A comment as it is written. -/
def writeComment (c : Text) : Text := "<!--".toList ++ (c ++ "-->".toList)

namespace Token

theorem search?_commentEnd? {c : Text} (h : '-' ∉ c) (rest : Text) :
    Text.search? commentEnd? (c ++ ("-->".toList ++ rest)) = some (c, rest) := by
  induction c with
  | nil => rfl
  | cons d c ih =>
    have hd : '-' ≠ d := fun hd => h (hd ▸ List.mem_cons_self ..)
    have hnone : commentEnd? (d :: (c ++ ("-->".toList ++ rest))) = none := by
      simp [commentEnd?, Text.after?, hd]
    simp only [List.cons_append, Text.search?, hnone, ih fun hc => h (List.mem_cons_of_mem d hc),
      Option.map_some]

theorem step_comment {c : Text} (h : '-' ∉ c) (rest : Text) :
    ∃ filled shorter, step false none (writeComment c ++ rest) filled =
      .emit [.comment] none rest shorter := by
  have hwritten : writeComment c ++ rest =
      '<' :: '!' :: '-' :: '-' :: (c ++ ("-->".toList ++ rest)) := by simp [writeComment]
  rw [hwritten]
  refine ⟨by simp, by simp; omega, step_markup ?_⟩
  simp only [markupStep, commentStep]
  split
  · next hsome =>
    rw [search?_commentEnd? h] at hsome
    cases hsome
    rfl
  · next hnone => rw [search?_commentEnd? h] at hnone; cases hnone

end Token

/-! ## Raw elements -/

/-- A raw element as it is written: its start tag, its content and its end tag. -/
def writeRaw (name body : Text) : Text := '<' :: (name ++ '>' :: (body ++ writeEnd name))

/-- The start tag of a raw element. -/
def StartTag.bare (name : Text) (isName : IsName name) : StartTag where
  name := name
  attrs := []
  ending := .angle
  isName := isName
  areTags := by simp

namespace Token

theorem isRaw_iff {name : Text} :
    isRaw name = true ↔ name = "script".toList ∨ name = "style".toList := by
  simp only [isRaw, Bool.or_eq_true, decide_eq_true_eq]

theorem isName_of_isRaw {name : Text} (h : isRaw name = true) : IsName name := by
  rcases isRaw_iff.1 h with rfl | rfl <;> exact isName_of_isTag (by decide)

theorem lower_of_isRaw {name : Text} (h : isRaw name = true) : Text.lower name = name := by
  rcases isRaw_iff.1 h with rfl | rfl <;> decide

theorem rawEnd?_writeEnd {name : Text} (h : isRaw name = true) (rest : Text) :
    rawEnd? name (writeEnd name ++ rest) = some rest := by
  rcases isRaw_iff.1 h with rfl | rfl <;> rfl

/-- The content of a raw element ends at its end tag. -/
theorem search?_rawEnd? {name body : Text} (hraw : isRaw name = true)
    (hbody : ¬ "</".toList <:+: body) (rest : Text) :
    Text.search? (rawEnd? name) (body ++ (writeEnd name ++ rest)) = some (body, rest) := by
  induction body with
  | nil =>
    have hend := rawEnd?_writeEnd hraw rest
    simp only [writeEnd, List.cons_append] at hend
    simp only [writeEnd, List.nil_append, List.cons_append, Text.search?, hend]
  | cons c body ih =>
    have hrest := ih fun hpart => hbody (hpart.trans (List.suffix_cons c body).isInfix)
    have hnone : rawEnd? name (c :: (body ++ (writeEnd name ++ rest))) = none := by
      have hafter : Text.after? "</".toList (c :: (body ++ (writeEnd name ++ rest))) = none := by
        cases body with
        | nil => simp [Text.after?, writeEnd]
        | cons d body =>
          refine Text.after?_eq_none_iff.2 ?_
          rintro ⟨r, hr⟩
          obtain ⟨rfl, htail⟩ := List.cons.inj hr
          obtain ⟨rfl, -⟩ := List.cons.inj htail
          exact hbody ⟨[], body, rfl⟩
      rw [rawEnd?, hafter, Option.bind_none]
    simp only [List.cons_append, Text.search?, hnone, hrest, Option.map_some]

theorem step_raw {name body : Text} (hraw : isRaw name = true) (hbody : ¬ "</".toList <:+: body)
    (rest : Text) :
    ∃ filled shorter, step false (some name) (body ++ (writeEnd name ++ rest)) filled =
      .emit [.text body, .endTag name] none rest shorter := by
  have hshort : rest.length < (body ++ (writeEnd name ++ rest)).length := by
    simp [writeEnd]
    omega
  have hfilled : body ++ (writeEnd name ++ rest) ≠ [] := by simp [writeEnd]
  refine ⟨hfilled, hshort, ?_⟩
  simp only [step, search?_rawEnd? hraw hbody, hshort, dite_true]

end Token

/-! ## The tokens of what is written -/

/-- A tag opens no raw element when its name is none of some, the raw ones among them. -/
theorem StartTag.opens_eq_none {t : StartTag} {names : List Text}
    (hraw : "script".toList ∈ names ∧ "style".toList ∈ names) (h : Text.lower t.name ∉ names) :
    t.opens = none := by
  have hopen : ¬ Token.isRaw (Text.lower t.name) = true := by
    rw [Token.isRaw_iff]
    rintro (hname | hname) <;> rw [hname] at h
    · exact h hraw.1
    · exact h hraw.2
  simp [opens, hopen]

/-- A tag has its own token, whatever follows it; a start tag must not open a raw element. -/
theorem spelled_startTag {t : StartTag} (h : t.opens = none) (rest : Text) :
    spelled (t.written ++ rest) = (spelled rest).map (t.token :: ·) := by
  obtain ⟨filled, shorter, hstep⟩ := Token.step_startTag t rest
  rw [h] at hstep
  rw [spelled_of_emit hstep]
  rfl

theorem spelled_endTag {name : Text} (h : IsName name) (rest : Text) :
    spelled (writeEnd name ++ rest) = (spelled rest).map (.endTag (Text.lower name) :: ·) := by
  obtain ⟨filled, shorter, hstep⟩ := Token.step_endTag h rest
  rw [spelled_of_emit hstep]
  rfl

theorem spelled_comment {c : Text} (h : '-' ∉ c) (rest : Text) :
    spelled (writeComment c ++ rest) = (spelled rest).map (.comment :: ·) := by
  obtain ⟨filled, shorter, hstep⟩ := Token.step_comment h rest
  rw [spelled_of_emit hstep]
  rfl

theorem spelled_raw {name body : Text} (hraw : Token.isRaw name = true)
    (hbody : ¬ "</".toList <:+: body) (rest : Text) :
    spelled (writeRaw name body ++ rest) = (spelled rest).map
      ((.startTag name [] false :: Token.letters (.text body)) ++ [.endTag name] ++ ·) := by
  have hname := Token.isName_of_isRaw hraw
  have hlower := Token.lower_of_isRaw hraw
  obtain ⟨_, _, hstart⟩ := Token.step_startTag (.bare name hname) (body ++ (writeEnd name ++ rest))
  obtain ⟨_, _, hcontent⟩ := Token.step_raw hraw hbody rest
  have hwritten : writeRaw name body ++ rest =
      (StartTag.bare name hname).written ++ (body ++ (writeEnd name ++ rest)) := by
    simp [writeRaw, StartTag.bare, StartTag.written, writeAttrs, Xml.writeAttributes,
      Ending.written]
  have hopens : (StartTag.bare name hname).opens = some name := by
    simp [StartTag.opens, StartTag.bare, Ending.closes, hlower, hraw]
  rw [hopens] at hstart
  rw [spelled, tokens, hwritten, Token.read_of_emit hstart, Token.read_of_emit hcontent, spelled,
    tokens]
  cases Token.read false none rest <;>
    simp [Except.map, Token.letters, StartTag.token, StartTag.bare, Ending.closes, hlower]

end FeedPage.Html
