-- SUMMARY: Markup as it is written, escaped text and tags with plain attributes, and the tokens that it is cut into.
import FeedPage.Proofs.Xml.Content
import FeedPage.Xml.Event

/-!
# Written markup

Whoever writes a document escapes its texts (`Escaped`) and puts names and attributes into tags.
Such markup is cut into the tokens that were meant, wherever it stands: the token of a tag ends with
it, and text ends at the next tag or reference.
-/

namespace FeedPage

/-- A text that lacks a character of a literal does not begin with the literal. -/
theorem Text.after?_eq_none {c : Char} {lit s : Text} (hc : c ∈ lit) (h : c ∉ s) :
    Text.after? lit s = none :=
  Text.after?_eq_none_iff.2 fun hfront => h (hfront.subset hc)

/-- A literal is not found in a text that lacks one of its characters. -/
theorem Text.cut?_eq_none {c : Char} {lit s : Text} (hc : c ∈ lit) (h : c ∉ s) :
    Text.cut? lit s = none := by
  have hafter := Text.after?_eq_none hc h
  unfold Text.cut?
  induction s with
  | nil => simp [Text.search?, hafter]
  | cons d s ih =>
    have hs : c ∉ s := fun hs => h (List.mem_cons_of_mem d hs)
    simp [Text.search?, hafter, ih hs (Text.after?_eq_none hc hs)]

namespace Xml

/-! ## Escaped text -/

/-- Characters that stand for themselves in escaped text. -/
def isSafe (c : Char) : Bool := c ≠ '<' && c ≠ '>' && c ≠ '&' && isDocumentChar c

/-- A text as it is written between tags, and the text that is meant: the characters of markup are
references, and others may be. -/
inductive Escaped : Text → Text → Prop where
  | nil : Escaped [] []
  | char {c : Char} {written meant : Text} (safe : isSafe c = true)
    (rest : Escaped written meant) : Escaped (c :: written) (c :: meant)
  | reference {r written meant : Text} {c : Char} (reference : Reference r c)
    (rest : Escaped written meant) : Escaped ('&' :: r ++ ';' :: written) (c :: meant)

/-- A text of safe characters is escaped as it is. -/
theorem Escaped.of_safe {s : Text} (safe : ∀ c ∈ s, isSafe c = true) : Escaped s s := by
  induction s with
  | nil => exact .nil
  | cons c s ih =>
    exact .char (safe c (by simp)) (ih fun d hd => safe d (List.mem_cons_of_mem c hd))

/-- Escaped text by its longest runs of safe characters. -/
inductive Runs : Text → Text → Prop where
  | nil : Runs [] []
  | run {s written meant : Text} (safe : ∀ c ∈ s, isSafe c = true) (filled : s ≠ [])
    (apart : ∀ c ∈ written.head?, c = '&') (rest : Runs written meant) :
    Runs (s ++ written) (s ++ meant)
  | reference {r written meant : Text} {c : Char} (reference : Reference r c)
    (rest : Runs written meant) : Runs ('&' :: r ++ ';' :: written) (c :: meant)

theorem Runs.char {c : Char} {written meant : Text} (safe : isSafe c = true)
    (h : Runs written meant) : Runs (c :: written) (c :: meant) := by
  have hc : ∀ d ∈ [c], isSafe d = true := by simpa using safe
  cases h with
  | nil => exact .run hc (by simp) (by simp) .nil
  | @run s written meant hs filled apart rest =>
    refine .run (s := c :: s) ?_ (by simp) apart rest
    simpa [safe] using hs
  | reference reference rest => exact .run hc (by simp) (by simp) (.reference reference rest)

theorem Escaped.runs {written meant : Text} (h : Escaped written meant) : Runs written meant := by
  induction h with
  | nil => exact .nil
  | char safe _ ih => exact ih.char safe
  | reference reference _ ih => exact .reference reference ih

/-! ## References -/

/-- The names that need no declaration. -/
def predefinedNames : List Text := ["lt", "gt", "amp", "apos", "quot"].map String.toList

theorem mem_predefinedNames {name : Text} {c : Char} (h : predefined? name = some c) :
    name ∈ predefinedNames := by
  refine Decidable.byContradiction fun hnone => ?_
  simp only [predefinedNames, List.map_cons, List.map_nil, List.mem_cons, List.not_mem_nil, or_false,
    not_or] at hnone
  obtain ⟨hlt, hgt, hamp, hapos, hquot⟩ := hnone
  rw [predefined?, if_neg hlt, if_neg hgt, if_neg hamp, if_neg hapos, if_neg hquot] at h
  cases h

/-- The part is this character, by number or by name. -/
def Part.IsChar (p : Part) (c : Char) : Prop :=
  p = .char c ∨ ∃ name, p = .entity name ∧ predefined? name = some c

theorem numbered?_toNat {c : Char} (legal : isDocumentChar c = true) :
    numbered? c.toNat = some c := by
  simp [numbered?, show c.toNat.isValidChar from c.valid, Char.ofNat_toNat, legal]

theorem digits?_append {isDigit : Char → Bool} {value : Text → Nat} {ds : Text} {c : Char}
    (digits : ds ≠ [] ∧ ∀ d ∈ ds, isDigit d = true) (hend : isDigit ';' = false)
    (code : value ds = c.toNat) (legal : isDocumentChar c = true) (s : Text) :
    digits? isDigit value (ds ++ ';' :: s) = some (.char c, s) := by
  obtain ⟨htake, hdrop⟩ := Prod.mk.inj (Text.run_append digits.2 hend s)
  simp only [digits?, htake, hdrop, code, numbered?_toNat legal, Option.map_some]
  obtain ⟨d, t, rfl⟩ := List.exists_cons_of_ne_nil digits.1
  rfl

/-- The reader finds the character that a reference refers to. -/
theorem Reference.reference?_append {r : Text} {c : Char} (h : Reference r c) :
    ∃ p : Part, p.IsChar c ∧ ∀ s, reference? (r ++ ';' :: s) = some (p, s) := by
  cases h with
  | named known =>
    have hread : ∀ name ∈ predefinedNames, ∀ s,
        reference? (name ++ ';' :: s) = some (.entity name, s) := by
      simp only [predefinedNames, List.map_cons, List.map_nil, List.forall_mem_cons]
      exact ⟨fun _ => rfl, fun _ => rfl, fun _ => rfl, fun _ => rfl, fun _ => rfl, by simp⟩
    exact ⟨.entity r, .inr ⟨r, rfl, known⟩, hread r (mem_predefinedNames known)⟩
  | @decimal ds _ digits code legal =>
    refine ⟨.char c, .inl rfl, fun s => ?_⟩
    have hx : ∀ t, ds ++ ';' :: s ≠ 'x' :: t := by
      obtain ⟨d, ds, rfl⟩ := List.exists_cons_of_ne_nil digits.1
      have hd := digits.2 d (by simp)
      rintro t ht
      obtain ⟨rfl, -⟩ := List.cons.inj ht
      exact absurd hd (by decide)
    rw [List.cons_append, reference?.eq_2 _ hx]
    exact digits?_append digits (by decide) code legal s
  | @hexadecimal ds _ digits code legal =>
    refine ⟨.char c, .inl rfl, fun s => ?_⟩
    exact digits?_append digits (by decide) code legal s

/-! ## Tokens of text -/

namespace Token

theorem all?_nil : all? [] = some [] := by
  rw [all?]
  rfl

/-- A token at the front is the first one. -/
theorem all?_of_next? {s rest : Text} {t : Token} (h : next? s = some (t, rest)) :
    all? s = (all? rest).map (t :: ·) := by
  have hs : s.isEmpty = false := by
    cases s with
    | nil => cases h
    | cons c s => rfl
  rw [all?, if_neg (by simp [hs])]
  split
  · next hnone => rw [h] at hnone; cases hnone
  · next hsome =>
    rw [h, Option.some.injEq, Prod.mk.injEq] at hsome
    rw [hsome.1, hsome.2]

/-- The token is a reference to this character, by number or by name. -/
def IsChar (t : Token) (c : Char) : Prop :=
  t = .char c ∨ ∃ name, t = .entity name ∧ predefined? name = some c

/-- A reference to a character is a token. -/
theorem next?_reference {r : Text} {c : Char} (h : Reference r c) :
    ∃ t : Token, t.IsChar c ∧ ∀ s, next? ('&' :: r ++ ';' :: s) = some (t, s) := by
  obtain ⟨p, hp, hread⟩ := h.reference?_append
  rcases hp with rfl | ⟨name, rfl, hname⟩
  · exact ⟨.char c, .inl rfl, fun s => by simp [next?, hread]⟩
  · exact ⟨.entity name, .inr ⟨name, rfl, hname⟩, fun s => by simp [next?, hread]⟩

theorem isTextChar_of_isSafe {c : Char} (h : isSafe c = true) : isTextChar c = true := by
  simp only [isSafe, Bool.and_eq_true, decide_eq_true_eq] at h
  simp [isTextChar, h.1.1.1, h.1.2]

/-- A run of safe characters is one token, when a tag or a reference follows. -/
theorem next?_run {s rest : Text} (safe : ∀ c ∈ s, isSafe c = true) (filled : s ≠ [])
    (apart : ∃ c ∈ rest.head?, isTextChar c = false) :
    next? (s ++ rest) = some (.text s, rest) := by
  obtain ⟨c, hc, hend⟩ := apart
  obtain ⟨t, rfl⟩ := List.head?_eq_some_iff.1 hc
  have htext : ∀ d ∈ s, isTextChar d = true := fun d hd => isTextChar_of_isSafe (safe d hd)
  obtain ⟨htake, hdrop⟩ := Prod.mk.inj (Text.run_append htext hend t)
  have hlegal : s.all isDocumentChar = true := by
    rw [List.all_eq_true]
    intro d hd
    have := safe d hd
    simp only [isSafe, Bool.and_eq_true] at this
    exact this.2
  have hcut : Text.cut? "]]>".toList s = none := by
    refine Text.cut?_eq_none (c := '>') (by decide) fun hmem => ?_
    have := safe _ hmem
    exact absurd this (by decide)
  obtain ⟨d, u, rfl⟩ := List.exists_cons_of_ne_nil filled
  have hd := htext d (by simp)
  simp only [isTextChar, Bool.and_eq_true, decide_eq_true_eq] at hd
  rw [next?.eq_def]
  split
  all_goals simp_all

end Token

/-! ## Names -/

/-- A name of letters. -/
def IsTag (name : Text) : Prop := name ≠ [] ∧ ∀ c ∈ name, c.isAlpha = true

instance (name : Text) : Decidable (IsTag name) :=
  inferInstanceAs (Decidable (name ≠ [] ∧ ∀ c ∈ name, c.isAlpha = true))

/-- Letters are characters of ASCII. -/
theorem toNat_lt_of_isAlpha {c : Char} (h : c.isAlpha = true) : c.toNat < 128 := by
  have := Text.toNat_of_isAlphanum (Text.isAlphanum_of_isAlpha h)
  omega

theorem isNameStart_of_isAlpha {c : Char} (h : c.isAlpha = true) : isNameStart c = true := by
  simp [isNameStart, toNat_lt_of_isAlpha h, h]

/-- A name without a qualifier. -/
structure IsBaseName (name : Text) : Prop where
  isName : IsName name
  unqualified : ':' ∉ name

theorem IsTag.isBaseName {name : Text} (h : IsTag name) : IsBaseName name where
  isName := by
    obtain ⟨c, t, rfl⟩ := List.exists_cons_of_ne_nil h.1
    refine ⟨.inl (isNameStart_of_isAlpha (h.2 c (by simp))), fun d hd => .inl ?_⟩
    exact isNameChar_of_isNameStart (isNameStart_of_isAlpha (h.2 d (List.mem_cons_of_mem c hd)))
  unqualified hcolon := absurd (h.2 ':' hcolon) (by decide)

theorem IsBaseName.exists_cons {name : Text} (h : IsBaseName name) :
    ∃ c t, name = c :: t ∧ isNameStart c = true ∧ ∀ d ∈ c :: t, isNameChar d = true := by
  obtain ⟨isName, unqualified⟩ := h
  cases name with
  | nil => exact isName.elim
  | cons c t =>
    have hc : isNameStart c = true := isName.1.resolve_right fun h => unqualified (by simp [h])
    refine ⟨c, t, rfl, hc, fun d hd => ?_⟩
    rcases List.mem_cons.1 hd with rfl | hd
    · exact isNameChar_of_isNameStart hc
    · refine (isName.2 d hd).resolve_right fun h => unqualified ?_
      exact List.mem_cons_of_mem c (h ▸ hd)

/-- A name without a qualifier is read up to a character that is none of a name. -/
theorem Name.read?_append {name rest : Text} (h : IsBaseName name)
    (apart : ∃ c ∈ rest.head?, isNameChar c = false ∧ c ≠ ':') :
    Name.read? (name ++ rest) = some (⟨none, name⟩, rest) := by
  obtain ⟨c, hc, hend, hcolon⟩ := apart
  obtain ⟨t, rfl⟩ := List.head?_eq_some_iff.1 hc
  obtain ⟨d, u, rfl, hstart, hname⟩ := h.exists_cons
  have hword : word? (d :: u ++ c :: t) = some (d :: u, c :: t) := by
    have hrun := Text.run_append hname hend t
    rw [List.cons_append] at hrun ⊢
    simp only [word?, hstart, if_true, hrun]
  rw [Name.read?, hword]
  split
  · next h => cases h
  · next h => cases h; exact absurd rfl hcolon
  · next h => cases h; rfl

/-! ## Attributes -/

/-- An attribute of letters with a value in which nothing has a meaning. -/
structure IsPlainAttribute (a : Text × Text) : Prop where
  isTag : IsTag a.1
  legal : ∀ c ∈ a.2, isDocumentChar c = true
  plain : ∀ c ∈ a.2, c ≠ '<' ∧ c ≠ '&' ∧ c ≠ '"'
  space : ∀ c ∈ a.2, isSpace c = true → c = ' '

/-- Attributes as they are written behind the name of a tag. -/
def writeAttributes (attrs : List (Text × Text)) : Text :=
  attrs.flatMap fun (name, value) => ' ' :: name ++ "=\"".toList ++ value ++ ['"']

/-- The attribute that is read. -/
def Attr.ofPlain (a : Text × Text) : Attr := ⟨⟨none, a.1⟩, a.2.map .plain⟩

namespace Token

theorem dropWhile_blank {gap : Text} (blank : Blank gap) (s : Text) :
    (gap ++ s).dropWhile isSpace = s.dropWhile isSpace := List.dropWhile_append_of_pos blank

theorem isNameChar_of_isSpace {c : Char} (h : isSpace c = true) :
    isNameChar c = false ∧ c ≠ ':' :=
  of_isSpace (P := fun c => isNameChar c = false ∧ c ≠ ':') h (by decide)

theorem head?_blank_append {gap : Text} (blank : Blank gap) {s : Text}
    (hs : ∃ c ∈ s.head?, isNameChar c = false ∧ c ≠ ':') :
    ∃ c ∈ (gap ++ s).head?, isNameChar c = false ∧ c ≠ ':' := by
  cases gap with
  | nil => exact hs
  | cons c gap => exact ⟨c, rfl, isNameChar_of_isSpace (blank c (by simp))⟩

/-- An attribute is read with white space around its equals sign. -/
theorem attr?_append {a : Text × Text} (h : IsPlainAttribute a) {before after : Text}
    (around : Blank before ∧ Blank after) (rest : Text) :
    attr? (a.1 ++ (before ++ '=' :: (after ++ '"' :: (a.2 ++ '"' :: rest)))) =
      some (Attr.ofPlain a, rest) := by
  have hname := Name.read?_append h.isTag.isBaseName (head?_blank_append around.1
    ⟨'=', by simp, by decide, by decide⟩ : ∃ c ∈
      (before ++ '=' :: (after ++ '"' :: (a.2 ++ '"' :: rest))).head?, _)
  have hcut : Text.cutChar? '"' (a.2 ++ '"' :: rest) = some (a.2, rest) :=
    Text.cutChar?_eq_some.2 ⟨rfl, fun hmem => (h.plain _ hmem).2.2 rfl⟩
  have hparts : parts? barredInValues a.2 = some (a.2.map .plain) :=
    parts?_plain fun c hc =>
      ⟨(h.plain c hc).2.1, by simp [barredInValues, (h.plain c hc).1], h.legal c hc⟩
  have hequals : (before ++ '=' :: (after ++ '"' :: (a.2 ++ '"' :: rest))).dropWhile isSpace =
      '=' :: (after ++ '"' :: (a.2 ++ '"' :: rest)) := dropWhile_blank around.1 _
  have hquote : (after ++ '"' :: (a.2 ++ '"' :: rest)).dropWhile isSpace =
      '"' :: (a.2 ++ '"' :: rest) := dropWhile_blank around.2 _
  simp [attr?, hname, hequals, hquote, literal?, hcut, hparts, Attr.ofPlain]

theorem isSpace_of_isAlpha {c : Char} (h : c.isAlpha = true) : isSpace c = false := by
  rw [Bool.eq_false_iff]
  intro hspace
  exact of_isSpace (P := fun c => ¬ c.isAlpha = true) hspace (by decide) h

/-- The end of a tag is read behind white space. -/
theorem tagRest?_end {gap : Text} (blank : Blank gap) (rest : Text) :
    tagRest? (gap ++ '>' :: rest) = some ([], false, rest) := by
  have hdrop : (gap ++ '>' :: rest).dropWhile isSpace = '>' :: rest := dropWhile_blank blank _
  rw [tagRest?]
  split
  · next h => rw [hdrop] at h; rw [(List.cons.inj h).2]
  · next h => rw [hdrop] at h; cases h
  · next hend _ => exact (hend rest hdrop).elim

theorem tagRest?_close (rest : Text) : tagRest? ('/' :: '>' :: rest) = some ([], true, rest) := by
  rw [tagRest?]
  rfl

/-- An attribute behind white space is the first one that is read. -/
theorem tagRest?_cons {a : Text × Text} (h : IsPlainAttribute a) {gap before after : Text}
    (apart : gap ≠ [] ∧ Blank gap) (around : Blank before ∧ Blank after) (rest : Text) :
    tagRest? (gap ++ (a.1 ++ (before ++ '=' :: (after ++ '"' :: (a.2 ++ '"' :: rest))))) =
      (tagRest? rest).map fun (as, ends, rest) => (Attr.ofPlain a :: as, ends, rest) := by
  have hattr := attr?_append h around rest
  obtain ⟨c, t, hct⟩ := List.exists_cons_of_ne_nil h.isTag.1
  have hc := h.isTag.2 c (by simp [hct])
  rw [hct] at hattr ⊢
  generalize hs : c :: t ++ (before ++ '=' :: (after ++ '"' :: (a.2 ++ '"' :: rest))) = s at hattr ⊢
  have hdrop : (gap ++ s).dropWhile isSpace = s := by
    rw [dropWhile_blank apart.2, ← hs]
    simp [isSpace_of_isAlpha hc]
  have hend : ∀ u, s ≠ '>' :: u := by
    rintro u rfl
    obtain ⟨rfl, -⟩ := List.cons.inj hs
    exact absurd hc (by decide)
  have hslash : ∀ u, s ≠ '/' :: '>' :: u := by
    rintro u rfl
    obtain ⟨rfl, -⟩ := List.cons.inj hs
    exact absurd hc (by decide)
  have hhead : ((gap ++ s).head?.any isSpace) = true := by
    obtain ⟨d, gap, rfl⟩ := List.exists_cons_of_ne_nil apart.1
    exact apart.2 d (by simp)
  rw [tagRest?]
  split
  · next h => exact (hend _ (hdrop.symm.trans h)).elim
  · next h => exact (hslash _ (hdrop.symm.trans h)).elim
  · rw [if_pos hhead]
    split
    · next hnone => rw [hdrop, hattr] at hnone; cases hnone
    · next hsome =>
      rw [hdrop, hattr] at hsome
      cases hsome
      rfl

/-- Written attributes are read in front of the end of a tag. -/
theorem tagRest?_writeAttributes {attrs : List (Text × Text)}
    (h : ∀ a ∈ attrs, IsPlainAttribute a) {ending rest : Text} {ends : Bool}
    (hend : tagRest? ending = some ([], ends, rest)) :
    tagRest? (writeAttributes attrs ++ ending) = some (attrs.map Attr.ofPlain, ends, rest) := by
  induction attrs with
  | nil => exact hend
  | cons a attrs ih =>
    have hrest := ih fun b hb => h b (List.mem_cons_of_mem a hb)
    have hcons := tagRest?_cons (h a (List.mem_cons_self ..))
      (by decide : [' '] ≠ [] ∧ Blank [' ']) (by decide : Blank [] ∧ Blank [])
      (writeAttributes attrs ++ ending)
    rw [hrest] at hcons
    simpa [writeAttributes] using hcons

/-! ## Tags -/

theorem head?_writeAttributes_append (attrs : List (Text × Text)) {ending : Text}
    (hend : ∃ c ∈ ending.head?, isNameChar c = false ∧ c ≠ ':') :
    ∃ c ∈ (writeAttributes attrs ++ ending).head?, isNameChar c = false ∧ c ≠ ':' := by
  cases attrs with
  | nil => exact hend
  | cons a attrs => exact ⟨' ', by simp [writeAttributes], by decide, by decide⟩

theorem next?_nameStart {c : Char} (h : isNameStart c = true) (s : Text) :
    next? ('<' :: c :: s) = startTag? (c :: s) := by
  have hslash : c ≠ '/' := by rintro rfl; exact absurd h (by decide)
  have hquestion : c ≠ '?' := by rintro rfl; exact absurd h (by decide)
  have hbang : c ≠ '!' := by rintro rfl; exact absurd h (by decide)
  rw [next?.eq_def]
  split <;> simp_all

/-- A tag is read by its name and what stands behind it. -/
theorem next?_tag {name t rest : Text} {attrs : List Attr} {ends : Bool} (isName : IsBaseName name)
    (apart : ∃ c ∈ t.head?, isNameChar c = false ∧ c ≠ ':')
    (hrest : tagRest? t = some (attrs, ends, rest)) :
    next? ('<' :: (name ++ t)) =
      some (if ends then .emptyTag ⟨none, name⟩ attrs else .startTag ⟨none, name⟩ attrs, rest) := by
  have hread := Name.read?_append isName apart
  obtain ⟨c, u, rfl, hstart, -⟩ := isName.exists_cons
  rw [List.cons_append, next?_nameStart hstart, ← List.cons_append, startTag?, hread]
  simp only [hrest, Option.map_some]

section

variable {name : Text} {attrs : List (Text × Text)} (isName : IsBaseName name)
  (hattrs : ∀ a ∈ attrs, IsPlainAttribute a) (rest : Text)

include isName hattrs

theorem next?_startTag :
    next? ('<' :: name ++ writeAttributes attrs ++ '>' :: rest) =
      some (.startTag ⟨none, name⟩ (attrs.map Attr.ofPlain), rest) := by
  have hend : ∃ c ∈ ('>' :: rest).head?, isNameChar c = false ∧ c ≠ ':' :=
    ⟨'>', rfl, by decide, by decide⟩
  have hrest := tagRest?_writeAttributes hattrs (tagRest?_end (by decide : Blank []) rest)
  have hread := next?_tag isName (head?_writeAttributes_append attrs hend) hrest
  rwa [← List.append_assoc, ← List.cons_append] at hread

theorem next?_emptyTag :
    next? ('<' :: name ++ writeAttributes attrs ++ '/' :: '>' :: rest) =
      some (.emptyTag ⟨none, name⟩ (attrs.map Attr.ofPlain), rest) := by
  have hend : ∃ c ∈ ('/' :: '>' :: rest).head?, isNameChar c = false ∧ c ≠ ':' :=
    ⟨'/', rfl, by decide, by decide⟩
  have hrest := tagRest?_writeAttributes hattrs (tagRest?_close rest)
  have hread := next?_tag isName (head?_writeAttributes_append attrs hend) hrest
  rwa [← List.append_assoc, ← List.cons_append] at hread

end

/-- An end tag is read with white space behind its name. -/
theorem next?_endTag {name gap : Text} (isName : IsBaseName name) (blank : Blank gap)
    (rest : Text) :
    next? ('<' :: '/' :: (name ++ (gap ++ '>' :: rest))) = some (.endTag ⟨none, name⟩, rest) := by
  have hread := Name.read?_append isName (head?_blank_append blank
    ⟨'>', rfl, by decide, by decide⟩ : ∃ c ∈ (gap ++ '>' :: rest).head?, _)
  have hend : (gap ++ '>' :: rest).dropWhile isSpace = '>' :: rest := dropWhile_blank blank _
  simp only [next?, endTag?, hread, hend]

end Token

end Xml
end FeedPage
