-- SUMMARY: What holds of every well-formed text: its characters are legal, content can be put together, and escaped text is content.
import FeedPage.Proofs.Escape
import FeedPage.Proofs.Xml.Grammar

/-!
# Content

Every character of a well-formed text is one that documents may hold (`Content.legal`,
`Document.legal`), so a text with another is not well-formed. Content behind content is content, when
no `]]>` comes about (`Content.append`). Escaped text is content that stands for the text's
characters, and so is an attribute value.
-/

namespace FeedPage.Xml

/-! ## Legal characters -/

@[simp] theorem Legal.nil : Legal [] := by simp [Legal]

@[simp] theorem legal_cons {c : Char} {s : Text} :
    Legal (c :: s) ↔ isDocumentChar c = true ∧ Legal s := by
  simp [Legal]

@[simp] theorem legal_append {s t : Text} : Legal (s ++ t) ↔ Legal s ∧ Legal t := by
  simp [Legal, or_imp, forall_and]

theorem isDocumentChar_of_bounds {c : Char} (low : 32 ≤ c.toNat) (high : c.toNat < 0xFFFE) :
    isDocumentChar c = true := by
  simp only [isDocumentChar, Bool.or_eq_true, Bool.and_eq_true, decide_eq_true_eq]
  omega

theorem isDocumentChar_of_isSpace {c : Char} (h : isSpace c = true) : isDocumentChar c = true :=
  of_isSpace (P := fun c => isDocumentChar c = true) h (by decide)

theorem isDocumentChar_of_isAlphanum {c : Char} (h : c.isAlphanum = true) :
    isDocumentChar c = true := by
  have := Text.toNat_of_isAlphanum h
  exact isDocumentChar_of_bounds (by omega) (by omega)

theorem isDocumentChar_of_isHexDigit {c : Char} (h : Text.isHexDigit c = true) :
    isDocumentChar c = true := by
  have := Text.toNat_of_isHexDigit h
  exact isDocumentChar_of_bounds (by omega) (by omega)

theorem isDocumentChar_of_quote {q : Char} (h : q = '"' ∨ q = '\'') : isDocumentChar q = true := by
  rcases h with rfl | rfl <;> rfl

/-- The classes of names lie among the characters of documents. -/
theorem bounds_of_contains :
    (∀ r ∈ letterRanges, 32 ≤ r.1 ∧ r.2 < 0xFFFE) ∧
      ∀ r ∈ extenderRanges, 32 ≤ r.1 ∧ r.2 < 0xFFFE := by
  decide +kernel

theorem isDocumentChar_of_isNameChar {c : Char} (h : isNameChar c = true) :
    isDocumentChar c = true := by
  unfold isNameChar at h
  split at h
  · simp only [Bool.or_eq_true, decide_eq_true_eq] at h
    rcases h with ((h | rfl) | rfl) | rfl
    · exact isDocumentChar_of_isAlphanum h
    · rfl
    · rfl
    · rfl
  · rcases Bool.or_eq_true .. ▸ h with h | h
    · obtain ⟨r, hr, hlow, hhigh⟩ := Text.Ranges.mem_of_contains h
      have := bounds_of_contains.1 r hr
      exact isDocumentChar_of_bounds (by omega) (by omega)
    · obtain ⟨r, hr, hlow, hhigh⟩ := Text.Ranges.mem_of_contains h
      have := bounds_of_contains.2 r hr
      exact isDocumentChar_of_bounds (by omega) (by omega)

theorem isNameChar_of_isNameStart {c : Char} (h : isNameStart c = true) : isNameChar c = true := by
  unfold isNameStart at h
  unfold isNameChar
  split at h
  · next hlt =>
    simp only [Bool.or_eq_true, decide_eq_true_eq] at h
    rw [if_pos hlt]
    rcases h with h | rfl
    · simp [Char.isAlphanum, h]
    · rfl
  · next hge =>
    rw [if_neg hge, h]
    rfl

/-! ## Legal texts -/

theorem Blank.legal {s : Text} (h : Blank s) : Legal s :=
  fun c hc => isDocumentChar_of_isSpace (h c hc)

theorem IsName.legal {s : Text} (h : IsName s) : Legal s := by
  match s, h with
  | c :: t, ⟨hc, ht⟩ =>
    rw [legal_cons]
    constructor
    · rcases hc with hc | rfl
      · exact isDocumentChar_of_isNameChar (isNameChar_of_isNameStart hc)
      · rfl
    · intro d hd
      rcases ht d hd with hd | rfl
      · exact isDocumentChar_of_isNameChar hd
      · rfl

theorem mem_of_predefined? {name : Text} {c : Char} (h : predefined? name = some c) :
    name ∈ ["lt", "gt", "amp", "apos", "quot"].map String.toList := by
  unfold predefined? at h
  simp only [List.map_cons, List.map_nil, List.mem_cons]
  grind

theorem Reference.legal {s : Text} {c : Char} (h : Reference s c) : Legal s := by
  cases h with
  | named known =>
    have hall : ∀ t ∈ ["lt", "gt", "amp", "apos", "quot"].map String.toList, Legal t := by decide
    exact hall s (mem_of_predefined? known)
  | decimal digits code legal =>
    rw [legal_cons]
    exact ⟨rfl, fun d hd => isDocumentChar_of_isAlphanum (by simp [Char.isAlphanum, digits.2 d hd])⟩
  | hexadecimal digits code legal =>
    rw [legal_cons, legal_cons]
    exact ⟨rfl, rfl, fun d hd => isDocumentChar_of_isHexDigit (digits.2 d hd)⟩

theorem Value.legal {q : Char} {s value : Text} (h : Value q s value) : Legal s := by
  induction h with
  | nil => exact Legal.nil
  | char legal plain rest ih => exact legal_cons.2 ⟨legal, ih⟩
  | reference reference rest ih =>
    simp only [List.cons_append, legal_cons, legal_append]
    exact ⟨rfl, reference.legal, rfl, ih⟩

theorem Attributes.legal {s : Text} {attrs : List (Text × Text)} (h : Attributes s attrs) :
    Legal s := by
  induction h with
  | nil => exact Legal.nil
  | cons apart isName around quote inside fresh rest ih =>
    have hquote := isDocumentChar_of_quote quote
    simp only [List.append_assoc, List.cons_append, legal_cons, legal_append]
    exact ⟨apart.2.legal, isName.legal, around.1.legal, rfl, around.2.legal, hquote, inside.legal,
      hquote, ih⟩

theorem StartTag.legal {s name : Text} {attrs : List (Text × Text)} (h : StartTag s name attrs) :
    Legal s := by
  cases h with
  | mk isName attributes blank =>
    simp only [List.append_assoc, List.cons_append, legal_cons, legal_append]
    exact ⟨rfl, isName.legal, attributes.legal, blank.legal, rfl, Legal.nil⟩

theorem EmptyTag.legal {s name : Text} {attrs : List (Text × Text)} (h : EmptyTag s name attrs) :
    Legal s := by
  cases h with
  | mk isName attributes blank =>
    simp only [List.append_assoc, List.cons_append, legal_cons, legal_append]
    exact ⟨rfl, isName.legal, attributes.legal, blank.legal, rfl, rfl, Legal.nil⟩

theorem EndTag.legal {s name : Text} (h : EndTag s name) : Legal s := by
  cases h with
  | mk isName blank =>
    simp only [List.append_assoc, List.cons_append, legal_cons, legal_append]
    exact ⟨rfl, rfl, isName.legal, blank.legal, rfl, Legal.nil⟩

theorem Comment.legal {s : Text} (h : Comment s) : Legal s := by
  cases h with
  | mk legal single =>
    simp only [List.append_assoc, legal_append]
    exact ⟨by decide, legal, by decide⟩

theorem Instruction.legal {s : Text} (h : Instruction s) : Legal s := by
  cases h with
  | mk isName other apart legal unended =>
    simp only [List.append_assoc, legal_append]
    exact ⟨by decide, isName.legal, legal, by decide⟩

/-- The characters of content are legal. -/
theorem Content.legal {s : Text} {ns : List Node} (h : Content s ns) : Legal s := by
  induction h with
  | nil => exact Legal.nil
  | char legal plain unended rest ih => exact legal_cons.2 ⟨legal, ih⟩
  | reference reference rest ih =>
    simp only [List.cons_append, legal_cons, legal_append]
    exact ⟨rfl, reference.legal, rfl, ih⟩
  | element start inside finish rest ihInside ihRest =>
    simp only [legal_append]
    exact ⟨⟨⟨start.legal, ihInside⟩, finish.legal⟩, ihRest⟩
  | empty tag rest ih => exact legal_append.2 ⟨tag.legal, ih⟩
  | comment comment rest ih => exact legal_append.2 ⟨comment.legal, ih⟩
  | instruction instruction rest ih => exact legal_append.2 ⟨instruction.legal, ih⟩
  | cdata legal unended rest ih =>
    simp only [legal_append]
    exact ⟨⟨⟨by decide, legal⟩, by decide⟩, ih⟩

theorem Misc.legal {s : Text} (h : Misc s) : Legal s := by
  induction h with
  | nil => exact Legal.nil
  | space space rest ih => exact legal_cons.2 ⟨isDocumentChar_of_isSpace space, ih⟩
  | comment comment rest ih => exact legal_append.2 ⟨comment.legal, ih⟩
  | instruction instruction rest ih => exact legal_append.2 ⟨instruction.legal, ih⟩

theorem Quoted.legal {p : Char → Bool} (hp : ∀ c, p c = true → isDocumentChar c = true) {s : Text}
    (h : Quoted p s) : Legal s := by
  cases h with
  | mk quote inside unended =>
    have hquote := isDocumentChar_of_quote quote
    simp only [List.cons_append, legal_cons, legal_append]
    exact ⟨hquote, fun c hc => hp c (inside c hc), hquote, Legal.nil⟩

theorem isDocumentChar_of_isPublicChar {c : Char} (h : Doctype.isPublicChar c = true) :
    isDocumentChar c = true := by
  unfold Doctype.isPublicChar at h
  rcases Bool.or_eq_true .. ▸ h with h | h
  · exact isDocumentChar_of_isAlphanum h
  · have hall : Legal " \r\n-'()+,./:=?;!*#@$_%".toList := by decide
    exact hall c (List.contains_iff_mem.1 h)

theorem External.legal {s : Text} (h : External s) : Legal s := by
  cases h with
  | nil => exact Legal.nil
  | system apart apart' quoted =>
    simp only [legal_append]
    exact ⟨⟨⟨apart.2.legal, by decide⟩, apart'.2.legal⟩, quoted.legal fun _ h => h⟩
  | named apart apart' apart'' quotedName quoted =>
    simp only [legal_append]
    exact ⟨⟨⟨⟨⟨apart.2.legal, by decide⟩, apart'.2.legal⟩,
      quotedName.legal fun _ => isDocumentChar_of_isPublicChar⟩, apart''.2.legal⟩,
      quoted.legal fun _ h => h⟩

theorem Prolog.legal {s : Text} (h : Prolog s) : Legal s := by
  cases h with
  | plain misc => exact misc.legal
  | typed before type after =>
    cases type with
    | mk apart isName external blank =>
      simp only [legal_append]
      exact ⟨⟨before.legal, ⟨⟨⟨⟨⟨by decide, apart.2.legal⟩, isName.legal⟩, external.legal⟩,
        blank.legal⟩, by decide⟩⟩, after.legal⟩

/-- The characters of a document are legal. -/
theorem Document.legal {s : Text} {root : Node} (h : Document s root) : Legal s := by
  cases h with
  | element prolog start inside finish misc =>
    simp only [legal_append]
    exact ⟨⟨⟨⟨prolog.legal, start.legal⟩, inside.legal⟩, finish.legal⟩, misc.legal⟩
  | empty prolog tag misc =>
    simp only [legal_append]
    exact ⟨⟨prolog.legal, tag.legal⟩, misc.legal⟩

/-! ## Tags as they are mostly written -/

theorem Value.plain {q : Char} {s : Text} (legal : Legal s)
    (plain : '<' ∉ s ∧ '&' ∉ s ∧ q ∉ s) : Value q s s := by
  induction s with
  | nil => exact .nil
  | cons c s ih =>
    rw [legal_cons] at legal
    simp only [List.mem_cons, not_or] at plain
    obtain ⟨⟨hlt, hlt'⟩, ⟨hamp, hamp'⟩, hq, hq'⟩ := plain
    exact .char legal.1 ⟨Ne.symm hlt, Ne.symm hamp, Ne.symm hq⟩ (ih legal.2 ⟨hlt', hamp', hq'⟩)

theorem Attributes.spaced {name raw value s : Text} {attrs : List (Text × Text)}
    (isName : IsName name) (inside : Value '"' raw value) (fresh : ∀ a ∈ attrs, a.1 ≠ name)
    (rest : Attributes s attrs) :
    Attributes (' ' :: name ++ '=' :: '"' :: raw ++ '"' :: s) ((name, value) :: attrs) := by
  have hspace : [' '] ≠ [] ∧ Blank [' '] := by decide
  have hnone : Blank [] ∧ Blank [] := by decide
  simpa using Attributes.cons hspace isName hnone (.inl rfl) inside fresh rest

theorem StartTag.tight {name written : Text} {attrs : List (Text × Text)} (isName : IsName name)
    (attributes : Attributes written attrs) :
    StartTag ('<' :: name ++ written ++ ['>']) name attrs := by
  have hnone : Blank [] := by decide
  simpa using StartTag.mk isName attributes hnone

theorem EmptyTag.spaced {name written : Text} {attrs : List (Text × Text)} (isName : IsName name)
    (attributes : Attributes written attrs) :
    EmptyTag ('<' :: name ++ written ++ [' ', '/', '>']) name attrs := by
  have hspace : Blank [' '] := by decide
  simpa using EmptyTag.mk isName attributes hspace

theorem EndTag.tight {name : Text} (isName : IsName name) :
    EndTag ('<' :: '/' :: name ++ ['>']) name := by
  have hnone : Blank [] := by decide
  simpa using EndTag.mk isName hnone

/-! ## Putting content together -/

/-- The end of a section does not come about across two texts unless the second begins with one of
its characters. -/
theorem not_sectionEnd_append {s t : Text} (h : ¬ [']', ']', '>'] <+: s) (hs : s ≠ [])
    (ht : t.head? ≠ some ']' ∧ t.head? ≠ some '>') : ¬ [']', ']', '>'] <+: s ++ t := by
  match s with
  | [] => exact (hs rfl).elim
  | [a] =>
    cases t with
    | nil => simp
    | cons d t =>
      have hd : ']' ≠ d := fun hd => ht.1 (by simp [← hd])
      simp [hd]
  | [a, b] =>
    cases t with
    | nil => simp
    | cons d t =>
      have hd : '>' ≠ d := fun hd => ht.2 (by simp [← hd])
      simp [hd]
  | a :: b :: c :: s => simpa using h

/-- Content behind content is content. -/
theorem Content.append {s t : Text} {ns ms : List Node} (h : Content s ns) (h' : Content t ms)
    (ht : t.head? ≠ some ']' ∧ t.head? ≠ some '>') : Content (s ++ t) (ns ++ ms) := by
  induction h with
  | nil => exact h'
  | char legal plain unended rest ih =>
    exact .char legal plain (not_sectionEnd_append unended (by simp) ht) ih
  | reference reference rest ih =>
    simpa only [List.cons_append, List.append_assoc] using Content.reference reference ih
  | element start inside finish rest ihInside ih =>
    simpa only [List.cons_append, List.append_assoc] using Content.element start inside finish ih
  | empty tag rest ih =>
    simpa only [List.cons_append, List.append_assoc] using Content.empty tag ih
  | comment comment rest ih =>
    simpa only [List.append_assoc] using Content.comment comment ih
  | instruction instruction rest ih =>
    simpa only [List.append_assoc] using Content.instruction instruction ih
  | cdata legal unended rest ih =>
    simpa only [List.append_assoc] using Content.cdata legal unended ih

/-! ## Escaped text -/

/-- What escaping writes for a character of markup is a reference to it. -/
theorem reference_of_mem_references {written : Text} {c : Char} (h : (written, c) ∈ references) :
    ∃ r, written = '&' :: r ++ [';'] ∧ Reference r c := by
  simp only [references, List.mem_cons, List.not_mem_nil, or_false, Prod.mk.injEq] at h
  rcases h with ⟨rfl, rfl⟩ | ⟨rfl, rfl⟩ | ⟨rfl, rfl⟩ | ⟨rfl, rfl⟩ | ⟨rfl, rfl⟩
  · exact ⟨"amp".toList, by decide, .named (by decide)⟩
  · exact ⟨"lt".toList, by decide, .named (by decide)⟩
  · exact ⟨"gt".toList, by decide, .named (by decide)⟩
  · exact ⟨"#34".toList, by decide,
      .decimal ⟨by decide, List.all_eq_true.1 (by decide)⟩ (by decide) (by decide)⟩
  · exact ⟨"#39".toList, by decide,
      .decimal ⟨by decide, List.all_eq_true.1 (by decide)⟩ (by decide) (by decide)⟩

/-- Escaped text is content: the text's characters. -/
theorem content_escape {s : Text} (h : Legal s) : Content (escape s) (s.map .char) := by
  induction s with
  | nil => exact .nil
  | cons c s ih =>
    rw [legal_cons] at h
    rcases escapeChar_cases c with hc | ⟨hc, hamp, hplain⟩
    · obtain ⟨r, hr, href⟩ := reference_of_mem_references hc
      rw [escape_cons, hr]
      simpa using Content.reference href (ih h.2)
    · rw [escape_cons, hc, List.singleton_append]
      refine .char h.1 ⟨?_, hamp⟩ ?_ (ih h.2)
      · rintro rfl
        simp [isDelimiter] at hplain
      · -- A `>` is escaped, so no section can end here.
        intro hend
        have hmem : '>' ∈ c :: escape s := hend.subset (by decide)
        rcases List.mem_cons.1 hmem with rfl | hmem
        · simp [isDelimiter] at hplain
        · exact not_mem_escape rfl s hmem

/-- An escaped text is an attribute value: the text itself. -/
theorem value_escape {s : Text} (h : Legal s) : Value '"' (escape s) s := by
  induction s with
  | nil => exact .nil
  | cons c s ih =>
    rw [legal_cons] at h
    rcases escapeChar_cases c with hc | ⟨hc, hamp, hplain⟩
    · obtain ⟨r, hr, href⟩ := reference_of_mem_references hc
      rw [escape_cons, hr]
      simpa using Value.reference href (ih h.2)
    · rw [escape_cons, hc, List.singleton_append]
      refine .char h.1 ⟨?_, hamp, ?_⟩ (ih h.2)
      · rintro rfl
        simp [isDelimiter] at hplain
      · rintro rfl
        simp [isDelimiter] at hplain

/-- Escaping leaves the characters that no document may hold as they are. -/
theorem legal_of_legal_escape {s : Text} (h : Legal (escape s)) : Legal s := by
  induction s with
  | nil => exact Legal.nil
  | cons c s ih =>
    rw [escape_cons, legal_append] at h
    refine legal_cons.2 ⟨?_, ih h.2⟩
    rcases escapeChar_cases c with hc | ⟨hc, -, -⟩
    · have hall : ∀ r ∈ references, isDocumentChar r.2 = true := by decide
      exact hall _ hc
    · rw [hc] at h
      exact (legal_cons.1 h.1).1

end FeedPage.Xml
