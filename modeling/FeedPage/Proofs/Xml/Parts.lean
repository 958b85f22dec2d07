-- SUMMARY: The parts of markup are unambiguous: where a reference, an attribute, a tag, a comment or a document type ends, and what it says, follows from the text that begins with it.
import FeedPage.Proofs.Xml.Content

/-!
# Parts of markup are unambiguous

Two readings of one text as a part of markup with something behind it are the same reading: they
take the same text and find the same in it. Most parts are runs of one class of characters up to a
character outside the class (`run_unique`); comments, instructions and sections run up to the first
occurrence of what ends them (`terminator_unique`).
-/

namespace FeedPage.Xml

/-! ## Where a part ends -/

/-- A text does not go on with a character of the class. -/
def Ends (p : Char → Bool) (s : Text) : Prop := ∀ c, s.head? = some c → p c = false

section

variable {p : Char → Bool}

@[simp] theorem ends_cons {c : Char} {s : Text} : Ends p (c :: s) ↔ p c = false := by simp [Ends]

theorem run_unique {a a' r r' : Text} (ha : ∀ c ∈ a, p c = true) (ha' : ∀ c ∈ a', p c = true)
    (hr : Ends p r) (hr' : Ends p r') (h : a ++ r = a' ++ r') : a = a' ∧ r = r' := by
  induction a generalizing a' with
  | nil =>
    cases a' with
    | nil => exact ⟨rfl, h⟩
    | cons c a' =>
      obtain rfl : r = c :: (a' ++ r') := h
      rw [ends_cons, ha' c (by simp)] at hr
      cases hr
  | cons c a ih =>
    cases a' with
    | nil =>
      obtain rfl : c :: (a ++ r) = r' := h
      rw [ends_cons, ha c (by simp)] at hr'
      cases hr'
    | cons d a' =>
      simp only [List.cons_append, List.cons.injEq] at h
      simp only [List.mem_cons, forall_eq_or_imp] at ha ha'
      obtain ⟨rfl, rfl⟩ := ih ha.2 ha'.2 h.2
      exact ⟨by rw [h.1], rfl⟩

end

/-- A text is determined by what stands up to the first occurrence of a character. -/
theorem cut_unique {c : Char} {s s' r r' : Text} (hs : c ∉ s) (hs' : c ∉ s')
    (h : s ++ c :: r = s' ++ c :: r') : s = s' ∧ r = r' := by
  have hother : ∀ {s : Text}, c ∉ s → ∀ d ∈ s, (d != c) = true := fun hs d hd => by
    rw [bne_iff_ne]
    exact ne_of_mem_of_not_mem hd hs
  obtain ⟨rfl, hrest⟩ := run_unique (p := (· != c)) (hother hs) (hother hs')
    (ends_cons.2 (bne_self_eq_false c)) (ends_cons.2 (bne_self_eq_false c)) h
  exact ⟨rfl, (List.cons.inj hrest).2⟩

/-- An occurrence of `e` that begins before the first one was to end lies in front of that end. -/
theorem prefix_append_dropLast {e k r r' : Text} (hk : k ≠ []) (h : e ++ r = k ++ (e ++ r')) :
    e <+: k ++ e.dropLast := by
  have hlonger : k ++ e.dropLast <+: k ++ (e ++ r') :=
    (List.prefix_append_right_inj k).2 ((List.dropLast_prefix e).trans (List.prefix_append e r'))
  have hlength : 0 < k.length := List.length_pos_iff.2 hk
  refine List.prefix_of_prefix_length_le (h ▸ List.prefix_append e r) hlonger ?_
  simp only [List.length_append, List.length_dropLast]
  omega

/-- A text is determined by what stands up to the first occurrence of `e`. -/
theorem terminator_unique {e s s' r r' : Text} (hs : ¬ e <:+: s ++ e.dropLast)
    (hs' : ¬ e <:+: s' ++ e.dropLast) (h : s ++ (e ++ r) = s' ++ (e ++ r')) : s = s' ∧ r = r' := by
  rcases List.append_eq_append_iff.1 h with ⟨k, rfl, hk⟩ | ⟨k, rfl, hk⟩
  · rcases Decidable.em (k = []) with rfl | hne
    · exact ⟨by simp, by simpa using hk⟩
    · refine absurd ?_ hs'
      rw [List.append_assoc]
      exact (prefix_append_dropLast hne hk).isInfix.trans (List.suffix_append ..).isInfix
  · rcases Decidable.em (k = []) with rfl | hne
    · exact ⟨by simp, by simpa using hk.symm⟩
    · refine absurd ?_ hs
      rw [List.append_assoc]
      exact (prefix_append_dropLast hne hk).isInfix.trans (List.suffix_append ..).isInfix

/-- Where the last character of `e` stands in it only once, no occurrence of `e` is completed by the
beginning of another one. -/
theorem not_infix_append {d s : Text} {c : Char} (hc : c ∉ d) (h : ¬ d ++ [c] <:+: s) :
    ¬ d ++ [c] <:+: s ++ d := by
  rintro ⟨a, b, heq⟩
  rcases List.append_eq_append_iff.1 heq with ⟨k, hs, hd⟩ | ⟨k, hs, hd⟩
  · exact h ⟨a, k, hs.symm⟩
  · rcases List.eq_nil_or_concat k with rfl | ⟨k, l, rfl⟩
    · exact h ⟨a, [], by simpa using hs⟩
    · -- The occurrence would end in `d`, with a character that is not there.
      have hlast := congrArg List.getLast? hs
      simp only [← List.append_assoc, List.getLast?_append, List.getLast?_singleton,
        List.concat_eq_append, Option.some_or, Option.some.injEq] at hlast
      exact hc (by rw [hd]; simp [hlast])

/-! ## Blanks and names -/

/-- Characters that may stand in a name somewhere. -/
def inName (c : Char) : Bool := isNameChar c || c == ':'

theorem IsName.chars {s : Text} (h : IsName s) : ∀ c ∈ s, inName c = true := by
  match s, h with
  | c :: t, ⟨hc, ht⟩ =>
    intro d hd
    rw [inName, Bool.or_eq_true, beq_iff_eq]
    rcases List.mem_cons.1 hd with rfl | hd
    · exact hc.imp_left isNameChar_of_isNameStart
    · exact ht d hd

theorem inName_of_isSpace {c : Char} (h : isSpace c = true) : inName c = false :=
  of_isSpace (P := fun c => inName c = false) h (by decide)

/-- A name is no blank, so what begins with a name does not go on with blanks. -/
theorem IsName.ends {s : Text} (h : IsName s) (r : Text) : Ends isSpace (s ++ r) := by
  cases s with
  | nil => exact h.elim
  | cons c t =>
    rw [List.cons_append, ends_cons, Bool.eq_false_iff]
    intro hspace
    have hname := h.chars c (by simp)
    rw [inName_of_isSpace hspace] at hname
    cases hname

theorem Blank.ends {gap r : Text} (h : Blank gap) (hr : Ends inName r) :
    Ends inName (gap ++ r) := by
  cases gap with
  | nil => exact hr
  | cons c gap => exact ends_cons.2 (inName_of_isSpace (h c (by simp)))

theorem Blank.ends_of_ne_nil {gap : Text} (h : gap ≠ [] ∧ Blank gap) (r : Text) :
    Ends inName (gap ++ r) := by
  cases gap with
  | nil => exact absurd rfl h.1
  | cons c gap => exact ends_cons.2 (inName_of_isSpace (h.2 c (by simp)))

/-! ## References and values -/

/-- What stands in a reference is neither its end nor a quote. -/
theorem Reference.plain {r : Text} {c : Char} (h : Reference r c) :
    ∀ d ∈ r, d ≠ ';' ∧ d ≠ '"' ∧ d ≠ '\'' := by
  have hdigit : ∀ d : Char, Text.isHexDigit d = true → d ≠ ';' ∧ d ≠ '"' ∧ d ≠ '\'' := by
    rintro d hd
    refine ⟨?_, ?_, ?_⟩ <;> (rintro rfl; exact absurd hd (by decide))
  have hdecimal : ∀ d : Char, d.isDigit = true → d ≠ ';' ∧ d ≠ '"' ∧ d ≠ '\'' := by
    rintro d hd
    refine ⟨?_, ?_, ?_⟩ <;> (rintro rfl; exact absurd hd (by decide))
  cases h with
  | named known =>
    have hall : ∀ t ∈ ["lt", "gt", "amp", "apos", "quot"].map String.toList,
        ∀ d ∈ t, d ≠ ';' ∧ d ≠ '"' ∧ d ≠ '\'' := by decide
    exact hall r (mem_of_predefined? known)
  | decimal digits code legal =>
    simp only [List.mem_cons, forall_eq_or_imp]
    exact ⟨by decide, fun d hd => hdecimal d (digits.2 d hd)⟩
  | hexadecimal digits code legal =>
    simp only [List.mem_cons, forall_eq_or_imp]
    exact ⟨by decide, by decide, fun d hd => hdigit d (digits.2 d hd)⟩

/-- A number sign begins no name of an entity. -/
theorem predefined?_number (s : Text) : predefined? ('#' :: s) = none := by
  simp [predefined?]

/-- A reference refers to one character. -/
theorem Reference.value_unique {r : Text} {c c' : Char} (h : Reference r c) (h' : Reference r c') :
    c = c' := by
  have hx : 'x'.isDigit = false := by decide
  cases h with
  | named known =>
    cases h' with
    | named known' => exact Option.some.inj (known.symm.trans known')
    | decimal => rw [predefined?_number] at known; cases known
    | hexadecimal => rw [predefined?_number] at known; cases known
  | decimal digits code legal =>
    cases h' with
    | named known => rw [predefined?_number] at known; cases known
    | decimal digits' code' legal' => exact Char.toNat_inj.1 (code.symm.trans code')
    | hexadecimal digits' code' legal' => rw [digits.2 'x' (by simp)] at hx; cases hx
  | hexadecimal digits code legal =>
    cases h' with
    | named known => rw [predefined?_number] at known; cases known
    | decimal digits' code' legal' => rw [digits'.2 'x' (by simp)] at hx; cases hx
    | hexadecimal digits' code' legal' => exact Char.toNat_inj.1 (code.symm.trans code')

/-- References are told from what they begin. -/
theorem Reference.unique {r r' s s' : Text} {c c' : Char} (h : Reference r c) (h' : Reference r' c')
    (heq : r ++ ';' :: s = r' ++ ';' :: s') : r = r' ∧ c = c' ∧ s = s' := by
  obtain ⟨rfl, rfl⟩ :=
    cut_unique (fun hd => (h.plain _ hd).1 rfl) (fun hd => (h'.plain _ hd).1 rfl) heq
  exact ⟨rfl, h.value_unique h', rfl⟩

/-- The text of a value does not hold its quotes. -/
theorem Value.not_mem {q : Char} (hq : q = '"' ∨ q = '\'') {raw value : Text}
    (h : Value q raw value) : q ∉ raw := by
  induction h with
  | nil => simp
  | char legal plain rest ih =>
    rw [List.mem_cons, not_or]
    exact ⟨Ne.symm plain.2.2, ih⟩
  | reference reference rest ih =>
    simp only [List.cons_append, List.mem_cons, List.mem_append, not_or]
    refine ⟨?_, ?_, ?_, ih⟩
    · rcases hq with rfl | rfl <;> decide
    · intro hmem
      rcases hq with rfl | rfl
      · exact (reference.plain _ hmem).2.1 rfl
      · exact (reference.plain _ hmem).2.2 rfl
    · rcases hq with rfl | rfl <;> decide

theorem Value.unique {q : Char} {raw value value' : Text} (h : Value q raw value)
    (h' : Value q raw value') : value = value' := by
  induction h generalizing value' with
  | nil =>
    cases h' with
    | nil => rfl
  | @char c s value legal plain rest ih =>
    generalize hraw : c :: s = raw at h'
    cases h' with
    | nil => cases hraw
    | char legal' plain' rest' =>
      obtain ⟨rfl, rfl⟩ := List.cons.inj hraw
      rw [ih rest']
    | reference => exact absurd (List.cons.inj hraw).1 plain.2.1
  | @reference r s value c reference rest ih =>
    generalize hraw : '&' :: r ++ ';' :: s = raw at h'
    cases h' with
    | nil => cases hraw
    | char legal' plain' rest' => exact absurd (List.cons.inj hraw).1.symm plain'.2.1
    | reference reference' rest' =>
      obtain ⟨rfl, rfl, rfl⟩ := reference.unique reference' (List.cons.inj hraw).2
      rw [ih rest']

/-! ## Tags -/

/-- A text goes on with the end of a tag. -/
def EndsTag (s : Text) : Prop := ∃ c t, s = c :: t ∧ (c = '>' ∨ c = '/')

theorem EndsTag.space {s : Text} (h : EndsTag s) : Ends isSpace s := by
  obtain ⟨c, t, rfl, rfl | rfl⟩ := h <;> exact ends_cons.2 (by decide)

theorem EndsTag.name {s : Text} (h : EndsTag s) : Ends inName s := by
  obtain ⟨c, t, rfl, rfl | rfl⟩ := h <;> exact ends_cons.2 (by decide)

/-- The attributes of a tag begin with a blank. -/
theorem Attributes.ends {written gap r : Text} {attrs : List (Text × Text)}
    (h : Attributes written attrs) (hgap : Blank gap) (hr : EndsTag r) :
    Ends inName (written ++ (gap ++ r)) := by
  cases h with
  | nil => exact hgap.ends hr.name
  | cons apart isName around quote inside fresh rest =>
    simp only [List.append_assoc]
    exact Blank.ends_of_ne_nil apart _

/-- The end of a tag is no attribute. -/
theorem EndsTag.ne_attribute {gap gap' name r s : Text} (hr : EndsTag r) (hgap : Blank gap)
    (hgap' : Blank gap') (hname : IsName name) : gap ++ r ≠ gap' ++ (name ++ s) := by
  intro heq
  obtain ⟨rfl, rfl⟩ := run_unique hgap hgap' hr.space (hname.ends s) heq
  have hends := hr.name
  match name, hname with
  | c :: t, hname =>
    rw [List.cons_append, ends_cons, hname.chars c (by simp)] at hends
    cases hends

/-- Attributes up to the end of a tag are told from what they begin. -/
theorem Attributes.unique {written written' gap gap' r r' : Text}
    {attrs attrs' : List (Text × Text)} (h : Attributes written attrs)
    (h' : Attributes written' attrs') (hgap : Blank gap) (hgap' : Blank gap') (hr : EndsTag r)
    (hr' : EndsTag r')
    (heq : written ++ (gap ++ r) = written' ++ (gap' ++ r')) :
    written = written' ∧ attrs = attrs' ∧ gap = gap' ∧ r = r' := by
  induction h generalizing written' attrs' with
  | nil =>
    cases h' with
    | nil =>
      obtain ⟨rfl, rfl⟩ := run_unique hgap hgap' hr.space hr'.space heq
      exact ⟨rfl, rfl, rfl, rfl⟩
    | cons apart isName around quote inside fresh rest =>
      simp only [List.append_assoc, List.nil_append] at heq
      exact absurd heq (hr.ne_attribute hgap apart.2 isName)
  | @cons space name before after raw value s q attrs apart isName around quote inside _ rest ih =>
    cases h' with
    | nil =>
      simp only [List.append_assoc, List.nil_append] at heq
      exact absurd heq.symm (hr'.ne_attribute hgap' apart.2 isName)
    | @cons space' name' before' after' raw' value' s' q' attrs' apart' isName' around' quote'
        inside' _ rest' =>
      have hquote : ∀ {q : Char}, q = '"' ∨ q = '\'' → isSpace q = false := by
        rintro q (rfl | rfl) <;> decide
      simp only [List.append_assoc, List.cons_append] at heq
      obtain ⟨rfl, hnames⟩ := run_unique apart.2 apart'.2 (isName.ends _) (isName'.ends _) heq
      obtain ⟨rfl, hsigns⟩ := run_unique isName.chars isName'.chars
        (around.1.ends (ends_cons.2 (by decide))) (around'.1.ends (ends_cons.2 (by decide))) hnames
      obtain ⟨rfl, hgaps⟩ := run_unique around.1 around'.1 (ends_cons.2 (by decide))
        (ends_cons.2 (by decide)) hsigns
      obtain ⟨rfl, hquotes⟩ := run_unique around.2 around'.2 (ends_cons.2 (hquote quote))
        (ends_cons.2 (hquote quote')) (List.cons.inj hgaps).2
      obtain ⟨rfl, hvalues⟩ := List.cons.inj hquotes
      obtain ⟨rfl, hrest⟩ := cut_unique (inside.not_mem quote) (inside'.not_mem quote) hvalues
      obtain rfl := inside.unique inside'
      obtain ⟨rfl, rfl, rfl, rfl⟩ := ih rest' hrest
      exact ⟨rfl, rfl, rfl, rfl⟩

/-- A tag is told from what it begins, up to its end. -/
theorem tag_unique {name name' written written' gap gap' r r' : Text}
    {attrs attrs' : List (Text × Text)} (hname : IsName name) (hname' : IsName name')
    (h : Attributes written attrs) (h' : Attributes written' attrs') (hgap : Blank gap)
    (hgap' : Blank gap') (hr : EndsTag r) (hr' : EndsTag r')
    (heq : '<' :: name ++ written ++ gap ++ r = '<' :: name' ++ written' ++ gap' ++ r') :
    name = name' ∧ written = written' ∧ attrs = attrs' ∧ gap = gap' ∧ r = r' := by
  simp only [List.cons_append, List.append_assoc, List.cons.injEq, true_and] at heq
  obtain ⟨rfl, hrest⟩ :=
    run_unique hname.chars hname'.chars (h.ends hgap hr) (h'.ends hgap' hr') heq
  exact ⟨rfl, h.unique h' hgap hgap' hr hr' hrest⟩

theorem StartTag.unique {t t' name name' r r' : Text} {attrs attrs' : List (Text × Text)}
    (h : StartTag t name attrs) (h' : StartTag t' name' attrs') (heq : t ++ r = t' ++ r') :
    t = t' ∧ name = name' ∧ attrs = attrs' ∧ r = r' := by
  obtain ⟨isName, attributes, blank⟩ := h
  obtain ⟨isName', attributes', blank'⟩ := h'
  rw [List.append_assoc, List.append_assoc _ ['>']] at heq
  obtain ⟨rfl, rfl, rfl, rfl, hend⟩ := tag_unique isName isName' attributes attributes' blank blank'
    ⟨_, _, rfl, .inl rfl⟩ ⟨_, _, rfl, .inl rfl⟩ heq
  exact ⟨rfl, rfl, rfl, (List.cons.inj hend).2⟩

theorem EmptyTag.unique {t t' name name' r r' : Text} {attrs attrs' : List (Text × Text)}
    (h : EmptyTag t name attrs) (h' : EmptyTag t' name' attrs') (heq : t ++ r = t' ++ r') :
    t = t' ∧ name = name' ∧ attrs = attrs' ∧ r = r' := by
  obtain ⟨isName, attributes, blank⟩ := h
  obtain ⟨isName', attributes', blank'⟩ := h'
  rw [List.append_assoc, List.append_assoc _ ['/', '>']] at heq
  obtain ⟨rfl, rfl, rfl, rfl, hend⟩ := tag_unique isName isName' attributes attributes' blank blank'
    ⟨_, _, rfl, .inr rfl⟩ ⟨_, _, rfl, .inr rfl⟩ heq
  exact ⟨rfl, rfl, rfl, by simpa using hend⟩

/-- The tag that opens an element is not that of an element without content. -/
theorem StartTag.ne_emptyTag {t t' name name' r r' : Text} {attrs attrs' : List (Text × Text)}
    (h : StartTag t name attrs) (h' : EmptyTag t' name' attrs') : t ++ r ≠ t' ++ r' := by
  intro heq
  obtain ⟨isName, attributes, blank⟩ := h
  obtain ⟨isName', attributes', blank'⟩ := h'
  rw [List.append_assoc, List.append_assoc _ ['/', '>']] at heq
  obtain ⟨-, -, -, -, hend⟩ := tag_unique isName isName' attributes attributes' blank blank'
    ⟨_, _, rfl, .inl rfl⟩ ⟨_, _, rfl, .inr rfl⟩ heq
  exact absurd (List.cons.inj hend).1 (by decide)

theorem EndTag.unique {e e' name name' r r' : Text} (h : EndTag e name) (h' : EndTag e' name')
    (heq : e ++ r = e' ++ r') : e = e' ∧ name = name' ∧ r = r' := by
  obtain ⟨isName, blank⟩ := h
  obtain ⟨isName', blank'⟩ := h'
  have hmark : Ends inName ('>' :: r) ∧ Ends inName ('>' :: r') := by
    constructor <;> exact ends_cons.2 (by decide)
  have hspace : Ends isSpace ('>' :: r) ∧ Ends isSpace ('>' :: r') := by
    constructor <;> exact ends_cons.2 (by decide)
  simp only [List.cons_append, List.append_assoc, List.nil_append, List.cons.injEq, true_and] at heq
  obtain ⟨rfl, hgaps⟩ :=
    run_unique isName.chars isName'.chars (blank.ends hmark.1) (blank'.ends hmark.2) heq
  obtain ⟨rfl, hends⟩ := run_unique blank blank' hspace.1 hspace.2 hgaps
  exact ⟨rfl, rfl, (List.cons.inj hends).2⟩

/-! ## Comments, instructions and sections -/

theorem Comment.unique {t t' r r' : Text} (h : Comment t) (h' : Comment t')
    (heq : t ++ r = t' ++ r') : t = t' ∧ r = r' := by
  obtain ⟨legal, single⟩ := h
  obtain ⟨legal', single'⟩ := h'
  have hend : "-->".toList = ['-', '-'] ++ ['>'] := by decide
  simp only [hend, List.append_assoc, List.append_cancel_left_eq] at heq
  obtain ⟨rfl, hrest⟩ := terminator_unique single single' heq
  exact ⟨rfl, (List.cons.inj hrest).2⟩

/-- The name of an instruction ends before what it says. -/
theorem ends_instruction {s : Text} (apart : s = [] ∨ ∃ c t, s = c :: t ∧ isSpace c = true)
    (r : Text) : Ends inName (s ++ (['?', '>'] ++ r)) := by
  rcases apart with rfl | ⟨c, t, rfl, hc⟩
  · exact ends_cons.2 (by decide)
  · exact ends_cons.2 (inName_of_isSpace hc)

theorem Instruction.unique {t t' r r' : Text} (h : Instruction t) (h' : Instruction t')
    (heq : t ++ r = t' ++ r') : t = t' ∧ r = r' := by
  obtain ⟨isName, other, apart, legal, unended⟩ := h
  obtain ⟨isName', other', apart', legal', unended'⟩ := h'
  have hend : "?>".toList = ['?', '>'] := by decide
  simp only [hend, List.append_assoc, List.append_cancel_left_eq] at heq
  obtain ⟨rfl, hrest⟩ := run_unique isName.chars isName'.chars (ends_instruction apart r)
    (ends_instruction apart' r') heq
  obtain ⟨rfl, rfl⟩ := terminator_unique (e := ['?', '>'])
    (not_infix_append (d := ['?']) (by decide) unended)
    (not_infix_append (d := ['?']) (by decide) unended') hrest
  exact ⟨rfl, rfl⟩

/-- A section is told from what it begins, up to its end. -/
theorem section_unique {t t' r r' : Text} (h : ¬ [']', ']', '>'] <:+: t)
    (h' : ¬ [']', ']', '>'] <:+: t')
    (heq : t ++ ([']', ']', '>'] ++ r) = t' ++ ([']', ']', '>'] ++ r')) :
    t = t' ∧ r = r' :=
  terminator_unique (not_infix_append (d := [']', ']']) (by decide) h)
    (not_infix_append (d := [']', ']']) (by decide) h') heq

/-! ## Document types -/

theorem Quoted.unique {p : Char → Bool} {t t' r r' : Text} (h : Quoted p t) (h' : Quoted p t')
    (heq : t ++ r = t' ++ r') : t = t' ∧ r = r' := by
  obtain ⟨quote, inside, unended⟩ := h
  obtain ⟨quote', inside', unended'⟩ := h'
  simp only [List.cons_append, List.append_assoc, List.nil_append, List.cons.injEq] at heq
  obtain ⟨rfl, hrest⟩ := heq
  obtain ⟨rfl, rfl⟩ := cut_unique unended unended' hrest
  exact ⟨rfl, rfl⟩

theorem Quoted.ends {p : Char → Bool} {t : Text} (h : Quoted p t) (r : Text) :
    Ends isSpace (t ++ r) := by
  obtain ⟨rfl | rfl, inside, unended⟩ := h <;> exact ends_cons.2 (by decide)

/-- White space up to a word that has none in front. -/
theorem gap_unique {gap gap' s s' : Text} {c c' : Char} (h : Blank gap) (h' : Blank gap')
    (hc : isSpace c = false) (hc' : isSpace c' = false) (heq : gap ++ c :: s = gap' ++ c' :: s') :
    gap = gap' ∧ c = c' ∧ s = s' := by
  obtain ⟨rfl, hrest⟩ := run_unique h h' (ends_cons.2 hc) (ends_cons.2 hc') heq
  obtain ⟨rfl, rfl⟩ := List.cons.inj hrest
  exact ⟨rfl, rfl, rfl⟩

theorem External.ends {e gap : Text} (h : External e) (hgap : Blank gap) (r : Text) :
    Ends inName (e ++ (gap ++ '>' :: r)) := by
  cases h with
  | nil => exact hgap.ends (ends_cons.2 (by decide))
  | system apart =>
    simp only [List.append_assoc]
    exact Blank.ends_of_ne_nil apart _
  | named apart =>
    simp only [List.append_assoc]
    exact Blank.ends_of_ne_nil apart _

/-- The external part of a document type is told from what it begins, up to the end of the
declaration. -/
theorem External.unique {e e' gap gap' r r' : Text} (h : External e) (h' : External e')
    (hgap : Blank gap) (hgap' : Blank gap')
    (heq : e ++ (gap ++ '>' :: r) = e' ++ (gap' ++ '>' :: r')) : e = e' ∧ gap = gap' ∧ r = r' := by
  have hend : isSpace '>' = false := by decide
  have hsystem : isSpace 'S' = false ∧ "SYSTEM".toList = 'S' :: "YSTEM".toList := by decide
  have hpublic : isSpace 'P' = false ∧ "PUBLIC".toList = 'P' :: "UBLIC".toList := by decide
  cases h with
  | nil =>
    cases h' with
    | nil =>
      obtain ⟨rfl, -, rfl⟩ := gap_unique hgap hgap' hend hend heq
      exact ⟨rfl, rfl, rfl⟩
    | system apart apart' quoted =>
      simp only [hsystem.2, List.append_assoc, List.cons_append, List.nil_append] at heq
      exact absurd (gap_unique hgap apart.2 hend hsystem.1 heq).2.1 (by decide)
    | named apart apart' apart'' quotedName quoted =>
      simp only [hpublic.2, List.append_assoc, List.cons_append, List.nil_append] at heq
      exact absurd (gap_unique hgap apart.2 hend hpublic.1 heq).2.1 (by decide)
  | system apart apart' quoted =>
    cases h' with
    | nil =>
      simp only [hsystem.2, List.append_assoc, List.cons_append, List.nil_append] at heq
      exact absurd (gap_unique apart.2 hgap' hsystem.1 hend heq).2.1 (by decide)
    | system apart₁ apart₁' quoted₁ =>
      simp only [hsystem.2, List.append_assoc, List.cons_append] at heq
      obtain ⟨rfl, -, hword⟩ := gap_unique apart.2 apart₁.2 hsystem.1 hsystem.1 heq
      obtain ⟨rfl, hlocation⟩ := run_unique apart'.2 apart₁'.2 (quoted.ends _) (quoted₁.ends _)
        (List.append_cancel_left hword)
      obtain ⟨rfl, hrest⟩ := quoted.unique quoted₁ hlocation
      obtain ⟨rfl, -, rfl⟩ := gap_unique hgap hgap' hend hend hrest
      exact ⟨rfl, rfl, rfl⟩
    | named apart₁ apart₁' apart₁'' quotedName₁ quoted₁ =>
      simp only [hsystem.2, hpublic.2, List.append_assoc, List.cons_append] at heq
      exact absurd (gap_unique apart.2 apart₁.2 hsystem.1 hpublic.1 heq).2.1 (by decide)
  | named apart apart' apart'' quotedName quoted =>
    cases h' with
    | nil =>
      simp only [hpublic.2, List.append_assoc, List.cons_append, List.nil_append] at heq
      exact absurd (gap_unique apart.2 hgap' hpublic.1 hend heq).2.1 (by decide)
    | system apart₁ apart₁' quoted₁ =>
      simp only [hsystem.2, hpublic.2, List.append_assoc, List.cons_append] at heq
      exact absurd (gap_unique apart.2 apart₁.2 hpublic.1 hsystem.1 heq).2.1 (by decide)
    | named apart₁ apart₁' apart₁'' quotedName₁ quoted₁ =>
      simp only [hpublic.2, List.append_assoc, List.cons_append] at heq
      obtain ⟨rfl, -, hword⟩ := gap_unique apart.2 apart₁.2 hpublic.1 hpublic.1 heq
      obtain ⟨rfl, hname⟩ := run_unique apart'.2 apart₁'.2 (quotedName.ends _) (quotedName₁.ends _)
        (List.append_cancel_left hword)
      obtain ⟨rfl, hgaps⟩ := quotedName.unique quotedName₁ hname
      obtain ⟨rfl, hlocation⟩ := run_unique apart''.2 apart₁''.2 (quoted.ends _) (quoted₁.ends _)
        hgaps
      obtain ⟨rfl, hrest⟩ := quoted.unique quoted₁ hlocation
      obtain ⟨rfl, -, rfl⟩ := gap_unique hgap hgap' hend hend hrest
      exact ⟨rfl, rfl, rfl⟩

theorem DocumentType.unique {t t' r r' : Text} (h : DocumentType t) (h' : DocumentType t')
    (heq : t ++ r = t' ++ r') : t = t' ∧ r = r' := by
  obtain ⟨apart, isName, external, blank⟩ := h
  obtain ⟨apart', isName', external', blank'⟩ := h'
  simp only [List.append_assoc, List.append_cancel_left_eq, List.cons_append,
    List.nil_append] at heq
  obtain ⟨rfl, hname⟩ := run_unique apart.2 apart'.2 (isName.ends _) (isName'.ends _) heq
  obtain ⟨rfl, hexternal⟩ := run_unique isName.chars isName'.chars (external.ends blank _)
    (external'.ends blank' _) hname
  obtain ⟨rfl, rfl, rfl⟩ := external.unique external' blank blank' hexternal
  exact ⟨rfl, rfl⟩

end FeedPage.Xml
