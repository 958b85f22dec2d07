-- SUMMARY: The events that a site page is read as when it happens to be well-formed XML.
import FeedPage.Proofs.Site.Page
import FeedPage.Proofs.Xml.Reads

/-!
# Site pages as XML

Whether a site page is well-formed XML is not decided here: its tags may not match, or its text may
hold what XML bars. But a page that is, is read as texts and as starts and finishes of the elements
of site pages, in no namespace, with the attributes of site pages (`Site.IsPage.events`). The token
at the front is one of the page's tags or a run of its text and leaves a page behind, so all tokens
are such; and with such tokens no namespace is ever declared.
-/

namespace FeedPage

/-! ## Names -/

namespace Site

theorem IsElement.isBaseName {name : Text} (h : IsElement name) : Xml.IsBaseName name := by
  obtain ⟨c, t, rfl, halpha⟩ := h.isName.exists_cons
  have hchars : ∀ d ∈ c :: t, Xml.isNameChar d = true := fun d hd => by
    have halphanum := h.isName.alphanumeric d hd
    have := Text.toNat_of_isAlphanum halphanum
    simp [Xml.isNameChar, show d.toNat < 128 by omega, halphanum]
  constructor
  case isName =>
    exact ⟨.inl (Xml.isNameStart_of_isAlpha halpha), fun d hd => .inl (hchars d (by simp [hd]))⟩
  case unqualified =>
    intro hcolon
    exact absurd (hchars ':' hcolon) (by decide)

theorem IsAttribute.isPlain {a : Text × Text} (h : IsAttribute a) : Xml.IsPlainAttribute a where
  isTag := h.isTag
  legal c hc := by
    obtain ⟨hprintable, hlow, -⟩ := h.plain c hc
    simp only [Xml.isDocumentChar, Bool.or_eq_true, Bool.and_eq_true, decide_eq_true_eq]
    omega
  plain c hc := by
    have hplain := (h.plain c hc).2.2
    simp only [List.mem_cons, not_or] at hplain
    exact ⟨hplain.1, hplain.2.2.1, hplain.2.2.2.1⟩
  space c hc hspace :=
    Xml.of_isSpace (P := fun c => 32 ≤ c.toNat → c = ' ') hspace (by decide) (h.plain c hc).1

/-- No attribute of a site page declares a namespace. -/
theorem IsAttribute.undeclared {a : Text × Text} (h : IsAttribute a) : a.1 ≠ "xmlns".toList := by
  intro hname
  have hknown := h.known
  rw [hname] at hknown
  exact absurd hknown (by decide +kernel)

end Site

namespace Xml

/-! ## Tokens -/

/-- A token of a site page. -/
inductive Token.IsSite : Token → Prop where
  | text (s : Text) : IsSite (.text s)
  | startTag {name : Text} {attrs : List (Text × Text)} (known : Site.IsElement name)
    (areKnown : ∀ a ∈ attrs, Site.IsAttribute a) :
    IsSite (.startTag ⟨none, name⟩ (attrs.map Attr.ofPlain))
  | endTag {name : Text} (known : Site.IsElement name) : IsSite (.endTag ⟨none, name⟩)

end Xml

namespace Site

theorem Attributes.areKnown {s : Text} {attrs : List (Text × Text)} (h : Attributes s attrs) :
    ∀ a ∈ attrs, IsAttribute a := by
  induction h with
  | nil => simp
  | cons apart around known rest ih => exact List.forall_mem_cons.2 ⟨known, ih⟩

/-- Attributes are read in front of the end of their tag. -/
theorem Attributes.tagRest? {written gap : Text} {attrs : List (Text × Text)}
    (h : Attributes written attrs) (blank : Xml.Blank gap) (s : Text) :
    Xml.Token.tagRest? (written ++ (gap ++ '>' :: s)) =
      some (attrs.map Xml.Attr.ofPlain, false, s) := by
  induction h with
  | nil => exact Xml.Token.tagRest?_end blank s
  | @cons gap' name before after value written attrs apart around known rest ih =>
    have hcons := Xml.Token.tagRest?_cons known.isPlain apart around (written ++ (gap ++ '>' :: s))
    rw [ih] at hcons
    simpa using hcons

/-- What follows a name in a start tag is no part of it. -/
theorem Attributes.apart {written gap : Text} {attrs : List (Text × Text)}
    (h : Attributes written attrs) (blank : Xml.Blank gap) (s : Text) :
    ∃ c ∈ (written ++ (gap ++ '>' :: s)).head?, Xml.isNameChar c = false ∧ c ≠ ':' := by
  obtain ⟨c, hc, hend⟩ := h.behind_name blank s
  refine ⟨c, hc, ?_⟩
  rcases hend with hspace | rfl
  · exact Xml.Token.isNameChar_of_isSpace hspace
  · decide

namespace IsPage

variable {s : Text}

/-- The first token of a page is one of site pages, and leaves a page behind. -/
theorem next? (h : IsPage s) {t : Xml.Token} {rest : Text}
    (hnext : Xml.Token.next? s = some (t, rest)) : t.IsSite ∧ IsPage rest := by
  cases h with
  | nil => cases hnext
  | @char c s plain hs =>
    have hpage : IsPage ((c :: s).dropWhile Xml.Token.isTextChar) :=
      (IsPage.char plain hs).dropWhile (by decide)
    simp only [List.mem_cons, not_or] at plain
    rw [Xml.Token.next?.eq_def] at hnext
    split at hnext
    case h_8 =>
      split at hnext
      · cases hnext
        exact ⟨.text _, hpage⟩
      · cases hnext
    all_goals simp_all
  | @startTag name written gap s attrs known attributes blank hs =>
    rw [Xml.Token.next?_tag known.isBaseName (attributes.apart blank s)
      (attributes.tagRest? blank s)] at hnext
    cases hnext
    exact ⟨.startTag known attributes.areKnown, hs⟩
  | endTag known blank hs =>
    rw [Xml.Token.next?_endTag known.isBaseName blank] at hnext
    cases hnext
    exact ⟨.endTag known, hs⟩

/-- All tokens of a page are of site pages. -/
theorem all? (h : IsPage s) {ts : List Xml.Token} (hts : Xml.Token.all? s = some ts) :
    ∀ t ∈ ts, t.IsSite := by
  fun_induction Xml.Token.all? s generalizing ts with
  | case1 s hs =>
    cases hts
    simp
  | case2 s hs hnone => cases hts
  | case3 s hs t rest hnext hlength ih =>
    obtain ⟨us, hus, rfl⟩ := Option.map_eq_some_iff.1 hts
    obtain ⟨ht, hrest⟩ := h.next? hnext
    exact List.forall_mem_cons.2 ⟨ht, ih hrest hus⟩

end IsPage
end Site

/-! ## Line ends -/

namespace Xml

theorem mem_lineFeeds {s : Text} {c : Char} (h : c ∈ lineFeeds s) : c ∈ s ∨ c = '\n' := by
  fun_induction lineFeeds s with
  | case1 s ih =>
    rcases List.mem_cons.1 h with rfl | h
    · exact .inr rfl
    · exact (ih h).imp_left fun hc => List.mem_cons_of_mem _ (List.mem_cons_of_mem _ hc)
  | case2 s _ ih =>
    rcases List.mem_cons.1 h with rfl | h
    · exact .inr rfl
    · exact (ih h).imp_left (List.mem_cons_of_mem _)
  | case3 d s _ _ ih =>
    rcases List.mem_cons.1 h with rfl | h
    · exact .inl (List.mem_cons_self ..)
    · exact (ih h).imp_left (List.mem_cons_of_mem _)
  | case4 => cases h

/-- The line ends of two texts are apart when the second one does not begin within one. -/
theorem lineFeeds_append {s t : Text} {c : Char} (hc : c ≠ '\n') :
    lineFeeds (s ++ c :: t) = lineFeeds s ++ lineFeeds (c :: t) := by
  fun_induction lineFeeds s with
  | case1 s ih => simp [lineFeeds, ih]
  | case2 s hs ih =>
    have hst : ∀ u, s ++ c :: t ≠ '\n' :: u := by
      rintro u hu
      cases s with
      | nil => exact hc (List.cons.inj hu).1
      | cons d s => exact hs s (by rw [(List.cons.inj hu).1])
    rw [List.cons_append, lineFeeds.eq_2 _ hst, ih]
    rfl
  | case3 d s hcr hd ih =>
    rw [List.cons_append, lineFeeds.eq_3 _ _ (fun _ h _ => hd h) hd, ih]
    rfl
  | case4 => rfl

theorem lineFeeds_cons {c : Char} (hc : c ≠ '\r') (s : Text) :
    lineFeeds (c :: s) = c :: lineFeeds s := lineFeeds.eq_3 c s (fun _ h _ => hc h) hc

theorem lineFeeds_append_of_not_mem {s : Text} (h : '\r' ∉ s) (t : Text) :
    lineFeeds (s ++ t) = s ++ lineFeeds t := by
  induction s with
  | nil => rfl
  | cons c s ih =>
    simp only [List.mem_cons, not_or] at h
    rw [List.cons_append, lineFeeds_cons (Ne.symm h.1), ih h.2, List.cons_append]

/-- A carriage return is a line end of its own, or belongs to the next one. -/
theorem lineFeeds_return (s : Text) :
    lineFeeds ('\r' :: s) = lineFeeds s ∨ lineFeeds ('\r' :: s) = '\n' :: lineFeeds s := by
  cases s with
  | nil => exact .inr rfl
  | cons c s =>
    by_cases hc : c = '\n'
    · subst hc
      exact .inl rfl
    · exact .inr (lineFeeds.eq_2 _ fun u hu => hc (List.cons.inj hu).1)

theorem Blank.lineFeeds {gap : Text} (blank : Blank gap) : Blank (lineFeeds gap) := by
  intro c hc
  rcases mem_lineFeeds hc with hc | rfl
  · exact blank c hc
  · rfl

theorem lineFeeds_ne_nil {s : Text} (h : s ≠ []) : lineFeeds s ≠ [] := by
  fun_cases Xml.lineFeeds s <;> simp_all

end Xml

namespace Site

/-- Line ends within a tag are white space before and after. -/
theorem Attributes.lineFeeds {s : Text} {attrs : List (Text × Text)} (h : Attributes s attrs) :
    ∃ s', Attributes s' attrs ∧ ∀ t, Xml.lineFeeds (s ++ t) = s' ++ Xml.lineFeeds t := by
  induction h with
  | nil => exact ⟨[], .nil, fun t => rfl⟩
  | @cons gap name before after value s attrs apart around known rest ih =>
    obtain ⟨s', hs', hlines⟩ := ih
    refine ⟨_, .cons ⟨Xml.lineFeeds_ne_nil apart.1, apart.2.lineFeeds⟩
      ⟨around.1.lineFeeds, around.2.lineFeeds⟩ known hs', fun t => ?_⟩
    have hname : '\r' ∉ name := fun hmem => absurd (known.isTag.2 _ hmem) (by decide)
    have hvalue : '\r' ∉ value := fun hmem => absurd (known.plain _ hmem).1 (by decide)
    obtain ⟨c, u, rfl⟩ := List.exists_cons_of_ne_nil known.isTag.1
    have hc : c ≠ '\n' := by
      rintro rfl
      exact absurd (known.isTag.2 '\n' (by simp)) (by decide)
    simp only [List.append_assoc, List.cons_append] at hname ⊢
    rw [Xml.lineFeeds_append hc, ← List.cons_append,
      Xml.lineFeeds_append_of_not_mem hname, Xml.lineFeeds_append (by decide),
      Xml.lineFeeds_cons (by decide), Xml.lineFeeds_append (by decide),
      Xml.lineFeeds_cons (by decide), Xml.lineFeeds_append_of_not_mem hvalue,
      Xml.lineFeeds_cons (by decide), hlines]
    simp

/-- A page is a page whatever its line ends are. -/
theorem IsPage.lineFeeds {s : Text} (h : IsPage s) : IsPage (Xml.lineFeeds s) := by
  have hreturn {name : Text} (known : IsElement name) : '\r' ∉ name := fun hmem =>
    absurd (known.isName.alphanumeric _ hmem) (by decide)
  induction h with
  | nil => exact .nil
  | @char c s plain rest ih =>
    by_cases hc : c = '\r'
    · subst hc
      rcases Xml.lineFeeds_return s with hsame | hline
      · rwa [hsame]
      · rw [hline]
        exact .char (by decide) ih
    · rw [Xml.lineFeeds_cons hc]
      exact .char plain ih
  | @startTag name written gap s attrs known attributes blank rest ih =>
    obtain ⟨written', hwritten, hlines⟩ := attributes.lineFeeds
    rw [Xml.lineFeeds_cons (by decide), Xml.lineFeeds_append_of_not_mem (hreturn known), hlines,
      Xml.lineFeeds_append (by decide), Xml.lineFeeds_cons (by decide)]
    exact .startTag known hwritten blank.lineFeeds ih
  | @endTag name gap s known blank rest ih =>
    rw [Xml.lineFeeds_cons (by decide), Xml.lineFeeds_cons (by decide),
      Xml.lineFeeds_append_of_not_mem (hreturn known), Xml.lineFeeds_append (by decide),
      Xml.lineFeeds_cons (by decide)]
    exact .endTag known blank.lineFeeds ih

end Site

/-! ## Events -/

namespace Xml

/-- An event of a site page. -/
inductive Event.IsSite : Event → Prop where
  | text (s : Text) : IsSite (.text s)
  | start {name : Text} {attrs : List (Text × Text)} (known : Site.IsElement name)
    (areKnown : ∀ a ∈ attrs, Site.IsAttribute a) :
    IsSite (.start ⟨none, name⟩ (attrs.map Attribute.ofPlain))
  | finish {name : Text} (known : Site.IsElement name) : IsSite (.finish ⟨none, name⟩)

/-- An element of a site page that is open, in no namespace. -/
def OpenElement.IsSite (e : OpenElement) : Prop :=
  ∃ name, Site.IsElement name ∧ e = ⟨⟨none, name⟩, ⟨none, name⟩, .outermost⟩

/-- Names without a qualifier belong to no namespace outside of all elements. -/
theorem Bindings.outermost_gives : Bindings.outermost.Gives none := fun _ => rfl

/-- Tokens of site pages stand for events of site pages; no namespace is in force. -/
theorem content?_isSite {ts : List Token} {n : Nat} {opened : List OpenElement} {es : List Event}
    (hts : ∀ t ∈ ts, t.IsSite) (hopened : ∀ e ∈ opened, e.IsSite)
    (h : content? {} n .outermost opened ts = some es) : ∀ e ∈ es, e.IsSite := by
  induction ts generalizing opened es with
  | nil =>
    rw [content?] at h
    split at h
    · cases h
      simp
    · cases h
  | cons t ts ih =>
    rw [List.forall_mem_cons] at hts
    obtain ⟨ht, hts⟩ := hts
    cases ht with
    | text s =>
      rw [content?] at h
      obtain ⟨fs, hfs, rfl⟩ := Option.map_eq_some_iff.1 h
      exact List.forall_mem_cons.2 ⟨.text s, ih hts hopened hfs⟩
    | @startTag name attrs known areKnown =>
      have hread := Opening.read?_eq_ite (fun a ha => (areKnown a ha).isPlain)
        (fun a ha => (areKnown a ha).undeclared) Bindings.outermost_gives name
      rw [content?, hread] at h
      split at h
      · simp only [Option.bind_eq_bind, Option.bind_some, Option.bind_eq_some_iff] at h
        obtain ⟨fs, hfs, heq⟩ := h
        cases heq
        have hopen := List.forall_mem_cons.2 ⟨⟨name, known, rfl⟩, hopened⟩
        exact List.forall_mem_cons.2 ⟨.start known areKnown, ih hts hopen hfs⟩
      · cases h
    | @endTag name known =>
      cases opened with
      | nil =>
        rw [content?] at h
        cases h
      | cons e opened =>
        rw [List.forall_mem_cons] at hopened
        obtain ⟨⟨inner, hinner, rfl⟩, hopened⟩ := hopened
        rw [content?] at h
        split at h
        · obtain ⟨fs, hfs, rfl⟩ := Option.map_eq_some_iff.1 h
          exact List.forall_mem_cons.2 ⟨.finish hinner, ih hts hopened hfs⟩
        · cases h

theorem mergeText_isSite {es : List Event} (h : ∀ e ∈ es, e.IsSite) :
    ∀ e ∈ mergeText es, e.IsSite := by
  induction es with
  | nil => exact h
  | cons e es ih =>
    obtain ⟨he, hes⟩ := List.forall_mem_cons.1 h
    have hmerged := ih hes
    cases he with
    | text s =>
      rw [mergeText]
      split
      · next t fs hfs =>
        rw [hfs] at hmerged
        exact List.forall_mem_cons.2 ⟨.text _, (List.forall_mem_cons.1 hmerged).2⟩
      · exact List.forall_mem_cons.2 ⟨.text s, hmerged⟩
    | start known areKnown => exact List.forall_mem_cons.2 ⟨.start known areKnown, hmerged⟩
    | finish known => exact List.forall_mem_cons.2 ⟨.finish known, hmerged⟩

end Xml

/-- The events of a page that is well-formed are events of site pages. -/
theorem Site.IsPage.events {s : Text} (h : IsPage s) {es : List Xml.Event}
    (hes : Xml.Event.ofDocument? s = some es) : ∀ e ∈ es, e.IsSite := by
  unfold Xml.Event.ofDocument? at hes
  simp only [Option.bind_eq_bind, Option.bind_eq_some_iff] at hes
  obtain ⟨ts, hts, hes⟩ := hes
  have hsite := h.lineFeeds.all? hts
  have hfront : ∀ t ∈ ts.dropWhile Xml.Token.isOutside, t.IsSite := fun t ht =>
    hsite t ((List.dropWhile_suffix _).subset ht)
  have hback : ∀ t ∈ ((ts.dropWhile Xml.Token.isOutside).reverse.dropWhile
      Xml.Token.isOutside).reverse, t.IsSite := fun t ht => by
    rw [List.mem_reverse] at ht
    exact hfront t (List.mem_reverse.1 ((List.dropWhile_suffix _).subset ht))
  split at hes
  · next d us hd =>
    -- A document type is no token of a site page.
    rw [hd] at hfront
    cases hfront _ (List.mem_cons_self ..)
  · split at hes
    · obtain ⟨fs, hfs, rfl⟩ := Option.map_eq_some_iff.1 hes
      exact Xml.mergeText_isSite (Xml.content?_isSite hback (by simp) hfs)
    · cases hes

end FeedPage
