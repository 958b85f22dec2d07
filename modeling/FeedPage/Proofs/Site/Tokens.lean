-- SUMMARY: The tokens that a site page is cut into as lenient markup.
import FeedPage.Proofs.Feed.Plain
import FeedPage.Proofs.Site.Page

/-!
# Site pages as lenient markup

As lenient markup every page has tokens. Its shape is good already (`Markup.tidy_page`), each of its
tags ends at its own bracket, and so the tokens are texts and the starts and ends of the elements of
site pages, with the attributes of site pages (`Site.IsPage.tokens`).
-/

namespace FeedPage

namespace Site

/-! ## White space -/

theorem isBlank_of_isSpace {c : Char} (h : Xml.isSpace c = true) : Text.isBlank c = true :=
  Xml.of_isSpace (P := fun c => Text.isBlank c = true) h (by decide)

variable {written gap : Text} {attrs : List (Text × Text)}

theorem dropWhile_isBlank {gap : Text} (blank : Xml.Blank gap) (s : Text) :
    (gap ++ s).dropWhile Text.isBlank = s.dropWhile Text.isBlank :=
  List.dropWhile_append_of_pos fun c hc => isBlank_of_isSpace (blank c hc)

/-- Behind white space in a tag stands the name of an attribute, or the end of the tag. -/
theorem Attributes.behind_blank (h : Attributes written attrs) (blank : Xml.Blank gap) (s : Text) :
    ∃ c ∈ ((written ++ (gap ++ '>' :: s)).dropWhile Text.isBlank).head?,
      c.isAlpha = true ∨ c = '>' := by
  cases h with
  | nil =>
    rw [List.nil_append, dropWhile_isBlank blank]
    exact ⟨'>', rfl, .inr rfl⟩
  | @cons _ name _ _ _ _ _ apart around known rest =>
    obtain ⟨c, t, rfl⟩ := List.exists_cons_of_ne_nil known.isTag.1
    have hc : c.isAlpha = true := known.isTag.2 c (by simp)
    have hblank : Text.isBlank c = false :=
      Html.not_isBlank_of_isAlphanum (Text.isAlphanum_of_isAlpha hc)
    rw [List.append_assoc, dropWhile_isBlank apart.2]
    exact ⟨c, by simp [hblank], .inl hc⟩

end Site

namespace Markup

/-! ## Putting in shape -/

theorem drop_takeWhile (p : Char → Bool) (s : Text) :
    s.drop (s.takeWhile p).length = s.dropWhile p := by
  calc s.drop (s.takeWhile p).length
      = (s.takeWhile p ++ s.dropWhile p).drop (s.takeWhile p).length := by
        rw [List.takeWhile_append_dropWhile]
    _ = s.dropWhile p := List.drop_left

/-- A tag is no empty one when its name does not end in a slash, and no slash stands behind white
space. -/
theorem emptyTag?_eq_none {run s : Text}
    (hrun : ∀ c ∈ run, (c ≠ '<' && c ≠ '>' && !Text.isBlank c) = true)
    (hlast : run.getLast? ≠ some '/') (hend : ∃ c ∈ s.head?, Text.isBlank c = true ∨ c = '>')
    (hblank : (s.dropWhile Text.isBlank).head? ≠ some '/') :
    emptyTag? ('<' :: (run ++ s)) = none := by
  obtain ⟨c, hc, hend⟩ := hend
  obtain ⟨u, rfl⟩ := List.head?_eq_some_iff.1 hc
  have hstop : (c ≠ '<' && c ≠ '>' && !Text.isBlank c) = false := by
    rcases hend with hend | rfl
    · simp [hend]
    · rfl
  obtain ⟨htake, -⟩ := Prod.mk.inj (Text.run_append hrun hstop u)
  have hslash : Text.startsWith "/>".toList ((c :: u).dropWhile Text.isBlank) = false := by
    have hafter : Text.after? "/>".toList ((c :: u).dropWhile Text.isBlank) = none := by
      refine Text.after?_eq_none_iff.2 ?_
      rintro ⟨r, hr⟩
      rw [← hr] at hblank
      exact hblank rfl
    rw [Text.startsWith, hafter, Option.isSome_none]
  simp only [emptyTag?, htake, List.drop_left, drop_takeWhile, hlast, hslash]
  simp

theorem emptyTag?_page {t : Text} (h : Site.IsPage ('<' :: t)) : emptyTag? ('<' :: t) = none := by
  have hname {name : Text} (known : Site.IsElement name) :
      ∀ c ∈ name, (c ≠ '<' && c ≠ '>' && !Text.isBlank c) = true := fun c hc => by
    have hc := known.isName.alphanumeric c hc
    simp [Html.ne_of_isAlphanum hc (by decide : '<'.isAlphanum = false),
      Html.ne_of_isAlphanum hc (by decide : '>'.isAlphanum = false),
      Html.not_isBlank_of_isAlphanum hc]
  have hlast {name : Text} (known : Site.IsElement name) : name.getLast? ≠ some '/' := fun hlast =>
    absurd (known.isName.alphanumeric '/' (List.mem_of_getLast? hlast)) (by decide)
  have hends {written gap : Text} {attrs : List (Text × Text)}
      (attributes : Site.Attributes written attrs) (blank : Xml.Blank gap) (s : Text) :
      (∃ c ∈ (written ++ (gap ++ '>' :: s)).head?, Text.isBlank c = true ∨ c = '>') ∧
        ((written ++ (gap ++ '>' :: s)).dropWhile Text.isBlank).head? ≠ some '/' := by
    obtain ⟨c, hc, hend⟩ := attributes.behind_name blank s
    obtain ⟨d, hd, hbehind⟩ := attributes.behind_blank blank s
    refine ⟨⟨c, hc, hend.imp_left Site.isBlank_of_isSpace⟩, fun hslash => ?_⟩
    rw [hslash] at hd
    cases hd
    exact absurd hbehind (by decide)
  cases h with
  | char plain rest => simp at plain
  | @startTag name written gap s attrs known attributes blank rest =>
    obtain ⟨hend, hblank⟩ := hends attributes blank s
    exact emptyTag?_eq_none (hname known) (hlast known) hend hblank
  | @endTag name gap s known blank rest =>
    obtain ⟨hend, hblank⟩ := hends .nil blank s
    have hlast : ('/' :: name).getLast? ≠ some '/' := by
      obtain ⟨c, u, rfl, -⟩ := known.isName.exists_cons
      rw [List.getLast?_cons_cons]
      exact hlast known
    exact emptyTag?_eq_none (List.forall_mem_cons.2 ⟨rfl, hname known⟩) hlast hend hblank

/-- A page is in shape. -/
theorem tidy_page {s : Text} (h : Site.IsPage s) : tidy s = s := by
  have hdeclarations : Text.substitute unknownDeclaration? s = s :=
    Text.substitute_eq_self fun t ht => by
      unfold unknownDeclaration?
      split
      · exact absurd ht (h.not_bracket (by decide))
      · rfl
  have htags : Text.substitute emptyTag? s = s :=
    Text.substitute_eq_self fun t ht => by
      cases t with
      | nil => rfl
      | cons c t =>
        by_cases hc : c = '<'
        · subst hc
          exact emptyTag?_page (h.of_suffix ht)
        · unfold emptyTag?
          split
          · next heq => exact absurd (List.cons.inj heq).1 hc
          · rfl
  have hreferences (lit new : Text) (hlit : '&' ∈ lit) : Text.replace lit new s = s :=
    Text.replace_eq_self hlit new fun hmem => (h.chars '&' hmem).2 rfl
  simp only [tidy, hdeclarations, htags]
  rw [hreferences _ _ (by decide), hreferences _ _ (by decide)]

/-! ## Tags -/

/-- A character that means nothing to the reader of a tag. -/
def IsIdle (c : Char) : Prop := c ∉ ['<', '>', '"', '\'']

instance (c : Char) : Decidable (IsIdle c) :=
  inferInstanceAs (Decidable (c ∉ ['<', '>', '"', '\'']))

theorem isIdle_of_isSpace {c : Char} (h : Xml.isSpace c = true) : IsIdle c :=
  Xml.of_isSpace (P := IsIdle) h (by decide)

theorem isIdle_of_isAlphanum {c : Char} (h : c.isAlphanum = true) : IsIdle c := by
  have hmarks : ∀ c ∈ ['<', '>', '"', '\''], c.isAlphanum = false := by decide
  intro hmem
  rw [hmarks c hmem] at h
  cases h

/-- The end of a tag is looked for behind its idle characters. -/
theorem orderlyEnd?_idle {idle : Text} (h : ∀ c ∈ idle, IsIdle c) {n : Nat} {s : Text}
    (hn : (idle ++ s).length < n) :
    ∃ m, s.length < m ∧ orderlyEnd? n (idle ++ s) = orderlyEnd? m s := by
  induction idle generalizing n with
  | nil => exact ⟨n, hn, rfl⟩
  | cons c idle ih =>
    obtain ⟨hc, hidle⟩ := List.forall_mem_cons.1 h
    cases n with
    | zero => cases hn
    | succ n =>
      obtain ⟨m, hm, heq⟩ := ih hidle (Nat.lt_of_succ_lt_succ hn)
      simp only [IsIdle, List.mem_cons, not_or] at hc
      refine ⟨m, hm, ?_⟩
      simp [orderlyEnd?, hc, heq]

/-- The end of a tag is looked for behind a value in quotes. -/
theorem orderlyEnd?_value {value s : Text} (hvalue : '"' ∉ value) (hs : canFollowValue s = true)
    {n : Nat} (hn : ('"' :: (value ++ '"' :: s)).length < n) :
    ∃ m, s.length < m ∧ orderlyEnd? n ('"' :: (value ++ '"' :: s)) = orderlyEnd? m s := by
  have hcut : Text.cutChar? '"' (value ++ '"' :: s) = some (value, s) :=
    Text.cutChar?_eq_some.2 ⟨rfl, hvalue⟩
  cases n with
  | zero => cases hn
  | succ n =>
    refine ⟨n, ?_, ?_⟩
    · simp at hn
      omega
    · simp [orderlyEnd?, hcut, hs]

variable {written gap : Text} {attrs : List (Text × Text)}

/-- A start tag ends at its own bracket, wherever its attributes are looked through. -/
theorem orderlyEnd?_attributes (h : Site.Attributes written attrs) (blank : Xml.Blank gap)
    (s : Text) {n : Nat} (hn : (written ++ (gap ++ '>' :: s)).length < n) :
    orderlyEnd? n (written ++ (gap ++ '>' :: s)) = some ('>' :: s) := by
  have hspace {t : Text} (blank : Xml.Blank t) : ∀ c ∈ t, IsIdle c :=
    fun c hc => isIdle_of_isSpace (blank c hc)
  induction h generalizing n with
  | nil =>
    obtain ⟨m, hm, heq⟩ := orderlyEnd?_idle (hspace blank) hn
    rw [List.nil_append, heq]
    cases m with
    | zero => cases hm
    | succ m => simp [orderlyEnd?]
  | @cons gap' name before after value written attrs apart around known rest ih =>
    have hidle : ∀ c ∈ gap' ++ (name ++ (before ++ '=' :: after)), IsIdle c := by
      simp only [List.forall_mem_append, List.forall_mem_cons]
      refine ⟨hspace apart.2, fun c hc => ?_, hspace around.1, by decide, hspace around.2⟩
      exact isIdle_of_isAlphanum (Text.isAlphanum_of_isAlpha (known.isTag.2 c hc))
    have hvalue : '"' ∉ value := fun hmem => absurd (known.plain _ hmem).2.2 (by decide)
    have hfollow : canFollowValue (written ++ (gap ++ '>' :: s)) = true := by
      obtain ⟨c, hc, hend⟩ := rest.behind_name blank s
      obtain ⟨u, hu⟩ := List.head?_eq_some_iff.1 hc
      rw [hu]
      rcases hend with hend | rfl
      · simp [canFollowValue, Site.isBlank_of_isSpace hend]
      · rfl
    have hsplit :
        gap' ++ (name ++ (before ++ '=' :: (after ++ '"' :: (value ++ '"' :: written)))) ++
          (gap ++ '>' :: s) =
        gap' ++ (name ++ (before ++ '=' :: after)) ++
          '"' :: (value ++ '"' :: (written ++ (gap ++ '>' :: s))) := by simp
    rw [hsplit] at hn ⊢
    obtain ⟨m, hm, hfirst⟩ := orderlyEnd?_idle hidle hn
    obtain ⟨k, hk, hsecond⟩ := orderlyEnd?_value hvalue hfollow hm
    rw [hfirst, hsecond, ih hk]

/-- An attribute is read with white space before it and around its equals sign. -/
theorem attr?_attribute {name value gap before after : Text}
    (known : Site.IsAttribute (name, value)) (blank : Xml.Blank gap)
    (around : Xml.Blank before ∧ Xml.Blank after) (s : Text) :
    ∃ v, attr? (gap ++ (name ++ (before ++ '=' :: (after ++ '"' :: (value ++ '"' :: s))))) =
      some (⟨Text.lower name, v⟩, s) := by
  obtain ⟨c, t, rfl⟩ := List.exists_cons_of_ne_nil known.isTag.1
  have halphanum (d : Char) (hd : d ∈ c :: t) : d.isAlphanum = true :=
    Text.isAlphanum_of_isAlpha (known.isTag.2 d hd)
  have hblank : Text.isBlank c = false := Html.not_isBlank_of_isAlphanum (halphanum c (by simp))
  obtain ⟨d, u, hdu, hstop, hdollar⟩ : ∃ d u,
      before ++ '=' :: (after ++ '"' :: (value ++ '"' :: s)) = d :: u ∧ isAttrChar d = false ∧
        d ≠ '$' := by
    cases before with
    | nil => exact ⟨'=', _, rfl, by decide, by decide⟩
    | cons d before =>
      exact ⟨d, _, rfl, Xml.of_isSpace (P := fun d => isAttrChar d = false ∧ d ≠ '$')
        (around.1 d (by simp)) (by decide)⟩
  have hequals : (d :: u).dropWhile Text.isBlank =
      '=' :: (after ++ '"' :: (value ++ '"' :: s)) := by
    rw [← hdu, Site.dropWhile_isBlank around.1]
    rfl
  have hquote : (after ++ '"' :: (value ++ '"' :: s)).dropWhile Text.isBlank =
      '"' :: (value ++ '"' :: s) := Site.dropWhile_isBlank around.2 _
  have hfront : (gap ++ (c :: t ++ d :: u)).dropWhile Text.isBlank = c :: (t ++ d :: u) := by
    rw [Site.dropWhile_isBlank blank]
    simp [hblank]
  have hname : ∀ d ∈ t, isAttrChar d = true := fun d hd => by
    simp [isAttrChar, halphanum d (List.mem_cons_of_mem c hd)]
  obtain ⟨htake, hdrop⟩ := Prod.mk.inj (Text.run_append hname hstop u)
  have hcut : Text.cutChar? '"' (value ++ '"' :: s) = some (value, s) :=
    Text.cutChar?_eq_some.2 ⟨rfl, fun hmem => absurd (known.plain _ hmem).2.2 (by decide)⟩
  refine ⟨Text.substitute completeNumber? value, ?_⟩
  rw [hdu, attr?, hfront]
  simp only [known.isTag.2 c (by simp), true_or, if_true, htake, hdrop, List.head?_cons,
    Option.some.injEq, hdollar, if_false, hequals, hquote, Markup.value, or_true, hcut,
    Option.getD_some]

/-- The attributes that are read in a tag have names of site pages. -/
theorem attrs_known (h : Site.Attributes written attrs) (blank : Xml.Blank gap) (s : Text)
    (n endLength : Nat) : ∀ a ∈ Markup.attrs n endLength (written ++ (gap ++ '>' :: s)),
      a.name ∈ Site.attributes := by
  induction h generalizing n with
  | nil =>
    have hnone : attr? (gap ++ '>' :: s) = none := by
      rw [attr?, Site.dropWhile_isBlank blank]
      rfl
    cases n with
    | zero => simp [Markup.attrs]
    | succ n => simp [Markup.attrs, hnone]
  | @cons gap' name before after value written attrs apart around known rest ih =>
    obtain ⟨v, hread⟩ := attr?_attribute known apart.2 around (written ++ (gap ++ '>' :: s))
    cases n with
    | zero => simp [Markup.attrs]
    | succ n =>
      simp only [List.append_assoc, List.cons_append, Markup.attrs, hread]
      split
      · simp
      · exact List.forall_mem_cons.2 ⟨known.known, ih n⟩

/-- A start tag is read with its name in lower case. -/
theorem readTag_page {name : Text} (known : Site.IsElement name)
    (attributes : Site.Attributes written attrs) (blank : Xml.Blank gap) (last s : Text) :
    ∃ found, readTag last (name ++ (written ++ (gap ++ '>' :: s))) =
        some (.full (Text.lower name) found s) ∧ ∀ a ∈ found, a.name ∈ Site.attributes := by
  have hknown := attrs_known attributes blank s
  obtain ⟨m, hm, hidle⟩ := orderlyEnd?_idle (s := written ++ (gap ++ '>' :: s))
    (fun c hc => isIdle_of_isAlphanum (known.isName.alphanumeric c hc)) (Nat.lt_succ_self _)
  have hend := hidle.trans (orderlyEnd?_attributes attributes blank s hm)
  obtain ⟨d, hd, hstop⟩ := attributes.behind_name blank s
  obtain ⟨u, hu⟩ := List.head?_eq_some_iff.1 hd
  rw [hu] at hend hknown ⊢
  have hstops : isShortNameChar d = false ∧ isNameChar d = false ∧ d ≠ '/' := by
    rcases hstop with hspace | rfl
    · exact Xml.of_isSpace
        (P := fun d => isShortNameChar d = false ∧ isNameChar d = false ∧ d ≠ '/') hspace
        (by decide)
    · decide
  obtain ⟨c, t, rfl, halpha⟩ := known.isName.exists_cons
  have hshort : ∀ d ∈ c :: t, isShortNameChar d = true := fun d hd => by
    simp [isShortNameChar, known.isName.alphanumeric d hd]
  have hname : ∀ d ∈ c :: t, isNameChar d = true := fun d hd => by
    simp [isNameChar, known.isName.alphanumeric d hd]
  obtain ⟨-, hdropShort⟩ := Prod.mk.inj (Text.run_append hshort hstops.1 u)
  obtain ⟨htake, hdrop⟩ := Prod.mk.inj (Text.run_append hname hstops.2.1 u)
  have hangle : c ≠ '>' := by
    rintro rfl
    exact absurd halpha (by decide)
  refine ⟨_, ?_, hknown (c :: t ++ d :: u).length ('>' :: s).length⟩
  have htagEnd : tagEnd? (c :: t ++ d :: u) = some ('>' :: s) := by
    rw [tagEnd?, hend]
    rfl
  unfold readTag
  simp only [hdropShort, htagEnd, htake, hdrop]
  split
  · next h => exact absurd (Option.some.inj h) hangle
  · next h _ => exact absurd (List.cons.inj h).1 hstops.2.2
  · rfl

/-! ## Tokens -/

/-- A token of a site page. -/
inductive Token.IsSite : Token → Prop where
  | text (s : Text) : IsSite (.text s)
  | startTag {name : Text} {attrs : List Attr} (known : name ∈ Site.elements)
    (areKnown : ∀ a ∈ attrs, a.name ∈ Site.attributes) : IsSite (.startTag name attrs)
  | endTag {name : Text} (known : name ∈ Site.elements) : IsSite (.endTag name)

/-- What stands at the front of a page is of site pages and leaves a page behind, if it ends. -/
def Front.IsSite : Front → Prop
  | .tokens out _ rest => (∀ t ∈ out, t.IsSite) ∧ Site.IsPage rest
  | .endless | .nameless => True

variable (d : Dialect) (last : Text)

theorem front_startTag {name : Text} (known : Site.IsElement name)
    (attributes : Site.Attributes written attrs) (blank : Xml.Blank gap) {s : Text}
    (h : Site.IsPage s) :
    (front d last ('<' :: (name ++ (written ++ (gap ++ '>' :: s))))).IsSite := by
  obtain ⟨found, hread, hfound⟩ := readTag_page known attributes blank last s
  obtain ⟨c, t, rfl, halpha⟩ := known.isName.exists_cons
  have hfront (u : Text) : front d last ('<' :: c :: u) = frontOfTag d last (c :: u) := by
    have hslash : c ≠ '/' := by rintro rfl; exact absurd halpha (by decide)
    have hquestion : c ≠ '?' := by rintro rfl; exact absurd halpha (by decide)
    have hbang : c ≠ '!' := by rintro rfl; exact absurd halpha (by decide)
    rw [front.eq_def]
    split <;> simp_all
  have hangle : ¬ '>' = c := by
    rintro rfl
    exact absurd halpha (by decide)
  rw [List.cons_append] at hread ⊢
  rw [hfront, frontOfTag, hread]
  simp only [Text.startsWith, Text.after?, hangle, if_false, Option.isSome_none, Bool.false_eq_true]
  refine ⟨List.forall_mem_cons.2 ⟨.startTag known.known hfound, fun u hu => ?_⟩, h⟩
  -- Whether the tag counts as closed at once or not, its end is one of its own name.
  split at hu
  · rw [List.mem_singleton.1 hu]
    exact .endTag known.known
  · cases hu

theorem cutBracket?_inside {inside : Text} (h : ∀ c ∈ inside, IsIdle c) (s : Text) :
    cutBracket? (inside ++ '>' :: s) = some (inside, s) := by
  induction inside with
  | nil => rfl
  | cons c inside ih =>
    obtain ⟨hc, hinside⟩ := List.forall_mem_cons.1 h
    simp only [IsIdle, List.mem_cons, not_or] at hc
    simp [cutBracket?, hc, ih hinside]

/-- Blanks behind a text are trimmed off. -/
theorem trim_append_blank {s gap : Text} (hs : ∃ c ∈ s.head?, Text.isBlank c = false)
    (blank : Xml.Blank gap) : Text.trim (s ++ gap) = Text.trim s := by
  obtain ⟨c, hc, hblank⟩ := hs
  obtain ⟨t, rfl⟩ := List.head?_eq_some_iff.1 hc
  have hgap : ∀ d ∈ gap.reverse, Text.isBlank d = true := fun d hd =>
    Site.isBlank_of_isSpace (blank d (List.mem_reverse.1 hd))
  have hleft (u : Text) : Text.trimLeft (c :: u) = c :: u := by simp [Text.trimLeft, hblank]
  rw [Text.trim, Text.trim, List.cons_append, hleft, hleft, ← List.cons_append, Text.trimRight,
    List.reverse_append, List.dropWhile_append_of_pos hgap, Text.trimRight]

theorem front_endTag {name : Text} (known : Site.IsElement name) (blank : Xml.Blank gap) {s : Text}
    (h : Site.IsPage s) : (front d last ('<' :: '/' :: (name ++ (gap ++ '>' :: s)))).IsSite := by
  have hidle : ∀ c ∈ '/' :: (name ++ gap), IsIdle c :=
    List.forall_mem_cons.2 ⟨by decide, List.forall_mem_append.2
      ⟨fun c hc => isIdle_of_isAlphanum (known.isName.alphanumeric c hc),
        fun c hc => isIdle_of_isSpace (blank c hc)⟩⟩
  have hcut := cutBracket?_inside hidle s
  have hunblank : ∀ c ∈ name, Text.isBlank c = false := fun c hc =>
    Html.not_isBlank_of_isAlphanum (known.isName.alphanumeric c hc)
  have htrim : Text.trim (name ++ gap) = name := by
    obtain ⟨c, hc, -⟩ := known.isName.letter
    rw [trim_append_blank ⟨c, hc, hunblank c (List.mem_of_mem_head? hc)⟩ blank]
    exact Text.trim_eq_self (fun c hc => hunblank c (List.mem_of_mem_head? hc))
      fun c hc => hunblank c (List.mem_of_getLast? hc)
  simp only [List.cons_append, List.append_assoc] at hcut
  simp only [front, hcut, List.drop_one, List.tail_cons, htrim]
  exact ⟨by simpa using Token.IsSite.endTag known.known, h⟩

theorem front_page {s : Text} (h : Site.IsPage s) (hs : s ≠ []) : (front d last s).IsSite := by
  cases h with
  | nil => exact absurd rfl hs
  | @char c s plain rest =>
    have hplain := plain.2
    simp only [List.mem_cons, not_or] at hplain
    rw [front_running ⟨hplain.1, hplain.2.1⟩]
    exact ⟨by simpa using Token.IsSite.text _, (Site.IsPage.char plain rest).dropWhile (by decide)⟩
  | startTag known attributes blank rest => exact front_startTag d last known attributes blank rest
  | endTag known blank rest => exact front_endTag d last known blank rest

theorem tokensFrom_page (whole : Text) (n : Nat) {s : Text} (h : Site.IsPage s) :
    ∀ t ∈ tokensFrom d whole n last s, t.IsSite := by
  induction n generalizing last s with
  | zero => simp [tokensFrom]
  | succ n ih =>
    rw [tokensFrom]
    split
    · simp
    · next hs =>
      have hfront := front_page d last h (by simpa using hs)
      split
      · next out last' rest heq =>
        rw [heq] at hfront
        exact List.forall_mem_append.2 ⟨hfront.1, ih last' hfront.2⟩
      · simpa using Token.IsSite.text s
      · simpa using ⟨Token.IsSite.text whole, Token.IsSite.text s⟩

end Markup

/-- The tokens of a page are of site pages. -/
theorem Site.IsPage.tokens {s : Text} (h : IsPage s) (d : Markup.Dialect) :
    ∀ t ∈ Markup.tokens d s, t.IsSite := by
  rw [Markup.tokens, Markup.tidy_page h]
  exact Markup.tokensFrom_page d _ s _ h

end FeedPage
