-- SUMMARY: Texts without markup, which every step of reading a feed leaves as they are.
import FeedPage.Feed.Read
import FeedPage.Proofs.Feed.Bytes
import FeedPage.Proofs.Xml.Written

/-!
# Plain texts

A text of printable ASCII that neither has characters of markup nor blanks at its ends goes through
all the steps in which texts of feeds are refined: trimming, guessing and cleaning markup, rereading
of characters. Nothing of it is changed (`State.refine_plain`). Addresses are plain as well, and
resolving them changes nothing either.
-/

namespace FeedPage

/-! ## Plain texts -/

/-- A text of printable ASCII. -/
def Text.IsPrintable (s : Text) : Prop := ∀ c ∈ s, 32 ≤ c.toNat ∧ c.toNat < 127

instance (s : Text) : Decidable s.IsPrintable :=
  inferInstanceAs (Decidable (∀ c ∈ s, 32 ≤ c.toNat ∧ c.toNat < 127))

/-- A text of printable ASCII without `<` and `&`, and without blanks at its ends. -/
structure Text.IsPlain (s : Text) : Prop where
  printable : s.IsPrintable
  unmarked : ∀ c ∈ s, c ≠ '<' ∧ c ≠ '&'
  front : s.head? ≠ some ' '
  back : s.getLast? ≠ some ' '

instance (s : Text) : Decidable s.IsPlain :=
  decidable_of_iff
    (s.IsPrintable ∧ (∀ c ∈ s, c ≠ '<' ∧ c ≠ '&') ∧ s.head? ≠ some ' ' ∧ s.getLast? ≠ some ' ')
    ⟨fun h => ⟨h.1, h.2.1, h.2.2.1, h.2.2.2⟩, fun h => ⟨h.printable, h.unmarked, h.front, h.back⟩⟩

namespace Text

theorem IsPrintable.isAscii {s : Text} (h : s.IsPrintable) : s.IsAscii := fun c hc => by
  have := (h c hc).2
  omega

theorem IsPrintable.append {s t : Text} (hs : s.IsPrintable) (ht : t.IsPrintable) :
    (s ++ t).IsPrintable := List.forall_mem_append.2 ⟨hs, ht⟩

theorem IsPrintable.cons {c : Char} {s : Text} (hc : IsPrintable [c]) (hs : s.IsPrintable) :
    IsPrintable (c :: s) := hc.append hs

theorem IsPrintable.flatMap {α : Type} {f : α → Text} {as : List α}
    (h : ∀ a ∈ as, (f a).IsPrintable) : IsPrintable (as.flatMap f) := by
  intro c hc
  obtain ⟨a, ha, hc⟩ := List.mem_flatMap.1 hc
  exact h a ha c hc

theorem IsPrintable.of_isAlphanum {s : Text} (h : ∀ c ∈ s, c.isAlphanum = true) : s.IsPrintable :=
  fun c hc => by
    have := toNat_of_isAlphanum (h c hc)
    omega

variable {s : Text}

/-- The only blank of printable ASCII is the space. -/
theorem isBlank_of_printable {c : Char} (h : 32 ≤ c.toNat ∧ c.toNat < 127) (hc : c ≠ ' ') :
    isBlank c = false := by
  have hne : c.toNat ≠ 32 := fun hn => hc (Char.toNat_inj.1 hn)
  rw [Bool.eq_false_iff]
  intro hblank
  simp only [isBlank, Bool.or_eq_true, Bool.and_eq_true, decide_eq_true_eq, beq_iff_eq] at hblank
  omega

theorem IsPlain.trim_eq (h : s.IsPlain) : trim s = s := by
  refine trim_eq_self (fun c hc => ?_) fun c hc => ?_
  · refine isBlank_of_printable (h.printable c (List.mem_of_mem_head? hc)) ?_
    rintro rfl
    exact h.front hc
  · refine isBlank_of_printable (h.printable c (List.mem_of_getLast? hc)) ?_
    rintro rfl
    exact h.back hc

/-- Nothing is collected where nothing is recognised. -/
theorem collect_eq_nil {α : Type} {m : Text → Option (Nat × α)} (h : ∀ t, t <:+ s → m t = none) :
    collect m s = [] := by
  unfold collect
  induction s with
  | nil => rfl
  | cons c s ih =>
    simp only [collectFrom, h (c :: s) (List.suffix_refl _)]
    exact ih fun t ht => h t (ht.trans (List.suffix_cons c s))

/-- A literal is not replaced in a text that lacks one of its characters. -/
theorem replace_eq_self {c : Char} {lit : Text} (hc : c ∈ lit) (new : Text) (h : c ∉ s) :
    replace lit new s = s := by
  refine substitute_eq_self fun t ht => ?_
  rw [after?_eq_none hc fun hmem => h (ht.subset hmem), Option.map_none]

theorem IsPlain.not_mem (h : s.IsPlain) {c : Char} (hc : c.toNat < 32 ∨ c = '<' ∨ c = '&') :
    c ∉ s := by
  intro hmem
  have hprintable := (h.printable c hmem).1
  have hunmarked := h.unmarked c hmem
  rcases hc with hc | hc | hc
  · omega
  · exact hunmarked.1 hc
  · exact hunmarked.2 hc

/-- No part of a plain text begins with a character of markup. -/
theorem IsPlain.head?_suffix (h : s.IsPlain) {t : Text} (ht : t <:+ s) :
    t.head? ≠ some '<' ∧ t.head? ≠ some '&' := by
  constructor
  · intro hhead
    exact h.not_mem (.inr (.inl rfl)) (ht.subset (List.mem_of_mem_head? hhead))
  · intro hhead
    exact h.not_mem (.inr (.inr rfl)) (ht.subset (List.mem_of_mem_head? hhead))

end Text

/-! ## Markup -/

namespace Markup

variable {s : Text} (h : s.IsPlain)

include h

theorem tidy_plain : tidy s = s := by
  have hdeclarations : Text.substitute unknownDeclaration? s = s :=
    Text.substitute_eq_self fun t ht => by
      have := (h.head?_suffix ht).1
      unfold unknownDeclaration?
      split <;> simp_all
  have htags : Text.substitute emptyTag? s = s :=
    Text.substitute_eq_self fun t ht => by
      have := (h.head?_suffix ht).1
      unfold emptyTag?
      split <;> simp_all
  have hreferences (lit new : Text) (hlit : '&' ∈ lit) : Text.replace lit new s = s :=
    Text.replace_eq_self hlit new (h.not_mem (.inr (.inr rfl)))
  simp only [tidy, hdeclarations, htags]
  rw [hreferences _ _ (by decide), hreferences _ _ (by decide)]

omit h in
/-- Text goes on to the next character that begins markup. -/
theorem front_running {c : Char} (hc : c ≠ '<' ∧ c ≠ '&') (d : Dialect) (last t : Text) :
    front d last (c :: t) =
      .tokens [.text ((c :: t).takeWhile front.isRunning)] last
        ((c :: t).dropWhile front.isRunning) := by
  unfold front
  split
  case h_8 => rfl
  all_goals
    rename_i heq
    cases heq
    simp at hc

/-- A plain text is one token. -/
theorem tokens_plain (d : Dialect) : tokens d s = if s.isEmpty then [] else [.text s] := by
  simp only [tokens, tidy_plain h]
  cases hs : s with
  | nil => rfl
  | cons c t =>
    have hrunning : ∀ x ∈ c :: t, front.isRunning x = true := fun x hx => by
      simpa [front.isRunning] using h.unmarked x (hs ▸ hx)
    have htake : ((c :: t) ++ []).takeWhile front.isRunning = c :: t ++ [] :=
      List.takeWhile_append_of_pos hrunning
    have hdrop : ((c :: t) ++ []).dropWhile front.isRunning = [] :=
      List.dropWhile_append_of_pos hrunning
    rw [List.append_nil] at htake hdrop
    have hfront (last : Text) : front d last (c :: t) = .tokens [.text (c :: t)] last [] := by
      rw [front_running (h.unmarked c (by simp [hs])), htake, hdrop]
    simp [tokensFrom, hfront]

end Markup

namespace Html

variable {s : Text} (h : s.IsPlain)

include h

theorem absolute_plain (base : Text) (xhtml : Bool) : absolute base xhtml s = s := by
  rw [absolute, Markup.tokens_plain h]
  cases s with
  | nil => rfl
  | cons c t => exact List.append_nil (c :: t)

theorem sanitize_plain (xhtml : Bool) : sanitize xhtml s = s := by
  have hsections : Text.replace "<![CDATA[".toList "&lt;![CDATA[".toList s = s :=
    Text.replace_eq_self (c := '<') (by decide) _ (h.not_mem (.inr (.inl rfl)))
  have hlines : Text.replace "\r\n".toList ['\n'] s = s :=
    Text.replace_eq_self (c := '\r') (by decide) _ (h.not_mem (.inl (by decide)))
  have hrun : SafeState.run xhtml {} (if s.isEmpty then [] else [.text s]) = s := by
    cases s with
    | nil => rfl
    | cons c t => simp [SafeState.run, SafeState.step]
  simp only [sanitize, hsections, Markup.tokens_plain h, hrun, h.trim_eq, hlines]

/-- No word of a plain text stands between marks. -/
theorem collect_enclosedWord?_plain {opening : Text} (closing : Char)
    (hopening : opening.head? = some '<' ∨ opening.head? = some '&') :
    Text.collect (fun s => (enclosedWord? opening closing s).map fun w => (w.length + 1, w)) s =
      [] := by
  refine Text.collect_eq_nil fun t ht => ?_
  have hafter : Text.after? opening t = none := by
    rw [Option.eq_none_iff_forall_ne_some]
    intro r hr
    obtain ⟨hbracket, hampersand⟩ := h.head?_suffix ht
    rw [Text.after?_eq_some.1 hr, List.head?_append] at hbracket hampersand
    rcases hopening with hopening | hopening
    · exact hbracket (by rw [hopening]; rfl)
    · exact hampersand (by rw [hopening]; rfl)
  simp [enclosedWord?, hafter]

theorem looksLikeMarkup_plain : looksLikeMarkup s = false := by
  have htags := collect_enclosedWord?_plain h '>' (.inl rfl : "</".toList.head? = _ ∨ _)
  have hreferences := collect_enclosedWord?_plain h ';' (.inr rfl : _ ∨ ['&'].head? = _)
  have hnumbers := collect_enclosedWord?_plain h ';' (.inr rfl : _ ∨ "&#".toList.head? = _)
  simp only [looksLikeMarkup, htags, hreferences, hnumbers]
  rfl

end Html

/-! ## Addresses -/

/-- Characters of an address behind its first letter. -/
def isAddressChar (c : Char) : Bool := c.isAlphanum || c ∈ "/._-?=".toList

/-- An address: `http://`, a letter, and then letters, digits and some marks. -/
structure Address where
  letter : Char
  rest : Text
  isAlpha : letter.isAlpha = true
  isAddress : ∀ c ∈ rest, isAddressChar c = true

/-- The text of an address. -/
def Address.text (a : Address) : Text := "http://".toList ++ a.letter :: a.rest

namespace Address

/-- The characters of an address are letters, digits and marks. -/
theorem isAddressChar_or_colon (a : Address) {c : Char} (h : c ∈ a.text) :
    isAddressChar c = true ∨ c = ':' := by
  have hfront : ∀ c ∈ "http://".toList, isAddressChar c = true ∨ c = ':' := by decide +kernel
  rcases List.mem_append.1 h with h | h
  · exact hfront c h
  · rcases List.mem_cons.1 h with rfl | h
    · exact .inl (by rw [isAddressChar, Char.isAlphanum, a.isAlpha]; rfl)
    · exact .inl (a.isAddress c h)

/-- The characters of an address are printable and no blanks, and none has a meaning in markup. -/
theorem bounds_of_mem (a : Address) {c : Char} (h : c ∈ a.text) :
    33 ≤ c.toNat ∧ c.toNat < 127 ∧ c ∉ ['<', '>', '&', '"'] := by
  have hmarks : ∀ c ∈ ':' :: "/._-?=".toList,
      33 ≤ c.toNat ∧ c.toNat < 127 ∧ c ∉ ['<', '>', '&', '"'] := by decide +kernel
  have hletters : ∀ c ∈ ['<', '>', '&', '"'], c.isAlphanum = false := by decide
  rcases a.isAddressChar_or_colon h with hc | rfl
  · simp only [isAddressChar, Bool.or_eq_true, decide_eq_true_eq] at hc
    rcases hc with hc | hc
    · have hbounds := Text.toNat_of_isAlphanum hc
      refine ⟨by omega, by omega, fun hmem => ?_⟩
      rw [hletters c hmem] at hc
      exact Bool.false_ne_true hc
    · exact hmarks c (List.mem_cons_of_mem _ hc)
  · exact hmarks ':' (List.mem_cons_self ..)

theorem isPlain (a : Address) : a.text.IsPlain where
  printable c hc := ⟨by have := (a.bounds_of_mem hc).1; omega, (a.bounds_of_mem hc).2.1⟩
  unmarked c hc := by
    have := (a.bounds_of_mem hc).2.2
    simp only [List.mem_cons, not_or] at this
    exact ⟨this.1, this.2.2.1⟩
  front hhead := absurd (a.bounds_of_mem (List.mem_of_mem_head? hhead)).1 (by decide)
  back hlast := absurd (a.bounds_of_mem (List.mem_of_getLast? hlast)).1 (by decide)

theorem filled (a : Address) : a.text ≠ [] :=
  List.append_ne_nil_of_right_ne_nil _ (List.cons_ne_nil _ _)

/-- An address without a base is as it is. -/
theorem join_nil (a : Address) : Url.join [] a.text = a.text := by
  have hslash : ¬ a.letter = '/' := by
    intro h
    have := a.isAlpha
    rw [h] at this
    exact absurd this (by decide)
  have hscheme : a.text.takeWhile Url.isWrittenSchemeChar = "http".toList := rfl
  have hrest : a.text.dropWhile Url.isWrittenSchemeChar = "://".toList ++ a.letter :: a.rest := rfl
  have hslashes : (a.letter :: a.rest).dropWhile (· = '/') = a.letter :: a.rest := by
    simp [hslash]
  have hdrop : Url.dropExtraSlashes a.text = a.text := by
    unfold Url.dropExtraSlashes
    rw [hrest, Text.after?_eq_some.2 rfl, hscheme]
    simp only [hslashes]
    rfl
  rw [Url.join, hdrop]
  rfl

end Address

/-! ## Refining -/

namespace Feed.State

theorem reread_plain {s : Text} (h : s.IsPlain) : reread s = s := by
  have hlow : (s.all fun c => c.toNat < 256) = true := by
    rw [List.all_eq_true]
    intro c hc
    have := h.printable.isAscii c hc
    simp only [decide_eq_true_eq]
    omega
  rw [reread, if_pos hlow, Text.ofUtf8?_ascii h.printable.isAscii, Option.getD_some]

theorem map_fromWindows1252_plain {s : Text} (h : s.IsPlain) : s.map Text.fromWindows1252 = s := by
  have hsame : ∀ c ∈ s, Text.fromWindows1252 c = c := fun c hc =>
    Text.fromWindows1252_of_lt (h.printable.isAscii c hc)
  rw [List.map_congr_left hsame, List.map_id']

/-- Refining leaves plain texts, and the state, as they are. -/
theorem refine_plain {q : State} {name text : Text} (h : text.IsPlain)
    (hlenient : q.lenient = false) (hbase64 : q.prose.base64 = false)
    (hjoin : name ∈ referenceNames → Url.join q.base text = text) :
    q.refine name text = (text, q) := by
  have hresolved : (if name ∈ referenceNames ∧ !text.isEmpty ∧ (name ≠ "id".toList ∨ q.idIsLink) then
      Url.join q.base text else text) = text := by
    split
    · next hname => exact hjoin hname.1
    · rfl
  have hprose : q.prose = { type := q.prose.type, base64 := false } := by rw [← hbase64]
  have hsame : ∀ l p, q.lenient = l → q.prose = p → ({ q with lenient := l, prose := p } : State) = q := by
    rintro _ _ rfl rfl
    rfl
  unfold refine
  simp only [hbase64, Bool.false_eq_true, if_false, hresolved, hlenient, Bool.not_false, Bool.or_true,
    if_true, Html.looksLikeMarkup_plain h, Bool.and_false, Html.absolute_plain h, Html.sanitize_plain h,
    ite_self, reread_plain h, map_fromWindows1252_plain h]
  exact congrArg (Prod.mk text) (hsame _ _ hlenient hprose)

end Feed.State
end FeedPage
