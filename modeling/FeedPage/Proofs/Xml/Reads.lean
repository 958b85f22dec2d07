-- SUMMARY: The events that written elements are read as, built up from text to whole documents.
import FeedPage.Proofs.Xml.Written

/-!
# Reading written markup

Written elements are read as what they hold: a start, the events inside, a finish. This is shown part
by part. What a part is read as must not depend on where it stands, so each statement is about the
part in front of any rest (`Reads`, and `Inside` for what is only read so in front of a tag); text,
elements in a row, and an element around them keep it. A document that is one element is then read as
its events (`ofDocument?_element`).
-/

namespace FeedPage.Xml

/-! ## Content wherever it stands -/

/-- Names without a qualifier belong to this namespace. -/
def Bindings.Gives (b : Bindings) (space : Option Text) : Prop :=
  ∀ base, b.element? ⟨none, base⟩ = some ⟨space, base⟩

/-- The tokens close all that they open, and stand for these events, whatever follows. -/
structure Stands (space : Option Text) (ts : List Token) (es : List Event) : Prop where
  events : ∀ {b : Bindings}, b.Gives space → ∀ n opened us,
    content? {} n b opened (ts ++ us) = (content? {} n b opened us).map (es ++ ·)
  closes : ∀ depth us, 0 < depth → closesAtEnd depth (ts ++ us) = closesAtEnd depth us

/-- What complete elements are read as. -/
def Reads (space : Option Text) (s : Text) (es : List Event) : Prop :=
  ∃ ts fs, (∀ rest, Token.all? (s ++ rest) = (Token.all? rest).map (ts ++ ·)) ∧
    Stands space ts fs ∧ ∀ gs, mergeText (fs ++ gs) = es ++ mergeText gs

/-- What the content of an element is read as: a tag follows, and the text before it is complete. -/
def Inside (space : Option Text) (s : Text) (es : List Event) : Prop :=
  ∃ ts fs, (∀ rest, rest.head? = some '<' →
      Token.all? (s ++ rest) = (Token.all? rest).map (ts ++ ·)) ∧
    Stands space ts fs ∧
    ∀ name gs, mergeText (fs ++ .finish name :: gs) = es ++ .finish name :: mergeText gs

variable {space : Option Text} {s t : Text} {ts us : List Token} {es fs : List Event}

namespace Stands

theorem nil : Stands space [] [] where
  events _ n opened us := by simp
  closes _ _ _ := rfl

theorem append (h : Stands space ts es) (h' : Stands space us fs) :
    Stands space (ts ++ us) (es ++ fs) where
  events hb n opened vs := by
    rw [List.append_assoc, h.events hb, h'.events hb, Option.map_map]
    simp [Function.comp_def]
  closes depth vs hd := by rw [List.append_assoc, h.closes _ _ hd, h'.closes _ _ hd]

theorem text (s : Text) : Stands space [.text s] [.text s] where
  events _ n opened us := by
    rw [List.singleton_append, content?]
    rfl
  closes _ _ _ := rfl

theorem char {t : Token} {c : Char} (h : t.IsChar c) : Stands space [t] [.text [c]] where
  events _ n opened us := by
    rcases h with rfl | ⟨name, rfl, hname⟩
    · rw [List.singleton_append, content?]
      rfl
    · rw [List.singleton_append, content?.eq_def]
      simp only [hname]
      rfl
  closes _ _ _ := by rcases h with rfl | ⟨name, rfl, -⟩ <;> rfl

end Stands

/-! ## Text -/

/-- The event of a text, when there is one. -/
def textEvents (s : Text) : List Event := if s.isEmpty then [] else [.text s]

/-- A text in front of what is one text becomes a part of it. -/
theorem mergeText_text {v : Text} {name : ExpandedName} {gs : List Event} (hs : s ≠ [])
    (h : mergeText fs = textEvents v ++ .finish name :: gs) :
    mergeText (.text s :: fs) = textEvents (s ++ v) ++ .finish name :: gs := by
  cases v with
  | nil => simp [mergeText, h, textEvents, hs]
  | cons c v => simp [mergeText, h, textEvents]

theorem Runs.inside {written meant : Text} (h : Runs written meant) :
    Inside space written (textEvents meant) := by
  induction h with
  | nil => exact ⟨[], [], by simp, .nil, by simp [textEvents, mergeText]⟩
  | @run s written meant safe filled apart rest ih =>
    obtain ⟨ts, fs, htokens, hstands, hmerge⟩ := ih
    refine ⟨.text s :: ts, .text s :: fs, fun rest hrest => ?_, (Stands.text s).append hstands,
      fun name gs => mergeText_text filled (hmerge name gs)⟩
    have hfollows : ∃ c ∈ (written ++ rest).head?, Token.isTextChar c = false := by
      cases hw : written with
      | nil => exact ⟨'<', by simpa using hrest, by decide⟩
      | cons c w =>
        obtain rfl := apart c (by simp [hw])
        exact ⟨'&', by simp, by decide⟩
    rw [List.append_assoc, Token.all?_of_next? (Token.next?_run safe filled hfollows),
      htokens rest hrest, Option.map_map]
    rfl
  | @reference r written meant c reference rest ih =>
    obtain ⟨ts, fs, htokens, hstands, hmerge⟩ := ih
    obtain ⟨t, ht, hnext⟩ := Token.next?_reference reference
    refine ⟨t :: ts, .text [c] :: fs, fun rest hrest => ?_, (Stands.char ht).append hstands,
      fun name gs => mergeText_text (s := [c]) (by simp) (hmerge name gs)⟩
    have hsplit : '&' :: r ++ ';' :: written ++ rest = '&' :: r ++ ';' :: (written ++ rest) := by
      simp
    rw [hsplit, Token.all?_of_next? (hnext _), htokens rest hrest, Option.map_map]
    rfl

theorem Escaped.inside {written meant : Text} (h : Escaped written meant) :
    Inside space written (textEvents meant) := h.runs.inside

/-! ## Elements in a row -/

theorem Reads.nil : Reads space [] [] := ⟨[], [], by simp, .nil, by simp⟩

theorem Reads.append (h : Reads space s es) (h' : Reads space t fs) :
    Reads space (s ++ t) (es ++ fs) := by
  obtain ⟨ts, gs, htokens, hstands, hmerge⟩ := h
  obtain ⟨us, hs, htokens', hstands', hmerge'⟩ := h'
  refine ⟨ts ++ us, gs ++ hs, fun rest => ?_, hstands.append hstands', fun is => ?_⟩
  · rw [List.append_assoc, htokens, htokens', Option.map_map]
    simp [Function.comp_def]
  · rw [List.append_assoc, hmerge, hmerge', List.append_assoc]

theorem Reads.flatMap {α : Type} {f : α → Text} {g : α → List Event} {as : List α}
    (h : ∀ a ∈ as, Reads space (f a) (g a)) : Reads space (as.flatMap f) (as.flatMap g) := by
  induction as with
  | nil => exact .nil
  | cons a as ih =>
    rw [List.flatMap_cons, List.flatMap_cons]
    exact (h a (by simp)).append (ih fun b hb => h b (List.mem_cons_of_mem a hb))

theorem Reads.inside (h : Reads space s es) : Inside space s es := by
  obtain ⟨ts, fs, htokens, hstands, hmerge⟩ := h
  exact ⟨ts, fs, fun rest _ => htokens rest, hstands, fun name gs => hmerge _⟩

/-! ## Start tags -/

/-- The attribute that events tell. -/
def Attribute.ofPlain (a : Text × Text) : Attribute := ⟨⟨none, a.1⟩, ⟨none, a.1⟩, a.2⟩

theorem valueText?_plain (d : Doctype) (n : Nat) {v : Text} (h : ∀ c ∈ v, isSpace c = true → c = ' ') :
    valueText? d n (v.map .plain) = some v := by
  induction v with
  | nil => rw [List.map_nil, valueText?]
  | cons c v ih =>
    have hc : (if isSpace c = true then ' ' else c) = c := by
      by_cases hs : isSpace c = true
      · rw [if_pos hs, h c (by simp) hs]
      · rw [if_neg hs]
    rw [List.map_cons, valueText?, ih fun d hd => h d (List.mem_cons_of_mem c hd), hc]
    rfl

/-- The attributes are plain, no name stands twice, and none declares a namespace. -/
structure ArePlain (attrs : List (Text × Text)) : Prop where
  plain : ∀ a ∈ attrs, IsPlainAttribute a
  nodup : (attrs.map (·.1)).Nodup
  undeclared : ∀ a ∈ attrs, a.1 ≠ "xmlns".toList

theorem ArePlain.nil : ArePlain [] := ⟨by simp, by simp, by simp⟩

theorem mapM_map_eq_some {α β γ : Type} {f : α → β} {g : β → Option γ} {h : α → γ} {as : List α}
    (hg : ∀ a ∈ as, g (f a) = some (h a)) : (as.map f).mapM g = some (as.map h) := by
  induction as with
  | nil => rfl
  | cons a as ih =>
    simp [List.mapM_cons, hg a (by simp), ih fun b hb => hg b (List.mem_cons_of_mem a hb)]

/-- A start tag whose attributes are plain and declare no namespace, unless a name stands twice. -/
theorem Opening.read?_eq_ite {attrs : List (Text × Text)} (plain : ∀ a ∈ attrs, IsPlainAttribute a)
    (undeclared : ∀ a ∈ attrs, a.1 ≠ "xmlns".toList) {b : Bindings} (hb : b.Gives space)
    (name : Text) :
    Opening.read? {} b ⟨none, name⟩ (attrs.map Attr.ofPlain) =
      if (attrs.map (·.1)).Nodup then some ⟨[], b, ⟨space, name⟩, attrs.map Attribute.ofPlain⟩
      else none := by
  have hvalues : ((attrs.map Attr.ofPlain).mapM fun a =>
      (valueText? {} 1 a.value).map fun v => (a.name, v)) =
      some (attrs.map fun a => ((⟨none, a.1⟩ : Name), a.2)) :=
    mapM_map_eq_some fun a ha => by
      rw [Attr.ofPlain, valueText?_plain {} 1 (plain a ha).space, Option.map_some]
  have hundeclared : ∀ a ∈ attrs, (⟨none, a.1⟩ : Name).declares? = none := fun a ha => by
    rw [Name.declares?, if_neg (by simp), if_neg fun hname => undeclared a ha hname.2]
  have hdeclared : (attrs.filterMap fun a =>
      (Name.declares? ⟨none, a.1⟩).map fun q => (q, a.2)) = [] := by
    rw [List.filterMap_eq_nil_iff]
    intro a ha
    rw [hundeclared a ha, Option.map_none]
  have hkept : (attrs.filter fun a => (Name.declares? ⟨none, a.1⟩).isNone) = attrs := by
    rw [List.filter_eq_self]
    intro a ha
    rw [hundeclared a ha, Option.isNone_none]
  have hqualified : (attrs.map Attribute.ofPlain).filter (·.written.qualifier.isSome) = [] := by
    rw [List.filter_eq_nil_iff]
    intro p hp
    obtain ⟨a, -, rfl⟩ := List.mem_map.1 hp
    simp [Attribute.ofPlain]
  have hnodup : ((attrs.map fun a => ((⟨none, a.1⟩ : Name), a.2)).map (·.1)).Nodup ↔
      (attrs.map (·.1)).Nodup := by
    simp [List.Nodup, List.pairwise_map]
  unfold Opening.read?
  simp only [List.length_nil, Nat.zero_add, hvalues, Option.bind_eq_bind, Option.bind_some,
    List.filterMap_map, List.filter_map, Function.comp_def, hdeclared, hkept, List.reverse_nil,
    List.nil_append]
  rw [mapM_map_eq_some (h := Attribute.ofPlain) fun _ _ => ?_]
  · simp only [Option.bind_some, hb name, hqualified, hnodup, List.map_nil, List.nodup_nil,
      List.all_nil, and_true]
  · rfl

theorem Opening.read?_plain {attrs : List (Text × Text)} (h : ArePlain attrs) {b : Bindings}
    (hb : b.Gives space) (name : Text) :
    Opening.read? {} b ⟨none, name⟩ (attrs.map Attr.ofPlain) =
      some ⟨[], b, ⟨space, name⟩, attrs.map Attribute.ofPlain⟩ := by
  rw [Opening.read?_eq_ite h.plain h.undeclared hb, if_pos h.nodup]

/-! ## Elements -/

/-- An element as it is written. -/
def element (name : Text) (attrs : List (Text × Text)) (inside : Text) : Text :=
  '<' :: name ++ writeAttributes attrs ++ '>' :: (inside ++ ('<' :: '/' :: name ++ ['>']))

/-- An element without content as it is written. -/
def emptyElement (name : Text) (attrs : List (Text × Text)) : Text :=
  '<' :: name ++ writeAttributes attrs ++ ['/', '>']

section

variable {name : Text} {attrs : List (Text × Text)}

theorem Token.all?_element (isTag : IsTag name) (hattrs : ∀ a ∈ attrs, IsPlainAttribute a)
    {inside : Text} (htokens : ∀ rest, rest.head? = some '<' →
      Token.all? (inside ++ rest) = (Token.all? rest).map (ts ++ ·)) (rest : Text) :
    Token.all? (element name attrs inside ++ rest) =
      (Token.all? rest).map
        ((.startTag ⟨none, name⟩ (attrs.map Attr.ofPlain) :: ts ++ [.endTag ⟨none, name⟩]) ++ ·) := by
  have hsplit : element name attrs inside ++ rest =
      '<' :: name ++ writeAttributes attrs ++
        '>' :: (inside ++ ('<' :: '/' :: name ++ '>' :: rest)) := by simp [element]
  have hend : Token.next? ('<' :: '/' :: name ++ '>' :: rest) = some (.endTag ⟨none, name⟩, rest) :=
    Token.next?_endTag isTag.isBaseName (by decide : Blank []) rest
  rw [hsplit, Token.all?_of_next? (Token.next?_startTag isTag.isBaseName hattrs _), htokens _ rfl,
    Token.all?_of_next? hend]
  simp [Option.map_map, Function.comp_def]

/-- The tokens of an element stand for its events, when those inside do. -/
theorem Stands.element (hattrs : ArePlain attrs) (h : Stands space ts es) (name : Text) :
    Stands space (.startTag ⟨none, name⟩ (attrs.map Attr.ofPlain) :: ts ++ [.endTag ⟨none, name⟩])
      (.start ⟨space, name⟩ (attrs.map Attribute.ofPlain) :: es ++ [.finish ⟨space, name⟩]) where
  events hb n opened us := by
    simp only [List.cons_append, List.append_assoc, List.nil_append]
    rw [content?]
    simp only [Opening.read?_plain hattrs hb name, Option.bind_eq_bind, Option.bind_some, h.events hb]
    rw [content?]
    simp [Opening.events, Option.map_map, Function.comp_def]
    cases content? {} n _ opened us <;> simp
  closes depth us hd := by
    simp only [List.cons_append, List.append_assoc, List.nil_append, closesAtEnd]
    rw [h.closes _ _ (by omega), closesAtEnd, if_neg (by omega), Nat.add_sub_cancel]

theorem Inside.element (isTag : IsTag name) (hattrs : ArePlain attrs) (h : Inside space s es) :
    Reads space (element name attrs s)
      (.start ⟨space, name⟩ (attrs.map Attribute.ofPlain) :: es ++ [.finish ⟨space, name⟩]) := by
  obtain ⟨ts, fs, htokens, hstands, hmerge⟩ := h
  refine ⟨_, _, Token.all?_element isTag hattrs.plain htokens, hstands.element hattrs name,
    fun gs => ?_⟩
  simp [mergeText, hmerge]

theorem Reads.emptyElement (isTag : IsTag name) (hattrs : ArePlain attrs) :
    Reads space (emptyElement name attrs)
      [.start ⟨space, name⟩ (attrs.map Attribute.ofPlain), .finish ⟨space, name⟩] := by
  refine ⟨[.emptyTag ⟨none, name⟩ (attrs.map Attr.ofPlain)],
    [.start ⟨space, name⟩ (attrs.map Attribute.ofPlain), .finish ⟨space, name⟩],
    fun rest => ?_, ⟨?_, ?_⟩, fun gs => by simp [mergeText]⟩
  · have hsplit : Xml.emptyElement name attrs ++ rest =
        '<' :: name ++ writeAttributes attrs ++ '/' :: '>' :: rest := by simp [Xml.emptyElement]
    rw [hsplit, Token.all?_of_next? (Token.next?_emptyTag isTag.isBaseName hattrs.plain rest)]
    rfl
  · intro b hb n opened us
    rw [List.singleton_append, content?]
    simp only [Opening.read?_plain hattrs hb name, Option.bind_eq_bind, Option.bind_some]
    cases content? {} n b opened us <;> simp [Opening.events]
  · intro depth us _
    rfl

end

/-! ## Documents -/

theorem Opening.mergeText_events_append (o : Opening) (gs : List Event) :
    mergeText (o.events ++ gs) = o.events ++ mergeText gs := by
  unfold Opening.events
  induction o.declared with
  | nil => rfl
  | cons d declared ih =>
    obtain ⟨q, v⟩ := d
    simpa [mergeText] using ih

/-- A document that is one element behind a line end is read as the events of that element. -/
theorem ofDocument?_element {name : Text} {attrs : List (Text × Text)} {o : Opening}
    (isTag : IsTag name) (hattrs : ∀ a ∈ attrs, IsPlainAttribute a)
    (hopening : Opening.read? {} .outermost ⟨none, name⟩ (attrs.map Attr.ofPlain) = some o)
    (hgives : o.inner.Gives space) (h : Inside space s es)
    (hlines : '\r' ∉ element name attrs s) :
    Event.ofDocument? ('\n' :: element name attrs s) =
      some (o.events ++ (es ++ [.finish o.name])) := by
  obtain ⟨ts, fs, htokens, hstands, hmerge⟩ := h
  have hline : Token.next? ('\n' :: element name attrs s) =
      some (.text ['\n'], element name attrs s) :=
    Token.next?_run (s := ['\n']) (by decide) (by simp) ⟨'<', rfl, by decide⟩
  have hall : Token.all? (lineFeeds ('\n' :: element name attrs s)) =
      some (.text ['\n'] :: .startTag ⟨none, name⟩ (attrs.map Attr.ofPlain) ::
        (ts ++ [.endTag ⟨none, name⟩])) := by
    have helement := Token.all?_element isTag hattrs htokens []
    rw [List.append_nil, Token.all?_nil] at helement
    rw [lineFeeds_eq_self (by simpa using hlines), Token.all?_of_next? hline, helement]
    simp
  have hcloses : isElement (.startTag ⟨none, name⟩ (attrs.map Attr.ofPlain) ::
      (ts ++ [.endTag ⟨none, name⟩])) = true := by
    rw [isElement, hstands.closes 1 _ (by omega)]
    rfl
  have hevents : content? {} 1 .outermost [] (.startTag ⟨none, name⟩ (attrs.map Attr.ofPlain) ::
      (ts ++ [.endTag ⟨none, name⟩])) = some (o.events ++ (fs ++ [.finish o.name])) := by
    rw [content?]
    simp only [hopening, Option.bind_eq_bind, Option.bind_some, hstands.events hgives]
    rw [content?]
    simp [content?]
  unfold Event.ofDocument?
  have hfront : (Token.text ['\n'] :: .startTag ⟨none, name⟩ (attrs.map Attr.ofPlain) ::
      (ts ++ [.endTag ⟨none, name⟩])).dropWhile Token.isOutside =
      .startTag ⟨none, name⟩ (attrs.map Attr.ofPlain) :: (ts ++ [.endTag ⟨none, name⟩]) := rfl
  have hback : ((Token.startTag ⟨none, name⟩ (attrs.map Attr.ofPlain) ::
      (ts ++ [.endTag ⟨none, name⟩])).reverse.dropWhile Token.isOutside).reverse =
      .startTag ⟨none, name⟩ (attrs.map Attr.ofPlain) :: (ts ++ [.endTag ⟨none, name⟩]) := by
    rw [List.reverse_cons, List.reverse_append]
    simp [Token.isOutside]
  simp only [hall, Option.bind_eq_bind, Option.bind_some, hfront, hback, hcloses, if_true,
    List.length_nil, Nat.zero_add, hevents, Option.map_some, o.mergeText_events_append, hmerge]
  rfl

end FeedPage.Xml
