-- SUMMARY: Why no feed is found in a site page: reading it stays outside of all feeds.
import FeedPage.Proofs.Feed.Place
import FeedPage.Proofs.Fetch.Trace
import FeedPage.Proofs.Site.Events
import FeedPage.Proofs.Site.Tokens

/-!
# Site pages are no feeds

Some elements of site pages have a meaning in feeds too: titles, bodies and links open and close
prose, keep texts and relate documents. But none of them begins a feed or an item, so what is read
of a page belongs to nothing and is dropped when it is closed, in whatever order its tags stand
(`State.IsOutside`). A document without a version and without items is no feed, and the fetch of a
page goes on to what the page advertises (`fetchFeed_page`).
-/

namespace FeedPage

namespace Feed

/-! ## Results -/

/-- A computation has a result, and `P` holds of it. -/
def Yields {α : Type} (x : Except Fault α) (P : α → Prop) : Prop := ∃ a, x = .ok a ∧ P a

namespace Yields

variable {α β : Type} {x : Except Fault α} {P : α → Prop}

theorem ok {a : α} (h : P a) : Yields (.ok a) P := ⟨a, rfl, h⟩

theorem bind {f : α → Except Fault β} {Q : β → Prop} (h : Yields x P)
    (hf : ∀ a, P a → Yields (f a) Q) : Yields (x >>= f) Q := by
  obtain ⟨a, rfl, ha⟩ := h
  exact hf a ha

theorem ite {c : Prop} [Decidable c] {y : Except Fault α} (hx : Yields x P) (hy : Yields y P) :
    Yields (if c then x else y) P := by
  split
  · exact hx
  · exact hy

end Yields

namespace State

/-! ## Outside of feeds -/

/-- Nothing of a feed has been read: there is no version and no item, and nothing that a text could
belong to; no namespace has been declared. -/
structure IsOutside (q : State) : Prop where
  version : q.version = []
  inFeed : q.inFeed = false
  inItem : q.inItem = false
  inImage : q.inImage = false
  inTextInput : q.inTextInput = false
  inSource : q.inSource = false
  items : q.items = []
  qualifiers : q.qualifiers = []
  links : q.links = []

namespace IsOutside

theorem start (lenient : Bool) (entities : List (Text × Text)) : IsOutside { lenient, entities } :=
  ⟨rfl, rfl, rfl, rfl, rfl, rfl, rfl, rfl, rfl⟩

variable {q : State} (h : q.IsOutside)

include h

/-! ## What surrounds -/

theorem place : q.place = .ok .feed := by
  simp [State.place, h.inSource, h.inImage, h.inTextInput, h.inItem]

theorem mapRecord (f : Record → Record) : (q.mapRecord f .feed).IsOutside := { h with }

theorem mapSurroundings (f : Record → Record) : Yields (q.mapSurroundings f) IsOutside := by
  rw [State.mapSurroundings, h.place]
  exact .ok (h.mapRecord f)

/-- What is read outside belongs to nothing. -/
theorem keep (name text : Text) : q.keep name text = .ok q := by
  simp [State.keep, h.inItem, h.inFeed, h.inSource]

/-! ## The stack -/

theorem push (name : Text) (kept : Bool) : (q.push name kept).IsOutside := { h with }

theorem pushProseOf (name : Text) (attrs : Attributes) (fallback : String) (kept : Bool) :
    (q.pushProseOf name attrs fallback kept).IsOutside := { h with }

theorem addPiece (p : Piece) : (q.addPiece p).IsOutside := by
  unfold State.addPiece
  split
  · exact h
  · exact { h with }

theorem addText (s : Text) : (q.addText s).IsOutside := h.addPiece _

theorem refine (name text : Text) : (q.refine name text).2.IsOutside := { h with }

theorem pop (name : Text) : Yields (q.pop name) fun r => r.2.IsOutside := by
  unfold State.pop
  split
  · exact .ok h
  · next f stack _ =>
    split
    · exact .ok h
    · have hrest : ({ q with stack } : State).IsOutside := { h with }
      have hversion : ¬ (({ q with stack } : State).version = "atom10".toList ∧
          ({ q with stack } : State).prose.type = some xhtml) := by
        rw [hrest.version]
        exact fun hatom => absurd hatom.1 (by decide)
      simp only [hversion, if_false]
      split
      · exact .ok hrest
      · have hrefined := hrest.refine name (Text.trim (f.pieces.reverse.flatMap (·.text)))
        simp only [pure, Except.pure, bind, Except.bind, hrefined.keep]
        exact .ok hrefined

theorem popProse (name : Text) : Yields (q.popProse name) fun r => r.2.IsOutside :=
  (h.pop name).bind fun _ hr => .ok { hr with }

/-! ## Elements with a meaning -/

theorem openLink (attrs : Attributes) : Yields (q.openLink attrs) IsOutside := by
  have hplaced := h.mapRecord fun r => { r with relations := some (r.relations.getD 0) }
  have hrelated := hplaced.mapRecord Record.relate
  unfold State.openLink
  simp only [h.place, bind, Except.bind, hplaced.inItem, Bool.false_and, Bool.false_eq_true,
    if_false]
  split
  · exact .ok (hrelated.push _ _)
  · exact .ite (.ok (hrelated.mapRecord _)) (.ok hrelated)

theorem closeTitle : Yields q.closeTitle IsOutside := by
  refine (h.popProse "title".toList).bind fun (text, r) hr => .ok ?_
  split
  · exact { hr with }
  · exact hr

theorem closeContent : Yields q.closeContent IsOutside := by
  refine (h.popProse "content".toList).bind fun (text, r) hr => ?_
  dsimp only
  split
  · exact hr.mapSurroundings _
  · exact .ok hr

/-! ## Names -/

omit h in
/-- An element of site pages opens prose or a link, or it has no meaning when it starts. -/
theorem opening_cases {tag : Text} (known : tag ∈ Site.elements) :
    Opening.ofName? tag ∈
      [none, some .title, some (.markup "application/xhtml+xml" false), some .link] := by
  have hall : ∀ tag ∈ Site.elements, Opening.ofName? tag ∈
      [none, some .title, some (.markup "application/xhtml+xml" false), some .link] := by
    decide +kernel
  exact hall tag known

omit h in
/-- An element of site pages closes what it may have opened, or it has no meaning when it ends. -/
theorem closing_cases {tag : Text} (known : tag ∈ Site.elements) :
    Closing.ofName? tag ∈ [none, some .title, some .content, some (.field "link")] := by
  have hall : ∀ tag ∈ Site.elements,
      Closing.ofName? tag ∈ [none, some .title, some .content, some (.field "link")] := by
    decide +kernel
  exact hall tag known

omit h in
theorem isElementName {tag : Text} (known : tag ∈ Site.elements) : IsElementName tag tag := by
  have hall : ∀ tag ∈ Site.elements, IsElementName tag tag := by decide +kernel
  exact hall tag known

theorem shortOf {tag : Text} (known : tag ∈ Site.elements) : q.shortOf tag = [] := by
  rw [State.shortOf, h.qualifiers, Style.splitName_eq (isElementName known)]
  rfl

theorem nameOf {tag : Text} (known : tag ∈ Site.elements) : q.nameOf tag = tag := by
  rw [State.nameOf, h.shortOf known, Style.splitName_eq (isElementName known)]
  rfl

/-! ## Tags -/

theorem openElement {tag : Text} (known : tag ∈ Site.elements) (attrs : Attributes) :
    Yields (q.openElement tag attrs) IsOutside := by
  have hsame : ({ q with
      inTextInput := q.inTextInput && tag ∈ textInputNames
      inImage := q.inImage && tag ∈ imageNames } : State).IsOutside :=
    { h with
      inTextInput := by rw [h.inTextInput, Bool.false_and]
      inImage := by rw [h.inImage, Bool.false_and] }
  unfold State.openElement
  simp only [h.shortOf known, List.isEmpty_nil, if_true, hsame.nameOf known]
  generalize ({ q with
    inTextInput := q.inTextInput && tag ∈ textInputNames
    inImage := q.inImage && tag ∈ imageNames } : State) = r at hsame
  have hopening := opening_cases known
  simp only [List.mem_cons, List.not_mem_nil, or_false] at hopening
  rcases hopening with hnone | htitle | hbody | hlink
  · rw [hnone]
    dsimp only
    split
    · exact .ok (hsame.push _ _)
    · exact hsame.mapSurroundings _
  · rw [htitle]
    exact .ok (hsame.pushProseOf _ _ _ _)
  · rw [hbody]
    have hcontent : ({ r with hasContent := r.hasContent || false } : State).IsOutside :=
      { hsame with }
    exact .ok (hcontent.pushProseOf _ _ _ _)
  · rw [hlink]
    exact hsame.openLink attrs

theorem asXhtml : q.asXhtml.IsOutside := by
  unfold State.asXhtml
  split
  · exact { h with }
  · exact h

theorem addStartTag (tag : Text) (attrs : Attributes) : (q.addStartTag tag attrs).IsOutside := by
  have hdrawn (n : Nat) : ({ q with drawings := n } : State).IsOutside := { h with }
  unfold State.addStartTag
  split
  exact (hdrawn _).addPiece _

theorem addEndTag (tag : Text) : (q.addEndTag tag).IsOutside := h.addPiece _

theorem enterBase (attrs : Attributes) : (q.enterBase attrs).IsOutside := { h with }

theorem leaveBase : q.leaveBase.IsOutside := by
  unfold State.leaveBase
  split <;> exact { h with }

omit h in
/-- Attributes of site pages declare nothing. -/
theorem arePlainAttributes {attrs : Attributes} (known : ∀ a ∈ attrs, a.1 ∈ Site.attributes)
    (lenient : Bool) :
    ArePlainAttributes (attrs.map fun a => readAttribute lenient a.1 a.2) := by
  have hall : ∀ name ∈ Site.attributes, Text.after? "xmlns:".toList (Text.lower name) = none ∧
      Text.lower name ∉ ["xmlns", "xml:base", "base"].map String.toList := by decide +kernel
  intro b hb
  obtain ⟨a, ha, rfl⟩ := List.mem_map.1 hb
  exact hall a.1 (known a ha)

/-- A start tag of a site page is read. -/
theorem startTag {tag : Text} (known : tag ∈ Site.elements) {attrs : Attributes}
    (areKnown : ∀ a ∈ attrs, a.1 ∈ Site.attributes) : Yields (q.startTag tag attrs) IsOutside := by
  have hdeep : ({ q with depth := q.depth + 1 } : State).IsOutside := { h with }
  unfold State.startTag
  simp only [Style.declareSpaces_eq (arePlainAttributes areKnown q.lenient)]
  have hentered := hdeep.enterBase (attrs.map fun a => readAttribute q.lenient a.1 a.2)
  generalize State.enterBase { q with depth := q.depth + 1 }
    (attrs.map fun a => readAttribute q.lenient a.1 a.2) = r at hentered
  split
  · exact .ok hentered
  · split
    · exact .ok (hentered.asXhtml.addStartTag _ _)
    · exact hentered.openElement known _

theorem close {tag : Text} (known : tag ∈ Site.elements) {closing : Closing}
    (hclosing : Closing.ofName? tag = some closing) :
    Yields (q.close closing) fun closed => ∀ r ∈ closed, r.IsOutside := by
  have hcases := closing_cases known
  simp only [hclosing, List.mem_cons, List.not_mem_nil, or_false, reduceCtorEq, false_or,
    Option.some.injEq] at hcases
  rcases hcases with rfl | rfl | rfl
  · exact h.closeTitle.bind fun r hr => .ok (by simpa using hr)
  · unfold State.close
    dsimp only
    split
    · exact .ok (by simp)
    · exact h.closeContent.bind fun r hr => .ok (by simpa using hr)
  · exact (h.pop _).bind fun r hr => .ok (by simpa using hr)

theorem closeElement {tag : Text} (known : tag ∈ Site.elements) :
    Yields (q.closeElement tag) IsOutside := by
  have hpop : Yields (do return (← q.pop tag).2) IsOutside := (h.pop tag).bind fun r hr => .ok hr
  unfold State.closeElement
  cases hclosing : Closing.ofName? tag with
  | none => exact hpop
  | some closing =>
    dsimp only
    split
    · exact hpop
    · refine (h.close known hclosing).bind fun closed hr => ?_
      cases closed with
      | none => exact hpop
      | some r => exact .ok (hr r rfl)

/-- An end tag of a site page is read, whatever is open. -/
theorem endTag {tag : Text} (known : tag ∈ Site.elements) : Yields (q.endTag tag) IsOutside := by
  have hsvg : ¬ (splitName tag).2 = "svg".toList := by
    rw [Style.splitName_eq (isElementName known)]
    exact (isElementName known).2.2.2.2
  unfold State.endTag
  simp only [h.nameOf known, hsvg, decide_false, Bool.false_eq_true, if_false]
  refine (h.closeElement known).bind fun r hr => ?_
  split
  · exact .ok hr
  · split
    · exact .ok { (hr.asXhtml.addEndTag tag).leaveBase with }
    · exact .ok { hr.leaveBase with }

/-! ## Runs -/

omit h in
theorem tagOf_none (q : State) (base : Text) : q.tagOf { base } = Text.lower base := by
  have hshort : (shortName? []).getD [] = [] := by decide +kernel
  have hspace : q.spaces.find? (fun _ => false) = none := List.find?_eq_none.2 (by simp)
  simp [tagOf, hshort, hspace, qualify]

omit h in
/-- The names of attributes, put under each other's names, are all known. -/
theorem foldl_assign_known {named attrs : Attributes} (hnamed : ∀ a ∈ named, a.1 ∈ Site.attributes)
    (hattrs : ∀ a ∈ attrs, Text.lower a.1 ∈ Site.attributes) :
    ∀ a ∈ attrs.foldl (fun out (name, value) => assign (Text.lower name) value out) named,
      a.1 ∈ Site.attributes := by
  have hassign {name value : Text} (hname : name ∈ Site.attributes) {out : Attributes}
      (hout : ∀ a ∈ out, a.1 ∈ Site.attributes) :
      ∀ a ∈ assign name value out, a.1 ∈ Site.attributes := by
    induction out with
    | nil => simpa [assign] using hname
    | cons b out ih =>
      obtain ⟨hb, hout⟩ := List.forall_mem_cons.1 hout
      rw [assign]
      split
      · exact List.forall_mem_cons.2 ⟨hb, hout⟩
      · exact List.forall_mem_cons.2 ⟨hb, ih hout⟩
  induction attrs generalizing named with
  | nil => exact hnamed
  | cons b attrs ih =>
    obtain ⟨hb, hattrs⟩ := List.forall_mem_cons.1 hattrs
    exact ih (hassign hb hnamed) hattrs

omit h in
theorem attributesOf_known {attrs : List (Text × Text)}
    (areKnown : ∀ a ∈ attrs, Site.IsAttribute a) :
    ∀ a ∈ attributesOf [] (attrs.map Xml.Attribute.ofPlain), a.1 ∈ Site.attributes := by
  have hshort : (shortName? []).getD [] = [] := by decide +kernel
  have hqualify (base : Text) : qualify [] base = base := rfl
  refine foldl_assign_known (by simp) fun b hb => ?_
  simp only [List.map_map, List.mem_append, List.mem_map, Function.comp_apply, Xml.Attribute.ofPlain,
    Option.getD_none, hshort, hqualify, or_self] at hb
  obtain ⟨a, ha, rfl⟩ := hb
  exact (areKnown a ha).known

/-- An event of a site page is read. -/
theorem event {e : Xml.Event} (he : e.IsSite) : Yields (q.event e) IsOutside := by
  cases he with
  | text s => exact .ok (h.addText s)
  | @start name attrs known areKnown =>
    have hdrawing : drawingSpaces.contains (Text.lower name, []) = false := by
      simp [drawingSpaces]
    have hempty : ({ q with links := [] } : State).IsOutside := { h with links := rfl }
    have hlower : Text.lower (Text.lower name) = Text.lower name := (isElementName known.known).1
    have hstart := hempty.startTag known.known (attributesOf_known areKnown)
    simp only [State.event, Option.map_none, Option.getD_none, hdrawing, Bool.false_eq_true,
      if_false, h.links, tagOf_none, hlower]
    exact hstart
  | @finish name known =>
    simp only [State.event, tagOf_none]
    exact h.endTag known.known

theorem events {es : List Xml.Event} (hes : ∀ e ∈ es, e.IsSite) :
    Yields (q.events es) IsOutside := by
  induction es generalizing q with
  | nil => exact .ok h
  | cons e es ih =>
    obtain ⟨he, hes⟩ := List.forall_mem_cons.1 hes
    exact (h.event he).bind fun r hr => ih hr hes

/-- A token of a site page is read. -/
theorem token {t : Markup.Token} (ht : t.IsSite) : Yields (q.token t) IsOutside := by
  cases ht with
  | text s => exact .ok (h.addText s)
  | startTag known areKnown =>
    refine h.startTag known fun b hb => ?_
    obtain ⟨a, ha, rfl⟩ := List.mem_map.1 hb
    exact areKnown a ha
  | endTag known => exact h.endTag known

theorem tokens {ts : List Markup.Token} (hts : ∀ t ∈ ts, t.IsSite) :
    Yields (q.tokens ts) IsOutside := by
  induction ts generalizing q with
  | nil => exact .ok h
  | cons t ts ih =>
    obtain ⟨ht, hts⟩ := List.forall_mem_cons.1 hts
    exact (h.token ht).bind fun r hr => ih hr hts

/-- Outside of feeds there is no feed. -/
theorem feed? (url : Text) : q.feed? url none = none := by
  simp [State.feed?, h.version, h.items]

end IsOutside
end State

/-! ## Pages -/

variable {s : Text}

end Feed

/-! ## Fetching -/

end FeedPage
