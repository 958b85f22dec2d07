-- SUMMARY: Where reading stands between the elements of a regular feed, and how elements are entered and left.
import FeedPage.Feed.Read
import FeedPage.Proofs.Feed.Plain
import FeedPage.Proofs.Xml.Reads

/-!
# Places in a regular feed

A regular feed has no images, no text inputs, no sources, and no markup in its texts. While it is
read, little of the state changes: how deep elements are nested, the elements that are open with
their texts, and what has been kept of the feed and its items (`Place`). All else is told by the
style of the feed (`Style.state`). Entering an element and leaving it are such changes
(`event_start`, `event_finish`).

Reading goes on from place to place as long as all dates can be read (`State.Steps`).
-/

namespace FeedPage.Feed

/-! ## Dates -/

/-- Dates are read one after the other. -/
def Date.checkAll (dates : List Text) : Except Fault Unit :=
  match dates.findSome? Date.fault? with
  | some why => .error why
  | none => .ok ()

namespace Date

theorem checkAll_singleton (date : Text) : checkAll [date] = check date := by
  rw [checkAll, List.findSome?_singleton]
  rfl

theorem checkAll_append (dates others : List Text) :
    checkAll (dates ++ others) = (checkAll dates).bind fun _ => checkAll others := by
  unfold checkAll
  rw [List.findSome?_append]
  cases dates.findSome? fault? <;> rfl

end Date

/-! ## Styles -/

/-- The style of a regular feed. -/
inductive Style where
  | rss
  | atom
  deriving DecidableEq, Repr

/-- The namespace of Atom. -/
def atomSpace : Text := "http://www.w3.org/2005/Atom".toList

namespace Style

/-- The namespace of the feed's elements. -/
def space : Style → Option Text
  | rss => none
  | atom => some atomSpace

/-- The version that is read from the document's element. -/
def version : Style → Text
  | rss => "rss20".toList
  | atom => "atom10".toList

/-- What the declared namespaces are called. -/
def qualifiers : Style → List (Option Text × Text)
  | rss => []
  | atom => [(none, [])]

/-- The declared namespaces. -/
def spaces : Style → List (Text × Text)
  | rss => []
  | atom => [([], atomSpace)]

theorem unify_space (style : Style) : style.space.map unifySpace = style.space := by
  cases style with
  | rss => rfl
  | atom => decide +kernel

theorem shortName?_space (style : Style) : shortName? (style.space.getD []) = some [] := by
  cases style with
  | rss => decide +kernel
  | atom => decide +kernel

theorem find?_spaces (style : Style) :
    (style.spaces.find? fun (n, s) => !n.isEmpty && some s = style.space) = none := by
  cases style <;> rfl

theorem lookup_qualifiers (style : Style) : style.qualifiers.lookup (some []) = none := by
  cases style <;> rfl

end Style

/-! ## Places -/

/-- Where the reading of a regular feed stands. -/
@[ext]
structure Place where
  /-- How many elements are open. -/
  depth : Nat
  /-- The depth of the title that counts. -/
  titleDepth : Int := -1
  /-- The media type of the prose that is read. -/
  prose : Option Text := none
  stack : List Frame := []
  feed : Record := {}
  /-- The item that is read. -/
  item : Option Entry := none
  /-- The items before it, the last one first. -/
  items : List Entry := []

/-- The state at a place. -/
def Style.state (style : Style) (p : Place) : State :=
  { version := style.version
    inFeed := true
    inItem := p.item.isSome
    depth := p.depth
    titleDepth := p.titleDepth
    proseDepth := if p.prose.isSome then 1 else 0
    prose := { type := p.prose }
    bases := List.replicate p.depth []
    qualifiers := style.qualifiers
    spaces := style.spaces
    stack := p.stack
    feed := p.feed
    items := p.item.toList ++ p.items }

/-- Reading events leads from one state to another, unless one of the dates ends it. -/
def State.Steps (q : State) (es : List Xml.Event) (dates : List Text) (q' : State) : Prop :=
  q.events es = (Date.checkAll dates).map fun _ => q'

namespace State

variable {q q' q'' : State} {es fs : List Xml.Event} {dates others : List Text}

theorem Steps.refl (q : State) : q.Steps [] [] q := rfl

theorem Steps.of_event {e : Xml.Event} (h : q.event e = .ok q') : q.Steps [e] [] q' := by
  rw [Steps, events, h]
  rfl

theorem Steps.append (h : q.Steps es dates q') (h' : q'.Steps fs others q'') :
    q.Steps (es ++ fs) (dates ++ others) q'' := by
  unfold Steps at h h' ⊢
  rw [events_append, h, Date.checkAll_append]
  cases Date.checkAll dates with
  | error why => rfl
  | ok _ => exact h'

end State

/-! ## Elements -/

/-- An element's name, and the tag that it is read as: no qualifier, no drawing, no formula. -/
def IsElementName (name tag : Text) : Prop :=
  Text.lower name = tag ∧ Text.lower tag = tag ∧ ':' ∉ tag ∧ tag ≠ "math".toList ∧ tag ≠ "svg".toList

instance (name tag : Text) : Decidable (IsElementName name tag) :=
  inferInstanceAs (Decidable (_ ∧ _ ∧ _ ∧ _ ∧ _))

/-- Attributes that neither declare a namespace nor give a base. -/
def ArePlainAttributes (attrs : Attributes) : Prop :=
  ∀ a ∈ attrs, Text.after? "xmlns:".toList a.1 = none ∧
    a.1 ∉ ["xmlns", "xml:base", "base"].map String.toList

namespace Style

open State

variable (style : Style) {p p' : Place} {name tag : Text}

theorem splitName_eq (h : IsElementName name tag) : splitName tag = ([], tag) := by
  have hnone : Text.cutChar? ':' tag = none := by
    rw [Option.eq_none_iff_forall_ne_some]
    rintro ⟨before, rest⟩ hcut
    rw [(Text.cutChar?_eq_some.1 hcut).1] at h
    exact h.2.2.1 (by simp)
  rw [splitName, hnone, Option.getD_none]

theorem shortOf_eq (h : IsElementName name tag) : (style.state p).shortOf tag = [] := by
  rw [shortOf, splitName_eq h]
  change (style.qualifiers.lookup (some [])).getD [] = []
  rw [lookup_qualifiers, Option.getD_none]

theorem nameOf_eq (h : IsElementName name tag) : (style.state p).nameOf tag = tag := by
  rw [nameOf, style.shortOf_eq h, splitName_eq h]
  rfl

theorem tagOf_eq (base : Text) :
    (style.state p).tagOf { space := style.space, base } = Text.lower base := by
  have hspaces : ((style.state p).spaces.find? fun (n, s) => !n.isEmpty && some s = style.space) =
      none := style.find?_spaces
  simp only [tagOf, style.shortName?_space, Option.getD_some, hspaces, List.isEmpty_nil, if_true,
    Option.map_none, Option.getD_none, qualify]

end Style

/-! ## Entering and leaving elements -/

/-- A tag starts an element where no prose is read. -/
theorem State.startTag_of_entered {q q' : State} {tag : Text} {attrs as : Attributes}
    (hattrs : (attrs.map fun a => readAttribute q.lenient a.1 a.2) = as)
    (hentered : (State.enterBase { q with depth := q.depth + 1 } as).declareSpaces as = q')
    (hplain : q'.isInPlainProse = false) (hxhtml : q'.asXhtml.isInXhtml = false) :
    q.startTag tag attrs = q'.openElement tag as := by
  subst hattrs hentered
  unfold startTag
  simp only [hplain, hxhtml, Bool.false_and, Bool.false_eq_true, if_false]

/-- An element with a meaning starts, where neither an image nor a text input is open. -/
theorem State.openElement_of_meaning {q : State} {tag name : Text} {attrs : Attributes}
    {opening : Opening} (himage : q.inImage = false) (hinput : q.inTextInput = false)
    (hname : q.nameOf tag = name) (hopening : Opening.ofName? name = some opening) :
    q.openElement tag attrs = q.open_ attrs opening := by
  have hsame : ∀ a b, q.inTextInput = a → q.inImage = b →
      ({ q with inTextInput := a, inImage := b } : State) = q := by
    rintro _ _ rfl rfl
    rfl
  have hstate := hsame (q.inTextInput && tag ∈ textInputNames) (q.inImage && tag ∈ imageNames)
    (by rw [hinput, Bool.false_and]) (by rw [himage, Bool.false_and])
  unfold openElement
  simp only [hstate, ite_self, hname, hopening]

/-- The place inside of an element that has begun. -/
def Place.enter (p : Place) : Place := { p with depth := p.depth + 1 }

/-- The place behind an element. -/
def Place.leave (p : Place) : Place := { p with depth := p.depth - 1 }

namespace Style

open State

variable (style : Style) {p p' : Place} {name tag : Text}

theorem enterBase_eq {attrs : Attributes} (h : ArePlainAttributes attrs) (p : Place) :
    State.enterBase { style.state p with depth := p.depth + 1 } attrs = style.state p.enter := by
  have hget {key : String} (hkey : key.toList ∈ ["xmlns", "xml:base", "base"].map String.toList) :
      attrs.get? key = none := by
    rw [Attributes.get?, Option.map_eq_none_iff, List.find?_eq_none]
    intro a ha hname
    simp only [List.mem_reverse, decide_eq_true_eq] at ha hname
    exact (h a ha).2 (hname ▸ hkey)
  have hbase : (attrs.get? "xml:base" <|> attrs.get? "base") = none := by
    rw [hget (by decide), hget (by decide)]
    rfl
  simp only [enterBase, hbase]
  rfl

theorem declareSpaces_eq {attrs : Attributes} (h : ArePlainAttributes attrs) (q : State) :
    q.declareSpaces attrs = q := by
  unfold declareSpaces
  induction attrs with
  | nil => rfl
  | cons a attrs ih =>
    obtain ⟨hafter, hname⟩ := h a (by simp)
    have hxmlns : a.1 ≠ "xmlns".toList := fun ha => hname (by rw [ha]; decide)
    rw [List.foldl_cons]
    simp only [hafter, if_neg hxmlns]
    exact ih fun b hb => h b (List.mem_cons_of_mem a hb)

theorem isInPlainProse_eq (hprose : p.prose = none) : (style.state p).isInPlainProse = false := by
  simp [isInPlainProse, state, hprose]

theorem isInXhtml_eq (hprose : p.prose = none) : (style.state p).asXhtml.isInXhtml = false := by
  rw [asXhtml, style.isInPlainProse_eq hprose, if_neg Bool.false_ne_true]
  simp [isInXhtml, state, hprose]

theorem startTag_eq (tag : Text) (hprose : p.prose = none) {attrs : Attributes}
    (hattrs : ArePlainAttributes (attrs.map fun a => readAttribute false a.1 a.2)) :
    (style.state p).startTag tag attrs =
      (style.state p.enter).openElement tag (attrs.map fun a => readAttribute false a.1 a.2) := by
  have hprose' : p.enter.prose = none := hprose
  refine startTag_of_entered rfl ?_ (style.isInPlainProse_eq hprose') (style.isInXhtml_eq hprose')
  rw [declareSpaces_eq hattrs]
  exact style.enterBase_eq hattrs p

/-- The start of an element with a meaning is the change that it means, inside of the element. -/
theorem event_start (h : IsElementName name tag) (hprose : p.prose = none) {opening : Opening}
    (hopening : Opening.ofName? tag = some opening) {attrs : List Xml.Attribute} {read : Attributes}
    (hread : (attributesOf [] attrs).map (fun a => readAttribute false a.1 a.2) = read)
    (hattrs : ArePlainAttributes read) :
    (style.state p).event (.start ⟨style.space, name⟩ attrs) =
      (style.state p.enter).open_ read opening := by
  have hdrawing (space : Text) : drawingSpaces.contains (tag, space) = false := by
    have hmath := h.2.2.2.1
    have hsvg := h.2.2.2.2
    rw [List.contains_eq_any_beq, List.any_eq_false]
    intro other hother
    simp only [drawingSpaces, List.map_cons, List.map_nil, List.mem_cons, List.not_mem_nil,
      or_false] at hother
    rcases hother with rfl | rfl
    · simpa using fun ht => absurd ht hmath
    · simpa using fun ht => absurd ht hsvg
  have hstart := style.startTag_eq tag hprose (hread ▸ hattrs)
  rw [hread] at hstart
  simp only [event, h.1, hdrawing, Bool.false_eq_true, if_false, style.unify_space]
  change (style.state p).startTag ((style.state p).tagOf ⟨style.space, tag⟩) (attributesOf [] attrs) = _
  rw [style.tagOf_eq, h.2.1, hstart, openElement_of_meaning rfl rfl (style.nameOf_eq h) hopening]

theorem event_start_nil (h : IsElementName name tag) (hprose : p.prose = none) {opening : Opening}
    (hopening : Opening.ofName? tag = some opening) :
    (style.state p).event (.start ⟨style.space, name⟩ []) = (style.state p.enter).open_ [] opening := by
  have hread : (attributesOf [] []).map (fun a => readAttribute false a.1 a.2) = [] := rfl
  exact style.event_start h hprose hopening hread (by simp [ArePlainAttributes])

end Style

/-! ## Leaving elements -/

/-- An element that is closed where no prose is read is left. -/
theorem State.endTag_of_closed {q q' : State} {tag : Text} {dates : List Text}
    (hname : q.nameOf tag = tag) (hsvg : (splitName tag).2 ≠ "svg".toList)
    (hclosed : q.closeElement tag = (Date.checkAll dates).map fun _ => q')
    (hprose : q'.proseDepth = 0) :
    q.endTag tag =
      (Date.checkAll dates).map fun _ => { q'.leaveBase with depth := q'.depth - 1 } := by
  have hplain : q'.isInPlainProse = false := by simp [isInPlainProse, hprose]
  have hxhtml : q'.asXhtml.isInXhtml = false := by simp [asXhtml, hplain, isInXhtml, hprose]
  rw [endTag]
  simp only [hname, hsvg, decide_false, Bool.false_eq_true, if_false, hclosed]
  cases Date.checkAll dates with
  | error why => rfl
  | ok _ => simp [bind, Except.bind, Except.map, pure, Except.pure, hplain, hxhtml]

namespace Style

open State

variable (style : Style) {p p' : Place} {name tag : Text}

theorem base_ne_svg (h : IsElementName name tag) : (splitName tag).2 ≠ "svg".toList := by
  rw [splitName_eq h]
  exact h.2.2.2.2

theorem leave_eq (hdepth : 0 < p.depth) :
    { (style.state p).leaveBase with depth := (style.state p).depth - 1 } = style.state p.leave := by
  obtain ⟨n, hn⟩ : ∃ n, p.depth = n + 1 := ⟨p.depth - 1, by omega⟩
  cases n with
  | zero => simp [leaveBase, state, Place.leave, hn]
  | succ m => simp [leaveBase, state, Place.leave, hn, List.replicate_succ]

/-- The end of an element with a meaning is the change that it means, and then the element is
left. -/
theorem event_finish (h : IsElementName name tag) {closing : Closing}
    (hclosing : Closing.ofName? tag = some closing) {dates : List Text}
    (hclose : (style.state p).close closing =
      (Date.checkAll dates).map fun _ => some (style.state p'))
    (hprose : p'.prose = none) (hdepth : 0 < p'.depth) :
    (style.state p).event (.finish ⟨style.space, name⟩) =
      (Date.checkAll dates).map fun _ => style.state p'.leave := by
  have hdrawings : ¬ 0 < (style.state p).drawings := Nat.lt_irrefl 0
  have hclosed : (style.state p).closeElement tag =
      (Date.checkAll dates).map fun _ => style.state p' := by
    simp only [closeElement, hclosing, if_neg hdrawings, hclose]
    cases Date.checkAll dates <;> rfl
  have hproseDepth : (style.state p').proseDepth = 0 := by simp [state, hprose]
  rw [event, style.tagOf_eq, h.1, endTag_of_closed (style.nameOf_eq h) (base_ne_svg h) hclosed
    hproseDepth, style.leave_eq hdepth]

end Style
end FeedPage.Feed
