-- SUMMARY: The fields of an item: how they are written in each style, and what is left of them when they are read.
import FeedPage.Proofs.Feed.Kept
import Mathlib.Data.List.Nodup

/-!
# Fields of items

An item of a regular feed has some of five fields, each at most once and in any order (`Field`).
Reading a field puts it into the record of the item that is read (`Field.put`, `Place.take`), from
whatever place inside of the item (`steps_field`). Reading all of them puts all of them
(`steps_fields`), and their order does not matter (`Field.foldl_put_perm`).
-/

namespace FeedPage.Feed

/-! ## Fields -/

/-- A plain text with the way it is written: escaped in an element, or not at all where the element
is one tag. -/
structure WrittenText where
  text : Text
  isPlain : text.IsPlain
  written : Option Text
  isEscaped : Xml.Escaped (written.getD []) text

/-- What a field tells. -/
inductive Field.Kind where
  | title
  | link
  | published
  | updated
  | summary
  deriving DecidableEq, Repr

/-- A field of an item. -/
inductive Field where
  | title (s : WrittenText)
  | link (a : Address)
  | published (s : WrittenText)
  | updated (s : WrittenText)
  | summary (s : WrittenText)

namespace Field

/-- What a field tells. -/
def kind : Field → Kind
  | title _ => .title
  | link _ => .link
  | published _ => .published
  | updated _ => .updated
  | summary _ => .summary

/-- The dates of a field. -/
def dates : Field → List Text
  | published s | updated s => [s.text]
  | _ => []

/-- The record with a field. -/
def put (r : Record) : Field → Record
  | title s => { r with title := some s.text }
  | link a => { r.relate with link := some a.text }
  | published s => { r with published := some s.text }
  | updated s => { r with updated := some s.text }
  | summary s => { r with summary := some (some s.text) }

theorem put_comm {f g : Field} (h : f.kind ≠ g.kind) (r : Record) :
    put (put r f) g = put (put r g) f := by
  cases f <;> cases g <;> first | exact absurd rfl h | rfl

/-- The order of different fields does not matter. -/
theorem foldl_put_perm {fields others : List Field} (h : fields.Perm others)
    (hnodup : (fields.map kind).Nodup) (r : Record) : fields.foldl put r = others.foldl put r := by
  refine h.foldl_eq' (fun f hf g hg s => ?_) r
  by_cases hkind : f.kind = g.kind
  · rw [List.inj_on_of_nodup_map hnodup hf hg hkind]
  · exact put_comm hkind s

end Field

/-! ## Names -/

namespace Style

/-- The name of the element with a field. -/
def fieldName : Style → Field.Kind → Text
  | _, .title => "title".toList
  | _, .link => "link".toList
  | rss, .published => "pubDate".toList
  | atom, .published => "published".toList
  | _, .updated => "updated".toList
  | rss, .summary => "description".toList
  | atom, .summary => "summary".toList

/-- The attributes of a link that has no text. -/
def linkAttributes (a : Address) : List (Text × Text) :=
  [("rel".toList, "alternate".toList), ("href".toList, a.text)]

/-- The events of a field. -/
def fieldEvents (style : Style) : Field → List Xml.Event
  | .title s => style.textElement (style.fieldName .title) s.text
  | .link a =>
    match style with
    | rss => style.textElement (style.fieldName .link) a.text
    | atom => [.start ⟨style.space, style.fieldName .link⟩ ((linkAttributes a).map Xml.Attribute.ofPlain),
        .finish ⟨style.space, style.fieldName .link⟩]
  | .published s => style.textElement (style.fieldName .published) s.text
  | .updated s => style.textElement (style.fieldName .updated) s.text
  | .summary s => style.textElement (style.fieldName .summary) s.text

end Style

/-! ## Items that are read -/

/-- The item with one more relation. -/
def Entry.relate (e : Entry) : Entry := { e with record := e.record.relate }

/-- The item with a link to an address. -/
def Entry.linked (e : Entry) (a : Address) : Entry :=
  { e with record := { e.record.relate with link := some a.text } }

/-- The item with one more field, from an element at a depth. -/
def Entry.take (e : Entry) (depth : Nat) : Field → Entry
  | .title s => e.keep depth "title".toList s.text
  | .link a => e.linked a
  | .published s => e.keep depth "published".toList s.text
  | .updated s => e.keep depth "updated".toList s.text
  | .summary s => e.keep depth "summary".toList s.text

theorem Entry.take_record (e : Entry) (depth : Nat) (f : Field) :
    (e.take depth f).record = f.put e.record := by
  cases f <;> rfl

theorem Entry.IsLevel.take {e : Entry} {depth : Nat} (h : e.IsLevel depth) (f : Field) :
    (e.take depth f).IsLevel depth := by
  have hkeep (name text : Text) : (e.keep depth name text).IsLevel depth := by
    rintro d hd
    rcases List.mem_cons.1 hd with rfl | hd
    · rfl
    · exact h d hd
  cases f with
  | link a => exact h
  | title s | published s | updated s | summary s => exact hkeep _ _

namespace Place

/-- The place behind a field of the item that is read. -/
def take (p : Place) (f : Field) : Place :=
  { p with
    titleDepth := match f with
      | .title s => p.titled s.text
      | _ => p.titleDepth
    item := p.item.map (·.take (p.depth + 1) f) }

/-- The place is in an item of which some fields have been read. -/
structure IsIn (p : Place) (e : Entry) : Prop where
  prose : p.prose = none
  stack : p.stack = [{ name := "item".toList, kept := false }]
  item : p.item = some e
  level : e.IsLevel (p.depth + 1)

/-- A field can be read: there is no other that it would count less than. -/
def IsFreeFor (p : Place) (e : Entry) : Field → Prop
  | .title _ => p.titleDepth = -1
  | .summary _ => e.record.summary = none
  | _ => True

variable {p : Place} {e : Entry}

theorem IsIn.take (h : p.IsIn e) (f : Field) : (p.take f).IsIn (e.take (p.depth + 1) f) where
  prose := h.prose
  stack := h.stack
  item := by simp [Place.take, h.item]
  level := h.level.take f

theorem IsFreeFor.take {f g : Field} (h : p.IsFreeFor e g) (hkind : f.kind ≠ g.kind) :
    (p.take f).IsFreeFor (e.take (p.depth + 1) f) g := by
  cases f <;> cases g <;> first | exact absurd rfl hkind | exact h

end Place

/-! ## Reading fields -/

namespace Style

open State

variable (style : Style) {p : Place} {e : Entry}

theorem take_eq (h : p.IsIn e) (f : Field) :
    p.take f =
      { p with
        titleDepth := (p.take f).titleDepth
        item := some (e.take (p.depth + 1) f) } := by
  simp [Place.take, h.item]

/-- An item has no summary before its summary is read. -/
theorem hasSummary_eq (h : p.IsIn e) (hfree : e.record.summary = none) :
    (style.state p.enter).hasSummary = .ok false := by
  have hplace : (style.state p.enter).place = .ok .item := by
    rw [place_eq, show p.enter.item = some e from h.item]
    rfl
  rw [hasSummary, hplace]
  simp only [bind, Except.bind, style.record_item (p := p.enter) h.item, hfree, Option.isSome_none,
    Bool.false_and]
  rfl

theorem steps_field_title (h : p.IsIn e) (hfree : p.titleDepth = -1) (s : WrittenText) :
    (style.state p).Steps (style.fieldEvents (.title s)) [] (style.state (p.take (.title s))) := by
  rw [take_eq h]
  exact style.steps_title { p with item := some (e.take (p.depth + 1) (.title s)) } h.prose s.isPlain
    (style.keep_item { p.enter with prose := some "text/plain".toList } h.item (by decide)
      (fun _ => hfree) h.level s.text) h.prose

theorem steps_field_published (h : p.IsIn e) (s : WrittenText) :
    (style.state p).Steps (style.fieldEvents (.published s)) [s.text]
      (style.state (p.take (.published s))) := by
  rw [take_eq h]
  have hkeep := style.keep_item p.enter h.item (by decide : "published".toList ∈ keptNames)
    (fun ht => absurd ht (by decide)) h.level s.text
  cases style with
  | rss =>
    exact rss.steps_date (by decide : IsElementName "pubDate".toList "pubdate".toList) _ h.prose
      "published" (by decide) (by decide) (by decide) s.isPlain hkeep h.prose
  | atom =>
    exact atom.steps_date (by decide : IsElementName "published".toList "published".toList) _ h.prose
      "published" (by decide) (by decide) (by decide) s.isPlain hkeep h.prose

theorem steps_field_updated (h : p.IsIn e) (s : WrittenText) :
    (style.state p).Steps (style.fieldEvents (.updated s)) [s.text]
      (style.state (p.take (.updated s))) := by
  rw [take_eq h]
  have hkeep := style.keep_item p.enter h.item (by decide : "updated".toList ∈ keptNames)
    (fun ht => absurd ht (by decide)) h.level s.text
  have hname : IsElementName (style.fieldName .updated) "updated".toList := by
    cases style <;> decide
  exact style.steps_date hname _ h.prose "updated" (by decide) (by decide) (by decide) s.isPlain hkeep
    h.prose

theorem steps_field_summary (h : p.IsIn e) (hfree : e.record.summary = none) (s : WrittenText) :
    (style.state p).Steps (style.fieldEvents (.summary s)) [] (style.state (p.take (.summary s))) := by
  rw [take_eq h]
  have hfirst := style.hasSummary_eq h hfree
  cases style with
  | rss =>
    exact rss.steps_description { p with item := some (e.take (p.depth + 1) (.summary s)) } h.prose
      s.isPlain hfirst
      (rss.keep_item { p.enter with prose := some "text/html".toList } h.item (by decide)
        (fun ht => absurd ht (by decide)) h.level s.text) h.prose
  | atom =>
    exact atom.steps_summary { p with item := some (e.take (p.depth + 1) (.summary s)) } h.prose
      s.isPlain hfirst
      (atom.keep_item { p.enter with prose := some "text/plain".toList } h.item (by decide)
        (fun ht => absurd ht (by decide)) h.level s.text) h.prose

/-! ## Links -/

theorem place_item (hitem : p.item = some e) : (style.state p).place = .ok .item := by
  rw [place_eq, hitem]
  rfl

/-- A link with a text starts: the item has one more relation, which its text will complete. -/
theorem openLink_nil (p : Place) (hitem : p.item = some e) :
    (style.state p).openLink [] =
      .ok (style.state ({ p with item := some e.relate }.hold "link".toList [])) := by
  unfold openLink
  rw [style.place_item hitem]
  simp only [bind, Except.bind, mapRecord, style.mapItem_eq hitem]
  rfl

/-- A link without a text is the link of the item. -/
theorem openLink_address (p : Place) (hitem : p.item = some e) (a : Address) :
    (style.state p).openLink (linkAttributes a) =
      .ok (style.state { p with item := some (e.linked a) }) := by
  have hempty : a.text.isEmpty = false := by simp [a.filled]
  have hhref : ((reference? (linkAttributes a)).filter (!·.isEmpty) <|>
      Attributes.get? (linkAttributes a) "href").map (Url.join (style.state p).base) = some a.text := by
    rw [show reference? (linkAttributes a) = some a.text from rfl, Option.filter_some, hempty]
    exact congrArg some a.join_nil
  unfold openLink
  rw [style.place_item hitem]
  simp only [bind, Except.bind, mapRecord, style.mapItem_eq hitem, hhref]
  have htype : fullType "text/html".toList ∈ markupTypes := by decide
  exact if_pos ⟨rfl, htype⟩

/-- A link whose text is its address. -/
theorem steps_linkText (h : p.IsIn e) (a : Address) :
    (style.state p).Steps (style.textElement "link".toList a.text) []
      (style.state { p with item := some (e.linked a) }) := by
  have hname : IsElementName "link".toList "link".toList := by decide
  have hkeep := style.keep_link (p := { p.enter with item := some e.relate }) rfl ⟨_, rfl⟩ a
  have hxhtml : p.prose ≠ some xhtml := by simp [h.prose]
  refine style.steps_text hname h.prose (by decide : _ = some Opening.link)
    (by decide : _ = some (Closing.field "link"))
    { p.enter with item := some e.relate } (style.openLink_nil p.enter h.item) hxhtml ?_ h.prose
  have hpop := style.pop_hold (p := { p.enter with item := some e.relate }) a.isPlain hxhtml
    fun (_ : "link".toList ∈ referenceNames) => a.join_nil
  rw [close, hpop, hkeep]
  rfl

/-- A link with its address as an attribute. -/
theorem steps_linkAttribute (h : p.IsIn e) (a : Address) :
    (style.state p).Steps
      [.start ⟨style.space, "link".toList⟩ ((linkAttributes a).map Xml.Attribute.ofPlain),
        .finish ⟨style.space, "link".toList⟩] []
      (style.state { p with item := some (e.linked a) }) := by
  have hname : IsElementName "link".toList "link".toList := by decide
  have hread : (attributesOf [] ((linkAttributes a).map Xml.Attribute.ofPlain)).map
      (fun a => readAttribute false a.1 a.2) = linkAttributes a := rfl
  have hattrs : ArePlainAttributes (linkAttributes a) := by
    have hnames : ∀ name ∈ ["rel".toList, "href".toList], Text.after? "xmlns:".toList name = none ∧
        name ∉ ["xmlns", "xml:base", "base"].map String.toList := by decide
    exact fun x hx => hnames x.1 (List.mem_map_of_mem (f := Prod.fst) hx)
  have hstart := style.event_start hname h.prose (by decide : _ = some Opening.link) hread hattrs
  rw [show (style.state p.enter).open_ (linkAttributes a) .link = _ from
    style.openLink_address p.enter h.item a] at hstart
  -- the link is not on the stack, so its end takes nothing from it
  have hclose (q : Place) (hstack : q.stack = [{ name := "item".toList, kept := false }]) :
      (style.state q).close (.field "link") =
        (Date.checkAll []).map fun _ => some (style.state q) := by
    have hpop : (style.state q).pop "link".toList = .ok (none, style.state q) := by
      unfold pop
      rw [show (style.state q).stack = _ from hstack]
      exact if_pos (by decide)
    rw [close, hpop]
    rfl
  have hfinish := style.event_finish hname (by decide : _ = some (Closing.field "link"))
    (hclose { p.enter with item := some (e.linked a) } h.stack) h.prose (Nat.succ_pos p.depth)
  exact (Steps.of_event hstart).append (Steps.of_event hfinish)

theorem steps_field_link (h : p.IsIn e) (a : Address) :
    (style.state p).Steps (style.fieldEvents (.link a)) [] (style.state (p.take (.link a))) := by
  rw [take_eq h]
  cases style with
  | rss => exact rss.steps_linkText h a
  | atom => exact atom.steps_linkAttribute h a

/-! ## All fields -/

theorem steps_field (h : p.IsIn e) (f : Field) (hfree : p.IsFreeFor e f) :
    (style.state p).Steps (style.fieldEvents f) f.dates (style.state (p.take f)) := by
  cases f with
  | title s => exact style.steps_field_title h hfree s
  | link a => exact style.steps_field_link h a
  | published s => exact style.steps_field_published h s
  | updated s => exact style.steps_field_updated h s
  | summary s => exact style.steps_field_summary h hfree s

theorem steps_fields {fields : List Field} (hnodup : (fields.map Field.kind).Nodup)
    (h : p.IsIn e) (hfree : ∀ f ∈ fields, p.IsFreeFor e f) :
    (style.state p).Steps (fields.flatMap style.fieldEvents) (fields.flatMap Field.dates)
      (style.state (fields.foldl Place.take p)) := by
  induction fields generalizing p e with
  | nil => exact .refl _
  | cons f fields ih =>
    obtain ⟨hfresh, hnodup⟩ := List.nodup_cons.1 hnodup
    have hstep := style.steps_field h f (hfree f (by simp))
    refine hstep.append (ih hnodup (h.take f) fun g hg => ?_)
    have hkind : f.kind ≠ g.kind := fun heq => hfresh (heq ▸ List.mem_map_of_mem hg)
    exact (hfree g (List.mem_cons_of_mem f hg)).take hkind

end Style
end FeedPage.Feed
