-- SUMMARY: The items of a regular feed and the feed's own texts between them: what is left of them when they are read.
import FeedPage.Proofs.Feed.Fields

/-!
# Items of regular feeds

A regular feed has items, and texts of its own that may stand before, between and behind them
(`Child`). Reading an item adds its record to those of the items before it and changes nothing of the
feed (`steps_item`); reading a text of the feed changes nothing of the items. So after all of them
there are the items of the feed in their order (`foldl_takeChild_items`), and what the feed tells of
itself (`foldl_takeChild_title`).
-/

namespace FeedPage.Feed

/-! ## Children -/

/-- The fields of an item in the order in which they are written; none stands twice. -/
structure Fields where
  list : List Field
  nodup : (list.map Field.kind).Nodup

/-- The record of an item with these fields. -/
def Fields.record (fields : Fields) : Record := fields.list.foldl Field.put {}

/-- What stands in a feed. -/
inductive Child where
  | title (s : WrittenText)
  | updated (s : WrittenText)
  | item (fields : Fields)

namespace Child

/-- The feed's own title. -/
def title? : Child → Option WrittenText
  | title s => some s
  | _ => none

/-- The feed's own date. -/
def updated? : Child → Option WrittenText
  | updated s => some s
  | _ => none

/-- The fields of an item. -/
def fields? : Child → Option Fields
  | item fields => some fields
  | _ => none

/-- The dates of a child. -/
def dates : Child → List Text
  | title _ => []
  | updated s => [s.text]
  | item fields => fields.list.flatMap Field.dates

end Child

namespace Style

/-- The name of the element with an item. -/
def itemName : Style → Text
  | rss => "item".toList
  | atom => "entry".toList

/-- The events of a child. -/
def childEvents (style : Style) : Child → List Xml.Event
  | .title s => style.textElement "title".toList s.text
  | .updated s => style.textElement "updated".toList s.text
  | .item fields =>
    .start ⟨style.space, style.itemName⟩ [] :: fields.list.flatMap style.fieldEvents ++
      [.finish ⟨style.space, style.itemName⟩]

end Style

/-! ## Places -/

namespace Place

/-- The place is in the feed, outside of items. -/
structure IsOutside (p : Place) : Prop where
  prose : p.prose = none
  stack : p.stack = []
  item : p.item = none

/-- The place where an item has begun. -/
def begin (p : Place) : Place :=
  { p.enter with titleDepth := -1, item := some {}, stack := [{ name := "item".toList, kept := false }] }

/-- The place behind a child of the feed. -/
def takeChild (p : Place) : Child → Place
  | .title s => { p with feed := { p.feed with title := some s.text }, titleDepth := p.titled s.text }
  | .updated s => { p with feed := { p.feed with updated := some s.text } }
  | .item fields =>
    { p with
      titleDepth := (fields.list.foldl take p.begin).titleDepth
      items := (fields.list.foldl take p.begin).item.toList ++ p.items }

/-- The title of the feed can be read: no other would be preferred to it. -/
def IsUntitled (p : Place) : Prop := ¬ (-1 < p.titleDepth ∧ p.titleDepth ≤ (p.depth : Int) + 1)

variable {p : Place} {e : Entry}

theorem IsOutside.begin (h : p.IsOutside) : p.begin.IsIn {} :=
  ⟨h.prose, rfl, rfl, by simp [Entry.IsLevel]⟩

/-- Fields are taken into the item that is read. -/
theorem IsIn.foldl_take (h : p.IsIn e) (fields : List Field) :
    (fields.foldl Place.take p).IsIn (fields.foldl (·.take (p.depth + 1)) e) := by
  induction fields generalizing p e with
  | nil => exact h
  | cons f fields ih => exact ih (h.take f)

/-- Fields change the item that is read and the depth of the title, and nothing else. -/
theorem foldl_take_frame (p : Place) (fields : List Field) :
    (fields.foldl Place.take p).depth = p.depth ∧ (fields.foldl Place.take p).feed = p.feed ∧
      (fields.foldl Place.take p).items = p.items := by
  induction fields generalizing p with
  | nil => exact ⟨rfl, rfl, rfl⟩
  | cons f fields ih => exact ih (p.take f)

/-- The title that counts behind fields is that of the item, or the one before. -/
theorem foldl_take_titleDepth (p : Place) (fields : List Field) :
    (fields.foldl Place.take p).titleDepth = p.titleDepth ∨
      (fields.foldl Place.take p).titleDepth = p.depth + 1 := by
  induction fields generalizing p with
  | nil => exact .inl rfl
  | cons f fields ih =>
    have htake : (p.take f).titleDepth = p.titleDepth ∨ (p.take f).titleDepth = p.depth + 1 := by
      cases f with
      | title s =>
        change p.titled s.text = _ ∨ p.titled s.text = _
        unfold titled
        split
        · exact .inl rfl
        · exact .inr rfl
      | link a | published s | updated s | summary s => exact .inl rfl
    rcases ih (p.take f) with h | h
    · rw [List.foldl_cons, h]
      exact htake
    · exact .inr h

theorem IsOutside.takeChild (h : p.IsOutside) (c : Child) : (p.takeChild c).IsOutside := by
  cases c with
  | title s | updated s | item fields => exact ⟨h.prose, h.stack, h.item⟩

/-- No child but the title makes the title of the feed count less. -/
theorem IsUntitled.takeChild (h : p.IsUntitled) {c : Child} (hc : c.title? = none) :
    (p.takeChild c).IsUntitled := by
  cases c with
  | title s => cases hc
  | updated s => exact h
  | item fields =>
    rintro ⟨hlow, hhigh⟩
    change _ < (fields.list.foldl Place.take p.begin).titleDepth at hlow
    change (fields.list.foldl Place.take p.begin).titleDepth ≤ (p.depth : Int) + 1 at hhigh
    rcases p.begin.foldl_take_titleDepth fields.list with hd | hd
    · have : p.begin.titleDepth = -1 := rfl
      omega
    · have : p.begin.depth = p.depth + 1 := rfl
      omega

/-! ## What is left -/

theorem takeChild_record (c : Child) (h : p.IsOutside) :
    (p.takeChild c).items.map (·.record) = (c.fields?.map Fields.record).toList ++ p.items.map (·.record) := by
  cases c with
  | title s | updated s => rfl
  | item fields =>
    have hitem := (h.begin.foldl_take fields.list).item
    have hrecord (depth : Nat) (e : Entry) :
        (fields.list.foldl (·.take depth) e).record = fields.list.foldl Field.put e.record :=
      (List.foldl_hom Entry.record fun e f => (e.take_record depth f).symm).symm
    simp [Place.takeChild, hitem, Child.fields?, Fields.record, hrecord]

/-- The items that have been read are those of the feed, the last one first. -/
theorem foldl_takeChild_items (h : p.IsOutside) (children : List Child) :
    (children.foldl takeChild p).items.map (·.record) =
      ((children.filterMap Child.fields?).map Fields.record).reverse ++ p.items.map (·.record) := by
  induction children generalizing p with
  | nil => rfl
  | cons c children ih =>
    rw [List.foldl_cons, ih (h.takeChild c), p.takeChild_record c h, List.filterMap_cons]
    cases c.fields? <;> simp

/-- The title that has been read is the feed's own. -/
theorem foldl_takeChild_title (p : Place) (children : List Child) :
    (children.foldl takeChild p).feed.title =
      (children.filterMap Child.title?).foldl (fun _ s => some s.text) p.feed.title := by
  induction children generalizing p with
  | nil => rfl
  | cons c children ih =>
    rw [List.foldl_cons, ih]
    cases c <;> rfl

end Place

/-! ## Reading children -/

namespace Style

open State

variable (style : Style) {p : Place} {e : Entry}

/-- An item begins. -/
theorem open_item (h : p.IsOutside) :
    (style.state p.enter).open_ [] .item = .ok (style.state p.begin) := by
  obtain ⟨depth, titleDepth, prose, stack, feed, item, items⟩ := p
  obtain ⟨rfl, rfl, rfl⟩ := h
  rfl

/-- An item ends, and is one of those that have been read. -/
theorem close_item (h : p.IsIn e) :
    (style.state p).close .item =
      .ok (some (style.state
        { p with item := none, stack := [], items := p.item.toList ++ p.items })) := by
  obtain ⟨depth, titleDepth, prose, stack, feed, item, items⟩ := p
  obtain ⟨rfl, rfl, rfl, -⟩ := h
  have hxhtml : ¬ (style.version = "atom10".toList ∧ none = some xhtml) := fun hboth => nomatch hboth.2
  have hpop (q : State) (hstack : q.stack = [{ name := "item".toList, kept := false }])
      (hversion : ¬ (q.version = "atom10".toList ∧ q.prose.type = some xhtml)) :
      q.pop "item".toList = .ok (some [], { q with stack := [] }) := by
    unfold pop
    simp only [hstack, hversion, if_false, ne_eq, not_true_eq_false]
    rfl
  rw [close, hpop _ rfl hxhtml]
  rfl

/-- An item is read. -/
theorem steps_item (h : p.IsOutside) (fields : Fields) :
    (style.state p).Steps (style.childEvents (.item fields)) (fields.list.flatMap Field.dates)
      (style.state (p.takeChild (.item fields))) := by
  have hname : IsElementName style.itemName style.itemName := by cases style <;> decide
  have hopening : Opening.ofName? style.itemName = some .item := by cases style <;> decide
  have hclosing : Closing.ofName? style.itemName = some .item := by cases style <;> decide
  have hstart := style.event_start_nil hname h.prose hopening
  rw [style.open_item h] at hstart
  have hfree : ∀ f ∈ fields.list, p.begin.IsFreeFor {} f := fun f _ => by
    cases f <;> first | rfl | trivial
  have hfields := style.steps_fields fields.nodup h.begin hfree
  have hin := h.begin.foldl_take fields.list
  obtain ⟨hdepth, hfeed, hitems⟩ := p.begin.foldl_take_frame fields.list
  -- all that is left of the item is one more record
  have hplace : { fields.list.foldl Place.take p.begin with
      item := none
      stack := []
      items := (fields.list.foldl Place.take p.begin).item.toList ++
        (fields.list.foldl Place.take p.begin).items } = (p.takeChild (.item fields)).enter := by
    refine Place.ext hdepth rfl (hin.prose.trans h.prose.symm) h.stack.symm hfeed h.item.symm ?_
    rw [hitems]
    rfl
  have hclose : (style.state (fields.list.foldl Place.take p.begin)).close .item =
      (Date.checkAll []).map fun _ => some (style.state (p.takeChild (.item fields)).enter) := by
    rw [style.close_item hin, hplace]
    rfl
  have hfinish := style.event_finish hname hclosing hclose h.prose (Nat.succ_pos _)
  have hsteps := (Steps.of_event hstart).append (hfields.append (Steps.of_event hfinish))
  rw [List.nil_append, List.append_nil] at hsteps
  exact hsteps

/-- A text of the feed is read, or an item. -/
theorem steps_child (h : p.IsOutside) (c : Child) (huntitled : c.title?.isSome → p.IsUntitled) :
    (style.state p).Steps (style.childEvents c) c.dates (style.state (p.takeChild c)) := by
  cases c with
  | title s =>
    exact style.steps_title { p with feed := { p.feed with title := some s.text } } h.prose s.isPlain
      (style.keep_feed { p.enter with prose := some "text/plain".toList } h.item (by decide) (by decide)
        (fun _ => huntitled rfl) s.text) h.prose
  | updated s =>
    have hkeep := style.keep_feed p.enter h.item (by decide : "updated".toList ∈ keptNames) (by decide)
      (fun ht => absurd ht (by decide)) s.text
    exact style.steps_date (by decide : IsElementName "updated".toList "updated".toList)
      { p with feed := { p.feed with updated := some s.text } } h.prose "updated" (by decide) (by decide)
      (by decide) s.isPlain hkeep h.prose
  | item fields => exact style.steps_item h fields

/-- All that stands in a feed is read; the feed has no more than one title. -/
theorem steps_children {children : List Child} (h : p.IsOutside)
    (hsingle : (children.filterMap Child.title?).length ≤ 1)
    (huntitled : children.filterMap Child.title? ≠ [] → p.IsUntitled) :
    (style.state p).Steps (children.flatMap style.childEvents) (children.flatMap Child.dates)
      (style.state (children.foldl Place.takeChild p)) := by
  induction children generalizing p with
  | nil => exact .refl _
  | cons c children ih =>
    rw [List.filterMap_cons] at hsingle huntitled
    cases htitle : c.title? with
    | none =>
      simp only [htitle] at hsingle huntitled
      have hstep := style.steps_child h c (by simp [htitle])
      exact hstep.append (ih (h.takeChild c) hsingle fun hrest => (huntitled hrest).takeChild htitle)
    | some s =>
      simp only [htitle] at hsingle huntitled
      have hnone : children.filterMap Child.title? = [] :=
        List.eq_nil_of_length_eq_zero (by simpa using hsingle)
      have hstep := style.steps_child h c fun _ => huntitled (List.cons_ne_nil _ _)
      exact hstep.append (ih (h.takeChild c) (by simp [hnone]) fun hrest => absurd hnone hrest)

end Style
end FeedPage.Feed
