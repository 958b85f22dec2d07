-- SUMMARY: How the text of an element comes into what surrounds it, at the places of a regular feed.
import FeedPage.Proofs.Feed.Place

/-!
# Texts that are kept

An element with a text is opened (`Place.hold`), its text is read, and its end takes the text from
the stack (`pop_hold`) and keeps it: in the item that is read (`keep_item`, `keep_link`) or in the
feed (`keep_feed`). The parts come together in one statement on elements (`steps_text`), and what an
element does beyond that depends on its kind (`steps_date`, `steps_title`, ...).
-/

namespace FeedPage.Feed

/-! ## Open texts -/

/-- The place where an element is open and has a text so far. -/
def Place.hold (p : Place) (name text : Text) : Place :=
  { p with
    stack := { name, kept := true, pieces := if text.isEmpty then [] else [{ text }] } :: p.stack }

/-- The depth of the title that counts behind a title inside: it counts if it has a text. -/
def Place.titled (p : Place) (text : Text) : Int :=
  if text.isEmpty then p.titleDepth else p.depth + 1

/-- The item with one more text, from an element at a depth. -/
def Entry.keep (e : Entry) (depth : Nat) (name text : Text) : Entry :=
  { record := e.record.put name text, depths := (name, (depth : Int)) :: e.depths }

/-- All texts of the item are from elements at the same depth. -/
def Entry.IsLevel (e : Entry) (depth : Nat) : Prop := ∀ d ∈ e.depths, d.2 = (depth : Int)

/-- An element whose text stays as it is gives its text and keeps it. -/
theorem State.pop_of_kept {q : State} {name text : Text} {pieces : List Piece} {stack : List Frame}
    (hstack : q.stack = { name, kept := true, pieces } :: stack)
    (hxhtml : ¬ (q.version = "atom10".toList ∧ q.prose.type = some xhtml))
    (htext : Text.trim (pieces.reverse.flatMap (·.text)) = text)
    (hrefine : { q with stack }.refine name text = (text, { q with stack })) :
    q.pop name = do
      let q ← { q with stack }.keep name text
      return (some text, q) := by
  unfold pop
  simp only [hstack, ne_eq, not_true_eq_false, if_false, hxhtml, pure_bind, htext, Bool.not_true,
    Bool.false_eq_true, hrefine]

namespace Style

open State

variable (style : Style) {p p' : Place} {name text : Text} {e : Entry}

theorem events_text (hprose : p.prose ≠ some xhtml) (name text : Text) :
    (style.state (p.hold name [])).events (Xml.textEvents text) =
      .ok (style.state (p.hold name text)) := by
  cases text with
  | nil => rfl
  | cons c text =>
    have hxhtml : (style.state (p.hold name [])).prose.type ≠ some xhtml := hprose
    simp only [Xml.textEvents, List.isEmpty_cons, Bool.false_eq_true, if_false, events, event, addText,
      if_neg hxhtml]
    rfl

/-- The text of an element is kept when it is taken from the stack. -/
theorem pop_hold (h : text.IsPlain) (hprose : p.prose ≠ some xhtml)
    (hjoin : name ∈ referenceNames → Url.join [] text = text) :
    (style.state (p.hold name text)).pop name = do
      let q ← (style.state p).keep name text
      return (some text, q) := by
  refine pop_of_kept rfl (fun hboth => hprose hboth.2) ?_ ?_
  · cases text with
    | nil => rfl
    | cons c text => simpa using h.trim_eq
  · exact refine_plain h rfl rfl hjoin

/-! ## Keeping -/

theorem place_eq (p : Place) :
    (style.state p).place = .ok (if p.item.isSome then .item else .feed) := by
  cases hitem : p.item with
  | none => simp [place, state, hitem]
  | some e => simp [place, state, hitem]

theorem mapItem_eq (hitem : p.item = some e) (f : Entry → Entry) :
    (style.state p).mapItem f = style.state { p with item := some (f e) } := by
  simp [mapItem, state, hitem]

theorem record_item (hitem : p.item = some e) : (style.state p).record .item = e.record := by
  simp [record, state, hitem]

theorem mapRecord_feed (hitem : p.item = none) (f : Record → Record) :
    (style.state p).mapRecord f .feed = style.state { p with feed := f p.feed } := by
  simp [mapRecord, state, hitem]

theorem look_eq (p : Place) : (style.state p).look = .ok (style.state p) := by
  rw [look, mapSurroundings, place_eq]
  cases hitem : p.item with
  | none => rfl
  | some e =>
    have hsame : ({ p with item := some e } : Place) = p := by rw [← hitem]
    have hmap : (style.state p).mapRecord id .item = style.state p := by
      rw [mapRecord, style.mapItem_eq hitem, id_eq, hsame]
    exact congrArg Except.ok hmap

/-- The names of texts that items and feeds keep like any other. -/
def keptNames : List Text :=
  ["title", "published", "updated", "summary", "description"].map String.toList

theorem ordinary_of_mem (h : name ∈ keptNames) :
    name ∉ usedNames ∧ name ≠ "content".toList ∧ name ≠ "link".toList := by
  have hall : ∀ n ∈ keptNames, n ∉ usedNames ∧ n ≠ "content".toList ∧ n ≠ "link".toList := by decide
  exact hall name h

/-- An item keeps its descriptions as summaries. -/
def nameInItem (name : Text) : Text :=
  if name = "description".toList then "summary".toList else name

theorem keep_item (p : Place) (hitem : p.item = some e) (hname : name ∈ keptNames)
    (htitle : name = "title".toList → p.titleDepth = -1) (hlevel : e.IsLevel p.depth) (text : Text) :
    (style.state p).keep name text =
      .ok (style.state { p with item := some (e.keep p.depth (nameInItem name) text) }) := by
  obtain ⟨hused, hcontent, hlink⟩ := ordinary_of_mem hname
  have hfree : ¬ (name = "title".toList ∧ -1 < (style.state p).titleDepth ∧
      (style.state p).titleDepth ≤ (style.state p).depth) := by
    rintro ⟨ht, hlow, -⟩
    rw [show (style.state p).titleDepth = p.titleDepth from rfl, htitle ht] at hlow
    omega
  have hdepths : ((e.depths.lookup (nameInItem name)).all fun d => decide ((p.depth : Int) ≤ d)) = true := by
    cases hlookup : e.depths.lookup (nameInItem name) with
    | none => rfl
    | some d =>
      obtain ⟨front, back, hsplit, -⟩ := List.lookup_eq_some_iff.1 hlookup
      have hd := hlevel (nameInItem name, d) (by simp [hsplit])
      simp only [Option.all_some, decide_eq_true_eq]
      omega
  unfold keep
  rw [if_neg hused, if_neg hfree]
  have hinItem : ((style.state p).inItem && !(style.state p).inSource) = true := by
    simp [state, hitem]
  rw [if_pos hinItem, keepInItem, if_neg hcontent, if_neg hlink]
  simp only [style.mapItem_eq hitem]
  exact congrArg (fun e => Except.ok (style.state { p with item := some e })) (if_pos hdepths)

theorem keep_feed (p : Place) (hitem : p.item = none) (hname : name ∈ keptNames)
    (hdescription : name ≠ "description".toList)
    (htitle : name = "title".toList → ¬ (-1 < p.titleDepth ∧ p.titleDepth ≤ (p.depth : Int)))
    (text : Text) :
    (style.state p).keep name text =
      .ok (style.state { p with feed := p.feed.put name text }) := by
  obtain ⟨hused, -, hlink⟩ := ordinary_of_mem hname
  have hfree : ¬ (name = "title".toList ∧ -1 < (style.state p).titleDepth ∧
      (style.state p).titleDepth ≤ (style.state p).depth) := fun ⟨ht, hdepth⟩ => htitle ht hdepth
  have hinItem : ((style.state p).inItem && !(style.state p).inSource) = false := by
    simp [state, hitem]
  have hinFeed : ((style.state p).inFeed || (style.state p).inSource) = true := rfl
  have hplace : (style.state p).place = .ok .feed := by
    rw [place_eq, hitem]
    rfl
  unfold keep
  rw [if_neg hused, if_neg hfree, hinItem, if_neg Bool.false_ne_true, if_pos hinFeed, keepOutside, hplace]
  simp only [bind, Except.bind, if_neg hlink, if_neg hdescription, style.mapRecord_feed hitem]
  rfl

/-- Nothing in an address looks like a reference. -/
theorem unescapeParameters_address (a : Address) : unescapeParameters a.text = a.text := by
  refine Text.substitute_eq_self fun t ht => ?_
  split
  · next s => exact absurd (by simp) (a.bounds_of_mem (ht.subset (by simp) : '&' ∈ a.text)).2.2
  · rfl

theorem keep_link (hitem : p.item = some e) (hrelations : ∃ n, e.record.relations = some (n + 1))
    (a : Address) :
    (style.state p).keep "link".toList a.text =
      .ok (style.state
        { p with item := some { e with record := { e.record with link := some a.text } } }) := by
  obtain ⟨n, hn⟩ := hrelations
  have hampersands : Text.replace "&amp;".toList ['&'] a.text = a.text :=
    Text.replace_eq_self (c := '&') (by decide) _ (a.isPlain.not_mem (.inr (.inr rfl)))
  have hinItem : ((style.state p).inItem && !(style.state p).inSource) = true := by
    simp [state, hitem]
  have hneeded : needRelation e.record = .ok () := by simp only [needRelation, hn]
  unfold keep
  rw [if_neg (by decide), if_neg fun hboth => absurd hboth.1 (by decide), if_pos hinItem, keepInItem,
    if_neg (by decide), if_pos rfl, if_neg (by simp [state])]
  simp only [hampersands, unescapeParameters_address, style.record_item hitem, hneeded, mapRecord,
    style.mapItem_eq hitem]
  cases a.text.isEmpty <;> rfl

/-! ## Elements with a text -/

/-- The events of an element without attributes, which holds a text. -/
def textElement (name text : Text) : List Xml.Event :=
  .start ⟨style.space, name⟩ [] :: Xml.textEvents text ++ [.finish ⟨style.space, name⟩]

variable {tag : Text}

/-- An element with a text is read: its start opens it, and its end keeps the text. -/
theorem steps_text (h : IsElementName name tag) (hprose : p.prose = none) {opening : Opening}
    {closing : Closing} (hopening : Opening.ofName? tag = some opening)
    (hclosing : Closing.ofName? tag = some closing) {key : Text} (inside : Place)
    (hopen : (style.state p.enter).open_ [] opening = .ok (style.state (inside.hold key [])))
    (hinside : inside.prose ≠ some xhtml) {dates : List Text}
    (hclose : (style.state (inside.hold key text)).close closing =
      (Date.checkAll dates).map fun _ => some (style.state p'.enter))
    (hprose' : p'.prose = none) :
    (style.state p).Steps (style.textElement name text) dates (style.state p') := by
  have hstart : (style.state p).event (.start ⟨style.space, name⟩ []) =
      .ok (style.state (inside.hold key [])) := by
    rw [style.event_start_nil h hprose hopening, hopen]
  have hfinish : (style.state (inside.hold key text)).event (.finish ⟨style.space, name⟩) =
      (Date.checkAll dates).map fun _ => style.state p' :=
    style.event_finish h hclosing hclose hprose' (Nat.succ_pos _)
  unfold Steps textElement
  rw [List.cons_append, events, hstart]
  simp only [bind, Except.bind]
  rw [events_append, style.events_text hinside, Except.bind, events, hfinish]
  cases Date.checkAll dates <;> rfl

/-- An element with a date. -/
theorem steps_date (h : IsElementName name tag) (p' : Place) (hprose : p.prose = none) (key : String)
    (hopening : Opening.ofName? tag = some (.field key true))
    (hclosing : Closing.ofName? tag = some (.date key)) (hkey : key.toList ∉ referenceNames)
    (hplain : text.IsPlain)
    (hkeep : (style.state p.enter).keep key.toList text = .ok (style.state p'.enter))
    (hprose' : p'.prose = none) :
    (style.state p).Steps (style.textElement name text) [text] (style.state p') := by
  have hxhtml : p.enter.prose ≠ some xhtml := by
    rw [show p.enter.prose = none from hprose]
    exact Option.some_ne_none xhtml |>.symm
  refine style.steps_text h hprose hopening hclosing p.enter rfl hxhtml ?_ hprose'
  rw [close, style.pop_hold hplain hxhtml fun hname => absurd hname hkey, hkeep, Date.checkAll_singleton]
  simp only [bind, Except.bind, pure, Except.pure, readDate, Option.getD_some, style.look_eq]
  cases Date.check text <;> rfl

/-! ## Prose -/

/-- The media types of the prose of regular feeds. -/
def proseTypes : List String := ["text/plain", "text/html"]

theorem pushProseOf_eq (hprose : p.prose = none) {type : String} (htype : type ∈ proseTypes)
    (name : Text) :
    (style.state p).pushProseOf name [] type true =
      style.state ({ p with prose := some type.toList }.hold name []) := by
  have htypes : ∀ type ∈ proseTypes, fullType type.toList = type.toList ∧
      isBinary type.toList = false := by decide
  obtain ⟨hfull, hbinary⟩ := htypes type htype
  unfold pushProseOf pushProse
  simp only [Attributes.get?, List.reverse_nil, List.find?_nil, Option.map_none, Option.getD_none, hfull,
    hbinary, reduceCtorEq, decide_false, Bool.or_self]
  simp [state, push, Place.hold, hprose]

/-- The end of prose keeps its text. -/
theorem popProse_hold (p p' : Place) {type : String} (htype : type ∈ proseTypes)
    (hname : name ∉ referenceNames) (hplain : text.IsPlain)
    (hkeep : (style.state { p with prose := some type.toList }).keep name text =
      .ok (style.state { p' with prose := some type.toList })) (hprose' : p'.prose = none) :
    (style.state ({ p with prose := some type.toList }.hold name text)).popProse name =
      .ok (some text, style.state p') := by
  have htypes : ∀ type ∈ proseTypes, some type.toList ≠ some xhtml := by decide
  have hsame : ({ p' with prose := none } : Place) = p' := by rw [← hprose']
  rw [popProse, style.pop_hold hplain (htypes type htype) fun h => absurd h hname, hkeep]
  exact congrArg (fun p => Except.ok (some text, style.state p)) hsame

/-- An element with prose: its end pops the text that is kept. -/
theorem steps_prose (h : IsElementName name name) (hprose : p.prose = none) {opening : Opening}
    {closing : Closing} (hopening : Opening.ofName? name = some opening)
    (hclosing : Closing.ofName? name = some closing) {type : String} (htype : type ∈ proseTypes)
    (hname : name ∉ referenceNames)
    (hopen : (style.state p.enter).open_ [] opening =
      .ok ((style.state p.enter).pushProseOf name [] type true))
    (hplain : text.IsPlain) {kept : Place}
    (hkeep : (style.state { p.enter with prose := some type.toList }).keep name text =
      .ok (style.state { kept.enter with prose := some type.toList }))
    (hkept : kept.prose = none)
    (hclose : ∀ q : State, q.summaryIsContent = false →
      q.popProse name = .ok (some text, style.state kept.enter) →
      q.close closing = .ok (some (style.state p'.enter)))
    (hprose' : p'.prose = none) :
    (style.state p).Steps (style.textElement name text) [] (style.state p') := by
  have htypes : ∀ type ∈ proseTypes, some type.toList ≠ some xhtml := by decide
  have hpop := style.popProse_hold p.enter kept.enter htype hname hplain hkeep hkept
  have hend := hclose _ rfl hpop
  rw [style.pushProseOf_eq (p := p.enter) hprose htype] at hopen
  exact style.steps_text h hprose hopening hclosing { p.enter with prose := some type.toList } hopen
    (htypes type htype) (by rw [hend]; rfl) hprose'

/-- The title of an item or a feed. -/
theorem steps_title (p' : Place) (hprose : p.prose = none) (hplain : text.IsPlain)
    (hkeep : (style.state { p.enter with prose := some "text/plain".toList }).keep "title".toList text =
      .ok (style.state { p'.enter with prose := some "text/plain".toList }))
    (hprose' : p'.prose = none) :
    (style.state p).Steps (style.textElement "title".toList text) []
      (style.state { p' with titleDepth := p'.titled text }) := by
  refine style.steps_prose (by decide) hprose (by decide : _ = some Opening.title)
    (by decide : _ = some Closing.title) (by decide : "text/plain" ∈ proseTypes) (by decide) rfl hplain
    hkeep hprose' (fun q _ hpop => ?_) hprose'
  rw [close, closeTitle, hpop]
  cases text <;> rfl

/-- The description of an item. -/
theorem steps_description (p' : Place) (hprose : p.prose = none) (hplain : text.IsPlain)
    (hfirst : (style.state p.enter).hasSummary = .ok false)
    (hkeep : (style.state { p.enter with prose := some "text/html".toList }).keep
        "description".toList text =
      .ok (style.state { p'.enter with prose := some "text/html".toList }))
    (hprose' : p'.prose = none) :
    (style.state p).Steps (style.textElement "description".toList text) [] (style.state p') := by
  refine style.steps_prose (by decide) hprose (by decide : _ = some Opening.description)
    (by decide : _ = some Closing.description) (by decide : "text/html" ∈ proseTypes) (by decide) ?_
    hplain hkeep hprose' (fun q hsummary hpop => ?_) hprose'
  · rw [open_, hfirst]
    rfl
  · rw [close, hsummary, hpop]
    rfl

/-- The summary of an item. -/
theorem steps_summary (p' : Place) (hprose : p.prose = none) (hplain : text.IsPlain)
    (hfirst : (style.state p.enter).hasSummary = .ok false)
    (hkeep : (style.state { p.enter with prose := some "text/plain".toList }).keep
        "summary".toList text =
      .ok (style.state { p'.enter with prose := some "text/plain".toList }))
    (hprose' : p'.prose = none) :
    (style.state p).Steps (style.textElement "summary".toList text) [] (style.state p') := by
  refine style.steps_prose (by decide) hprose (by decide : _ = some Opening.summary)
    (by decide : _ = some Closing.summary) (by decide : "text/plain" ∈ proseTypes) (by decide) ?_
    hplain hkeep hprose' (fun q hsummary hpop => ?_) hprose'
  · rw [open_, hfirst]
    rfl
  · rw [close, hsummary, hpop]
    rfl

end Style

end FeedPage.Feed
