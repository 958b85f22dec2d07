-- SUMMARY: Rows are apart: each stands for its item alone, a rejected description empties only its own row, and items behind the fifth leave no trace.
import Mathlib.Data.List.Basic
import Mathlib.Data.List.InsertIdx
import FeedPage.Session

/-!
# Rows apart from each other

The row of an item depends on nothing but the item. A description whose markup is rejected, wherever
in it that happens, counts as empty and leaves one error in the log. Items behind the fifth are not
looked at, so that no step of a session that touches only them changes the rows or the log
(`rows_apart`).
-/

namespace FeedPage

/-! ## Rejected descriptions -/

/-- Why the markup of a description is rejected, if it is. -/
def Description.rejection? (d : Description) : Option Html.Rejection :=
  match Html.visibleText d.source with
  | .error why => some why
  | .ok _ => none

/-- What is logged for an item with a rejected description. -/
def Item.complaint? (item : Item) : Option LogEntry :=
  item.description.rejection?.map fun why => .cleaningFailed why.message

theorem Html.visibleText_nil : visibleText [] = .ok [] := by
  have htokens : tokens [] = .ok [] := by
    rw [tokens, Token.read, dif_pos rfl, if_neg (by decide), Token.read, dif_pos rfl, if_pos rfl]
  rw [visibleText, htokens]
  rfl

/-- A missing description is read as an empty one. -/
theorem Description.clean_eq (d : Description) :
    d.clean = match Html.visibleText d.source with
      | .ok s => (s, [])
      | .error why => ([], [.cleaningFailed why.message]) := by
  cases d with
  | missing => simp only [clean, source, Html.visibleText_nil]
  | text s => rfl
  | bytes b => rfl

theorem Description.clean_of_rejection {d : Description} {why : Html.Rejection}
    (h : d.rejection? = some why) : d.clean = ([], [.cleaningFailed why.message]) := by
  unfold rejection? at h
  split at h
  · next hread =>
    cases h
    rw [clean_eq, hread]
  · cases h

theorem Description.clean_log_of_accepted {d : Description} (h : d.rejection? = none) :
    d.clean.2 = [] := by
  unfold rejection? at h
  split at h
  · cases h
  · next hread => rw [clean_eq, hread]

/-- A rejected description is shown as an empty one. -/
theorem Description.shown_of_rejection {d : Description} {why : Html.Rejection}
    (h : d.rejection? = some why) : d.shown.1 = (Description.text []).shown.1 := by
  have hempty : (Description.text []).clean.1 = [] := by
    simp only [clean, source, Html.visibleText_nil]
  simp only [shown, clean_of_rejection h, hempty]

theorem Item.complaint?_toList (item : Item) : item.description.shown.2 = item.complaint?.toList := by
  rcases h : item.description.rejection? with _ | why
  · simp [Description.shown, complaint?, h, Description.clean_log_of_accepted h]
  · simp [Description.shown, complaint?, h, Description.clean_of_rejection h]

/-- Of a description a row holds only what is shown of it. -/
theorem Item.row_congr {item : Item} {d : Description}
    (h : d.shown.1 = item.description.shown.1) : { item with description := d }.row = item.row := by
  unfold row
  dsimp only
  rw [h]

/-! ## Feeds of one item -/

/-- A feed that has only this item. -/
def Item.alone (item : Item) (url title : Text) : Feed := { url, title, items := [item] }

theorem Item.rows_alone (item : Item) (url title : Text) : (item.alone url title).rows = item.row := by
  simp [alone, Feed.rows, maxItems]

theorem Feed.rowsLog_eq (feed : Feed) :
    feed.rowsLog = (feed.items.take 5).filterMap Item.complaint? := by
  unfold rowsLog
  simp only [maxItems, Item.complaint?_toList, List.filterMap_eq_flatMap_toList]

theorem Item.complaint?_message {item : Item} {entry : LogEntry} (h : entry ∈ item.complaint?) :
    entry.level = .error ∧ ∃ cause, entry.message = "Failed to clean HTML: ".toList ++ cause := by
  obtain ⟨why, -, rfl⟩ := Option.map_eq_some_iff.1 h
  exact ⟨rfl, why.message, rfl⟩

/-! ## Steps behind the rows -/

namespace Session

/-- The step inserts, edits or removes an item of the feed `name` behind its first five. -/
inductive Step.Behind (name : Text) (feed : Feed) : Step → Prop where
  | add {item : Item} {place : Option Int}
    (later : 5 ≤ insertionPlace feed.items.length place) : Behind name feed (.add name item place)
  | remove {place : Int} {k : Nat} (found : placeOf? feed.items.length place = some k)
    (later : 5 ≤ k) : Behind name feed (.remove name place)
  | edit {place : Int} {change : Change} {k : Nat}
    (found : placeOf? feed.items.length place = some k) (later : 5 ≤ k) :
    Behind name feed (.edit name place change)

theorem State.feed?_store (q : State) (name : Text) (feed : Feed) :
    (q.store name feed).feed? name = some feed := by
  simp [store, feed?]

theorem State.step_rows {q : State} {name : Text} {feed : Feed} (h : q.feed? name = some feed) :
    q.step (.rows name) = { reply := .ok (.rows feed.rows), log := feed.rowsLog, state := q } := by
  simp [step, withFeed, h]

theorem lt_length_of_placeOf? {length k : Nat} {place : Int} (h : placeOf? length place = some k) :
    k < length := by
  unfold placeOf? at h
  dsimp only at h
  split at h
  · next hbound =>
    obtain rfl := Option.some.inj h
    omega
  · cases h

/-- After a step behind its first five items a feed has the same first five. -/
theorem State.step_behind {q : State} {name : Text} {feed : Feed} {s : Step}
    (h : q.feed? name = some feed) (hs : s.Behind name feed) :
    ∃ other, (q.step s).state.feed? name = some other ∧
      other.items.take 5 = feed.items.take 5 := by
  cases hs with
  | add later =>
    refine ⟨_, by simp only [step, withFeed, h]; exact feed?_store .., ?_⟩
    exact List.take_insertIdx_eq_take_of_le _ _ _ _ later
  | remove found later =>
    refine ⟨_, by simp only [step, withFeed, h, found]; exact feed?_store .., ?_⟩
    dsimp only
    rw [List.eraseIdx_eq_take_drop_succ, List.take_append_of_le_length, List.take_take,
      Nat.min_eq_left later]
    have hlt := lt_length_of_placeOf? found
    rw [List.length_take]
    omega
  | edit found later =>
    refine ⟨_, by simp only [step, withFeed, h, found]; exact feed?_store .., ?_⟩
    dsimp only
    rw [List.take_modify, List.modify_eq_self]
    simp
    omega

end Session

/-! ## The rows of a feed -/

/-- Feeds whose first items have the same rows one by one have the same rows. -/
theorem Feed.rows_congr {f g : Feed} (h : f.items.map Item.row = g.items.map Item.row) :
    f.rows = g.rows := by
  have htake := congrArg (fun rows => (List.take 5 rows).flatten) h
  simp only [← List.map_take, ← List.flatMap_def] at htake
  rw [rows, rows, maxItems, htake]

/-- How the rows of a feed depend on its items. -/
structure Feed.Apart (feed : Feed) : Prop where
  /-- Whatever the descriptions are, a session that renders the feed gets its rows. -/
  rendered (q : Session.State) (name : Text) (stored : q.feed? name = some feed) :
    (q.step (.rows name)).reply = .ok (.rows feed.rows) ∧
      (q.step (.rows name)).log = feed.rowsLog
  /-- The rows are those of the first five items, each in a feed of its own, in order. -/
  alone (url title : Text) :
    feed.rows = (feed.items.take 5).flatMap fun item => (item.alone url title).rows
  /-- An item whose description is rejected has the row of the same item with an empty one. -/
  rejected (item : Item) (why : Html.Rejection) (reject : item.description.rejection? = some why)
    (url title : Text) :
    (item.alone url title).rows =
      (Item.alone { item with description := .text [] } url title).rows
  /-- The rows around it are not affected. -/
  around (before after : List Item) (item : Item) (why : Html.Rejection)
    (place : feed.items = before ++ item :: after)
    (reject : item.description.rejection? = some why) :
    { feed with items := before ++ { item with description := .text [] } :: after }.rows = feed.rows
  /-- The log has one entry for each rejected description among the first five, in order. -/
  log :
    feed.rowsLog =
      (feed.items.take 5).filterMap fun item =>
        item.description.rejection?.map fun why => .cleaningFailed why.message
  /-- These entries are errors, and say what failed. -/
  errors (entry : LogEntry) (logged : entry ∈ feed.rowsLog) :
    entry.level = .error ∧ ∃ cause, entry.message = "Failed to clean HTML: ".toList ++ cause
  /-- Feeds that agree on their first five items have the same rows and log the same. -/
  behind (other : Feed) (same : other.items.take 5 = feed.items.take 5) :
    other.rows = feed.rows ∧ other.rowsLog = feed.rowsLog
  /-- A session step that inserts, edits or removes an item behind the first five changes neither
  what a rendering replies nor what it logs. -/
  after_step (q : Session.State) (name : Text) (s : Session.Step)
    (stored : q.feed? name = some feed) (later : s.Behind name feed) :
    ((q.step s).state.step (.rows name)).reply = (q.step (.rows name)).reply ∧
      ((q.step s).state.step (.rows name)).log = (q.step (.rows name)).log

theorem Feed.rows_of_take_eq {f g : Feed} (h : f.items.take 5 = g.items.take 5) :
    f.rows = g.rows ∧ f.rowsLog = g.rowsLog := by
  constructor
  · rw [rows, rows, maxItems, h]
  · rw [rowsLog_eq, rowsLog_eq, h]

/-- The rows of every feed are apart. -/
theorem rows_apart (feed : Feed) : feed.Apart := by
  constructor
  case rendered =>
    intro q name stored
    rw [Session.State.step_rows stored]
    exact ⟨rfl, rfl⟩
  case alone =>
    intro url title
    simp only [Item.rows_alone]
    rfl
  case rejected =>
    intro item why reject url title
    rw [Item.rows_alone, Item.rows_alone, Item.row_congr (Description.shown_of_rejection reject).symm]
  case around =>
    intro before after item why place reject
    apply Feed.rows_congr
    simp only [place, List.map_append, List.map_cons,
      Item.row_congr (Description.shown_of_rejection reject).symm]
  case log => exact feed.rowsLog_eq
  case errors =>
    intro entry logged
    rw [Feed.rowsLog_eq] at logged
    obtain ⟨item, -, hentry⟩ := List.mem_filterMap.1 logged
    exact Item.complaint?_message hentry
  case behind => exact fun other same => Feed.rows_of_take_eq same
  case after_step =>
    intro q name s stored later
    obtain ⟨other, hstored, hsame⟩ := Session.State.step_behind stored later
    obtain ⟨hrows, hlog⟩ := Feed.rows_of_take_eq hsame
    rw [Session.State.step_rows hstored, Session.State.step_rows stored]
    exact ⟨by rw [hrows], hlog⟩

end FeedPage
