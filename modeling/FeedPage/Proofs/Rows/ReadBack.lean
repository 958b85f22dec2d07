-- SUMMARY: Rows are read back: what a reader of the rows recovers of a feed, and that the rows hold no other row.
import FeedPage.Proofs.Rows.Skeleton

/-!
# Reading rows back

The rows of a feed tell exactly the texts that are shown of its items, whatever these hold. A reader
that cuts the rows at their skeleton and puts characters for references recovers them, no other
division along the skeleton reads differently, and a row begins nowhere but where an item's row
does (`rows_read_back`).
-/

namespace FeedPage

/-! ## Occurrences of a literal -/

namespace Text

/-- The number of places of a text at which a literal stands. -/
def occurrences (lit : Text) : Text → Nat
  | [] => 0
  | c :: s => (if startsWith lit (c :: s) then 1 else 0) + occurrences lit s

/-- A text without the first character of a literal adds nothing in front. -/
theorem occurrences_append {c : Char} {lit s : Text} (hlit : lit.head? = some c) (h : c ∉ s)
    (t : Text) : occurrences lit (s ++ t) = occurrences lit t := by
  obtain ⟨tail, rfl⟩ := List.head?_eq_some_iff.1 hlit
  induction s with
  | nil => rfl
  | cons d s ih =>
    simp only [List.mem_cons, not_or] at h
    simp [occurrences, startsWith, after?, h.1, ih h.2]

end Text

namespace Row

/-- What begins a row. -/
def beginning : Text := "<tr>".toList

/-- The row with its texts escaped, as it stands in the download table. -/
def write (r : Row) : Text := (r.map escape).layout

theorem occurrences_layoutPublished {published : Option Text} (h : ∀ s ∈ published, '<' ∉ s)
    (t : Text) :
    Text.occurrences beginning (layoutPublished published ++ t) =
      Text.occurrences beginning t := by
  cases published with
  | none => rfl
  | some s =>
    have hopen (t : Text) : Text.occurrences beginning (" <small>".toList ++ t) =
        Text.occurrences beginning t := by
      simp [beginning, Text.occurrences, Text.startsWith, Text.after?]
    have hclose (t : Text) : Text.occurrences beginning ("</small>".toList ++ t) =
        Text.occurrences beginning t := by
      simp [beginning, Text.occurrences, Text.startsWith, Text.after?]
    simp only [layoutPublished, Option.elim_some, List.append_assoc]
    rw [hopen, Text.occurrences_append (by decide) (h s rfl), hclose]

theorem occurrences_layoutShown {shown : Option Text} (h : ∀ s ∈ shown, '<' ∉ s) (t : Text) :
    Text.occurrences beginning (layoutShown shown ++ t) = Text.occurrences beginning t := by
  cases shown with
  | none => rfl
  | some s =>
    have hbreak (t : Text) : Text.occurrences beginning ("<br />".toList ++ t) =
        Text.occurrences beginning t := by
      simp [beginning, Text.occurrences, Text.startsWith, Text.after?]
    simp only [layoutShown, Option.elim_some, List.append_assoc]
    rw [hbreak, Text.occurrences_append (by decide) (h s rfl)]

/-- Of a row's own markup only its first tag begins a row. -/
theorem occurrences_layout {r : Row} (h : r.Plain) (hlink : '<' ∉ r.link) (t : Text) :
    Text.occurrences beginning (r.layout ++ t) = 1 + Text.occurrences beginning t := by
  have hfront (t : Text) :
      Text.occurrences beginning ("<tr><td colspan=\"2\"><a href=\"".toList ++ t) =
        1 + Text.occurrences beginning t := by
    simp [beginning, Text.occurrences, Text.startsWith, Text.after?]
  have hquote (t : Text) : Text.occurrences beginning ("\">".toList ++ t) =
      Text.occurrences beginning t := by
    simp [beginning, Text.occurrences, Text.startsWith, Text.after?]
  have hanchor (t : Text) : Text.occurrences beginning ("</a>".toList ++ t) =
      Text.occurrences beginning t := by
    simp [beginning, Text.occurrences, Text.startsWith, Text.after?]
  have hend (t : Text) : Text.occurrences beginning ("</td></tr>\n".toList ++ t) =
      Text.occurrences beginning t := by
    simp [beginning, Text.occurrences, Text.startsWith, Text.after?]
  unfold layout
  simp only [List.append_assoc]
  rw [hfront, Text.occurrences_append (by decide) hlink, hquote,
    Text.occurrences_append (by decide) h.title, hanchor, occurrences_layoutPublished h.published,
    occurrences_layoutShown h.shown, hend]

theorem occurrences_write_all (rs : List Row) :
    Text.occurrences beginning (rs.flatMap write) = rs.length := by
  induction rs with
  | nil => rfl
  | cons r rs ih =>
    rw [List.flatMap_cons, write,
      occurrences_layout (plain_map_escape r) (not_mem_escape rfl r.link), ih, List.length_cons]
    omega

/-- The rows that a text tells: it is cut at the skeleton, then characters stand for references. -/
def readAll? (s : Text) : Option (List Row) := (cutAll? s).map (List.map (map unescape))

theorem flatMap_write (rs : List Row) :
    rs.flatMap write = (rs.map (map escape)).flatMap layout := by
  rw [List.flatMap_map]
  rfl

theorem plain_of_mem_map_escape {rs : List Row} : ∀ r ∈ rs.map (map escape), r.Plain := by
  intro r hr
  obtain ⟨q, -, rfl⟩ := List.mem_map.1 hr
  exact plain_map_escape q

theorem map_unescape_map_escape_all (rs : List Row) :
    (rs.map (map escape)).map (map unescape) = rs := by
  rw [List.map_map]
  exact List.map_id'' map_unescape_map_escape rs

/-- Any division of written rows along their skeleton reads as the rows that were written. -/
theorem map_unescape_of_layout_eq {rs qs : List Row} (h : ∀ r ∈ rs, r.Plain)
    (heq : rs.flatMap layout = qs.flatMap write) : rs.map (map unescape) = qs := by
  have hcut := cutAll?_layout h
  rw [heq, flatMap_write, cutAll?_layout plain_of_mem_map_escape, Option.some.injEq] at hcut
  rw [← hcut, map_unescape_map_escape_all]

theorem readAll?_write (rs : List Row) : readAll? (rs.flatMap write) = some rs := by
  rw [readAll?, flatMap_write, cutAll?_layout plain_of_mem_map_escape, Option.map_some,
    map_unescape_map_escape_all]

end Row

/-! ## What is shown of an item -/

/-- The texts that are shown of an item. -/
structure Cells where
  link : Text
  title : Text
  published : Text
  shown : Text
  deriving DecidableEq, Repr

/-- The visible text of a description without the blanks around it, cut with dots where it is longer
than three hundred characters. -/
def Description.excerpt (d : Description) : Text :=
  let s := Text.trim d.clean.1
  if s.length ≤ 300 then s else s.take 300 ++ "...".toList

/-- The texts that are shown of an item. -/
def Item.cells (item : Item) : Cells :=
  { link := item.link, title := item.title, published := item.published,
    shown := item.description.excerpt }

/-- The row of texts: a date or description that is empty is missing, with its markup. -/
def Cells.row (c : Cells) : Row :=
  { link := c.link, title := c.title
    published := if c.published = [] then none else some c.published
    shown := if c.shown = [] then none else some c.shown }

/-- The texts of a row, where a missing one is empty. -/
def Row.cells (r : Row) : Cells :=
  { link := r.link, title := r.title, published := r.published.getD [], shown := r.shown.getD [] }

theorem Cells.cells_row (c : Cells) : c.row.cells = c := by
  cases c with
  | mk link title published shown =>
    by_cases hp : published = [] <;> by_cases hs : shown = [] <;>
      simp [Cells.row, Row.cells, hp, hs]

theorem Description.shown_eq (d : Description) : d.shown.1 = d.excerpt := by
  simp only [Description.shown, shorten, Description.excerpt]
  by_cases h : (Text.trim d.clean.1).length ≤ 300
  · rw [if_pos h]
    exact if_neg (Nat.not_lt.2 h)
  · rw [if_neg h]
    exact if_pos (Nat.not_le.1 h)

theorem Item.row_eq (item : Item) : item.row = item.cells.row.write := by
  unfold Item.row Row.write Row.layout
  rw [Description.shown_eq]
  by_cases hp : item.published = [] <;> by_cases hs : item.description.excerpt = [] <;>
    simp [Item.cells, Cells.row, Row.map, Row.layoutPublished, Row.layoutShown, hp, hs]

/-- The rows that a feed is shown as. -/
def Feed.shownRows (feed : Feed) : List Row := (feed.items.take 5).map fun item => item.cells.row

theorem Feed.rows_eq (feed : Feed) : feed.rows = feed.shownRows.flatMap Row.write := by
  rw [Feed.rows, Feed.shownRows, List.flatMap_map, maxItems, funext Item.row_eq]

theorem Feed.shownRows_eq_iff (f g : Feed) :
    f.shownRows = g.shownRows ↔
      (f.items.take 5).map Item.cells = (g.items.take 5).map Item.cells := by
  constructor
  · intro h
    have hcells := congrArg (List.map Row.cells) h
    simpa [Feed.shownRows, Cells.cells_row, Function.comp_def] using hcells
  · intro h
    have hrows := congrArg (List.map Cells.row) h
    simpa [Feed.shownRows, Function.comp_def] using hrows

/-! ## Reading a feed's rows -/

/-- The rows of a feed are read back as the texts that are shown of its first items, in order, a
date or description missing exactly where it is empty. However else they are divided along the
skeleton, they read the same; a row begins in them once for each item shown; and feeds have the same
rows only when the same texts are shown of them. -/
theorem rows_read_back (feed : Feed) :
    Row.readAll? feed.rows = some ((feed.items.take 5).map fun item => item.cells.row) ∧
    (∀ rs : List Row, (∀ r ∈ rs, r.Plain) → rs.flatMap Row.layout = feed.rows →
      rs.map (Row.map unescape) = (feed.items.take 5).map fun item => item.cells.row) ∧
    Text.occurrences "<tr>".toList feed.rows = min 5 feed.items.length ∧
    ∀ other : Feed, other.rows = feed.rows ↔
      (other.items.take 5).map Item.cells = (feed.items.take 5).map Item.cells := by
  refine ⟨?_, ?_, ?_, ?_⟩
  · rw [Feed.rows_eq]
    exact Row.readAll?_write _
  · intro rs hplain heq
    rw [Feed.rows_eq] at heq
    exact Row.map_unescape_of_layout_eq hplain heq
  · rw [Feed.rows_eq]
    have hcount := Row.occurrences_write_all feed.shownRows
    simpa [Feed.shownRows, Row.beginning] using hcount
  · intro other
    rw [← Feed.shownRows_eq_iff]
    constructor
    · intro h
      have hread := Row.readAll?_write other.shownRows
      rw [← Feed.rows_eq, h, Feed.rows_eq, Row.readAll?_write, Option.some.injEq] at hread
      exact hread.symm
    · intro h
      rw [Feed.rows_eq, Feed.rows_eq, h]

end FeedPage
