-- SUMMARY: Rows as XML content: the elements that a row stands for, and the characters that keep it from being well-formed.
import FeedPage.Proofs.Rows.ReadBack
import FeedPage.Proofs.Xml.Content

/-!
# Rows as content

The rows of a feed are well-formed content when all characters that are shown of its items are legal,
and stand for one table row each, with a link, the date and the description in it
(`rows_content`). Escaping helps against markup only: a character that no document may hold goes
through it, and then the rows are not well-formed, in no way they could be read
(`legal_of_content_rows`).
-/

namespace FeedPage

open Xml

/-! ## The elements of a row -/

namespace Row

/-- The characters of a text. -/
def characters (s : Text) : List Node := s.map .char

/-- The link of a row, with the title in it. -/
def anchor (r : Row) : Node := .element "a".toList [("href".toList, r.link)] (characters r.title)

/-- The date behind a space. -/
def publishedNodes (published : Option Text) : List Node :=
  published.elim [] fun s => [.char ' ', .element "small".toList [] (characters s)]

/-- The description behind a line break. -/
def shownNodes (shown : Option Text) : List Node :=
  shown.elim [] fun s => .element "br".toList [] [] :: characters s

/-- What a row stands for: a table row with one wide cell, and a line end. -/
def nodes (r : Row) : List Node :=
  [.element "tr".toList []
    [.element "td".toList [("colspan".toList, "2".toList)]
      (r.anchor :: (publishedNodes r.published ++ shownNodes r.shown))],
    .char '\n']

/-- All characters of a row's texts are legal. -/
structure Legal (r : Row) : Prop where
  link : Xml.Legal r.link
  title : Xml.Legal r.title
  published : ∀ s ∈ r.published, Xml.Legal s
  shown : ∀ s ∈ r.shown, Xml.Legal s

/-! ## Legal rows -/

theorem content_anchor {link title : Text} (hlink : Xml.Legal link) (htitle : Xml.Legal title) :
    Content ("<a href=\"".toList ++ escape link ++ "\">".toList ++ escape title ++ "</a>".toList)
      [.element "a".toList [("href".toList, link)] (characters title)] := by
  have hname : IsName "a".toList := by decide
  have hhref : IsName "href".toList := by decide
  have hattrs := Attributes.spaced hhref (value_escape hlink) (by simp) .nil
  simpa [characters] using
    Content.element (.tight hname hattrs) (content_escape htitle) (.tight hname) .nil

theorem content_published {published : Option Text} (h : ∀ s ∈ published, Xml.Legal s) :
    Content (layoutPublished (published.map escape)) (publishedNodes published) := by
  cases published with
  | none => exact .nil
  | some s =>
    have hname : IsName "small".toList := by decide
    have hsmall := Content.element (.tight hname .nil) (content_escape (h s rfl)) (.tight hname) .nil
    simpa [layoutPublished, publishedNodes, characters] using
      Content.char (c := ' ') rfl (by decide) (by simp) hsmall

theorem content_shown {shown : Option Text} (h : ∀ s ∈ shown, Xml.Legal s) :
    Content (layoutShown (shown.map escape)) (shownNodes shown) := by
  cases shown with
  | none => exact .nil
  | some s =>
    have hname : IsName "br".toList := by decide
    simpa [layoutShown, shownNodes, characters] using
      Content.empty (.spaced hname .nil) (content_escape (h s rfl))

/-- The parts of a cell begin with a space or a tag. -/
theorem head?_layoutShown (shown : Option Text) :
    (layoutShown shown).head? ≠ some ']' ∧ (layoutShown shown).head? ≠ some '>' := by
  cases shown <;> simp [layoutShown]

theorem head?_layoutPublished_append (published shown : Option Text) :
    (layoutPublished published ++ layoutShown shown).head? ≠ some ']' ∧
      (layoutPublished published ++ layoutShown shown).head? ≠ some '>' := by
  cases published with
  | none => simpa [layoutPublished] using head?_layoutShown shown
  | some s => simp [layoutPublished]

/-- A legal row is content. -/
theorem content_write {r : Row} (h : r.Legal) : Content r.write r.nodes := by
  have htd : IsName "td".toList := by decide
  have htr : IsName "tr".toList := by decide
  have hcolspan : IsName "colspan".toList := by decide
  have htwo : Value '"' ['2'] ['2'] := .char rfl (by decide) .nil
  have hcell := (content_anchor h.link h.title).append
    ((content_published h.published).append (content_shown h.shown) (head?_layoutShown _))
    (head?_layoutPublished_append _ _)
  have hwide := Content.element (.tight htd (.spaced hcolspan htwo (by simp) .nil)) hcell
    (.tight htd) .nil
  have hend : Content ['\n'] [.char '\n'] := .char rfl (by decide) (by decide) .nil
  have hrow := Content.element (.tight htr .nil) hwide (.tight htr) hend
  unfold write layout
  simpa [map, nodes, anchor] using hrow

theorem head?_write (r : Row) : r.write.head? = some '<' := by
  unfold write layout
  simp

theorem head?_flatMap_write (rs : List Row) :
    (rs.flatMap write).head? ≠ some ']' ∧ (rs.flatMap write).head? ≠ some '>' := by
  cases rs with
  | nil => simp
  | cons r rs => simp [List.flatMap_cons, List.head?_append, head?_write]

theorem content_write_all {rs : List Row} (h : ∀ r ∈ rs, r.Legal) :
    Content (rs.flatMap write) (rs.flatMap nodes) := by
  induction rs with
  | nil => exact .nil
  | cons r rs ih =>
    simp only [List.mem_cons, forall_eq_or_imp] at h
    exact (content_write h.1).append (ih h.2) (head?_flatMap_write rs)

/-! ## Rows that are not legal -/

/-- A row is legal when what is written for it is. -/
theorem legal_of_legal_write {r : Row} (h : Xml.Legal r.write) : r.Legal := by
  unfold write layout at h
  simp only [legal_append] at h
  obtain ⟨⟨⟨⟨⟨⟨⟨-, hlink⟩, -⟩, htitle⟩, -⟩, hpublished⟩, hshown⟩, -⟩ := h
  refine ⟨legal_of_legal_escape hlink, legal_of_legal_escape htitle, ?_, ?_⟩
  · intro s hs
    simp only [map, Option.mem_def.1 hs, Option.map_some, layoutPublished, Option.elim_some,
      legal_append] at hpublished
    exact legal_of_legal_escape hpublished.1.2
  · intro s hs
    simp only [map, Option.mem_def.1 hs, Option.map_some, layoutShown, Option.elim_some,
      legal_append] at hshown
    exact legal_of_legal_escape hshown.2

end Row

/-! ## The rows of a feed -/

/-- All characters that are shown of an item are legal. -/
structure Item.Legal (item : Item) : Prop where
  link : Xml.Legal item.link
  title : Xml.Legal item.title
  published : Xml.Legal item.published
  shown : Xml.Legal item.description.excerpt

/-- A text that is left out when it is empty is legal when it is legal where it stands. -/
theorem legal_unless_empty (t : Text) :
    (∀ s ∈ (if t = [] then none else some t), Xml.Legal s) ↔ Xml.Legal t := by
  by_cases h : t = []
  · simp [h]
  · simp [h]

theorem Item.legal_iff (item : Item) : item.Legal ↔ item.cells.row.Legal := by
  have hpublished := legal_unless_empty item.published
  have hshown := legal_unless_empty item.description.excerpt
  constructor
  · intro h
    exact ⟨h.link, h.title, hpublished.2 h.published, hshown.2 h.shown⟩
  · intro h
    exact ⟨h.link, h.title, hpublished.1 h.published, hshown.1 h.shown⟩

theorem Feed.content_rows {feed : Feed} (h : ∀ item ∈ feed.items.take 5, item.Legal) :
    Content feed.rows (feed.shownRows.flatMap Row.nodes) := by
  rw [Feed.rows_eq]
  refine Row.content_write_all fun r hr => ?_
  obtain ⟨item, hitem, rfl⟩ := List.mem_map.1 hr
  exact item.legal_iff.1 (h item hitem)

theorem Feed.legal_of_legal_rows {feed : Feed} (h : Xml.Legal feed.rows) :
    ∀ item ∈ feed.items.take 5, item.Legal := by
  intro item hitem
  rw [item.legal_iff]
  refine Row.legal_of_legal_write fun c hc => h c ?_
  rw [Feed.rows_eq]
  exact List.mem_flatMap.2 ⟨_, List.mem_map_of_mem hitem, hc⟩

end FeedPage
