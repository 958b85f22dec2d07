-- SUMMARY: The page as an XML document: rows that are well-formed content make a well-formed page, and other characters break it.
import FeedPage.Page
import FeedPage.Proofs.Rows.WellFormed
import FeedPage.Proofs.Xml.Check

/-!
# The page as a document

The template stands around the rows. Its text is checked once, up to the slot for the rows and on from
there (`template_around`); so any content in the slot gives a well-formed page
(`Page.document_render`). With that the page is well-formed exactly when the characters shown of the
feed's first items are ones that documents may hold.
-/

namespace FeedPage

open Xml

namespace Page

/-! ## The text around the rows -/

/-- The pieces stand for a text, whatever the rows are. -/
inductive Fixed : List Piece → Text → Prop where
  | nil : Fixed [] []
  | source {s : String} {l t : Text} {ps : List Piece} (literal : s = String.ofList l)
    (rest : Fixed ps t) : Fixed (.source s :: ps) (l ++ t)
  | slot {name : Slot} {t : Text} {ps : List Piece} (other : name ≠ .rows)
    (rest : Fixed ps t) : Fixed (.slot name :: ps) (name.content [] ++ t)

/-- The pieces stand for a text in front of the rows and one behind them. -/
inductive Around : List Piece → Text → Text → Prop where
  | source {s : String} {l t u : Text} {ps : List Piece} (literal : s = String.ofList l)
    (rest : Around ps t u) : Around (.source s :: ps) (l ++ t) u
  | slot {name : Slot} {t u : Text} {ps : List Piece} (other : name ≠ .rows)
    (rest : Around ps t u) : Around (.slot name :: ps) (name.content [] ++ t) u
  | rows {u : Text} {ps : List Piece} (rest : Fixed ps u) : Around (.slot .rows :: ps) [] u

/-- What stands in the other slots does not depend on the rows. -/
theorem Slot.content_eq {name : Slot} (h : name ≠ .rows) (rows : Text) :
    name.content rows = name.content [] := by
  cases name with
  | rows => exact (h rfl).elim
  | keywords => rfl
  | description => rfl
  | feedUrl => rfl

theorem Fixed.flatMap_text {ps : List Piece} {t : Text} (h : Fixed ps t) (rows : Text) :
    ps.flatMap (Piece.text rows) = t := by
  induction h with
  | nil => rfl
  | source literal rest ih =>
    rw [List.flatMap_cons, ih, Piece.text, literal, String.toList_ofList]
  | slot other rest ih => rw [List.flatMap_cons, ih, Piece.text, Slot.content_eq other]

theorem Around.flatMap_text {ps : List Piece} {t u : Text} (h : Around ps t u) (rows : Text) :
    ps.flatMap (Piece.text rows) = t ++ (rows ++ u) := by
  induction h with
  | source literal rest ih =>
    rw [List.flatMap_cons, ih, Piece.text, literal, String.toList_ofList, List.append_assoc]
  | slot other rest ih =>
    rw [List.flatMap_cons, ih, Piece.text, Slot.content_eq other, List.append_assoc]
  | rows rest => rw [List.flatMap_cons, rest.flatMap_text]; rfl

/-- The elements that are open where the rows stand, innermost first. -/
def openAtRows : List Text :=
  ["tbody", "table", "td", "tr", "table", "div", "div", "td", "tr", "table", "body",
    "html"].map String.toList

/-- Behind its first tag the template opens elements up to the slot for the rows, and closes them
from there. -/
theorem template_around :
    ∃ t u, Around (template.drop 3) t u ∧ advance 4000 ["html".toList] t = some openAtRows ∧
      advance 4000 openAtRows u = some [] ∧ u.head? = some '\n' := by
  -- Walking along the template finds the two texts; only then they are checked.
  apply Exists.intro
  apply Exists.intro
  refine And.intro ?around (And.intro ?before (And.intro ?after ?head))
  case around =>
    simp only [template, List.drop]
    repeat
      first
      | apply Around.source rfl
      | apply Around.rows
      | apply Around.slot (by decide)
      | apply Fixed.source rfl
      | exact Fixed.nil
  case before => decide +kernel
  case after => decide +kernel
  case head => rfl

/-- The document type that the template begins with, on a line of its own. -/
def typeLine : Text :=
  "<!DOCTYPE html PUBLIC \"-//W3C//DTD XHTML 1.0 Transitional//EN\" ".toList ++
    "\"http://www.w3.org/TR/xhtml1/DTD/xhtml1-transitional.dtd\">\n".toList

/-- The tag that opens the root of the template. -/
def rootTag : Text := "<html xmlns=\"http://www.w3.org/1999/xhtml\">".toList

theorem prolog_typeLine : Prolog typeLine := by
  have hspace : [' '] ≠ [] ∧ Blank [' '] := by decide
  have hnone : Blank [] := by decide
  have hname : IsName "html".toList := by decide
  have hid : Quoted Doctype.isPublicChar
      ('"' :: "-//W3C//DTD XHTML 1.0 Transitional//EN".toList ++ ['"']) :=
    .mk (.inl rfl) (List.all_eq_true.1 (by decide)) (by decide)
  have hlocation : Quoted isDocumentChar
      ('"' :: "http://www.w3.org/TR/xhtml1/DTD/xhtml1-transitional.dtd".toList ++ ['"']) :=
    .mk (.inl rfl) (List.all_eq_true.1 (by decide)) (by decide)
  have htype := DocumentType.mk hspace hname (.named hspace hspace hspace hid hlocation) hnone
  unfold typeLine
  simpa using Prolog.typed .nil htype (.space (c := '\n') rfl .nil)

theorem startTag_rootTag :
    StartTag rootTag "html".toList [("xmlns".toList, "http://www.w3.org/1999/xhtml".toList)] := by
  have hname : IsName "html".toList := by decide
  have hxmlns : IsName "xmlns".toList := by decide
  have hvalue : Value '"' "http://www.w3.org/1999/xhtml".toList "http://www.w3.org/1999/xhtml".toList :=
    .plain (by decide) (by decide)
  unfold rootTag
  simpa using StartTag.tight hname (.spaced hxmlns hvalue (by simp) .nil)

/-! ## The page -/

theorem template_front (rows : Text) :
    (template.take 3).flatMap (Piece.text rows) = typeLine ++ (rootTag ++ ['\n']) := by
  have hfront : template.take 3 =
      [.source "<!DOCTYPE html PUBLIC \"-//W3C//DTD XHTML 1.0 Transitional//EN\" ",
        .source "\"http://www.w3.org/TR/xhtml1/DTD/xhtml1-transitional.dtd\">\n",
        .source "<html xmlns=\"http://www.w3.org/1999/xhtml\">\n"] := rfl
  have hline : "<html xmlns=\"http://www.w3.org/1999/xhtml\">\n".toList = rootTag ++ ['\n'] := by
    decide +kernel
  unfold typeLine
  simp only [hfront, hline, List.flatMap_cons, List.flatMap_nil, Piece.text, List.append_assoc,
    List.append_nil]

theorem render_eq (rows : Text) :
    render rows =
      typeLine ++ rootTag ++ (['\n'] ++ (template.drop 3).flatMap (Piece.text rows)) := by
  have hsplit : render rows = (template.take 3 ++ template.drop 3).flatMap (Piece.text rows) := by
    rw [List.take_append_drop, render]
  simp only [hsplit, List.flatMap_append, template_front, List.append_assoc]

/-- Content in place of the rows makes a well-formed page. -/
theorem document_render {rows : Text} {ns : List Node} (h : Content rows ns) :
    ∃ root, Document (render rows) root := by
  obtain ⟨t, u, haround, hbefore, hafter, hhead⟩ := template_around
  -- From the back to the front: behind the rows, the rows, and what is before them.
  have hbehind : Closes openAtRows u := by
    simpa using advance_sound hafter (.misc .nil)
  have hrows : Closes openAtRows (rows ++ u) := Closes.insert h hbehind (by simp [hhead])
  have hroot : Closes ["html".toList] (t ++ (rows ++ u)) := advance_sound hbefore hrows
  have hline : Closes ["html".toList] (['\n'] ++ (t ++ (rows ++ u))) :=
    .push (fun s ns hs => ⟨_, .char rfl (by decide) (by simp) hs⟩) hroot
  rw [render_eq, haround.flatMap_text]
  exact Closes.document prolog_typeLine startTag_rootTag hline

/-- The rows stand in the page as they are. -/
theorem legal_of_legal_render {rows : Text} (h : Legal (render rows)) : Legal rows := by
  obtain ⟨t, u, haround, -⟩ := template_around
  rw [render_eq, haround.flatMap_text] at h
  simp only [legal_append] at h
  exact h.2.2.2.1

end Page

/-- The rows of a feed are well-formed content, and make a well-formed page, exactly when all
characters that are shown of its first items are ones that documents may hold. Then they stand for
the table rows that the items are shown as. -/
theorem rows_wellFormed_iff (feed : Feed) :
    ((∀ item ∈ feed.items.take 5, item.Legal) →
      Content feed.rows (feed.shownRows.flatMap Row.nodes)) ∧
    ((∃ ns, Content feed.rows ns) ↔ ∀ item ∈ feed.items.take 5, item.Legal) ∧
    ((∃ root, Document (Page.render feed.rows) root) ↔ ∀ item ∈ feed.items.take 5, item.Legal) := by
  refine ⟨Feed.content_rows, ?_, ?_⟩
  · constructor
    · rintro ⟨ns, hcontent⟩
      exact Feed.legal_of_legal_rows hcontent.legal
    · intro hlegal
      exact ⟨_, Feed.content_rows hlegal⟩
  · constructor
    · rintro ⟨root, hdocument⟩
      exact Feed.legal_of_legal_rows (Page.legal_of_legal_render hdocument.legal)
    · intro hlegal
      exact Page.document_render (Feed.content_rows hlegal)

/-- A feed with a control character in the title of its item. -/
def controlFeed : Feed :=
  { url := Page.feedUrl, title := "Releases".toList
    items := [{ title := ['\x01'], link := "http://tmate.org/svn/".toList, published := []
                description := .text [] }] }

/-- There are feeds whose rows are not well-formed. -/
theorem rows_not_wellFormed : ¬ ∀ feed : Feed, ∃ ns, Content feed.rows ns := by
  intro hall
  obtain ⟨ns, hcontent⟩ := hall controlFeed
  have hitem := Feed.legal_of_legal_rows hcontent.legal _ (List.mem_cons_self ..)
  have htitle : ¬ Legal ['\x01'] := by decide
  exact htitle hitem.title

end FeedPage
