-- SUMMARY: The page as a tree: content in place of the rows stands in the body of the download table, behind its two fixed rows, and nothing else of the page depends on it.
import FeedPage.Proofs.Page.Substitution
import FeedPage.Proofs.Xml.Printed
import FeedPage.Proofs.Xml.Tree
import FeedPage.Proofs.Xml.Unique

/-!
# The download table

The template's text in front of the rows opens twelve elements, the innermost one the body of the
download table, and its text behind the rows closes them (`Page.template_table`). Whatever content
the rows are, the page is then a document, and one in a single way: the tree that the template makes
around the gap, with the nodes of the rows in the table (`renderPage_document`).
-/

namespace FeedPage

open Xml

namespace Page

/-! ## The fixed rows -/

/-- An element, its name and attributes as strings. -/
def tag (name : String) (attrs : List (String × String)) (content : List Node) : Node :=
  .element name.toList (attrs.map fun a => (a.1.toList, a.2.toList)) content

/-- The characters of a string. -/
def letters (s : String) : List Node := s.toList.map .char

/-- A button that leads to a feed. -/
def feedButton (location label : String) : Node :=
  tag "a" [("style", "text-decoration: none; border: 0px;"), ("href", location)]
    [tag "span"
      [("style",
        "font-family:Arial;font-size:9px;background: #ff6000;color: #fff;padding: 0 4px")]
      (letters label)]

/-- The row with the heading of the table. -/
def downloadRow : Node :=
  tag "tr" []
    [tag "td" [("width", "30%")]
      [tag "span" [("style", "font-size: 12pt")] [tag "b" [] (letters "Download")]],
     .char '\n',
     tag "td" [("align", "right"), ("width", "70%")]
      [feedButton "rss.xml" "rss\u00a01.0", .char '\n', feedButton "rss2.xml" "rss\u00a02.0"],
     .char '\n']

/-- The row that tells where updates are found. -/
def noteRow : Node :=
  tag "tr" []
    [tag "td" [("style", "padding-bottom: 5px;"), ("colspan", "2")]
      ([tag "b" [] (letters "Note:")] ++ letters " to get an Eclipse plugin version use " ++
        [tag "b" [] (feedUrl.map .char)] ++
        letters " as an update site location in Eclipse Update Manager." ++ [tag "br" [] []])]

/-- What the body of the table holds in front of the rows of the feed. -/
def fixedNodes : List Node := [.char '\n', downloadRow, .char '\n', noteRow, .char '\n']

/-- The body of the table around the rows of the feed. -/
def tableBody : Frame :=
  { name := "tbody".toList, attrs := [], before := fixedNodes, after := [.char '\n'] }

/-- The elements around the body of the table, innermost first. -/
def aroundTable : List Text :=
  ["table", "td", "tr", "table", "div", "div", "td", "tr", "table", "body",
    "html"].map String.toList

/-! ## The text around the rows -/

/-- Behind its first lines the template consists of what stands in front of the body of the table,
the body up to the rows, the slot, and what stands behind it. -/
theorem template_parts :
    template.drop 3 = (template.drop 3).take 52 ++ ((template.drop 55).take 13 ++
      .slot .rows :: .source "\n" :: .source "</tbody></table>\n" :: template.drop 71) := rfl

/-- The parts of the template are fixed texts. The first one leaves open what the last one closes,
and between them stand the fixed rows in the body of the table. -/
theorem template_table :
    ∃ t u v, Fixed ((template.drop 3).take 52) t ∧ Fixed ((template.drop 55).take 13) u ∧
      Fixed (template.drop 71) v ∧ advance 4000 ["html".toList] t = some aroundTable ∧
      u = "<tbody>".toList ++ printAll fixedNodes ∧
      advance 4000 aroundTable ("</table>\n".toList ++ v) = some [] := by
  -- Walking along the template finds the texts; only then they are checked.
  apply Exists.intro
  apply Exists.intro
  apply Exists.intro
  refine ⟨?front, ?body, ?behind, ?opens, ?rows, ?closes⟩
  case front | body =>
    simp only [template, List.drop, List.take]
    repeat
      first
      | apply Fixed.source rfl
      | apply Fixed.slot (by decide)
      | exact Fixed.nil
  case behind =>
    simp only [template, List.drop]
    repeat
      first
      | apply Fixed.source rfl
      | exact Fixed.nil
  case opens => decide +kernel
  case rows => decide +kernel
  case closes => decide +kernel

/-- What stands in the page in front of the rows and behind them, with what was checked of it. -/
theorem render_parts :
    ∃ t v, advance 4000 ["html".toList] t = some aroundTable ∧
      advance 4000 aroundTable v = some [] ∧
      ∀ rows, render rows =
        typeLine ++ rootTag ++ ['\n'] ++ t ++ "<tbody>".toList ++ printAll fixedNodes ++
          (rows ++ (['\n'] ++ ("</tbody>".toList ++ v))) := by
  have hend : "</tbody></table>\n".toList = "</tbody>".toList ++ "</table>\n".toList := by
    decide +kernel
  have hline : "\n".toList = ['\n'] := by decide
  obtain ⟨t, u, v, ht, hu, hv, hopens, rfl, hcloses⟩ := template_table
  refine ⟨t, _, hopens, hcloses, fun rows => ?_⟩
  rw [render_eq, template_parts]
  simp only [List.flatMap_append, List.flatMap_cons, ht.flatMap_text, hu.flatMap_text,
    hv.flatMap_text, Piece.text, Slot.content, hend, hline, List.append_assoc]

/-- Rows that are content make the page a document: the tree around the body of the table, with the
nodes of the rows in the body. -/
theorem document_table :
    ∃ outer : List Frame, outer.map (·.name) = aroundTable ∧
      ∀ rows ns, Content rows ns → Document (render rows) (plug outer (tableBody.fill ns)) := by
  have hbody : IsName "tbody".toList := by decide
  have hregular : areRegular fixedNodes = true := by decide +kernel
  have hline : Leads ['\n'] [.char '\n'] := .char rfl (by decide)
  obtain ⟨t, v, hopens, hcloses, hrender⟩ := render_parts
  -- Up to the body of the table, the elements around it are opened.
  have hroot := (Opens.root prolog_typeLine startTag_rootTag).content hline
  obtain ⟨os, hos, hfront⟩ := hroot.advance hopens rfl
  -- Behind the body they are closed again.
  have hclosed : Closes aroundTable v := by
    simpa using advance_sound hcloses (.misc .nil)
  obtain ⟨outer, rfl, hshuts⟩ := hclosed.shuts hos
  cases outer with
  | nil => cases hos
  | cons f fs =>
    have hopen : StartTag "<tbody>".toList "tbody".toList [] := .tight hbody .nil
    have hclose : EndTag "</tbody>".toList "tbody".toList := .tight hbody
    have hfixed := (hfront.start hopen).content (leads_of_areRegular hregular)
    have hbehind : Shuts (tableBody :: f :: fs) (['\n'] ++ ("</tbody>".toList ++ v)) :=
      .push (o := tableBody.toOpen) hline (.close hclose hshuts)
    refine ⟨f :: fs, by simpa [Function.comp_def] using hos, fun rows ns hns => ?_⟩
    rw [hrender]
    exact Opens.fill hfixed hbehind hns (by simp)

end Page

/-- Rows that are content make a page that is a document in one way only. In its download table
stand the two fixed rows and then the elements of the rows, in order; what is around the body of the
table is the same for all rows. -/
theorem renderPage_document :
    ∃ outer : List Frame, outer.map (·.name) = Page.aroundTable ∧
      (∀ ns, elements (Page.tableBody.content ns) =
        [Page.downloadRow, Page.noteRow] ++ elements ns) ∧
      ∀ p w rows ns, (p Page.feedUrl w).result = .ok rows → Content rows ns →
        ∃ page, (renderPage p w).result = .ok page ∧
          ∀ root, Document page root ↔ root = plug outer (Page.tableBody.fill ns) := by
  obtain ⟨outer, hnames, hdocument⟩ := Page.document_table
  refine ⟨outer, hnames, fun ns => ?_, fun p w rows ns hrows hns => ?_⟩
  · have hbefore : elements Page.tableBody.before = [Page.downloadRow, Page.noteRow] := rfl
    have hafter : elements Page.tableBody.after = [] := rfl
    rw [Frame.content, elements_append, elements_append, hbefore, hafter, List.append_nil]
  · refine ⟨Page.render rows, ?_, fun root => ⟨fun hroot => ?_, ?_⟩⟩
    · rw [renderPage_eq]
      simp only [Outcome.used, hrows]
    · exact hroot.unique (hdocument rows ns hns)
    · rintro rfl
      exact hdocument rows ns hns

/-- A row with a link is content that can stand in the table. -/
example : Content "<tr><td colspan=\"2\"><a href=\"http://x\">JavaSVN 1.0</a></td></tr>".toList
    [Page.tag "tr" [] [Page.tag "td" [("colspan", "2")]
      [Page.tag "a" [("href", "http://x")] (Page.letters "JavaSVN 1.0")]]] := by
  have hprinted : "<tr><td colspan=\"2\"><a href=\"http://x\">JavaSVN 1.0</a></td></tr>".toList =
      printAll [Page.tag "tr" [] [Page.tag "td" [("colspan", "2")]
        [Page.tag "a" [("href", "http://x")] (Page.letters "JavaSVN 1.0")]]] := by decide +kernel
  rw [hprinted]
  exact (leads_of_areRegular (by decide +kernel)).content

end FeedPage
