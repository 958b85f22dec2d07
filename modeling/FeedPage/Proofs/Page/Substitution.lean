-- SUMMARY: The page is the source of its template with every placeholder replaced at once, and the rows stand at one fixed place in it.
import Mathlib.Data.List.Basic
import Mathlib.Data.List.TakeWhile
import FeedPage.Proofs.Page.Latin1
import FeedPage.Proofs.Publish.Calls

/-!
# The page as a substitution

The template has a source, in which placeholders stand for what is filled in. A page is that source
with all placeholders replaced in one pass: what has been filled in is not looked at again, so rows
that spell a placeholder, or anything else, stand in the page as they are (`Page.render_eq_expand`).
Around the rows the page is always the same text, so that they can be taken out and exchanged
(`Page.render_eq_around`).
-/

namespace FeedPage

namespace Page

/-! ## The source of the template -/

/-- What stands for a slot in the source. -/
def Slot.placeholder : Slot → Text
  | .keywords => "{{ page_keywords }}".toList
  | .description => "{{ page_description }}".toList
  | .feedUrl => "{{ feed_url }}".toList
  | .rows => "{{ feed_rows|safe }}".toList

/-- All slots. -/
def Slot.all : List Slot := [.keywords, .description, .feedUrl, .rows]

/-- A piece as it is written in the source. -/
def Piece.written : Piece → Text
  | .source s => s.toList
  | .slot name => name.placeholder

/-- The source of the template. -/
def source : Text := template.flatMap Piece.written

/-- What is filled into the slots of a page with the given rows. -/
def value (rows : Text) : Slot → Text
  | .keywords => keywords
  | .description => description
  | .feedUrl => feedUrl
  | .rows => rows

/-- The placeholder at the front of a text: how many characters it takes, and what replaces it. -/
def placeholder? (value : Slot → Text) (s : Text) : Option (Nat × Text) :=
  Slot.all.findSome? fun name =>
    (Text.after? name.placeholder s).map fun _ => (name.placeholder.length, value name)

/-- A text with its placeholders replaced, from the left and all in one pass. -/
def expand (value : Slot → Text) (s : Text) : Text := Text.substitute (placeholder? value) s

/-! ## Expanding -/

theorem Slot.mem_all (name : Slot) : name ∈ all := by
  cases name <;> decide

/-- Placeholders begin with a brace. -/
theorem Slot.head?_placeholder (name : Slot) : name.placeholder.head? = some '{' := by
  have hall : ∀ name ∈ all, name.placeholder.head? = some '{' := by decide +kernel
  exact hall name name.mem_all

/-- No placeholder is the beginning of another one. -/
theorem Slot.eq_of_prefix {name other : Slot} (h : other.placeholder <+: name.placeholder) :
    other = name := by
  have hall : ∀ other ∈ all, ∀ name ∈ all,
      other.placeholder <+: name.placeholder → other = name := by decide +kernel
  exact hall other other.mem_all name name.mem_all h

/-- A text that begins with something else than a brace has no placeholder at its front. -/
theorem placeholder?_cons {value : Slot → Text} {c : Char} (h : c ≠ '{') (s : Text) :
    placeholder? value (c :: s) = none := by
  rw [placeholder?, List.findSome?_eq_none_iff]
  intro name _
  rw [Option.map_eq_none_iff, Option.eq_none_iff_forall_ne_some]
  intro rest hrest
  have hhead := congrArg List.head? (Text.after?_eq_some.1 hrest)
  rw [List.head?_append, name.head?_placeholder] at hhead
  exact h (Option.some.inj hhead)

/-- The placeholder of a slot is found in front of any text. -/
theorem placeholder?_append (value : Slot → Text) (name : Slot) (s : Text) :
    placeholder? value (name.placeholder ++ s) = some (name.placeholder.length, value name) := by
  have hfound (other : Slot) :
      (Text.after? other.placeholder (name.placeholder ++ s)).map
          (fun _ => (other.placeholder.length, value other)) =
        if other = name then some (name.placeholder.length, value name) else none := by
    split
    · next h => rw [h, Text.after?_eq_some.2 rfl, Option.map_some]
    · next h =>
      rw [Option.map_eq_none_iff, Option.eq_none_iff_forall_ne_some]
      intro rest hrest
      rcases List.prefix_or_prefix_of_prefix (List.prefix_append name.placeholder s)
        ⟨rest, (Text.after?_eq_some.1 hrest).symm⟩ with hprefix | hprefix
      · exact h (Slot.eq_of_prefix hprefix).symm
      · exact h (Slot.eq_of_prefix hprefix)
  simp only [placeholder?, hfound]
  cases name <;> rfl

theorem expand_cons {value : Slot → Text} {c : Char} (h : c ≠ '{') (s : Text) :
    expand value (c :: s) = c :: expand value s := by
  simp only [expand, Text.substitute, Text.substituteFrom, placeholder?_cons h]

/-- Text without braces is left as it is. -/
theorem expand_append {value : Slot → Text} {t : Text} (h : '{' ∉ t) (s : Text) :
    expand value (t ++ s) = t ++ expand value s := by
  induction t with
  | nil => rfl
  | cons c t ih =>
    rw [List.mem_cons, not_or] at h
    rw [List.cons_append, expand_cons (Ne.symm h.1), ih h.2]
    rfl

/-- A placeholder is replaced by its value, and expanding goes on behind it. -/
theorem expand_placeholder_append (value : Slot → Text) (name : Slot) (s : Text) :
    expand value (name.placeholder ++ s) = value name ++ expand value s := by
  obtain ⟨t, ht⟩ : ∃ t, name.placeholder = '{' :: t := by
    rcases hname : name.placeholder with _ | ⟨c, t⟩
    · simpa [hname] using name.head?_placeholder
    · exact ⟨t, by simpa [hname] using name.head?_placeholder⟩
  have hread := placeholder?_append value name s
  rw [ht, List.cons_append, List.length_cons] at hread
  rw [ht, List.cons_append]
  simp only [expand, Text.substitute, Text.substituteFrom, hread, Nat.add_sub_cancel,
    Http.substituteFrom_append]

/-- What is filled into a piece of the template. -/
def Piece.filled (value : Slot → Text) : Piece → Text
  | .source s => s.toList
  | .slot name => value name

/-- A piece of the template without braces of its own. -/
inductive Piece.IsBraceless : Piece → Prop
  | source {s : String} {l : Text} (literal : s = String.ofList l) (braceless : '{' ∉ l) :
    IsBraceless (.source s)
  | slot (name : Slot) : IsBraceless (.slot name)

/-- Each piece is expanded on its own. -/
theorem expand_written (value : Slot → Text) {ps : List Piece} (h : ∀ p ∈ ps, p.IsBraceless) :
    expand value (ps.flatMap Piece.written) = ps.flatMap (Piece.filled value) := by
  induction ps with
  | nil => rfl
  | cons p ps ih =>
    rw [List.forall_mem_cons] at h
    rw [List.flatMap_cons, List.flatMap_cons, ← ih h.2]
    cases h.1 with
    | source literal braceless =>
      rw [Piece.written, Piece.filled, literal, String.toList_ofList, expand_append braceless]
    | slot name => exact expand_placeholder_append value name _

/-- The braces of the template are those of its placeholders. -/
theorem template_isBraceless : ∀ p ∈ template, p.IsBraceless := by
  simp only [template, List.forall_mem_cons]
  repeat' apply And.intro
  all_goals
    first
    | exact .slot _
    | exact .source rfl (by decide +kernel)
    | exact List.forall_mem_nil _

/-! ## The page -/

/-- Escaping leaves what is filled in besides the rows as it is. -/
theorem content_eq_value (rows : Text) (name : Slot) : name.content rows = value rows name := by
  have hkeywords : escape keywords = keywords := by decide +kernel
  have hdescription : escape description = description := by decide +kernel
  have hurl : escape feedUrl = feedUrl := by decide +kernel
  cases name with
  | keywords => exact hkeywords
  | description => exact hdescription
  | feedUrl => exact hurl
  | rows => rfl

/-- A page is the source of the template with all placeholders replaced at once. -/
theorem render_eq_expand (rows : Text) : render rows = expand (value rows) source := by
  have htext : Piece.text rows = Piece.filled (value rows) := by
    funext p
    cases p with
    | source s => rfl
    | slot name => exact content_eq_value rows name
  rw [render, source, expand_written _ template_isBraceless, htext]

/-- Rows that spell a placeholder stand in the page as they are. -/
example : expand (value "{{ feed_url }}".toList) "<td>{{ feed_rows|safe }}</td>".toList =
    "<td>{{ feed_url }}</td>".toList := by decide +kernel

/-- The text of a page in front of its rows. -/
def front : Text := (template.takeWhile (· ≠ .slot .rows)).flatMap (Piece.text [])

/-- The text of a page behind its rows. -/
def back : Text := (template.dropWhile (· ≠ .slot .rows)).tail.flatMap (Piece.text [])

/-- Of all pieces only the slot of the rows depends on them. -/
theorem Piece.text_eq {p : Piece} (h : p ≠ .slot .rows) (rows : Text) :
    p.text rows = p.text [] := by
  cases p with
  | source s => rfl
  | slot name => exact Slot.content_eq (fun hname => h (by rw [hname])) rows

theorem flatMap_text_eq {ps : List Piece} (h : ∀ p ∈ ps, p ≠ .slot .rows) (rows : Text) :
    ps.flatMap (Piece.text rows) = ps.flatMap (Piece.text []) :=
  List.flatMap_congr fun p hp => p.text_eq (h p hp) rows

/-- The template has one slot for the rows. -/
theorem template_split :
    template = template.takeWhile (· ≠ .slot .rows) ++
        .slot .rows :: (template.dropWhile (· ≠ .slot .rows)).tail ∧
      ∀ p ∈ (template.dropWhile (· ≠ .slot .rows)).tail, p ≠ .slot .rows := by
  have hne : template.dropWhile (· ≠ .slot .rows) ≠ [] := by decide +kernel
  have hhead := List.head_dropWhile_not _ hne
  rw [decide_eq_false_iff_not, not_not] at hhead
  have hdrop := List.cons_head_tail hne
  rw [hhead] at hdrop
  constructor
  · rw [hdrop, List.takeWhile_append_dropWhile]
  · decide +kernel

/-- The rows stand in the page once, between two texts that do not depend on them. -/
theorem render_eq_around (rows : Text) : render rows = front ++ rows ++ back := by
  obtain ⟨hsplit, hback⟩ := template_split
  have hfront : ∀ p ∈ template.takeWhile (· ≠ .slot .rows), p ≠ .slot .rows := fun p hp => by
    simpa using List.mem_takeWhile_imp hp
  rw [render, hsplit, List.flatMap_append, List.flatMap_cons, flatMap_text_eq hfront,
    flatMap_text_eq hback, List.append_assoc]
  rfl

theorem length_insert (before text behind : Text) :
    (before ++ text ++ behind).length = (before ++ [] ++ behind).length + text.length := by
  simp only [List.length_append, List.length_nil]
  omega

/-- A page is longer than the one without rows by as many characters as its rows have. -/
theorem length_render (rows : Text) : (render rows).length = (render []).length + rows.length := by
  rw [render_eq_around rows, render_eq_around []]
  exact length_insert front rows back

theorem length_render_sub (rows : Text) :
    (render rows).length - (render []).length = rows.length :=
  Nat.sub_eq_of_eq_add' (length_render rows)

end Page

/-! ## Rendering -/

/-- Rendering uses what its publisher gives: rows make the page and are counted in the log, and a
fault goes through. -/
theorem renderPage_eq (p : Publisher) (w : Web) :
    renderPage p w = (p Page.feedUrl w).used fun
      | .ok rows => (.ok (Page.render rows), [.pageRendered rows.length])
      | .error why => (.error why, []) := by
  simp only [renderPage, bind, Act.andThen, Outcome.used]
  rcases (p Page.feedUrl w).result with why | rows
  · simp
  · simp [Act.log, pure, Act.done]

/-- What rendering the page comes to, by what became of the one call of the publisher. -/
structure Rendering (p : Publisher) (w : Web) (o : Outcome Text) : Prop where
  /-- All that is requested, and all that happens to the web, is the publisher's doing. -/
  requests : o.requests = (p Page.feedUrl w).requests
  web : o.web = (p Page.feedUrl w).web
  /-- A fault of the publisher comes out as it is, and nothing is added to the log. -/
  raised (why : Fault) :
    (p Page.feedUrl w).result = .error why →
      o.result = .error why ∧ o.log = (p Page.feedUrl w).log
  /-- Rows of the publisher stand in the source of the template in place of their placeholder, all
  placeholders being replaced in one pass. One notice is added to the log, with the number of
  characters by which the page is longer than the one without rows. -/
  returned (rows : Text) :
    (p Page.feedUrl w).result = .ok rows →
      ∃ (page : Text) (notice : LogEntry),
        o.result = .ok page ∧ o.log = (p Page.feedUrl w).log ++ [notice] ∧
        page = Page.expand (Page.value rows) Page.source ∧ notice.level = .info ∧
        notice.message = "Rendered library page with ".toList ++
          Text.ofNat (page.length - (Page.render []).length) ++ " character feed fragment".toList

/-- How the rows stand in a page: at one place, from which they can be taken out. -/
structure Page.SlotAt (place : Nat) : Prop where
  /-- Taking the rows of a page out and putting others in gives the page of the others. -/
  exchange (rows others : Text) :
    (render rows).take place ++ others ++ (render rows).drop (place + rows.length) = render others
  /-- The rows are what a page has there beyond the page without rows. -/
  recover (rows : Text) :
    ((render rows).drop place).take ((render rows).length - (render []).length) = rows
  /-- The number of characters that is logged for a page is by how much it is longer. -/
  length (rows : Text) : (render rows).length = (render []).length + rows.length

theorem Page.slotAt_front : SlotAt front.length where
  exchange rows others := by
    simp only [render_eq_around, List.append_assoc, List.take_left, ← List.drop_drop,
      List.drop_left]
  recover rows := by
    rw [length_render_sub, render_eq_around, List.append_assoc, List.drop_left, List.take_left]
  length := length_render

/-- Rendering the page calls the publisher once, with the URL of the site. What it makes of the rows
is the source of the template with its placeholders replaced, the rows as they are; so whatever the
rows hold, they stand at the same place of the page and can be exchanged there. -/
theorem renderPage_substitutes :
    Publisher.CalledOnce renderPage Page.feedUrl ∧
      (∀ ending w, Publisher.calls renderPage ending w = ["http://tmate.org/svn/".toList]) ∧
      (∀ p w, Rendering p w (renderPage p w)) ∧ ∃ place, Page.SlotAt place := by
  have honce : Publisher.CalledOnce renderPage Page.feedUrl := ⟨_, renderPage_eq⟩
  refine ⟨honce, honce.calls_eq, fun p w => ?_, _, Page.slotAt_front⟩
  rw [renderPage_eq]
  constructor
  case requests => rfl
  case web => rfl
  case raised =>
    intro why hwhy
    simp [Outcome.used, hwhy]
  case returned =>
    intro rows hrows
    refine ⟨Page.render rows, .pageRendered rows.length, ?_, ?_, Page.render_eq_expand rows, rfl,
      ?_⟩
    · simp [Outcome.used, hrows]
    · simp [Outcome.used, hrows]
    · rw [Page.length_render_sub]
      rfl

end FeedPage
