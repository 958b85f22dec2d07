-- SUMMARY: Documents with a gap: the elements that a text leaves open, with what they hold so far, and the document that comes about when the gap is filled.
import FeedPage.Proofs.Xml.Check

/-!
# Documents with a gap

A text up to a gap leaves elements open, which hold the nodes read so far (`Opens`); the text behind
the gap closes them, and tells the nodes behind it (`Shuts`). Both are fixed before the gap is
filled. So every filling gives the same document but for one place: its nodes stand where the gap
is, between the nodes before and behind it, in the innermost of the open elements (`Opens.fill`).
The innermost element stands first in lists of open elements.
-/

namespace FeedPage.Xml

/-! ## Trees with a gap -/

/-- An open element: what its tag says, and the nodes read in it so far. -/
structure Open where
  name : Text
  attrs : List (Text × Text)
  before : List Node := []

/-- An element around a gap. -/
structure Frame extends Open where
  after : List Node

namespace Frame

/-- What the element holds when nodes fill the gap. -/
def content (f : Frame) (ns : List Node) : List Node := f.before ++ ns ++ f.after

/-- The element when nodes fill the gap. -/
def fill (f : Frame) (ns : List Node) : Node := .element f.name f.attrs (f.content ns)

end Frame

/-- The root of the frames, when a node stands in the gap of the innermost one. -/
def plug : List Frame → Node → Node
  | [], n => n
  | f :: fs, n => plug fs (f.fill [n])

/-- The elements among nodes. -/
def elements (ns : List Node) : List Node :=
  ns.filter fun
    | .char _ => false
    | .element .. => true

theorem elements_append (ns ms : List Node) : elements (ns ++ ms) = elements ns ++ elements ms :=
  List.filter_append ..

/-! ## Behind the gap -/

/-- The text closes the frames, and what it holds is what they have behind the gap. -/
inductive Shuts : List Frame → Text → Prop where
  | misc {s : Text} (misc : Misc s) : Shuts [] s
  | finish {s e t : Text} {f : Frame} {fs : List Frame} (inside : Content s f.after)
    (finish : EndTag e f.name) (rest : Shuts fs t) : Shuts (f :: fs) (s ++ e ++ t)

/-- Of what closes open elements it can be told what they hold behind the gap. -/
theorem Closes.shuts {names : List Text} {s : Text} (h : Closes names s) {os : List Open}
    (hos : os.map Open.name = names) :
    ∃ fs : List Frame, fs.map Frame.toOpen = os ∧ Shuts fs s := by
  induction h generalizing os with
  | misc misc =>
    obtain rfl := List.map_eq_nil_iff.1 hos
    exact ⟨[], rfl, .misc misc⟩
  | finish inside finish rest ih =>
    obtain ⟨o, os, rfl, rfl, hrest⟩ := List.map_eq_cons_iff.1 hos
    obtain ⟨fs, rfl, hshuts⟩ := ih hrest
    exact ⟨⟨o, _⟩ :: fs, rfl, .finish inside finish hshuts⟩

namespace Shuts

variable {s x : Text} {ns after : List Node} {o : Open} {fs : List Frame}

/-- How an element was opened, and what it held before the gap, does not matter behind it. -/
theorem congr {o' : Open} (h : Shuts (⟨o, after⟩ :: fs) s) (hname : o'.name = o.name) :
    Shuts (⟨o', after⟩ :: fs) s := by
  cases h with
  | finish inside finish rest => exact .finish (f := ⟨o', after⟩) inside (hname ▸ finish) rest

/-- Nodes in front of what closes the innermost frame are nodes behind its gap. -/
theorem push (hx : Leads x ns) (h : Shuts (⟨o, after⟩ :: fs) s) :
    Shuts (⟨o, ns ++ after⟩ :: fs) (x ++ s) := by
  cases h with
  | finish inside finish rest =>
    have hshuts := Shuts.finish (f := ⟨o, ns ++ after⟩) (hx _ _ inside) finish rest
    simpa only [List.append_assoc] using hshuts

/-- So are nodes of any content, unless a bracket could come about. -/
theorem insert (hx : Content x ns) (h : Shuts (⟨o, after⟩ :: fs) s)
    (hs : s.head? ≠ some ']' ∧ s.head? ≠ some '>') :
    Shuts (⟨o, ns ++ after⟩ :: fs) (x ++ s) := by
  cases h with
  | @finish t e _ _ _ inside finish rest =>
    have ht : t.head? ≠ some ']' ∧ t.head? ≠ some '>' := by
      cases t with
      | nil => simp
      | cons c t => simpa using hs
    have hshuts := Shuts.finish (f := ⟨o, ns ++ after⟩) (hx.append inside ht) finish rest
    simpa only [List.append_assoc] using hshuts

/-- A tag opens an element that is closed first. -/
theorem start {t name : Text} {attrs : List (Text × Text)} {inner : List Node}
    (tag : StartTag t name attrs) (h : Shuts (⟨{ name, attrs }, inner⟩ :: ⟨o, after⟩ :: fs) s) :
    Shuts (⟨o, .element name attrs inner :: after⟩ :: fs) (t ++ s) := by
  cases h with
  | finish inside finish rest =>
    cases rest with
    | finish inside' finish' rest' =>
      have hshuts := Shuts.finish (f := ⟨o, .element name attrs inner :: after⟩)
        (.element tag inside finish inside') finish' rest'
      simpa only [List.append_assoc] using hshuts

theorem close {e : Text} (finish : EndTag e o.name) (h : Shuts fs s) :
    Shuts (⟨o, []⟩ :: fs) (e ++ s) :=
  .finish (f := ⟨o, []⟩) .nil finish h

end Shuts

/-! ## Up to the gap -/

/-- The text leaves elements open: whatever closes them completes a document, which holds the nodes
that were read so far and those that are read behind. Of a text that leaves nothing open this says
nothing. -/
def Opens (t : Text) (os : List Open) : Prop :=
  ∀ (f : Frame) (fs : List Frame), (f :: fs).map Frame.toOpen = os →
    ∀ s, Shuts (f :: fs) s → Document (t ++ s) (plug fs (f.fill []))

namespace Opens

variable {t x : Text} {o : Open} {os : List Open}

/-- What the frames of open elements are made of. -/
theorem cons_of_map {f : Frame} {fs : List Frame} (h : (f :: fs).map Frame.toOpen = o :: os) :
    f = ⟨o, f.after⟩ ∧ fs.map Frame.toOpen = os := by
  obtain ⟨rfl, rfl⟩ := List.cons.inj h
  exact ⟨rfl, rfl⟩

theorem root {p name : Text} {attrs : List (Text × Text)} (prolog : Prolog p)
    (tag : StartTag t name attrs) : Opens (p ++ t) [{ name, attrs }] := by
  intro f fs hfs s hs
  obtain ⟨hf, hnil⟩ := cons_of_map hfs
  obtain rfl := List.map_eq_nil_iff.1 hnil
  rw [hf] at hs ⊢
  cases hs with
  | finish inside finish rest =>
    cases rest with
    | misc misc =>
      have hdocument := Document.element prolog tag inside finish misc
      simpa only [plug, Frame.fill, Frame.content, List.nil_append, List.append_assoc] using
        hdocument

/-- Content goes to the innermost element. -/
theorem content {ns : List Node} (h : Opens t (o :: os)) (hx : Leads x ns) :
    Opens (t ++ x) ({ o with before := o.before ++ ns } :: os) := by
  intro f fs hfs s hs
  obtain ⟨hf, rfl⟩ := cons_of_map hfs
  rw [hf] at hs ⊢
  have hpush : Shuts (⟨o, ns ++ f.after⟩ :: fs) (x ++ s) := .push hx (hs.congr rfl)
  have hdocument := h _ fs rfl _ hpush
  simpa [Frame.fill, Frame.content] using hdocument

/-- A tag opens an element that holds nothing yet. -/
theorem start {name : Text} {attrs : List (Text × Text)} (h : Opens t (o :: os))
    (tag : StartTag x name attrs) : Opens (t ++ x) ({ name, attrs } :: o :: os) := by
  intro f fs hfs s hs
  obtain ⟨hf, hfs⟩ := cons_of_map hfs
  cases fs with
  | nil => cases hfs
  | cons g fs =>
    obtain ⟨hg, rfl⟩ := cons_of_map hfs
    rw [hf, hg] at hs
    rw [hf, hg]
    have hdocument := h _ fs rfl _ (.start tag hs)
    simpa [plug, Frame.fill, Frame.content] using hdocument

/-- A tag closes the innermost element, which is a node of the next one then. -/
theorem finish {e : Text} {inner : Open} (h : Opens t (inner :: o :: os))
    (tag : EndTag e inner.name) :
    Opens (t ++ e)
      ({ o with before := o.before ++ [.element inner.name inner.attrs inner.before] } :: os) := by
  intro f fs hfs s hs
  obtain ⟨hf, rfl⟩ := cons_of_map hfs
  rw [hf] at hs ⊢
  have houter : Shuts (⟨o, f.after⟩ :: fs) s := hs.congr rfl
  have hdocument := h _ _ rfl _ (.close tag houter)
  simpa [plug, Frame.fill, Frame.content] using hdocument

theorem piece {names names' : List Text} {x : Text} (h : Opens t os) (hx : Piece names x names')
    (hos : os.map Open.name = names) : ∃ os', os'.map Open.name = names' ∧ Opens (t ++ x) os' := by
  cases hx with
  | space space =>
    refine ⟨[], rfl, fun f fs hfs => ?_⟩
    cases hfs
  | content leads =>
    obtain ⟨o, os, rfl, rfl, rfl⟩ := List.map_eq_cons_iff.1 hos
    exact ⟨_, rfl, h.content leads⟩
  | start tag =>
    obtain ⟨o, os, rfl, rfl, rfl⟩ := List.map_eq_cons_iff.1 hos
    exact ⟨_, rfl, h.start tag⟩
  | finish tag =>
    obtain ⟨inner, os, rfl, rfl, rfl⟩ := List.map_eq_cons_iff.1 hos
    cases os with
    | nil =>
      refine ⟨[], rfl, fun f fs hfs => ?_⟩
      cases hfs
    | cons o os =>
      have hfinish := h.finish tag
      exact ⟨_, by simp, hfinish⟩

/-- A text leaves open what was computed for it. -/
theorem advance {fuel : Nat} {names names' : List Text} {s : Text} (h : Opens t os)
    (hs : advance fuel names s = some names') (hos : os.map Open.name = names) :
    ∃ os', os'.map Open.name = names' ∧ Opens (t ++ s) os' := by
  fun_induction Xml.advance fuel names s generalizing t os with
  | case1 fuel names =>
    cases hs
    exact ⟨os, hos, by simpa using h⟩
  | case2 => cases hs
  | case3 fuel names s hne ih =>
    obtain ⟨⟨names₁, rest⟩, hpiece, hrest⟩ := Option.bind_eq_some_iff.1 hs
    obtain ⟨x, rfl, hx⟩ := piece?_sound hpiece
    obtain ⟨os₁, hos₁, hopens⟩ := h.piece hx hos
    simpa only [List.append_assoc] using ih names₁ rest hopens hrest hos₁

/-- Content that fills the gap makes a document: the tree around the gap, with the content's nodes
in it. -/
theorem fill {f : Frame} {fs : List Frame} {s : Text} {ns : List Node}
    (h : Opens t ((f :: fs).map Frame.toOpen)) (hs : Shuts (f :: fs) s) (hx : Content x ns)
    (hhead : s.head? ≠ some ']' ∧ s.head? ≠ some '>') :
    Document (t ++ (x ++ s)) (plug fs (f.fill ns)) := by
  have hdocument := h ⟨f.toOpen, ns ++ f.after⟩ fs rfl _ (hs.insert hx hhead)
  simpa [Frame.fill, Frame.content] using hdocument

end Opens

end FeedPage.Xml
