-- SUMMARY: Nodes as markup: a way to write them, and that what is written for regular nodes stands for them.
import FeedPage.Proofs.Xml.Check
import FeedPage.Proofs.Xml.Written

/-!
# Printed nodes

Nodes are printed in the plainest way: attributes in double quotes with one space in front,
characters of ASCII as they are unless they are markup, all others as decimal references, and an
element without content as an empty tag. What is printed stands for the nodes again, in front of any
content (`leads_of_areRegular`). So what a long text stands for may be told by printing it.
-/

namespace FeedPage.Xml

/-! ## Printing -/

/-- Characters that are printed as they are. -/
def isPlain (c : Char) : Bool :=
  c.toNat < 128 && c ≠ '<' && c ≠ '>' && c ≠ '&' && c ≠ ']'

/-- A character as it is printed. -/
def printChar (c : Char) : Text :=
  if isPlain c then [c] else '&' :: ('#' :: Text.ofNat c.toNat) ++ [';']

mutual

/-- A node as it is printed. -/
def Node.print : Node → Text
  | .char c => printChar c
  | .element name attrs content =>
    '<' :: name ++ writeAttributes attrs ++
      if content.isEmpty then [' ', '/', '>']
      else '>' :: printAll content ++ ('<' :: '/' :: name ++ ['>'])

/-- Nodes as they are printed, one after the other. -/
def printAll : List Node → Text
  | [] => []
  | n :: ns => n.print ++ printAll ns

end

/-- The attributes can be printed: their names are names, none stands twice, and their values need
no references. -/
def regularAttributes : List (Text × Text) → Bool
  | [] => true
  | (name, value) :: attrs =>
    decide (IsName name) &&
      value.all (fun c => isDocumentChar c && c ≠ '<' && c ≠ '&' && c ≠ '"') &&
      attrs.all (·.1 ≠ name) && regularAttributes attrs

mutual

/-- A node can be printed. -/
def Node.isRegular : Node → Bool
  | .char c => isDocumentChar c
  | .element name attrs content =>
    decide (IsName name) && regularAttributes attrs && areRegular content

/-- Nodes can be printed. -/
def areRegular : List Node → Bool
  | [] => true
  | n :: ns => n.isRegular && areRegular ns

end

/-! ## What is printed -/

theorem Leads.nil : Leads [] [] := fun _ _ h => h

theorem Leads.append {x y : Text} {ns ms : List Node} (hx : Leads x ns) (hy : Leads y ms) :
    Leads (x ++ y) (ns ++ ms) := by
  intro t ks ht
  rw [List.append_assoc, List.append_assoc]
  exact hx _ _ (hy _ _ ht)

theorem Leads.content {x : Text} {ns : List Node} (h : Leads x ns) : Content x ns := by
  simpa using h [] [] .nil

theorem leads_printChar {c : Char} (h : isDocumentChar c = true) :
    Leads (printChar c) [.char c] := by
  unfold printChar
  split
  · next hplain =>
    simp only [isPlain, Bool.and_eq_true, decide_eq_true_eq] at hplain
    exact .char h ⟨hplain.1.1.1.2, hplain.1.2, hplain.2⟩
  · intro t ms ht
    have hdigits : Text.ofNat c.toNat ≠ [] ∧ ∀ d ∈ Text.ofNat c.toNat, d.isDigit = true :=
      ⟨Nat.toDigits_ne_nil, fun _ => Text.isDigit_of_mem_ofNat⟩
    simpa using Content.reference (.decimal hdigits (Text.ofDecimalDigits_ofNat _) h) ht

theorem attributes_write {attrs : List (Text × Text)} (h : regularAttributes attrs = true) :
    Attributes (writeAttributes attrs) attrs := by
  induction attrs with
  | nil => exact .nil
  | cons a attrs ih =>
    obtain ⟨name, value⟩ := a
    simp only [regularAttributes, Bool.and_eq_true, decide_eq_true_eq, List.all_eq_true] at h
    obtain ⟨⟨⟨hname, hvalue⟩, hfresh⟩, hrest⟩ := h
    have hinside : Value '"' value value :=
      .plain (fun c hc => (hvalue c hc).1.1.1)
        ⟨fun hmem => (hvalue _ hmem).1.1.2 rfl, fun hmem => (hvalue _ hmem).1.2 rfl,
          fun hmem => (hvalue _ hmem).2 rfl⟩
    simpa [writeAttributes] using Attributes.spaced hname hinside hfresh (ih hrest)

/-- Nodes of which each one is printed so that it stands for itself are printed so together. -/
theorem leads_printAll {ns : List Node} (h : ∀ n ∈ ns, Leads n.print [n]) :
    Leads (printAll ns) ns := by
  induction ns with
  | nil => exact .nil
  | cons n ns ih =>
    exact (h n (List.mem_cons_self ..)).append (ih fun m hm => h m (List.mem_cons_of_mem n hm))

theorem areRegular_iff {ns : List Node} : areRegular ns = true ↔ ∀ n ∈ ns, n.isRegular = true := by
  induction ns with
  | nil => simp [areRegular]
  | cons n ns ih => simp [areRegular, ih]

/-- What is printed for a regular node stands for it. -/
theorem Node.leads_print : (n : Node) → n.isRegular = true → Leads n.print [n]
  | .char c, h => leads_printChar h
  | .element name attrs content, h => by
    simp only [Node.isRegular, Bool.and_eq_true, decide_eq_true_eq, areRegular_iff] at h
    obtain ⟨⟨hname, hattrs⟩, hcontent⟩ := h
    intro t ms ht
    have hinside := (leads_printAll fun n hn => n.leads_print (hcontent n hn)).content
    cases content with
    | nil =>
      simpa [Node.print] using Content.empty (.spaced hname (attributes_write hattrs)) ht
    | cons n ns =>
      simpa [Node.print] using
        Content.element (.tight hname (attributes_write hattrs)) hinside (.tight hname) ht

/-- What is printed for regular nodes stands for them. -/
theorem leads_of_areRegular {ns : List Node} (h : areRegular ns = true) : Leads (printAll ns) ns :=
  leads_printAll fun n hn => n.leads_print (areRegular_iff.1 h n hn)

end FeedPage.Xml
