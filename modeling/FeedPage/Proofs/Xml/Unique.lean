-- SUMMARY: Content and documents are unambiguous: a text stands for one list of nodes, and a document has one root.
import FeedPage.Proofs.Xml.Parts

/-!
# Content and documents are unambiguous

The first characters of content tell what kind of construct begins there (`lead`). Two readings of
one text thus begin with constructs of one kind, which take the same text (`Construct.unique`), and
go on behind it. The content of an element is shorter than the element, so that it may be taken as
unambiguous already (`contentUnique`). A document has one root in the same way (`Document.unique`).
-/

namespace FeedPage.Xml

/-! ## What a text begins with -/

/-- What stands at the front of a text. -/
inductive Lead where
  | nothing
  | char
  | reference
  | tag
  | finish
  | comment
  | cdata
  | doctype
  | instruction
  deriving DecidableEq, Repr

/-- What the first characters of a text tell about the construct that begins there. -/
def lead : Text → Lead
  | [] => .nothing
  | '&' :: _ => .reference
  | '<' :: '/' :: _ => .finish
  | '<' :: '!' :: '-' :: _ => .comment
  | '<' :: '!' :: '[' :: _ => .cdata
  | '<' :: '!' :: _ => .doctype
  | '<' :: '?' :: _ => .instruction
  | '<' :: _ => .tag
  | _ => .char

/-- A construct of content, and what it stands for. Of the rules of content, only those are kept
that tell where a construct ends and what it stands for. -/
inductive Construct : Lead → Text → List Node → Prop where
  | char {c : Char} (plain : c ≠ '<' ∧ c ≠ '&') : Construct .char [c] [.char c]
  | reference {r : Text} {c : Char} (reference : Reference r c) :
    Construct .reference ('&' :: r ++ [';']) [.char c]
  | element {t body e name : Text} {attrs : List (Text × Text)} {ms : List Node}
    (start : StartTag t name attrs) (inside : Content body ms) (finish : EndTag e name) :
    Construct .tag (t ++ (body ++ e)) [.element name attrs ms]
  | empty {t name : Text} {attrs : List (Text × Text)} (tag : EmptyTag t name attrs) :
    Construct .tag t [.element name attrs []]
  | comment {t : Text} (comment : Comment t) : Construct .comment t []
  | instruction {t : Text} (instruction : Instruction t) : Construct .instruction t []
  | cdata {t : Text} (unended : ¬ [']', ']', '>'] <:+: t) :
    Construct .cdata ("<![CDATA[".toList ++ t ++ "]]>".toList) (t.map .char)

theorem lead_plain {c : Char} (h : c ≠ '<' ∧ c ≠ '&') (s : Text) : lead (c :: s) = .char := by
  unfold lead
  split <;> simp_all

theorem lead_name {name : Text} (h : IsName name) (s : Text) :
    lead ('<' :: (name ++ s)) = .tag := by
  match name, h with
  | c :: t, h =>
    have hc := h.chars c (by simp)
    have hslash : inName '/' = false ∧ inName '!' = false ∧ inName '?' = false := by decide
    unfold lead
    split <;> simp_all

theorem StartTag.lead_eq {t name : Text} {attrs : List (Text × Text)} (h : StartTag t name attrs)
    (r : Text) : lead (t ++ r) = .tag := by
  obtain ⟨isName, attributes, blank⟩ := h
  simp only [List.cons_append, List.append_assoc]
  exact lead_name isName _

theorem StartTag.ne_nil {t name : Text} {attrs : List (Text × Text)} (h : StartTag t name attrs) :
    t ≠ [] := by
  cases h
  simp

theorem EmptyTag.lead_eq {t name : Text} {attrs : List (Text × Text)} (h : EmptyTag t name attrs)
    (r : Text) : lead (t ++ r) = .tag := by
  obtain ⟨isName, attributes, blank⟩ := h
  simp only [List.cons_append, List.append_assoc]
  exact lead_name isName _

theorem EndTag.lead_eq {e name : Text} (h : EndTag e name) (r : Text) :
    lead (e ++ r) = .finish := by
  cases h
  rfl

theorem DocumentType.lead_eq {t : Text} (h : DocumentType t) (r : Text) :
    lead (t ++ r) = .doctype := by
  cases h
  rfl

theorem Construct.lead_eq {l : Lead} {t : Text} {ns : List Node} (h : Construct l t ns) (r : Text) :
    lead (t ++ r) = l := by
  cases h with
  | char plain => exact lead_plain plain r
  | reference => rfl
  | element start =>
    rw [List.append_assoc]
    exact start.lead_eq _
  | empty tag => exact tag.lead_eq r
  | comment comment =>
    cases comment
    rfl
  | instruction instruction =>
    cases instruction
    rfl
  | cdata => rfl

/-! ## Sequences of constructs -/

/-- Constructs of the given kinds, one after the other. -/
inductive Constructs (p : Lead → Bool) : Text → List Node → Prop where
  | nil : Constructs p [] []
  | cons {l : Lead} {t s : Text} {ns ms : List Node} (kind : p l = true) (first : Construct l t ns)
    (rest : Constructs p s ms) : Constructs p (t ++ s) (ns ++ ms)

/-- What content consists of. -/
def Lead.inContent : Lead → Bool
  | .nothing | .finish | .doctype => false
  | _ => true

/-- What stands around the parts of a document. -/
def Lead.inMisc : Lead → Bool
  | .char | .comment | .instruction => true
  | _ => false

theorem Content.constructs {s : Text} {ns : List Node} (h : Content s ns) :
    Constructs Lead.inContent s ns := by
  induction h with
  | nil => exact .nil
  | char legal plain unended rest ih => exact .cons rfl (.char plain) ih
  | reference reference rest ih => simpa using Constructs.cons rfl (.reference reference) ih
  | element start inside finish rest ihInside ih =>
    simpa using Constructs.cons rfl (.element start inside finish) ih
  | empty tag rest ih => exact .cons rfl (.empty tag) ih
  | comment comment rest ih => exact .cons rfl (.comment comment) ih
  | instruction instruction rest ih => exact .cons rfl (.instruction instruction) ih
  | cdata legal unended rest ih => exact .cons rfl (.cdata unended) ih

theorem Misc.constructs {s : Text} (h : Misc s) : ∃ ns, Constructs Lead.inMisc s ns := by
  induction h with
  | nil => exact ⟨_, .nil⟩
  | @space c s space rest ih =>
    obtain ⟨ns, hns⟩ := ih
    have hplain : c ≠ '<' ∧ c ≠ '&' := by
      constructor <;> (rintro rfl; exact absurd space (by decide))
    exact ⟨_, .cons rfl (.char hplain) hns⟩
  | comment comment rest ih =>
    obtain ⟨ns, hns⟩ := ih
    exact ⟨_, .cons rfl (.comment comment) hns⟩
  | instruction instruction rest ih =>
    obtain ⟨ns, hns⟩ := ih
    exact ⟨_, .cons rfl (.instruction instruction) hns⟩

/-! ## One reading -/

/-- Content that is shorter than `n` is read in one way up to a tag that closes an element. -/
def ContentUnique (n : Nat) : Prop :=
  ∀ {s s' r r' : Text} {ns ns' : List Node}, s.length < n → Content s ns → Content s' ns' →
    lead r = .finish → lead r' = .finish → s ++ r = s' ++ r' → s = s' ∧ ns = ns' ∧ r = r'

/-- Constructs that begin with the same characters are the same, when content inside of them is read
in one way. -/
theorem Construct.unique {n : Nat} (shorter : ContentUnique n) {l : Lead} {t t' r r' : Text}
    {ns ns' : List Node} (hn : t.length ≤ n) (h : Construct l t ns) (h' : Construct l t' ns')
    (heq : t ++ r = t' ++ r') : t = t' ∧ ns = ns' ∧ r = r' := by
  cases h with
  | char =>
    cases h' with
    | char =>
      obtain ⟨rfl, rfl⟩ := List.cons.inj heq
      exact ⟨rfl, rfl, rfl⟩
  | reference reference =>
    cases h' with
    | reference reference' =>
      simp only [List.cons_append, List.append_assoc, List.nil_append, List.cons.injEq,
        true_and] at heq
      obtain ⟨rfl, rfl, rfl⟩ := reference.unique reference' heq
      exact ⟨rfl, rfl, rfl⟩
  | @element t body e name attrs ms start inside finish =>
    cases h' with
    | element start' inside' finish' =>
      simp only [List.append_assoc] at heq
      obtain ⟨rfl, rfl, rfl, hinside⟩ := start.unique start' heq
      have hshorter : body.length < n := by
        have := List.length_pos_iff.2 start.ne_nil
        simp only [List.length_append] at hn
        omega
      obtain ⟨rfl, rfl, hfinish⟩ := shorter hshorter inside inside' (finish.lead_eq r)
        (finish'.lead_eq r') hinside
      obtain ⟨rfl, -, rfl⟩ := finish.unique finish' hfinish
      exact ⟨rfl, rfl, rfl⟩
    | empty tag' =>
      rw [List.append_assoc] at heq
      exact absurd heq (start.ne_emptyTag tag')
  | empty tag =>
    cases h' with
    | element start' inside' finish' =>
      rw [List.append_assoc] at heq
      exact absurd heq.symm (start'.ne_emptyTag tag)
    | empty tag' =>
      obtain ⟨rfl, rfl, rfl, rfl⟩ := tag.unique tag' heq
      exact ⟨rfl, rfl, rfl⟩
  | comment comment =>
    cases h' with
    | comment comment' =>
      obtain ⟨rfl, rfl⟩ := comment.unique comment' heq
      exact ⟨rfl, rfl, rfl⟩
  | instruction instruction =>
    cases h' with
    | instruction instruction' =>
      obtain ⟨rfl, rfl⟩ := instruction.unique instruction' heq
      exact ⟨rfl, rfl, rfl⟩
  | cdata unended =>
    cases h' with
    | cdata unended' =>
      simp only [List.append_assoc, List.append_cancel_left_eq] at heq
      obtain ⟨rfl, rfl⟩ := section_unique unended unended' heq
      exact ⟨rfl, rfl, rfl⟩

/-- Sequences of constructs of the given kinds, up to something of another kind. -/
theorem Constructs.unique {n : Nat} (shorter : ContentUnique n) {p : Lead → Bool}
    {s s' r r' : Text} {ns ns' : List Node} (hn : s.length ≤ n) (h : Constructs p s ns)
    (h' : Constructs p s' ns') (hr : p (lead r) = false) (hr' : p (lead r') = false)
    (heq : s ++ r = s' ++ r') : s = s' ∧ ns = ns' ∧ r = r' := by
  induction h generalizing s' ns' with
  | nil =>
    cases h' with
    | nil => exact ⟨rfl, rfl, heq⟩
    | cons kind first rest =>
      rw [List.nil_append, List.append_assoc] at heq
      rw [heq, first.lead_eq, kind] at hr
      cases hr
  | cons kind first rest ih =>
    cases h' with
    | nil =>
      rw [List.nil_append, List.append_assoc] at heq
      rw [← heq, first.lead_eq, kind] at hr'
      cases hr'
    | cons kind' first' rest' =>
      rw [List.append_assoc, List.append_assoc] at heq
      rw [List.length_append] at hn
      have hlead := first.lead_eq _ ▸ first'.lead_eq _ ▸ congrArg lead heq
      subst hlead
      obtain ⟨rfl, rfl, hrest⟩ := first.unique shorter (by omega) first' heq
      obtain ⟨rfl, rfl, rfl⟩ := ih (by omega) rest' hrest
      exact ⟨rfl, rfl, rfl⟩

/-- Content is read in one way, whatever its length. -/
theorem contentUnique (n : Nat) : ContentUnique n := by
  induction n with
  | zero => exact fun h => absurd h (Nat.not_lt_zero _)
  | succ n ih =>
    intro s s' r r' ns ns' hn h h' hr hr' heq
    exact h.constructs.unique ih (Nat.le_of_lt_succ hn) h'.constructs (by rw [hr]; rfl)
      (by rw [hr']; rfl) heq

/-- A text stands for one list of nodes. -/
theorem Content.unique {s : Text} {ns ns' : List Node} (h : Content s ns) (h' : Content s ns') :
    ns = ns' := by
  have hnothing : (lead []).inContent = false := rfl
  have heq : s ++ [] = s ++ [] := rfl
  exact (h.constructs.unique (contentUnique _) (Nat.le_refl _) h'.constructs hnothing hnothing
    heq).2.1

/-! ## Documents -/

theorem Misc.unique {s s' r r' : Text} (h : Misc s) (h' : Misc s')
    (hr : (lead r).inMisc = false) (hr' : (lead r').inMisc = false) (heq : s ++ r = s' ++ r') :
    s = s' ∧ r = r' := by
  obtain ⟨ns, hns⟩ := h.constructs
  obtain ⟨ns', hns'⟩ := h'.constructs
  obtain ⟨rfl, -, rfl⟩ := hns.unique (contentUnique _) (Nat.le_refl _) hns' hr hr' heq
  exact ⟨rfl, rfl⟩

theorem Prolog.unique {s s' r r' : Text} (h : Prolog s) (h' : Prolog s') (hr : lead r = .tag)
    (hr' : lead r' = .tag) (heq : s ++ r = s' ++ r') : s = s' ∧ r = r' := by
  have htag : (lead r).inMisc = false ∧ (lead r').inMisc = false := by simp [hr, hr', Lead.inMisc]
  have htype : ∀ {t x : Text}, DocumentType t → (lead (t ++ x)).inMisc = false := by
    intro t x h
    rw [h.lead_eq]
    rfl
  cases h with
  | plain misc =>
    cases h' with
    | plain misc' => exact misc.unique misc' htag.1 htag.2 heq
    | typed before type after =>
      simp only [List.append_assoc] at heq
      obtain ⟨-, hrest⟩ := misc.unique before htag.1 (htype type) heq
      rw [hrest, type.lead_eq] at hr
      cases hr
  | typed before type after =>
    cases h' with
    | plain misc' =>
      simp only [List.append_assoc] at heq
      obtain ⟨-, hrest⟩ := before.unique misc' (htype type) htag.2 heq
      rw [← hrest, type.lead_eq] at hr'
      cases hr'
    | typed before' type' after' =>
      simp only [List.append_assoc] at heq
      obtain ⟨rfl, hrest⟩ := before.unique before' (htype type) (htype type') heq
      obtain ⟨rfl, hafter⟩ := type.unique type' hrest
      obtain ⟨rfl, rfl⟩ := after.unique after' htag.1 htag.2 hafter
      exact ⟨rfl, rfl⟩

/-- The root of a document is a construct behind the prolog. -/
theorem Document.construct {s : Text} {root : Node} (h : Document s root) :
    ∃ p x back, s = p ++ (x ++ back) ∧ Prolog p ∧ Construct .tag x [root] := by
  cases h with
  | element prolog start inside finish misc =>
    exact ⟨_, _, _, by simp only [List.append_assoc]; rfl, prolog, .element start inside finish⟩
  | empty prolog tag misc => exact ⟨_, _, _, by rw [List.append_assoc], prolog, .empty tag⟩

/-- A document has one root. -/
theorem Document.unique {s : Text} {root root' : Node} (h : Document s root)
    (h' : Document s root') : root = root' := by
  obtain ⟨p, x, back, rfl, hprolog, hroot⟩ := h.construct
  obtain ⟨p', x', back', heq, hprolog', hroot'⟩ := h'.construct
  obtain ⟨rfl, hrest⟩ :=
    hprolog.unique hprolog' (hroot.lead_eq back) (hroot'.lead_eq back') heq
  obtain ⟨-, hnodes, -⟩ := hroot.unique (contentUnique _) (Nat.le_refl _) hroot' hrest
  exact (List.cons.inj hnodes).1

end FeedPage.Xml
