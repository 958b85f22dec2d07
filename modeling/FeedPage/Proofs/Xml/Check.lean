-- SUMMARY: A checker for markup with a gap: it reads a text piece by piece with a stack of open elements, and what it passes completes a document.
import FeedPage.Proofs.Xml.Content

/-!
# Checking markup

Whether a long fixed text is well-formed is computed. The checker reads one piece after the other
and keeps the names of the open elements, innermost first (`advance`). It knows only the forms of
markup that pages are written in: attributes in double quotes with one space in front, no references
in them, comments without hyphens, and no `]`. What it passes is well-formed in the sense of the
grammar whatever follows, as long as that closes the elements left open (`advance_sound`). So a text
may be checked up to a gap, and on from there, for all content that may stand in the gap.
-/

namespace FeedPage.Xml

/-! ## Closing what is open -/

/-- The text closes the open elements, given by name from the innermost one on, and ends a
document. -/
inductive Closes : List Text → Text → Prop where
  | misc {s : Text} (misc : Misc s) : Closes [] s
  | finish {s e name t : Text} {names : List Text} {ns : List Node} (inside : Content s ns)
    (finish : EndTag e name) (rest : Closes names t) : Closes (name :: names) (s ++ e ++ t)

namespace Closes

variable {name : Text} {names : List Text} {s : Text}

theorem space {c : Char} (hc : isSpace c = true) (h : Closes [] s) : Closes [] (c :: s) := by
  cases h with
  | misc misc => exact .misc (.space hc misc)

/-- What may stand in front of any content may stand in front of what closes an element. -/
theorem push {x : Text} (hx : ∀ t ns, Content t ns → ∃ ms, Content (x ++ t) ms)
    (h : Closes (name :: names) s) : Closes (name :: names) (x ++ s) := by
  cases h with
  | finish inside finish rest =>
    obtain ⟨ms, hms⟩ := hx _ _ inside
    simpa only [List.append_assoc] using Closes.finish hms finish rest

/-- Content may stand in front as well, unless a bracket could come about. -/
theorem insert {x : Text} {ns : List Node} (hx : Content x ns) (h : Closes (name :: names) s)
    (hs : s.head? ≠ some ']' ∧ s.head? ≠ some '>') : Closes (name :: names) (x ++ s) := by
  cases h with
  | @finish t e _ _ _ _ inside finish rest =>
    have ht : t.head? ≠ some ']' ∧ t.head? ≠ some '>' := by
      cases t with
      | nil => simp
      | cons c t => simpa using hs
    simpa only [List.append_assoc] using Closes.finish (hx.append inside ht) finish rest

theorem close {e : Text} (finish : EndTag e name) (h : Closes names s) :
    Closes (name :: names) (e ++ s) :=
  .finish .nil finish h

/-- A tag opens an element that is closed first. -/
theorem start {t inner : Text} {attrs : List (Text × Text)} (tag : StartTag t inner attrs)
    (h : Closes (inner :: name :: names) s) : Closes (name :: names) (t ++ s) := by
  cases h with
  | finish inside finish rest =>
    cases rest with
    | finish inside' finish' rest' =>
      simpa only [List.append_assoc] using
        Closes.finish (.element tag inside finish inside') finish' rest'

/-- What closes the root completes a document. -/
theorem document {p t root : Text} {attrs : List (Text × Text)} (prolog : Prolog p)
    (tag : StartTag t root attrs) (h : Closes [root] s) :
    ∃ node, Document (p ++ t ++ s) node := by
  cases h with
  | finish inside finish rest =>
    cases rest with
    | misc misc =>
      have hdocument := Document.element prolog tag inside finish misc
      exact ⟨_, by simpa only [List.append_assoc] using hdocument⟩

end Closes

/-! ## Reading pieces -/

/-- A name at the front, as far as it goes, and the rest. -/
def takeName (s : Text) : Text × Text :=
  Text.run (fun c => isNameChar c || c == ':') s

/-- A value up to its closing quote, and the rest. -/
def takeValue? : Text → Option (Text × Text)
  | [] => none
  | c :: s =>
    if c = '"' then some ([], s)
    else if isDocumentChar c ∧ c ≠ '<' ∧ c ≠ '&' then
      (takeValue? s).map fun (value, rest) => (c :: value, rest)
    else none

/-- What ends a tag: whether it is that of an element without content. -/
def tagEnd (isEmpty : Bool) : Text := if isEmpty then [' ', '/', '>'] else ['>']

/-- The attributes of a tag up to its end: with at most as many attributes as `fuel` allows, whether
the element has no content, and the rest. -/
def takeTag? : (fuel : Nat) → Text → Option (List (Text × Text) × Bool × Text)
  | 0, _ => none
  | _ + 1, '>' :: s => some ([], false, s)
  | _ + 1, ' ' :: '/' :: '>' :: s => some ([], true, s)
  | fuel + 1, ' ' :: s =>
    match takeName s with
    | (name, '=' :: '"' :: t) => do
      let (value, t) ← takeValue? t
      let (attrs, isEmpty, rest) ← takeTag? fuel t
      if IsName name ∧ ∀ a ∈ attrs, a.1 ≠ name then some ((name, value) :: attrs, isEmpty, rest)
      else none
    | _ => none
  | _, _ => none

/-- A comment up to its end; what follows it. -/
def takeComment? : Text → Option Text
  | '-' :: '-' :: '>' :: s => some s
  | c :: s => if isDocumentChar c ∧ c ≠ '-' then takeComment? s else none
  | [] => none

/-- The character of a reference by number. -/
def numberedReference? (r : Text) : Option Char :=
  match r with
  | '#' :: ds => if ds ≠ [] ∧ ds.all Char.isDigit then numbered? (Text.ofDecimalDigits ds) else none
  | _ => none

/-- A reference behind its `&`; what follows it. -/
def takeReference? (s : Text) : Option Text :=
  match s.takeWhile (· ≠ ';'), s.dropWhile (· ≠ ';') with
  | r, ';' :: rest => (numberedReference? r).map fun _ => rest
  | _, _ => none

/-- The tag that closes an element, behind its `</`; what follows it. -/
def takeEndTag? (name s : Text) : Option Text :=
  match takeName s with
  | (n, '>' :: rest) => if n = name ∧ IsName n then some rest else none
  | _ => none

/-- The tag that opens an element, behind its `<`: the name, whether there is no content, and the
rest. -/
def takeStartTag? (s : Text) : Option (Text × Bool × Text) :=
  match takeName s with
  | (n, t) => do
    let (_, isEmpty, rest) ← takeTag? t.length t
    if IsName n then some (n, isEmpty, rest) else none

/-- Markup behind its `<`, read in an element: the elements that are open after it, and the rest. -/
def markup? (name : Text) (outer : List Text) : Text → Option (List Text × Text)
  | '/' :: s => (takeEndTag? name s).map fun rest => (outer, rest)
  | '!' :: '-' :: '-' :: s => (takeComment? s).map fun rest => (name :: outer, rest)
  | s => (takeStartTag? s).map fun (inner, isEmpty, rest) =>
    (if isEmpty then name :: outer else inner :: name :: outer, rest)

/-- The piece at the front of a text, read inside the open elements: those that are open after it,
and the rest. -/
def piece? (names : List Text) : Text → Option (List Text × Text)
  | [] => none
  | c :: s =>
    match names with
    | [] => if isSpace c then some ([], s) else none
    | name :: outer =>
      if c = '&' then (takeReference? s).map fun rest => (name :: outer, rest)
      else if c = '<' then markup? name outer s
      else if isDocumentChar c ∧ c ≠ ']' then some (name :: outer, s)
      else none

/-- The elements that are open after a text that is read inside the given ones. -/
def advance : (fuel : Nat) → List Text → Text → Option (List Text)
  | _, names, [] => some names
  | 0, _, _ => none
  | fuel + 1, names, s => (piece? names s).bind fun (names, rest) => advance fuel names rest

/-! ## What the pieces are -/

theorem takeName_append (s : Text) : (takeName s).1 ++ (takeName s).2 = s :=
  List.takeWhile_append_dropWhile

theorem takeValue?_sound {s value rest : Text} (h : takeValue? s = some (value, rest)) :
    Value '"' value value ∧ s = value ++ '"' :: rest := by
  induction s generalizing value rest with
  | nil => cases h
  | cons c s ih =>
    unfold takeValue? at h
    split at h
    · next hc =>
      cases h
      exact ⟨.nil, by rw [hc, List.nil_append]⟩
    · next hc =>
      split at h
      · next hplain =>
        obtain ⟨⟨v, r⟩, hv, heq⟩ := Option.map_eq_some_iff.1 h
        cases heq
        obtain ⟨hvalue, rfl⟩ := ih hv
        exact ⟨.char hplain.1 ⟨hplain.2.1, hplain.2.2, hc⟩ hvalue, rfl⟩
      · cases h

theorem takeTag?_sound {fuel : Nat} {s rest : Text} {attrs : List (Text × Text)} {isEmpty : Bool}
    (h : takeTag? fuel s = some (attrs, isEmpty, rest)) :
    ∃ written, Attributes written attrs ∧ s = written ++ tagEnd isEmpty ++ rest := by
  fun_induction takeTag? fuel s generalizing attrs isEmpty rest with
  | case1 => cases h
  | case2 fuel s =>
    cases h
    exact ⟨[], .nil, rfl⟩
  | case3 fuel s =>
    cases h
    exact ⟨[], .nil, rfl⟩
  | case4 fuel s hend name t hname ih =>
    simp only [Option.bind_eq_bind, Option.bind_eq_some_iff, Prod.exists] at h
    obtain ⟨value, t', hvalue, attrs', isEmpty', rest', htag, h⟩ := h
    split at h
    · next hname' =>
      cases h
      obtain ⟨hinside, rfl⟩ := takeValue?_sound hvalue
      obtain ⟨written, hattrs, rfl⟩ := ih _ htag
      refine ⟨_, .spaced hname'.1 hinside hname'.2 hattrs, ?_⟩
      -- The name ends where it was read to, so the text is put together again from there.
      have hs := takeName_append s
      rw [hname] at hs
      rw [← hs]
      simp
    · cases h
  | case5 => cases h
  | case6 => cases h

theorem takeComment?_sound {s rest : Text} (h : takeComment? s = some rest) :
    ∃ t, (∀ c ∈ t, isDocumentChar c = true ∧ c ≠ '-') ∧ s = t ++ ['-', '-', '>'] ++ rest := by
  fun_induction takeComment? s with
  | case1 s =>
    cases h
    exact ⟨[], by simp, rfl⟩
  | case2 c s hend hc ih =>
    obtain ⟨t, ht, rfl⟩ := ih h
    refine ⟨c :: t, ?_, rfl⟩
    intro d hd
    rcases List.mem_cons.1 hd with rfl | hd
    · exact hc
    · exact ht d hd
  | case3 => cases h
  | case4 => cases h

/-- A text without hyphens makes a comment. -/
theorem Comment.plain {t : Text} (ht : ∀ c ∈ t, isDocumentChar c = true ∧ c ≠ '-') :
    Comment ("<!--".toList ++ t ++ "-->".toList) := by
  refine .mk (fun c hc => (ht c hc).1) fun hdouble => ?_
  have hcount := hdouble.sublist.count_le '-'
  have hnone : t.count '-' = 0 := List.count_eq_zero.2 fun hmem => (ht _ hmem).2 rfl
  simp [List.count_append, hnone] at hcount

theorem numberedReference?_sound {r : Text} {c : Char} (h : numberedReference? r = some c) :
    Reference r c := by
  unfold numberedReference? at h
  split at h
  · next ds =>
    split at h
    · next hds =>
      unfold numbered? at h
      split at h
      · next hvalid =>
        obtain ⟨hc, hlegal⟩ := Option.filter_eq_some_iff.1 h
        rw [Option.some.injEq] at hc
        subst hc
        refine .decimal ⟨hds.1, by simpa using hds.2⟩ ?_ hlegal
        rw [Char.ofNat, dif_pos hvalid]
        rfl
      · cases h
    · cases h
  · cases h

theorem takeReference?_sound {s rest : Text} (h : takeReference? s = some rest) :
    ∃ r c, Reference r c ∧ s = r ++ ';' :: rest := by
  unfold takeReference? at h
  split at h
  · next r rest' hr hrest =>
    obtain ⟨c, hc, rfl⟩ := Option.map_eq_some_iff.1 h
    refine ⟨_, c, numberedReference?_sound hc, ?_⟩
    rw [← hrest, List.takeWhile_append_dropWhile]
  · cases h

theorem takeEndTag?_sound {name s rest : Text} (h : takeEndTag? name s = some rest) :
    IsName name ∧ s = name ++ '>' :: rest := by
  unfold takeEndTag? at h
  split at h
  · next n rest' htake =>
    split at h
    · next hn =>
      cases h
      obtain ⟨rfl, hname⟩ := hn
      have hs := takeName_append s
      rw [htake] at hs
      exact ⟨hname, hs.symm⟩
    · cases h
  · cases h

theorem takeStartTag?_sound {s name rest : Text} {isEmpty : Bool}
    (h : takeStartTag? s = some (name, isEmpty, rest)) :
    ∃ written attrs, IsName name ∧ Attributes written attrs ∧
      s = name ++ written ++ tagEnd isEmpty ++ rest := by
  simp only [takeStartTag?, Option.bind_eq_bind, Option.bind_eq_some_iff, Prod.exists] at h
  obtain ⟨attrs, isEmpty', rest', htag, h⟩ := h
  split at h
  · next hname =>
    cases h
    obtain ⟨written, hattrs, ht⟩ := takeTag?_sound htag
    refine ⟨written, attrs, hname, hattrs, ?_⟩
    have hs := takeName_append s
    rw [ht] at hs
    simpa only [List.append_assoc] using hs.symm
  · cases h

/-! ## What is checked -/

/-- The text may stand in front of any content, and stands for the nodes there. -/
def Leads (x : Text) (ns : List Node) : Prop := ∀ t ms, Content t ms → Content (x ++ t) (ns ++ ms)

theorem Leads.char {c : Char} (legal : isDocumentChar c = true)
    (plain : c ≠ '<' ∧ c ≠ '&' ∧ c ≠ ']') : Leads [c] [.char c] := by
  intro t ms ht
  exact .char legal ⟨plain.1, plain.2.1⟩ (by simp [Ne.symm plain.2.2]) ht

/-- What one piece of markup does to the open elements: it is content of the innermost one, opens
another one in it, or closes it. Outside the root there is only white space. -/
inductive Piece : List Text → Text → List Text → Prop where
  | space {c : Char} (space : isSpace c = true) : Piece [] [c] []
  | content {x name : Text} {outer : List Text} {ns : List Node} (leads : Leads x ns) :
    Piece (name :: outer) x (name :: outer)
  | start {t inner name : Text} {outer : List Text} {attrs : List (Text × Text)}
    (tag : StartTag t inner attrs) : Piece (name :: outer) t (inner :: name :: outer)
  | finish {e name : Text} {outer : List Text} (tag : EndTag e name) : Piece (name :: outer) e outer

theorem markup?_sound {name s rest : Text} {outer names : List Text}
    (h : markup? name outer s = some (names, rest)) :
    ∃ x, '<' :: s = x ++ rest ∧ Piece (name :: outer) x names := by
  unfold markup? at h
  split at h
  · next s =>
    obtain ⟨rest', htag, heq⟩ := Option.map_eq_some_iff.1 h
    cases heq
    obtain ⟨hname, rfl⟩ := takeEndTag?_sound htag
    exact ⟨_, by simp, .finish (.tight hname)⟩
  · next s =>
    obtain ⟨rest', hcomment, heq⟩ := Option.map_eq_some_iff.1 h
    cases heq
    obtain ⟨u, hu, rfl⟩ := takeComment?_sound hcomment
    have hleads : Leads ("<!--".toList ++ u ++ "-->".toList) [] := fun _ _ => .comment (.plain hu)
    exact ⟨_, by simp, .content hleads⟩
  · next s =>
    obtain ⟨⟨inner, isEmpty, rest'⟩, htag, heq⟩ := Option.map_eq_some_iff.1 h
    cases heq
    obtain ⟨written, attrs, hname, hattrs, rfl⟩ := takeStartTag?_sound htag
    cases isEmpty with
    | false => exact ⟨_, by simp [tagEnd], .start (.tight hname hattrs)⟩
    | true =>
      have hleads : Leads ('<' :: inner ++ written ++ [' ', '/', '>']) [.element inner attrs []] :=
        fun _ _ => .empty (.spaced hname hattrs)
      exact ⟨_, by simp [tagEnd], .content hleads⟩

theorem piece?_sound {names names' : List Text} {s rest : Text}
    (h : piece? names s = some (names', rest)) : ∃ x, s = x ++ rest ∧ Piece names x names' := by
  cases s with
  | nil => cases h
  | cons c s =>
    cases names with
    | nil =>
      simp only [piece?] at h
      split at h
      · next hspace =>
        cases h
        exact ⟨[c], rfl, .space hspace⟩
      · cases h
    | cons name outer =>
      simp only [piece?] at h
      split at h
      · next hamp =>
        subst hamp
        obtain ⟨rest', href, heq⟩ := Option.map_eq_some_iff.1 h
        cases heq
        obtain ⟨r, d, hr, rfl⟩ := takeReference?_sound href
        have hleads : Leads ('&' :: r ++ [';']) [.char d] := fun t ns hns => by
          simpa using Content.reference hr hns
        exact ⟨_, by simp, .content hleads⟩
      · next hamp =>
        split at h
        · next hlt =>
          subst hlt
          exact markup?_sound h
        · next hlt =>
          split at h
          · next hplain =>
            cases h
            exact ⟨[c], rfl, .content (.char hplain.1 ⟨hlt, hamp, hplain.2⟩)⟩
          · cases h

/-- What closes the elements that a piece leaves open closes those before it, behind the piece. -/
theorem Piece.closes {names names' : List Text} {x t : Text} (h : Piece names x names')
    (ht : Closes names' t) : Closes names (x ++ t) := by
  cases h with
  | space space => exact .space space ht
  | content leads => exact .push (fun t ns hns => ⟨_, leads t ns hns⟩) ht
  | start tag => exact .start tag ht
  | finish tag => exact .close tag ht

/-- A text leaves open what was computed for it, whatever closes that. -/
theorem advance_sound {fuel : Nat} {names names' : List Text} {s : Text}
    (h : advance fuel names s = some names') {t : Text} (ht : Closes names' t) :
    Closes names (s ++ t) := by
  -- The rest is closed first: a piece has to leave open just what the rest then closes.
  fun_induction advance fuel names s with
  | case1 fuel names =>
    cases h
    exact ht
  | case2 => cases h
  | case3 fuel names s hs ih =>
    obtain ⟨⟨names₁, rest⟩, hpiece, hrest⟩ := Option.bind_eq_some_iff.1 h
    obtain ⟨x, rfl, hx⟩ := piece?_sound hpiece
    rw [List.append_assoc]
    exact hx.closes (ih names₁ rest hrest)

end FeedPage.Xml
