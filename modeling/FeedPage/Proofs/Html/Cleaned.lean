-- SUMMARY: The visible text of a page is the text that was written into it, run by run between its markup.
import Mathlib.Data.List.TakeWhile
import FeedPage.Rows
import FeedPage.Proofs.Html.Written

/-!
# Visible text of written pages

A page is written from pieces: escaped text, tags, comments, and complete scripts and style sheets.
Its visible text is its text pieces in their order: those that stand next to each other make one
run, and a run of nothing but blanks shrinks (`clean_pieces`). The tags need not match. What carries
the proof is that no element is open whose text is hidden or kept as it stands (`State.Shows`): each
piece of markup ends the run, and the state after it is of that kind again.
-/

namespace FeedPage.Html

/-! ## Pieces -/

/-- Elements whose text is not shown like that of others. -/
def peculiarElements : List Text :=
  ["script", "style", "template", "rt", "rp", "pre", "textarea"].map String.toList

/-- A piece of a page. -/
inductive Piece where
  /-- Text, which is written escaped. -/
  | text (s : Text) (filled : s ≠ [])
  | startTag (t : StartTag) (ordinary : Text.lower t.name ∉ peculiarElements)
  | endTag (name : Text) (isName : IsName name) (ordinary : Text.lower name ∉ peculiarElements)
    (content : Text.lower name ∉ voidElements)
  | comment (c : Text) (plain : '-' ∉ c)
  /-- A script or a style sheet with its end tag. -/
  | raw (name body : Text) (isRaw : Token.isRaw name = true) (unended : ¬ "</".toList <:+: body)

/-- A piece as it is written. -/
def Piece.written : Piece → Text
  | .text s _ => escape s
  | .startTag t _ => t.written
  | .endTag name _ _ _ => writeEnd name
  | .comment c _ => writeComment c
  | .raw name body _ _ => writeRaw name body

/-- The text of a piece, if it is one of text. -/
def Piece.text? : Piece → Option Text
  | .text s _ => some s
  | _ => none

/-- The longest runs of text pieces that stand next to each other: one before each piece of markup
and one at the end, empty where there is no text. -/
def Piece.runs : List Piece → List Text
  | [] => [[]]
  | p :: ps => match p.text? with
    | some s => (runs ps).modifyHead (s ++ ·)
    | none => [] :: runs ps

/-- A run of text as it is shown: one of nothing but blanks becomes a line feed, if it holds one,
and a space otherwise. -/
def shownRun (run : Text) : Text :=
  if run ≠ [] ∧ run.all Text.isAsciiBlank then if '\n' ∈ run then ['\n'] else [' '] else run

/-- The text of the pieces that is shown. -/
def Piece.shown (pieces : List Piece) : Text := (runs pieces).flatMap shownRun

/-! ## Their tokens -/

/-- The tokens of a piece, its text cut into single characters. -/
def Piece.tokens : Piece → List Token
  | .text s _ => s.map Token.escaped
  | .startTag t _ => [t.token]
  | .endTag name _ _ _ => [.endTag (Text.lower name)]
  | .comment _ _ => [.comment]
  | .raw name body _ _ => .startTag name [] false :: (Token.letters (.text body) ++ [.endTag name])

theorem Piece.spelled_append (p : Piece) (rest : Text) :
    spelled (p.written ++ rest) = (spelled rest).map (p.tokens ++ ·) := by
  cases p with
  | text s filled => exact spelled_escape s rest
  | startTag t ordinary =>
    exact spelled_startTag (StartTag.opens_eq_none (by decide) ordinary) rest
  | endTag name isName => exact spelled_endTag isName rest
  | comment c plain => exact spelled_comment plain rest
  | raw name body isRaw unended => exact spelled_raw isRaw unended rest

/-! ## Runs of text -/

namespace Visible.State

/-- Tokens that each add one character to the run add their characters. -/
theorem show_characters {token : Char → Token}
    (htoken : ∀ (q : State) (c : Char), q.step (token c) = ([], q.append [c])) {s : Text}
    (filled : s ≠ []) (q : State) (ts : List Token) :
    q.show (s.map token ++ ts) = (q.append s).show ts := by
  obtain ⟨c, s, rfl⟩ := List.exists_cons_of_ne_nil filled
  induction s generalizing q c with
  | nil => simp [State.show, htoken]
  | cons d s ih =>
    have hstep : q.show (token c :: ((d :: s).map token ++ ts)) =
        (q.append [c]).show ((d :: s).map token ++ ts) := by simp [State.show, htoken]
    have happend : (q.append [c]).append (d :: s) = q.append (c :: d :: s) := by simp [append]
    rw [List.map_cons, List.cons_append, hstep, ih _ d (List.cons_ne_nil d s), happend]

theorem show_text {s : Text} (filled : s ≠ []) (q : State) (ts : List Token) :
    q.show (s.map Token.escaped ++ ts) = (q.append s).show ts := by
  refine show_characters (fun q c => ?_) filled q ts
  unfold Token.escaped
  split
  · next h => subst h; rfl
  split
  · next h => subst h; rfl
  split
  · next h => subst h; rfl
  split
  · next h => subst h; rfl
  split
  · next h => subst h; rfl
  · rfl

theorem show_letters_append (q : State) (t : Token) (ts : List Token) :
    q.show (t.letters ++ ts) = q.show (t :: ts) := by
  unfold Token.letters
  split
  · next c s =>
    rw [show_characters (fun _ _ => rfl) (List.cons_ne_nil c s)]
    simp [State.show, step]
  · rfl

/-- The text shown does not depend on how text is cut into tokens. -/
theorem show_letters (q : State) (ts : List Token) :
    q.show (ts.flatMap Token.letters) = q.show ts := by
  induction ts generalizing q with
  | nil => rfl
  | cons t ts ih => rw [List.flatMap_cons, show_letters_append, State.show, State.show, ih]

/-! ## States that show their text -/

/-- A state in which no peculiar element is open or can come to be open by an end tag. -/
structure Shows (q : State) : Prop where
  ordinary : ∀ name ∈ q.openElements, name ∉ peculiarElements
  void : ∀ name ∈ q.closedAtOnce, name ∈ voidElements

variable {q : State}

theorem Shows.keeps_eq_false (hq : q.Shows) : q.keeps = false := by
  have hall : ∀ name ∈ preformattedElements, name ∈ peculiarElements := by decide
  simp only [keeps, List.any_eq_false, decide_eq_true_eq]
  exact fun name hname hkeeps => hq.ordinary name hname (hall name hkeeps)

theorem Shows.hides_eq_false (hq : q.Shows) : q.hides = false := by
  have hall : ∀ name ∈ hiddenElements, name ∈ peculiarElements := by decide
  simp only [hides, List.any_eq_false, decide_eq_true_eq]
  exact fun name hname hhides => hq.ordinary name hname (hall name hhides)

theorem Shows.flush (hq : q.Shows) : q.flush.2.Shows := by
  unfold State.flush
  split
  · exact hq
  · exact ⟨hq.ordinary, hq.void⟩

theorem pending_flush (q : State) : q.flush.2.pending = none := by
  unfold State.flush
  split
  · assumption
  · rfl

/-- What is shown when a run ends. -/
theorem Shows.flush_run {run : Text} (hq : q.Shows)
    (hrun : q.pending = if run = [] then none else some run) : q.flush.1 = shownRun run := by
  by_cases hempty : run = []
  · subst hempty
    simp only [if_true] at hrun
    simp [State.flush, hrun, shownRun]
  · simp only [hempty, if_false] at hrun
    simp [State.flush, hrun, hq.hides_eq_false, hq.keeps_eq_false, collapse, shownRun, hempty]

theorem mem_of_mem_closeElement {name other : Text} {opens : List Text}
    (h : other ∈ closeElement name opens) : other ∈ opens := by
  unfold closeElement at h
  split at h
  · exact (List.dropWhile_sublist _).subset (List.mem_of_mem_drop h)
  · exact h

/-! ## Pieces of markup -/

/-- The state after a piece of markup. -/
structure Passes (q : State) (ts : List Token) (next : State) : Prop where
  shows : next.Shows
  ended : next.pending = none
  shown : ∀ rest, q.show (ts ++ rest) = q.flush.1 ++ next.show rest

theorem Shows.startTag (hq : q.Shows) {name : Text} (ordinary : name ∉ peculiarElements)
    (attrs : List Attr) (closed : Bool) :
    ∃ next, Passes q [.startTag name attrs closed] next := by
  have hflush := hq.flush
  have hshown : (q.step (.startTag name attrs closed)).1 = q.flush.1 := by
    simp only [step]
    split
    · split <;> rfl
    · split <;> rfl
  have hopened (opens : List Text) (h : ∀ other ∈ opens, other ∉ peculiarElements) :
      ∀ other ∈ name :: opens, other ∉ peculiarElements := by
    simpa using ⟨ordinary, h⟩
  refine ⟨(q.step (.startTag name attrs closed)).2, ?_, ?_, fun rest => ?_⟩
  · simp only [step]
    split
    · split
      · exact ⟨hopened _ hflush.ordinary,
          fun other h => hflush.void other (List.mem_of_mem_erase h)⟩
      · exact hflush
    · split
      · next hvoid => exact ⟨hflush.ordinary, by simpa using ⟨hvoid, hflush.void⟩⟩
      · exact ⟨hopened _ hflush.ordinary, hflush.void⟩
  · simp only [step]
    split
    · split <;> exact pending_flush q
    · split <;> exact pending_flush q
  · rw [List.singleton_append, State.show, hshown]

theorem Shows.endTag (hq : q.Shows) {name : Text} (content : name ∉ voidElements) :
    ∃ next, Passes q [.endTag name] next := by
  have hclosed : name ∉ q.closedAtOnce := fun h => content (hq.void name h)
  have hstep : q.step (.endTag name) =
      (q.flush.1, { q.flush.2 with openElements := closeElement name q.flush.2.openElements }) := by
    simp [step, hclosed]
  refine ⟨(q.step (.endTag name)).2, ?_, ?_, fun rest => ?_⟩
  · rw [hstep]
    exact ⟨fun other h => hq.flush.ordinary other (mem_of_mem_closeElement h), hq.flush.void⟩
  · rw [hstep]
    exact pending_flush q
  · rw [List.singleton_append, State.show, hstep]

theorem Shows.comment (hq : q.Shows) : ∃ next, Passes q [.comment] next :=
  ⟨q.flush.2, hq.flush, pending_flush q, fun _ => rfl⟩

/-- Text in a hidden element is not shown, and the end tag closes what the start tag opened. -/
theorem show_hidden {r : State} (hended : r.pending = none) {name : Text}
    (hhidden : name ∈ hiddenElements) (hclosed : name ∉ r.closedAtOnce) (body : Text)
    (ts : List Token) :
    { r with openElements := name :: r.openElements }.show (.text body :: .endTag name :: ts) =
      r.show ts := by
  obtain ⟨opens, closed, pending⟩ := r
  simp only at hended hclosed
  subst hended
  simp [State.show, step, append, hclosed, State.flush, hides, hhidden, closeElement]

/-- The content of a raw element leaves no trace. -/
theorem Shows.raw (hq : q.Shows) {name : Text} (hraw : Token.isRaw name = true) (body : Text) :
    ∃ next, Passes q (.startTag name [] false :: (Token.letters (.text body) ++ [.endTag name]))
      next := by
  have hcases := Token.isRaw_iff.1 hraw
  have hvoid : name ∉ voidElements := by rcases hcases with rfl | rfl <;> decide
  have hhidden : name ∈ hiddenElements := by rcases hcases with rfl | rfl <;> decide
  have hclosed : name ∉ q.flush.2.closedAtOnce := fun h => hvoid (hq.flush.void name h)
  refine ⟨q.flush.2, hq.flush, pending_flush q, fun rest => ?_⟩
  have hopen : q.step (.startTag name [] false) =
      (q.flush.1, { q.flush.2 with openElements := name :: q.flush.2.openElements }) := by
    simp [step, hvoid]
  rw [List.cons_append, State.show, hopen, List.append_assoc, show_letters_append,
    List.singleton_append, show_hidden (pending_flush q) hhidden hclosed]

theorem Shows.markup (hq : q.Shows) {p : Piece} (hmarkup : p.text? = none) :
    ∃ next, Passes q p.tokens next := by
  cases p with
  | text s filled => cases hmarkup
  | startTag t ordinary => exact hq.startTag ordinary (t.attrs.map Attr.ofPair) t.ending.closes
  | endTag name isName ordinary content => exact hq.endTag content
  | comment c plain => exact hq.comment
  | raw name body isRaw unended => exact hq.raw isRaw body

/-! ## The visible text -/

theorem modifyHead_nil_append (runs : List Text) : runs.modifyHead ([] ++ ·) = runs := by
  cases runs <;> rfl

/-- What is shown of pieces behind a run that has begun. -/
theorem Shows.show_pieces (hq : q.Shows) {run : Text}
    (hrun : q.pending = if run = [] then none else some run) (pieces : List Piece) :
    q.show (pieces.flatMap Piece.tokens) =
      ((Piece.runs pieces).modifyHead (run ++ ·)).flatMap shownRun := by
  induction pieces generalizing q run with
  | nil => simp [State.show, hq.flush_run hrun, Piece.runs]
  | cons p ps ih =>
    cases hp : p.text? with
    | some s =>
      cases p with
      | text t filled =>
        cases hp
        have happended : (q.append s).pending =
            if run ++ s = [] then none else some (run ++ s) := by
          by_cases hempty : run = [] <;> simp [append, hrun, hempty, filled]
        rw [List.flatMap_cons, Piece.tokens, show_text filled,
          ih (q := q.append s) ⟨hq.ordinary, hq.void⟩ happended]
        simp [Piece.runs, Piece.text?, Function.comp_def]
      | startTag | endTag | comment | raw => cases hp
    | none =>
      obtain ⟨next, hnext⟩ := hq.markup hp
      have hended : next.pending = if ([] : Text) = [] then none else some [] := by
        simpa using hnext.ended
      rw [List.flatMap_cons, hnext.shown, hq.flush_run hrun, ih hnext.shows hended]
      simp only [Piece.runs, hp, modifyHead_nil_append]
      simp

end Visible.State

/-- The visible text of a written page. -/
theorem visibleText_written (pieces : List Piece) :
    visibleText (pieces.flatMap Piece.written) = .ok (Piece.shown pieces) := by
  have hfirst : Visible.State.Shows {} := ⟨by simp, by simp⟩
  have hshown := hfirst.show_pieces (if_pos rfl).symm pieces
  obtain ⟨ts, htokens, hletters⟩ := tokens_of_spelled (spelled_flatMap Piece.spelled_append pieces)
  rw [visibleText, htokens, Except.map, ← Visible.State.show_letters, hletters, hshown,
    Visible.State.modifyHead_nil_append, Piece.shown]

end FeedPage.Html

namespace FeedPage

theorem Text.trim_eq_nil {s : Text} (h : ∀ c ∈ s, isBlank c = true) : trim s = [] := by
  have hleft : trimLeft s = [] := List.dropWhile_eq_nil_iff.2 h
  rw [trim, hleft]
  rfl

/-- Without the blanks around it, a run is shown as it is. -/
theorem trim_shownRun (s : Text) : Text.trim (Html.shownRun s) = Text.trim s := by
  unfold Html.shownRun
  split
  · next h =>
    have hblank : ∀ c ∈ s, Text.isBlank c = true := fun c hc =>
      Text.isBlank_of_isAsciiBlank (List.all_eq_true.1 h.2 c hc)
    rw [Text.trim_eq_nil hblank]
    split <;> rfl
  · rfl

/-- The clean text of a description that is written from pieces is its text, run by run; of an
escaped text it is that text, but for the blanks around it. -/
theorem Description.clean_pieces (pieces : List Html.Piece) (s : Text) :
    (Description.text (pieces.flatMap Html.Piece.written)).clean = (Html.Piece.shown pieces, []) ∧
      Text.trim (Description.text (escape s)).clean.1 = Text.trim s := by
  have hclean (pieces : List Html.Piece) :
      (Description.text (pieces.flatMap Html.Piece.written)).clean =
        (Html.Piece.shown pieces, []) := by
    simp only [Description.clean, Description.source, Html.visibleText_written]
  refine ⟨hclean pieces, ?_⟩
  by_cases hs : s = []
  · subst hs
    have hnil := hclean []
    rw [List.flatMap_nil] at hnil
    rw [escape_nil, hnil]
    rfl
  · have hone := hclean [.text s hs]
    rw [List.flatMap_singleton, Html.Piece.written] at hone
    rw [hone, ← trim_shownRun s]
    simp [Html.Piece.shown, Html.Piece.runs, Html.Piece.text?]

end FeedPage
