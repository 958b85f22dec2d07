-- SUMMARY: The tokens of a page with its text cut into single characters, and what they are for escaped text.
import FeedPage.Html.Token
import FeedPage.Proofs.Escape

/-!
# Tokens character by character

Where a token of text ends depends on what follows it. With all text cut into single characters
(`spelled`) each piece of a page has its own tokens, whatever stands behind it: a character of
escaped text has one token (`spelled_escape`), and so has each tag.
-/

namespace FeedPage.Html

/-! ## Tokens character by character -/

/-- A token with its text cut into single characters. -/
def Token.letters : Token → List Token
  | .text (c :: s) => (c :: s).map fun d => .text [d]
  | t => [t]

/-- The tokens of a page, with all text cut into single characters. -/
def spelled (page : Text) : Except Rejection (List Token) :=
  (tokens page).map fun ts => ts.flatMap Token.letters

/-- The tokens of a page, when they are known character by character. -/
theorem tokens_of_spelled {page : Text} {letters : List Token} (h : spelled page = .ok letters) :
    ∃ ts, tokens page = .ok ts ∧ ts.flatMap Token.letters = letters := by
  cases htokens : tokens page with
  | error why =>
    rw [spelled, htokens] at h
    cases h
  | ok ts =>
    rw [spelled, htokens] at h
    exact ⟨ts, rfl, Except.ok.inj h⟩

theorem Token.read_of_emit {raw raw' : Option Text} {s rest : Text} {out : List Token} {hs : s ≠ []}
    {shorter : rest.length < s.length} (hstep : step false raw s hs = .emit out raw' rest shorter) :
    read false raw s = (read false raw' rest).map (out ++ ·) := by
  rw [read, dif_neg hs, hstep]

theorem spelled_nil : spelled [] = .ok [] := by
  simp [spelled, tokens, Token.read, Except.map]

/-- What one step emits stands in front of the tokens of the rest. -/
theorem spelled_of_emit {s rest : Text} {out : List Token} {hs : s ≠ []}
    {shorter : rest.length < s.length}
    (hstep : Token.step false none s hs = .emit out none rest shorter) :
    spelled s = (spelled rest).map (out.flatMap Token.letters ++ ·) := by
  rw [spelled, spelled, tokens, tokens, Token.read_of_emit hstep]
  cases Token.read false none rest <;> simp [Except.map]

/-! ## Text -/

/-- The characters of text up to the next tag or reference. -/
theorem spelled_run (s : Text) :
    spelled s = (spelled (s.dropWhile Token.isPlain)).map
      ((s.takeWhile Token.isPlain).map (fun c => .text [c]) ++ ·) := by
  cases s with
  | nil => simp [spelled_nil, Except.map]
  | cons c t =>
    by_cases hc : Token.isPlain c = true
    · have hangle : c ≠ '<' := by rintro rfl; exact absurd hc (by decide)
      have hamp : c ≠ '&' := by rintro rfl; exact absurd hc (by decide)
      have hstep : Token.step false none (c :: t) (by simp) =
          .emit [.text (c :: t.takeWhile Token.isPlain)] none (t.dropWhile Token.isPlain)
            (Nat.lt_succ_of_le (Text.length_dropWhile_le ..)) := by
        simp [Token.step, hangle, hamp]
      rw [spelled_of_emit hstep, List.dropWhile_cons_of_pos hc, List.takeWhile_cons_of_pos hc]
      simp [Token.letters]
    · rw [List.dropWhile_cons_of_neg hc, List.takeWhile_cons_of_neg hc]
      cases spelled (c :: t) <;> rfl

theorem spelled_plain {c : Char} (hc : Token.isPlain c = true) (rest : Text) :
    spelled (c :: rest) = (spelled rest).map (.text [c] :: ·) := by
  rw [spelled_run (c :: rest), spelled_run rest, List.dropWhile_cons_of_pos hc,
    List.takeWhile_cons_of_pos hc]
  cases spelled (rest.dropWhile Token.isPlain) <;> rfl

/-- Text without markup has one token for each of its characters. -/
theorem spelled_text {s : Text} (h : ∀ c ∈ s, Token.isPlain c = true) (rest : Text) :
    spelled (s ++ rest) = (spelled rest).map (s.map (fun c => .text [c]) ++ ·) := by
  induction s with
  | nil => cases hrest : spelled rest <;> simp [hrest, Except.map]
  | cons c s ih =>
    rw [List.cons_append, spelled_plain (h c (by simp)),
      ih fun d hd => h d (List.mem_cons_of_mem c hd)]
    cases spelled rest <;> rfl

/-- The token of a character as escaping writes it. -/
def Token.escaped (c : Char) : Token :=
  if c = '&' then .nameRef "amp".toList
  else if c = '<' then .nameRef "lt".toList
  else if c = '>' then .nameRef "gt".toList
  else if c = '\'' then .charRef "39".toList
  else if c = '"' then .charRef "34".toList
  else .text [c]

theorem spelled_escapeChar (c : Char) (rest : Text) :
    spelled (escapeChar c ++ rest) = (spelled rest).map (Token.escaped c :: ·) := by
  have hreference (r : Text) {t : Token} (ht : t.letters = [t])
      (hstep : ∀ shorter, Token.step false none ('&' :: (r ++ rest)) (by simp) =
        .emit [t] none rest shorter) :
      spelled ('&' :: (r ++ rest)) = (spelled rest).map (t :: ·) := by
    rw [spelled_of_emit (hstep (by simp only [List.length_append, List.length_cons]; omega))]
    simp [ht]
  unfold escapeChar Token.escaped
  split
  · exact hreference "amp;".toList rfl fun _ => rfl
  split
  · exact hreference "lt;".toList rfl fun _ => rfl
  split
  · exact hreference "gt;".toList rfl fun _ => rfl
  split
  · exact hreference "#39;".toList rfl fun _ => rfl
  split
  · exact hreference "#34;".toList rfl fun _ => rfl
  · next hamp hlt _ _ _ => exact spelled_plain (by simp [Token.isPlain, hamp, hlt]) rest

/-- Escaped text has one token for each of its characters. -/
theorem spelled_escape (s rest : Text) :
    spelled (escape s ++ rest) = (spelled rest).map (s.map Token.escaped ++ ·) := by
  induction s with
  | nil => cases h : spelled rest <;> simp [h, Except.map]
  | cons c s ih =>
    rw [escape_cons, List.append_assoc, spelled_escapeChar, ih]
    cases spelled rest <;> rfl

/-- A page has the tokens of its pieces, when each piece has its own whatever follows it. -/
theorem spelled_flatMap {Piece : Type} {written : Piece → Text} {tokens : Piece → List Token}
    (h : ∀ p rest, spelled (written p ++ rest) = (spelled rest).map (tokens p ++ ·))
    (pieces : List Piece) : spelled (pieces.flatMap written) = .ok (pieces.flatMap tokens) := by
  induction pieces with
  | nil => exact spelled_nil
  | cons p ps ih =>
    rw [List.flatMap_cons, h, ih]
    rfl

/-! ## Attribute values -/

theorem Reference.at?_eq_none {c : Char} (hc : c ≠ '&') (s : Text) : at? (c :: s) = none := by
  rw [at?.eq_def]
  split
  · next h => exact absurd (List.cons.inj h).1 hc
  · next h => exact absurd (List.cons.inj h).1 hc
  · rfl

/-- What escaping makes of one character is resolved to that character, whatever follows. -/
theorem Reference.resolveAll_escapeChar_append (c : Char) (s : Text) :
    resolveAll (escapeChar c ++ s) = c :: resolveAll s := by
  rcases escapeChar_cases c with hc | ⟨hc, hamp, -⟩
  · generalize escapeChar c = r at hc
    simp only [references, List.mem_cons, List.not_mem_nil, or_false, Prod.mk.injEq] at hc
    rcases hc with ⟨rfl, rfl⟩ | ⟨rfl, rfl⟩ | ⟨rfl, rfl⟩ | ⟨rfl, rfl⟩ | ⟨rfl, rfl⟩ <;> rfl
  · rw [hc, List.singleton_append]
    simp only [resolveAll, Text.substitute, Text.substituteFrom, at?_eq_none hamp s]

theorem Reference.resolveAll_escape (s : Text) : resolveAll (escape s) = s := by
  induction s with
  | nil => rfl
  | cons c s ih => rw [escape_cons, resolveAll_escapeChar_append, ih]

/-- What escaping makes of one character has at most two digits in a reference. -/
theorem Reference.digitCounts_escapeChar_append (c : Char) (s : Text) :
    ∃ counts, digitCounts (escapeChar c ++ s) = counts ++ digitCounts s ∧ ∀ n ∈ counts, n ≤ 2 := by
  rcases escapeChar_cases c with hc | ⟨hc, hamp, -⟩
  · generalize escapeChar c = r at hc
    simp only [references, List.mem_cons, List.not_mem_nil, or_false, Prod.mk.injEq] at hc
    rcases hc with ⟨rfl, rfl⟩ | ⟨rfl, rfl⟩ | ⟨rfl, rfl⟩ | ⟨rfl, rfl⟩ | ⟨rfl, rfl⟩
    · exact ⟨[0], rfl, by decide⟩
    · exact ⟨[0], rfl, by decide⟩
    · exact ⟨[0], rfl, by decide⟩
    · exact ⟨[2], rfl, by decide⟩
    · exact ⟨[2], rfl, by decide⟩
  · refine ⟨[], ?_, by simp⟩
    rw [hc, List.singleton_append]
    simp only [digitCounts, Text.collect, Text.collectFrom, at?_eq_none hamp s, Option.map_none,
      List.nil_append]

/-- Escaped text has no reference with too many digits. -/
theorem Reference.tooLong?_escape (s : Text) : tooLong? (escape s) = none := by
  have hfew : ∀ n ∈ digitCounts (escape s), n ≤ 2 := by
    induction s with
    | nil => simp [escape, digitCounts, Text.collect, Text.collectFrom]
    | cons c s ih =>
      obtain ⟨counts, hcounts, hsmall⟩ := digitCounts_escapeChar_append c (escape s)
      rw [escape_cons, hcounts]
      intro n hn
      exact (List.mem_append.1 hn).elim (hsmall n) (ih n)
  refine List.find?_eq_none.2 fun n hn => ?_
  have hsmall : n ≤ Text.maxDigits := Nat.le_trans (hfew n hn) (by decide)
  simpa using hsmall

end FeedPage.Html
