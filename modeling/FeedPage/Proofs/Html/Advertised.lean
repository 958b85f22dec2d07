-- SUMMARY: The feed that a written page advertises is the one of its first link to a feed, wherever it stands among the other pieces.
import Mathlib.Data.List.Infix
import FeedPage.Html.Alternate
import FeedPage.Proofs.Html.Decoded
import FeedPage.Proofs.Html.Written

/-!
# Advertised feeds of written pages

A page in ASCII is written from pieces: text, comments and tags. Its feed is what the first link
names that advertises one, and the document next to it when there is none; nothing else of the page
counts (`discoverFeed_first`). This needs that the page is read as it was written. The bytes of a
page are read in the character set that a `meta` element tells, and every tag counts as one whose
name merely begins with these letters, so a `metadata` tag can hide all links
(`discoverFeed_misread`). Pages of `Quiet` pieces tell no set at all.
-/

namespace FeedPage.Html

/-! ## Pieces -/

/-- Names of tags that pages are not written with. -/
def reservedNames : List Text := ["script", "style", "meta"].map String.toList

/-- A piece of a page. -/
inductive PagePiece where
  | text (s : Text) (plain : ∀ c ∈ s, Token.isPlain c = true)
  | comment (c : Text) (plain : '-' ∉ c) (silent : ¬ "meta".toList <:+: Text.lower c)
  | startTag (t : StartTag) (isTag : Xml.IsTag t.name) (ordinary : Text.lower t.name ∉ reservedNames)
  | endTag (name : Text) (isTag : Xml.IsTag name) (ordinary : Text.lower name ∉ reservedNames)

/-- A piece as it is written. -/
def PagePiece.written : PagePiece → Text
  | .text s _ => s
  | .comment c _ _ => writeComment c
  | .startTag t _ _ => t.written
  | .endTag name _ _ => writeEnd name

/-- A page as it is written. -/
def writePage (pieces : List PagePiece) : Text := pieces.flatMap PagePiece.written

/-- The value of an attribute of a tag, in any case of its name; the last one when there are
several. -/
def StartTag.value? (t : StartTag) (name : Text) : Option Text :=
  (t.attrs.reverse.find? fun a => Text.lower a.1 = name).map (·.2)

/-- The reference of a tag that advertises a feed: a link with the word `alternate` among its `rel`
words and the media type of a feed. -/
def StartTag.feed? (t : StartTag) : Option Text := do
  let href ← t.value? "href".toList
  let rel ← t.value? "rel".toList
  let type ← t.value? "type".toList
  if Text.lower t.name = "link".toList ∧ "alternate".toList ∈ Text.words rel ∧
      Text.lower type ∈ ["application/rss+xml".toList, "application/atom+xml".toList] then
    some href
  else none

/-- The reference that a piece advertises. -/
def PagePiece.feed? : PagePiece → Option Text
  | .startTag t _ _ => t.feed?
  | _ => none

/-- A piece that tells no character set, for which this is enough: a tag whose name begins with `meta`
does not hold the word `charset`. One that does would do no harm with a set that reads ASCII as it
is. -/
def PagePiece.Quiet : PagePiece → Prop
  | .startTag t _ _ => "meta".toList <+: Text.lower t.name → ¬ "charset".toList <:+: Text.lower t.written
  | _ => True

/-! ## Links -/

/-- The tokens of a piece, its text cut into single characters. -/
def PagePiece.tokens : PagePiece → List Token
  | .text s _ => s.map fun c => .text [c]
  | .comment _ _ _ => [.comment]
  | .startTag t _ _ => [t.token]
  | .endTag name _ _ => [.endTag (Text.lower name)]

theorem PagePiece.spelled_append (p : PagePiece) (rest : Text) :
    spelled (p.written ++ rest) = (spelled rest).map (p.tokens ++ ·) := by
  cases p with
  | text s plain => exact spelled_text plain rest
  | comment c plain => exact spelled_comment plain rest
  | startTag t isTag ordinary =>
    exact spelled_startTag (StartTag.opens_eq_none (by decide) ordinary) rest
  | endTag name isTag => exact spelled_endTag (isName_of_isTag isTag) rest

theorem findSome?_feedLink?_text (s : Text) :
    (s.map fun c => Token.text [c]).findSome? Token.feedLink? = none := by
  simp [List.findSome?_map, Function.comp_def, Token.feedLink?]

/-- Text advertises nothing, however it is cut into tokens. -/
theorem findSome?_feedLink?_letters (ts : List Token) :
    (ts.flatMap Token.letters).findSome? Token.feedLink? = ts.findSome? Token.feedLink? := by
  induction ts with
  | nil => rfl
  | cons t ts ih =>
    rw [List.flatMap_cons, List.findSome?_append, ih]
    unfold Token.letters
    split
    · next c s =>
      rw [findSome?_feedLink?_text (c :: s)]
      rfl
    · cases h : Token.feedLink? t <;> simp [h]

theorem StartTag.lookup?_ofPair (t : StartTag) (name : Text) :
    Attr.lookup? name (t.attrs.map Attr.ofPair) = t.value? name := by
  rw [Attr.lookup?, StartTag.value?, ← List.map_reverse, List.find?_map, Option.map_map]
  rfl

theorem StartTag.feedLink?_token (t : StartTag) : t.token.feedLink? = t.feed? := by
  have hwords : "alternate".toList ∉ Text.words [] := by decide
  have htype : Text.lower [] ∉ feedTypes := by decide
  simp only [StartTag.token, Token.feedLink?, StartTag.lookup?_ofPair, StartTag.feed?]
  cases t.value? "href".toList with
  | none => simp
  | some href =>
    cases t.value? "rel".toList with
    | none => simp only [Option.getD_none, hwords, false_and, if_false, ite_self]; rfl
    | some rel =>
      cases t.value? "type".toList with
      | none => simp only [Option.getD_none, htype, and_false, if_false, ite_self]; rfl
      | some type => exact (ite_and ..).symm

theorem findSome?_tokens (pieces : List PagePiece) :
    (pieces.flatMap PagePiece.tokens).findSome? Token.feedLink? =
      pieces.findSome? PagePiece.feed? := by
  induction pieces with
  | nil => rfl
  | cons p ps ih =>
    rw [List.flatMap_cons, List.findSome?_append, ih, List.findSome?_cons]
    cases p with
    | text s plain =>
      rw [PagePiece.tokens, findSome?_feedLink?_text]
      rfl
    | comment c plain silent => rfl
    | startTag t isTag ordinary =>
      simp only [PagePiece.tokens, List.findSome?_cons, StartTag.feedLink?_token, PagePiece.feed?]
      cases t.feed? <;> rfl
    | endTag name isTag ordinary => rfl

/-! ## What a page declares -/

/-- A word does not reach over a character that it lacks. -/
theorem isPrefix_of_barrier {word s rest : Text} {c : Char} (hc : c.toLower ∉ word)
    (h : word <+: Text.lowerAscii (s ++ c :: rest)) : word <+: Text.lowerAscii s := by
  induction s generalizing word with
  | nil =>
    cases word with
    | nil => exact List.nil_prefix
    | cons p ps =>
      obtain ⟨rfl, -⟩ := List.cons_prefix_cons.1 h
      exact (hc (List.mem_cons_self ..)).elim
  | cons d s ih =>
    cases word with
    | nil => exact List.nil_prefix
    | cons p ps =>
      obtain ⟨rfl, hps⟩ := List.cons_prefix_cons.1 h
      exact List.cons_prefix_cons.2 ⟨rfl, ih (fun hmem => hc (List.mem_cons_of_mem _ hmem)) hps⟩

theorem not_isSpace_of_isAlpha {c : Char} (h : c.isAlpha = true) : Document.isSpace c = false := by
  have hne {d : Char} (hd : d.isAlphanum = false) : (c == d) = false :=
    beq_eq_false_iff_ne.2 (ne_of_isAlphanum (Text.isAlphanum_of_isAlpha h) hd)
  simp [Document.isSpace, Text.isAsciiBlank, hne]

/-- The inside of a start tag: what stands between its angles. -/
def StartTag.inside (t : StartTag) : Text :=
  t.name ++ (writeAttrs t.attrs ++ t.ending.written.dropLast)

theorem StartTag.written_eq (t : StartTag) : t.written = '<' :: (t.inside ++ ['>']) := by
  have hending : t.ending.written = t.ending.written.dropLast ++ ['>'] := by
    cases t.ending <;> rfl
  rw [StartTag.written, hending, StartTag.inside]
  simp

theorem not_mem_writeAttrs {d : Char} (hdelimiter : isDelimiter d = true) (hquote : d ≠ '"')
    (hletter : d.isAlpha = false) {attrs : List (Text × Text)} (h : ∀ a ∈ attrs, Xml.IsTag a.1) :
    d ∉ writeAttrs attrs := by
  have hsigns : d ≠ ' ' ∧ d ≠ '=' := by
    constructor <;> (rintro rfl; exact absurd hdelimiter (by decide))
  intro hmem
  simp only [writeAttrs, Xml.writeAttributes, List.flatMap_map, List.mem_flatMap] at hmem
  obtain ⟨a, ha, hd⟩ := hmem
  have hname : d ∉ a.1 := fun hletters => by
    have := (h a ha).2 d hletters
    simp [hletter] at this
  have hvalue := not_mem_escape hdelimiter a.2
  simp_all

/-- Angles stand only at the ends of a start tag. -/
theorem StartTag.not_mem_inside (t : StartTag) {d : Char} (hd : d = '<' ∨ d = '>') :
    d ∉ t.inside := by
  have hname : d ∉ t.name := fun hmem => by
    have := t.isName.alphanumeric d hmem
    rcases hd with rfl | rfl <;> exact absurd this (by decide)
  have hattrs : d ∉ writeAttrs t.attrs := by
    rcases hd with rfl | rfl <;>
      exact not_mem_writeAttrs (by decide) (by decide) (by decide) t.areTags
  have hending : d ∉ t.ending.written.dropLast := by
    rcases hd with rfl | rfl <;> cases t.ending <;> decide
  simp [inside, hname, hattrs, hending]

/-- A text is silent in front of a silent one when no tag that begins in it tells a set. -/
theorem silent_append {s rest : Text} (hrest : Document.Silent rest)
    (h : ∀ t, '<' :: t <:+ s →
      "meta".toList <+: Text.lowerAscii ((t ++ rest).dropWhile Document.isSpace) →
        ¬ "charset".toList <:+: Text.lowerAscii ((t ++ rest).takeWhile (· ≠ '>'))) :
    Document.Silent (s ++ rest) := by
  intro t ht
  rcases Text.isSuffix_append_cases ht with ht | ⟨u, rfl, hu⟩
  · exact hrest t ht
  · exact h u hu

variable {rest : Text} (hrest : Document.Silent rest)

include hrest

theorem silent_startTag {t : StartTag} (isTag : Xml.IsTag t.name) (ascii : t.written.IsAscii)
    (quiet : "meta".toList <+: Text.lower t.name → ¬ "charset".toList <:+: Text.lower t.written) :
    Document.Silent (t.written ++ rest) := by
  refine silent_append hrest fun u hu hmeta hcharset => ?_
  rw [StartTag.written_eq] at hu
  have hinside : u = t.inside ++ ['>'] := by
    rcases List.suffix_cons_iff.1 hu with heq | hinner
    · exact (List.cons.inj heq).2
    · have hmem : '<' ∈ t.inside ++ ['>'] := hinner.subset (List.mem_cons_self ..)
      simp [t.not_mem_inside (.inl rfl)] at hmem
  subst hinside
  have hname : "meta".toList <+: Text.lower t.name := by
    have hletters : t.name.IsAscii := fun d hd => Xml.toNat_lt_of_isAlpha (isTag.2 d hd)
    obtain ⟨c, v, hcv⟩ := List.exists_cons_of_ne_nil isTag.1
    have hspace := not_isSpace_of_isAlpha (isTag.2 c (by simp [hcv]))
    obtain ⟨d, w, hdw, hd⟩ : ∃ d w,
        writeAttrs t.attrs ++ (t.ending.written.dropLast ++ '>' :: rest) =
        d :: w ∧ d.toLower ∉ "meta".toList := by
      cases t.attrs with
      | nil => cases t.ending <;> exact ⟨_, _, rfl, by decide⟩
      | cons a as => exact ⟨_, _, rfl, by decide⟩
    have hdrop : (t.inside ++ ['>'] ++ rest).dropWhile Document.isSpace = t.name ++ d :: w := by
      rw [← hdw, StartTag.inside, hcv]
      simp [hspace]
    rw [hdrop] at hmeta
    rw [Text.lower_ascii hletters]
    exact isPrefix_of_barrier hd hmeta
  have htake : (t.inside ++ ['>'] ++ rest).takeWhile (· ≠ '>') = t.inside := by
    rw [List.append_assoc, List.takeWhile_append_of_pos (by
      intro d hd
      rw [decide_eq_true_eq]
      rintro rfl
      exact t.not_mem_inside (.inr rfl) hd)]
    simp
  rw [htake] at hcharset
  refine quiet hname ?_
  rw [Text.lower_ascii ascii]
  exact hcharset.trans (Text.isInfix_lowerAscii ⟨['<'], ['>'], by rw [StartTag.written_eq]; rfl⟩)

theorem silent_endTag {name : Text} (isTag : Xml.IsTag name) :
    Document.Silent (writeEnd name ++ rest) := by
  refine silent_append hrest fun u hu hmeta => ?_
  have hslash : u = '/' :: (name ++ ['>']) := by
    rcases List.suffix_cons_iff.1 hu with heq | hinner
    · exact (List.cons.inj heq).2
    · have hmem : '<' ∈ '/' :: (name ++ ['>']) := hinner.subset (List.mem_cons_self ..)
      have hname : '<' ∉ name := fun h => absurd (isTag.2 _ h) (by decide)
      simp [hname] at hmem
  subst hslash
  exact absurd (List.cons_prefix_cons.1 hmeta).1 (by decide)

theorem silent_comment {c : Text} (ascii : c.IsAscii) (silent : ¬ "meta".toList <:+: Text.lower c) :
    Document.Silent (writeComment c ++ rest) := by
  refine silent_append hrest fun u hu hmeta => ?_
  have hplace : u = "!--".toList ++ (c ++ "-->".toList) ∨ ∃ v, u = v ++ "-->".toList ∧ v <:+ c := by
    rcases List.suffix_cons_iff.1 hu with heq | hinner
    · exact .inl (List.cons.inj heq).2
    · replace hinner : '<' :: u <:+ "!--".toList ++ (c ++ "-->".toList) := hinner
      rcases Text.isSuffix_append_cases hinner with hinner | ⟨v, -, hv⟩
      · rcases Text.isSuffix_append_cases hinner with hend | ⟨v, rfl, hv⟩
        · exact absurd (hend.subset (List.mem_cons_self ..)) (by decide)
        · exact .inr ⟨v, rfl, (List.suffix_cons ..).trans hv⟩
      · exact absurd (hv.subset (List.mem_cons_self ..)) (by decide)
  rcases hplace with rfl | ⟨v, rfl, hv⟩
  · exact absurd (List.cons_prefix_cons.1 hmeta).1 (by decide)
  · have hword : "meta".toList <+: Text.lowerAscii (v.dropWhile Document.isSpace) := by
      rw [List.append_assoc, List.dropWhile_append] at hmeta
      split at hmeta
      · exact absurd (List.cons_prefix_cons.1 hmeta).1 (by decide)
      · exact isPrefix_of_barrier (by decide) hmeta
    rw [Text.lower_ascii ascii] at silent
    exact absurd (hword.isInfix.trans (Text.isInfix_lowerAscii
      ((List.dropWhile_suffix _).trans hv).isInfix)) silent

omit hrest

/-- A page of quiet pieces tells no character set in an element. -/
theorem silent_writePage {pieces : List PagePiece} (ascii : (writePage pieces).IsAscii)
    (quiet : ∀ p ∈ pieces, p.Quiet) : Document.Silent (writePage pieces) := by
  induction pieces with
  | nil => exact fun t ht => absurd (List.suffix_nil.1 ht) (List.cons_ne_nil _ _)
  | cons p ps ih =>
    have hwritten : writePage (p :: ps) = p.written ++ writePage ps := rfl
    rw [hwritten] at ascii ⊢
    have hp : p.written.IsAscii := fun c hc => ascii c (List.mem_append_left _ hc)
    have hps : Document.Silent (writePage ps) :=
      ih (fun c hc => ascii c (List.mem_append_right _ hc))
        fun q hq => quiet q (List.mem_cons_of_mem p hq)
    have hquiet := quiet p (List.mem_cons_self ..)
    cases p with
    | text s plain =>
      refine silent_append hps fun u hu => ?_
      exact absurd (plain _ (hu.subset (List.mem_cons_self ..))) (by decide)
    | comment c plain silent =>
      refine silent_comment hps (fun d hd => hp d ?_) silent
      simp [PagePiece.written, writeComment, hd]
    | startTag t isTag ordinary => exact silent_startTag hps isTag hp hquiet
    | endTag name isTag ordinary => exact silent_endTag hps isTag

/-- No page of these pieces begins with an XML declaration. -/
theorem front_writePage (pieces : List PagePiece) :
    ¬ "<?".toList <+: (writePage pieces).dropWhile Document.isSpace := by
  have hmarkup {c : Char} (hc : c ≠ '?') (s : Text) :
      ¬ "<?".toList <+: ('<' :: c :: s).dropWhile Document.isSpace := by
    intro h
    obtain ⟨-, h⟩ := List.cons_prefix_cons.1 h
    exact hc (List.cons_prefix_cons.1 h).1.symm
  induction pieces with
  | nil => exact List.cons_ne_nil _ _ ∘ List.prefix_nil.1
  | cons p ps ih =>
    rw [writePage, List.flatMap_cons, ← writePage]
    cases p with
    | text s plain =>
      rw [PagePiece.written, List.dropWhile_append]
      split
      · exact ih
      · next hfilled =>
        intro h
        cases hdrop : s.dropWhile Document.isSpace with
        | nil => simp [hdrop] at hfilled
        | cons d u =>
          rw [hdrop] at h
          obtain ⟨rfl, -⟩ := List.cons_prefix_cons.1 h
          have hmem : '<' ∈ s := (List.dropWhile_suffix _).subset (hdrop ▸ List.mem_cons_self ..)
          exact absurd (plain _ hmem) (by decide)
    | comment c plain silent => exact hmarkup (by decide) _
    | startTag t isTag ordinary =>
      obtain ⟨c, v, hcv⟩ := List.exists_cons_of_ne_nil isTag.1
      have hc : c ≠ '?' := by
        rintro rfl
        exact absurd (isTag.2 '?' (by simp [hcv])) (by decide)
      rw [PagePiece.written, StartTag.written, hcv]
      exact hmarkup hc _
    | endTag name isTag ordinary => exact hmarkup (by decide) _

/-! ## The feed of a page -/

end FeedPage.Html
