-- SUMMARY: The page in Latin-1: what its bytes stand for, and that the page is restored from them.
import FeedPage.Proofs.Page.WellFormed
import FeedPage.Proofs.Publish.Outcome

/-!
# The page in Latin-1

A page goes out with numeric references in place of the characters that Latin-1 lacks. On a text of
any kind that loses something: a reference that stands in the text already looks the same as one
that encoding made. On the page of a feed it loses nothing. There every ampersand begins one of a few
references to low characters (`Settled`), since what comes from the feed is escaped; so whoever puts
the characters back for the references to high ones gets the page as it was (`restore_latin1`).
-/

namespace FeedPage

namespace Http

/-! ## Numbers in decimal -/

/-- The digits of a positive number: decimal ones, and no zero in front. -/
structure Decimal (digits : Text) (n : Nat) : Prop where
  isDigit : ∀ d ∈ digits, d.isDigit = true
  front : ∃ d, digits.head? = some d ∧ d ≠ '0'
  value : Text.ofDecimalDigits digits = n

theorem digitChar_ne_zero {n : Nat} (hpos : 0 < n) (hlt : n < 10) : n.digitChar ≠ '0' := by
  have hall : ∀ n < 10, 0 < n → n.digitChar ≠ '0' := by decide
  exact hall n hlt hpos

/-- The first digit of a positive number is no zero. -/
theorem head?_ofNat {n : Nat} (h : 0 < n) : ∃ d, (Text.ofNat n).head? = some d ∧ d ≠ '0' := by
  induction n using Nat.strongRecOn with
  | ind n ih =>
    rw [Text.ofNat, Nat.toDigits_eq_if (by decide)]
    split
    · next hlt => exact ⟨_, rfl, digitChar_ne_zero h hlt⟩
    · next hge =>
      obtain ⟨d, hd, hzero⟩ := ih (n / 10) (by omega) (by omega)
      exact ⟨d, by rw [List.head?_append, ← Text.ofNat, hd, Option.some_or], hzero⟩

theorem decimal_ofNat {n : Nat} (h : 0 < n) : Decimal (Text.ofNat n) n where
  isDigit _ := Text.isDigit_of_mem_ofNat
  front := head?_ofNat h
  value := Text.ofDecimalDigits_ofNat n

/-! ## What the bytes stand for -/

/-- The bytes that stand for a text in Latin-1, each as the character of its code: a character that
Latin-1 has is its own byte, and any other is a decimal reference. -/
inductive Latin1 : Text → Text → Prop where
  | nil : Latin1 [] []
  | byte {c : Char} {s bytes : Text} (low : c.toNat ≤ 0xFF) (rest : Latin1 s bytes) :
    Latin1 (c :: s) (c :: bytes)
  | reference {c : Char} {s digits bytes : Text} (high : 0xFF < c.toNat)
    (decimal : Decimal digits c.toNat) (rest : Latin1 s bytes) :
    Latin1 (c :: s) ("&#".toList ++ digits ++ [';'] ++ bytes)

theorem latin1_cons (c : Char) (s : Text) : latin1 (c :: s) = latin1Char c ++ latin1 s := rfl

theorem latin1_append (s t : Text) : latin1 (s ++ t) = latin1 s ++ latin1 t := List.flatMap_append

theorem latin1Char_low {c : Char} (h : c.toNat < 256) : latin1Char c = [c] := if_pos h

theorem latin1Char_high {c : Char} (h : 256 ≤ c.toNat) :
    latin1Char c = "&#".toList ++ Text.ofNat c.toNat ++ [';'] := if_neg (by omega)

theorem latin1_latin1 (s : Text) : Latin1 s (latin1 s) := by
  induction s with
  | nil => exact .nil
  | cons c s ih =>
    rw [latin1_cons]
    by_cases h : c.toNat < 256
    · rw [latin1Char_low h]
      exact .byte (by omega) ih
    · rw [latin1Char_high (by omega)]
      exact .reference (by omega) (decimal_ofNat (by omega)) ih

/-- Text that Latin-1 has is its own bytes. -/
theorem latin1_eq_self {s : Text} (h : ∀ c ∈ s, c.toNat < 256) : latin1 s = s := by
  induction s with
  | nil => rfl
  | cons c s ih =>
    rw [latin1_cons, latin1Char_low (h c (by simp)), ih fun d hd => h d (by simp [hd])]
    rfl

theorem Decimal.isByte {digits : Text} {n : Nat} (h : Decimal digits n) {d : Char}
    (hd : d ∈ digits) : d.toNat < 256 := by
  have hdigit := h.isDigit d hd
  simp only [Char.isDigit, Bool.and_eq_true, decide_eq_true_eq] at hdigit
  have := UInt32.le_iff_toNat_le.1 hdigit.2
  simp only [Char.toNat] at *
  change _ ≤ 57 at this
  omega

/-- The bytes are bytes. -/
theorem Latin1.isByte {s bytes : Text} (h : Latin1 s bytes) : ∀ b ∈ bytes, b.toNat < 256 := by
  induction h with
  | nil => simp
  | byte low rest ih =>
    intro b hb
    rcases List.mem_cons.1 hb with rfl | hb
    · omega
    · exact ih b hb
  | reference high decimal rest ih =>
    intro b hb
    have hfront : ∀ b ∈ "&#".toList, b.toNat < 256 := by decide
    have hend : ∀ b ∈ [';'], b.toNat < 256 := by decide
    simp only [List.mem_append] at hb
    rcases hb with ((hb | hb) | hb) | hb
    · exact hfront b hb
    · exact decimal.isByte hb
    · exact hend b hb
    · exact ih b hb

/-! ## Putting the characters back -/

/-- The decimal reference to a character that Latin-1 lacks at the front of a text: how many
characters it takes, and what it stands for. -/
def highReference? : Text → Option (Nat × Text)
  | '&' :: '#' :: s =>
    let (digits, rest) := Text.run Char.isDigit s
    let n := Text.ofDecimalDigits digits
    if rest.head? = some ';' ∧ 256 ≤ n ∧ n.isValidChar then
      some (digits.length + 3, [Char.ofNat n])
    else none
  | _ => none

/-- The text with each decimal reference to a character that Latin-1 lacks replaced by the
character, all at once from the left. -/
def restore (s : Text) : Text := Text.substitute highReference? s

theorem highReference?_of_ne {c : Char} (h : c ≠ '&') (s : Text) :
    highReference? (c :: s) = none := by
  unfold highReference?
  split <;> simp_all

theorem restore_cons {c : Char} {s : Text} (h : highReference? (c :: s) = none) :
    restore (c :: s) = c :: restore s := by
  simp only [restore, Text.substitute, Text.substituteFrom, h]

theorem substituteFrom_append (m : Text → Option (Nat × Text)) (s t : Text) :
    Text.substituteFrom m s.length (s ++ t) = Text.substituteFrom m 0 t := by
  induction s with
  | nil => rfl
  | cons c s ih => rw [List.length_cons, List.cons_append, Text.substituteFrom, ih]

theorem run_digits (n : Nat) (rest : Text) :
    Text.run Char.isDigit (Text.ofNat n ++ ';' :: rest) = (Text.ofNat n, ';' :: rest) := by
  have hdigits : ∀ d ∈ Text.ofNat n, d.isDigit = true := fun _ => Text.isDigit_of_mem_ofNat
  exact Text.run_append hdigits (by decide) rest

/-- What encoding makes of a character that Latin-1 lacks is put back as that character. -/
theorem restore_latin1Char_append {c : Char} (h : 256 ≤ c.toNat) (s : Text) :
    restore (latin1Char c ++ s) = c :: restore s := by
  have hread : highReference? (latin1Char c ++ s) =
      some ((Text.ofNat c.toNat).length + 3, [c]) := by
    simp only [latin1Char_high h, String.toList, List.append_assoc]
    change highReference? ('&' :: '#' :: (Text.ofNat c.toNat ++ ';' :: s)) = _
    simp only [highReference?, run_digits, Text.ofDecimalDigits_ofNat, List.head?_cons, true_and,
      Char.ofNat_toNat]
    exact if_pos ⟨h, c.valid⟩
  -- The number of characters that are passed over is that of what encoding wrote.
  obtain ⟨tail, htail⟩ : ∃ tail, latin1Char c = '&' :: tail := ⟨_, latin1Char_high h⟩
  have hlength : (Text.ofNat c.toNat).length + 3 = tail.length + 1 := by
    have := congrArg List.length (htail.symm.trans (latin1Char_high h))
    simp at this
    omega
  rw [htail, List.cons_append] at hread ⊢
  simp only [restore, Text.substitute, Text.substituteFrom, hread, hlength, Nat.add_sub_cancel,
    substituteFrom_append]
  rfl

/-! ## Settled text -/

/-- References that stand for characters that Latin-1 has: those of escaped text, and the two that
the template writes. -/
def lowReferences : List Text :=
  references.map Prod.fst ++ ["&#160;".toList, "&#169;".toList]

/-- Every ampersand of the text begins a reference to a character that Latin-1 has. -/
def Settled : Text → Prop
  | [] => True
  | c :: s => (c = '&' → ∃ r ∈ lowReferences, r <+: c :: s) ∧ Settled s

/-- Whether a text is settled can be decided. -/
instance decidableSettled : (s : Text) → Decidable (Settled s)
  | [] => inferInstanceAs (Decidable True)
  | c :: s =>
    have := decidableSettled s
    inferInstanceAs
      (Decidable ((c = '&' → ∃ r ∈ lowReferences, r <+: c :: s) ∧ Settled s))

theorem Settled.append {s t : Text} (hs : Settled s) (ht : Settled t) : Settled (s ++ t) := by
  induction s with
  | nil => exact ht
  | cons c s ih =>
    refine ⟨fun hc => ?_, ih hs.2⟩
    obtain ⟨r, hr, hfront⟩ := hs.1 hc
    exact ⟨r, hr, hfront.trans (List.prefix_append (c :: s) t)⟩

theorem Settled.flatMap {α : Type} {f : α → Text} {as : List α} (h : ∀ a ∈ as, Settled (f a)) :
    Settled (as.flatMap f) := by
  induction as with
  | nil => trivial
  | cons a as ih =>
    rw [List.flatMap_cons]
    exact (h a (by simp)).append (ih fun b hb => h b (by simp [hb]))

theorem highReference?_lowReference {r : Text} (h : r ∈ lowReferences) (s : Text) :
    highReference? (r ++ s) = none := by
  simp only [lowReferences, references, List.map_cons, List.map_nil, List.mem_append, List.mem_cons,
    List.not_mem_nil, or_false] at h
  rcases h with (rfl | rfl | rfl | rfl | rfl) | rfl | rfl <;> rfl

theorem isByte_of_mem_lowReference {r : Text} (h : r ∈ lowReferences) : ∀ c ∈ r, c.toNat < 256 := by
  have hall : ∀ r ∈ lowReferences, ∀ c ∈ r, c.toNat < 256 := by decide
  exact hall r h

/-- The page as it was is put together from its bytes, when every ampersand of it is settled. -/
theorem restore_latin1 {s : Text} (h : Settled s) : restore (latin1 s) = s := by
  induction s with
  | nil => rfl
  | cons c s ih =>
    rw [latin1_cons]
    by_cases hlow : c.toNat < 256
    · have hnone : highReference? (c :: latin1 s) = none := by
        by_cases hc : c = '&'
        · -- The reference that begins here is the same in Latin-1.
          obtain ⟨r, hr, t, ht⟩ := h.1 hc
          have hbytes : c :: latin1 s = r ++ latin1 t := by
            rw [← latin1_eq_self (isByte_of_mem_lowReference hr), ← latin1_append, ht, latin1_cons,
              latin1Char_low hlow]
            rfl
          rw [hbytes, highReference?_lowReference hr]
        · exact highReference?_of_ne hc _
      rw [latin1Char_low hlow, List.singleton_append, restore_cons hnone, ih h.2]
    · rw [restore_latin1Char_append (by omega), ih h.2]

end Http

/-! ## The page of a feed -/

open Http

theorem settled_escapeChar (c : Char) : Settled (escapeChar c) := by
  rcases escapeChar_cases c with hc | ⟨hc, hn, -⟩
  · have hall : ∀ r ∈ references, Settled r.1 := by decide
    exact hall _ hc
  · rw [hc]
    exact ⟨fun h => (hn h).elim, trivial⟩

theorem settled_escape (s : Text) : Settled (escape s) :=
  Settled.flatMap fun c _ => settled_escapeChar c

theorem Row.settled_layoutPublished (published : Option Text) :
    Settled (layoutPublished (published.map escape)) := by
  cases published with
  | none => trivial
  | some s =>
    simp only [layoutPublished, Option.map_some, Option.elim_some]
    exact ((by decide : Settled " <small>".toList).append (settled_escape s)).append (by decide)

theorem Row.settled_layoutShown (shown : Option Text) :
    Settled (layoutShown (shown.map escape)) := by
  cases shown with
  | none => trivial
  | some s =>
    simp only [layoutShown, Option.map_some, Option.elim_some]
    exact (by decide : Settled "<br />".toList).append (settled_escape s)

theorem Row.settled_write (r : Row) : Settled r.write := by
  have hfront : Settled "<tr><td colspan=\"2\"><a href=\"".toList := by decide
  have hquote : Settled "\">".toList := by decide
  have hanchor : Settled "</a>".toList := by decide
  have hend : Settled "</td></tr>\n".toList := by decide
  exact ((((((hfront.append (settled_escape r.link)).append hquote).append
    (settled_escape r.title)).append hanchor).append (settled_layoutPublished r.published)).append
    (settled_layoutShown r.shown)).append hend

theorem settled_rows (feed : Feed) : Settled feed.rows := by
  rw [Feed.rows_eq]
  exact Settled.flatMap fun r _ => r.settled_write

/-- A piece of the template whose own ampersands are settled. -/
inductive Page.Piece.IsSettled : Piece → Prop where
  | source {s : String} {l : Text} (literal : s = String.ofList l) (settled : Settled l) :
    IsSettled (.source s)
  | slot (name : Slot) : IsSettled (.slot name)

/-- The ampersands of the template itself are those of no-break spaces and of the copyright sign. -/
theorem Page.template_isSettled : ∀ p ∈ template, p.IsSettled := by
  simp only [template, List.forall_mem_cons]
  repeat' apply And.intro
  all_goals
    first
    | exact .slot _
    | exact .source rfl (by decide +kernel)
    | exact List.forall_mem_nil _

theorem Page.settled_content {rows : Text} (h : Settled rows) (name : Slot) :
    Settled (name.content rows) := by
  cases name with
  | keywords => exact settled_escape _
  | description => exact settled_escape _
  | feedUrl => exact settled_escape _
  | rows => exact h

/-- Every ampersand of a page is settled, when those of its rows are. -/
theorem Page.settled_render {rows : Text} (h : Settled rows) : Settled (render rows) := by
  refine Settled.flatMap fun p hp => ?_
  cases template_isSettled p hp with
  | source literal settled =>
    rw [Piece.text, literal, String.toList_ofList]
    exact settled
  | slot name => exact settled_content h name

theorem Page.restore_render (feed : Feed) :
    restore (latin1 (render feed.rows)) = render feed.rows :=
  restore_latin1 (settled_render (settled_rows feed))

/-- The rows of a page can be told from it. -/
theorem Page.rows_of_render_eq {rows others : Text} (h : render rows = render others) :
    rows = others := by
  obtain ⟨t, u, haround, -⟩ := template_around
  rw [render_eq, render_eq, haround.flatMap_text, haround.flatMap_text] at h
  simpa using h

/-! ## Responses -/

namespace Http

/-- The response holds a page in Latin-1, as a whole. -/
structure Response.Carries (response : Response) (page : Text) : Prop where
  status : response.status = 200
  type : response.type = some "text/html; charset=iso-8859-1".toList
  /-- The bytes of the body stand for the page, and are as many as the response says. -/
  body : ∃ bytes, response.body = some bytes ∧ Latin1 page bytes ∧
    (∀ b ∈ bytes, b.toNat ≤ 0xFF) ∧ response.length = some bytes.length

theorem pageResponse_carries (page : Text) : (pageResponse false page).Carries page where
  status := rfl
  type := rfl
  body :=
    ⟨latin1 page, rfl, latin1_latin1 page,
      fun b hb => Nat.le_of_lt_succ ((latin1_latin1 page).isByte b hb), rfl⟩

theorem respond_get {p : Publisher} {request : Request} (w : Web)
    (hget : request.method.map Char.toUpper = "GET".toList)
    (hroute : route (pathOf request.target) = .page) :
    (respond p request w).result = .ok (pageResult false (p Page.feedUrl w).result) := by
  have hmethod : request.method.map Char.toUpper ∈ methods := by rw [hget]; decide
  have hoptions : request.method.map Char.toUpper ≠ "OPTIONS".toList := by rw [hget]; decide
  have hhead : request.method.map Char.toUpper ≠ "HEAD".toList := by rw [hget]; decide
  rw [respond_page p w hroute hmethod hoptions, decide_eq_false hhead]

/-- A `GET` for anything but the page is not answered with a document. -/
theorem route_of_status {p : Publisher} {request : Request} {w : Web} {response : Response}
    (hget : request.method.map Char.toUpper = "GET".toList)
    (hresponse : (respond p request w).result = .ok response) (hstatus : response.status = 200) :
    route (pathOf request.target) = .page := by
  have hmethod : request.method.map Char.toUpper ∈ methods := by rw [hget]; decide
  have hoptions : request.method.map Char.toUpper ≠ "OPTIONS".toList := by rw [hget]; decide
  cases hroute : route (pathOf request.target) with
  | page => rfl
  | static =>
    simp only [respond, hroute, if_neg hoptions, if_pos hmethod, pure, Act.done,
      Except.ok.injEq] at hresponse
    simp [← hresponse] at hstatus
  | root =>
    simp only [respond, hroute, if_pos hmethod, pure, Act.done, Except.ok.injEq] at hresponse
    simp [← hresponse] at hstatus
  | nothing =>
    simp only [respond, hroute, pure, Act.done, Except.ok.injEq] at hresponse
    simp [← hresponse] at hstatus

/-- A response to `GET` that succeeded, with what it came from. -/
structure Answer where
  publisher : Publisher
  web : Web
  request : Request
  response : Response
  get : request.method.map Char.toUpper = "GET".toList
  answers : (respond publisher request web).result = .ok response
  status : response.status = 200

namespace Answer

/-- The publisher gave the answer these rows. -/
def Shows (a : Answer) (rows : Text) : Prop := (a.publisher Page.feedUrl a.web).result = .ok rows

theorem shows_and_response (a : Answer) :
    ∃ rows, a.Shows rows ∧ a.response = pageResponse false (Page.render rows) := by
  have hroute := route_of_status a.get a.answers a.status
  have hresponse := respond_get (p := a.publisher) a.web a.get hroute
  rw [a.answers, Except.ok.injEq] at hresponse
  cases hrows : (a.publisher Page.feedUrl a.web).result with
  | error why =>
    have hstatus := a.status
    simp [hresponse, hrows, pageResult] at hstatus
  | ok rows => exact ⟨rows, hrows, by rw [hresponse, hrows, pageResult]⟩

theorem Shows.response {a : Answer} {rows : Text} (h : a.Shows rows) :
    a.response = pageResponse false (Page.render rows) := by
  obtain ⟨others, hothers, hresponse⟩ := a.shows_and_response
  have hrows : rows = others := Except.ok.inj (h.symm.trans hothers)
  rw [hresponse, hrows]

/-- What an answer keeps of the page. -/
structure Lossless (a : Answer) : Prop where
  /-- The page with the publisher's rows is in the answer as a whole. -/
  carries : ∃ rows, a.Shows rows ∧ a.response.Carries (Page.render rows)
  /-- When a feed is shown, putting characters back for references gives the page. -/
  restored : ∀ feed : Feed, a.Shows feed.rows →
    a.response.body.map restore = some (Page.render feed.rows)
  /-- When answers show feeds with different rows, their bodies differ. -/
  apart : ∀ (b : Answer) (f g : Feed), a.Shows f.rows → b.Shows g.rows → f.rows ≠ g.rows →
    a.response.body ≠ b.response.body

theorem restored {a : Answer} {feed : Feed} (h : a.Shows feed.rows) :
    a.response.body.map restore = some (Page.render feed.rows) := by
  rw [h.response]
  exact congrArg some (Page.restore_render feed)

end Answer

/-- No page loses anything on its way out in Latin-1 bytes, each character that Latin-1 lacks as its
decimal reference; and from an answer that shows a feed the page is put together again, so that no
two feeds with different rows are answered with the same bytes. -/
theorem latin1_lossless :
    (∀ page, (pageResponse false page).Carries page) ∧ ∀ a : Answer, a.Lossless := by
  refine ⟨pageResponse_carries, fun a => ?_⟩
  constructor
  case carries =>
    obtain ⟨rows, hshows, hresponse⟩ := a.shows_and_response
    exact ⟨rows, hshows, hresponse ▸ pageResponse_carries _⟩
  case restored => exact fun feed h => Answer.restored h
  case apart =>
    intro b f g hf hg hne heq
    have hpages := Answer.restored hf
    rw [heq, Answer.restored hg, Option.some.injEq] at hpages
    exact hne (Page.rows_of_render_eq hpages).symm

/-- The answer with the rows of a feed to a request for the page that has an escape in its path. -/
def Answer.showing (feed : Feed) : Answer where
  publisher _ := pure feed.rows
  web := {}
  request := ⟨"GET".toList, "/library%2Ehtml?x".toList⟩
  response := pageResponse false (Page.render feed.rows)
  get := by decide
  answers := respond_get {} (by decide) (by decide +kernel)
  status := rfl

/-- A feed with one item. -/
def titledFeed (title : Text) : Feed :=
  { url := Page.feedUrl
    title := []
    items := [{ title, link := Page.feedUrl, published := [], description := .text [] }] }

/-- The snowman, which Latin-1 lacks, comes back from the answer, and stays apart from the spelling of
its reference. -/
theorem latin1_lossless_snowman :
    (Answer.showing (titledFeed "☃".toList)).response.body.map restore =
        some (Page.render (titledFeed "☃".toList).rows) ∧
      (Answer.showing (titledFeed "☃".toList)).response.body ≠
        (Answer.showing (titledFeed "&#9731;".toList)).response.body := by
  have lossless := latin1_lossless.2 (.showing (titledFeed "☃".toList))
  exact ⟨lossless.restored _ rfl, lossless.apart _ _ _ rfl rfl (by decide +kernel)⟩

/-- A reference that a feed's text spells stays apart from the character that it spells. -/
example : latin1 (escape "&#9731;".toList) = "&amp;#9731;".toList ∧
    latin1 (escape "☃".toList) = "&#9731;".toList := by decide +kernel

end Http

end FeedPage
