-- SUMMARY: What fetching a feed requests, when it asks a second time, and which answer the feed or its absence comes from.
import FeedPage.Proofs.Fetch.Course
import FeedPage.Proofs.Html.Decoded
import FeedPage.Proofs.Web.Queue

/-!
# The trace of a fetch

A fetch asks once or twice, the second time for the feed that the first document advertises. What it
results in is told by the answer that came last (`Fetched`).
-/

namespace FeedPage

/-! ## Reading documents -/

/-- A feed is at the URL that it was read for. -/
theorem Feed.url_of_read {url : Text} {content : Bytes} {found : Feed}
    (h : Feed.read url content = .ok (some found)) : found.url = url := by
  unfold Feed.read at h
  split at h
  · cases h
  · simp only [bind, Except.bind, pure, Except.pure] at h
    split at h
    · cases h
    · simp only [Except.ok.injEq, State.feed?] at h
      split at h
      · cases h
      · cases h
        rfl

/-- A document without any bytes is no feed. -/
theorem Feed.read_nil (url : Text) : Feed.read url [] = .ok none := rfl

/-- A page without any bytes has its feed next to it. -/
theorem Html.discoverFeed_nil {url next : Text} (h : Url.resolve url fallbackDocument = .ok next) :
    Html.discoverFeed url [] = .ok next := by
  have htokens : Html.tokens [] = .ok [] := by
    rw [tokens, Token.read, dif_pos rfl, if_neg (by decide), Token.read, dif_pos rfl, if_pos rfl]
  simp only [discoverFeed, feedUrl, Document.decode_nil, htokens, List.findSome?_nil,
    Option.getD_none, h, Except.mapError]

/-! ## Requests -/

namespace Course

section

variable [Readers] {url : Text} {w : Web} {o : Outcome (Option Feed)}

/-- A fetch asks twice when the first document is no feed and names one, and once otherwise. -/
theorem requests_cases (h : Course url w o) :
    (o.requests = [{ url }] ∧
      ∀ page next, (w.ask url).1.sight url = .other page → Readers.discover url page ≠ .ok next) ∨
    ∃ page next, (w.ask url).1.sight url = .other page ∧ Readers.discover url page = .ok next ∧
      o.requests = [{ url }, { url := next }] := by
  cases h with
  | once first => exact .inl ⟨rfl, fun page next hpage => (first page hpage).elim⟩
  | undiscovered page why first discovery =>
    refine .inl ⟨rfl, fun page' next hpage => ?_⟩
    cases first.symm.trans hpage
    simp [discovery]
  | twice page next first discovery => exact .inr ⟨page, next, first, discovery, rfl⟩

theorem requests_eq_pair_iff (h : Course url w o) (next : Text) :
    o.requests = [{ url }, { url := next }] ↔
      ∃ page, w.answerAt url 0 = .response 200 page ∧ Readers.feed url page = .ok none ∧
        Readers.discover url page = .ok next := by
  rw [← Web.ask_answer]
  constructor
  · intro hrequests
    obtain ⟨hone, -⟩ | ⟨page, d, first, discovery, htwo⟩ := h.requests_cases
    · rw [hone] at hrequests
      cases hrequests
    · rw [htwo] at hrequests
      cases hrequests
      obtain ⟨hanswer, hread⟩ := Answer.sight_eq_other.1 first
      exact ⟨page, hanswer, hread, discovery⟩
  · rintro ⟨page, hanswer, hread, discovery⟩
    have hfirst := Answer.sight_eq_other.2 ⟨hanswer, hread⟩
    obtain ⟨-, hnone⟩ | ⟨page', d, first, discovery', htwo⟩ := h.requests_cases
    · exact (hnone page next hfirst discovery).elim
    · cases hfirst.symm.trans first
      cases discovery.symm.trans discovery'
      exact htwo

/-- Nothing else is asked of the web. -/
theorem web_eq (h : Course url w o) : o.web = w.after o.requests := by
  cases h <;> rfl

/-! ## Answers -/

/-- A feed is found when the last answer comes to one. -/
theorem result_of_last (h : Course url w o) :
    ∃ asked a, (w.exchanges o.requests).getLast? = some (asked, a) ∧
      ∀ found, o.result = .ok (some found) ↔ a.sight asked = .feed found := by
  cases h with
  | once first => exact ⟨_, _, rfl, fun found => Sighting.ending_eq_feed_iff⟩
  | undiscovered page why first discovery => exact ⟨_, _, rfl, by simp [first]⟩
  | twice page next first discovery => exact ⟨_, _, rfl, fun found => Sighting.ending_eq_feed_iff⟩

/-- No feed is found when a request failed or the second document is no feed either. -/
theorem result_eq_none_iff (h : Course url w o) :
    o.result = .ok none ↔
      (∃ x ∈ w.exchanges o.requests, x.2.Fails) ∨
        ∃ x next content, w.exchanges o.requests = [x, (next, .response 200 content)] ∧
          Readers.feed next content = .ok none := by
  cases h with
  | once first =>
    rw [Web.exchanges_one, Sighting.ending_eq_none_iff, ← Answer.fails_iff]
    simp [first]
  | undiscovered page why first discovery =>
    have hfails : ¬ (w.ask url).1.Fails := by simp [Answer.fails_iff url, first]
    simp [Web.exchanges_one, hfails]
  | twice page next first discovery =>
    have hfails : ¬ (w.ask url).1.Fails := by simp [Answer.fails_iff url, first]
    rw [Web.exchanges_two, Sighting.ending_eq_none_iff, ← Answer.fails_iff]
    simp [hfails, Answer.sight_eq_other, and_assoc]

end

/-- The feed that is found is the one that the last document holds at the URL that was asked. -/
theorem result_eq_feed_iff {url : Text} {w : Web} {o : Outcome (Option Feed)} (h : Course url w o)
    (found : Feed) :
    o.result = .ok (some found) ↔
      ∃ content, (w.exchanges o.requests).getLast? = some (found.url, .response 200 content) ∧
        Feed.read found.url content = .ok (some found) := by
  obtain ⟨asked, a, hlast, hresult⟩ := h.result_of_last
  rw [hresult, hlast, Answer.sight_eq_feed]
  constructor
  · rintro ⟨content, rfl, hread⟩
    obtain rfl := Feed.url_of_read hread
    exact ⟨content, rfl, hread⟩
  · rintro ⟨content, heq, hread⟩
    cases heq
    exact ⟨content, rfl, hread⟩

end Course

/-! ## The trace -/

/-- What is due of the outcome of fetching the feed at `url` on the web `w`. -/
structure Fetched (url : Text) (w : Web) (o : Outcome (Option Feed)) : Prop where
  /-- There are one or two requests, the first one for `url`, each with the same patience. -/
  requests : o.requests = [⟨url, 5, 15⟩] ∨ ∃ next, o.requests = [⟨url, 5, 15⟩, ⟨next, 5, 15⟩]
  /-- The second request is for the feed that the first document, being none, advertises. -/
  second_iff (next : Text) :
    o.requests = [⟨url, 5, 15⟩, ⟨next, 5, 15⟩] ↔
      ∃ page, w.answerAt url 0 = .response 200 page ∧ Feed.read url page = .ok none ∧
        Html.discoverFeed url page = .ok next
  /-- A first document that is a feed is the result, and the only one, whether or not it has
  items. -/
  first_feed (content : Bytes) (found : Feed) :
    w.answerAt url 0 = .response 200 content → Feed.read url content = .ok (some found) →
      o.result = .ok (some found) ∧ o.requests = [⟨url, 5, 15⟩]
  /-- A document without bytes is a document: the feed next to it is asked for. -/
  first_empty (next : Text) :
    w.answerAt url 0 = .response 200 [] → Url.resolve url Html.fallbackDocument = .ok next →
      o.requests = [⟨url, 5, 15⟩, ⟨next, 5, 15⟩]
  /-- The web is left as these requests leave it. -/
  web : o.web = w.after o.requests
  /-- The first request gets the first answer of its queue. -/
  first_answer : (w.exchanges o.requests).head? = some (url, w.answerAt url 0)
  /-- The second request gets the first answer of its queue too, or the next one when it is for the
  same URL. -/
  second_answer (next : Text) :
    o.requests = [⟨url, 5, 15⟩, ⟨next, 5, 15⟩] →
      w.exchanges o.requests =
        [(url, w.answerAt url 0), (next, w.answerAt next (if next = url then 1 else 0))]
  /-- A feed comes from the last answer, and is at the URL that was asked last. -/
  feed_iff (found : Feed) :
    o.result = .ok (some found) ↔
      ∃ content, (w.exchanges o.requests).getLast? = some (found.url, .response 200 content) ∧
        Feed.read found.url content = .ok (some found)
  /-- There is no feed when a request failed or the second document is none. -/
  none_iff :
    o.result = .ok none ↔
      (∃ x ∈ w.exchanges o.requests, x.2.Fails) ∨
        ∃ x next content, w.exchanges o.requests = [x, (next, .response 200 content)] ∧
          Feed.read next content = .ok none

/-- The requests of a fetch and what its result comes from, on every web. -/
theorem fetchFeed_fetched (url : Text) (w : Web) : Fetched url w (fetchFeed url w) := by
  have course := fetchFeed_course url w
  constructor
  case requests =>
    obtain ⟨hone, -⟩ | ⟨page, next, -, -, htwo⟩ := course.requests_cases
    · exact .inl hone
    · exact .inr ⟨next, htwo⟩
  case second_iff => exact course.requests_eq_pair_iff
  case first_feed =>
    intro content found hanswer hread
    obtain rfl := Feed.url_of_read hread
    rw [← Web.ask_answer] at hanswer
    have hfirst := Answer.sight_eq_feed.2 ⟨content, hanswer, hread⟩
    obtain ⟨hone, -⟩ | ⟨page, next, hother, -, -⟩ := course.requests_cases
    · refine ⟨(course.result_eq_feed_iff found).2 ⟨content, ?_, hread⟩, hone⟩
      rw [hone, Web.exchanges_one, hanswer]
      rfl
    · cases hfirst.symm.trans hother
  case first_empty =>
    intro next hanswer hnext
    exact (course.requests_eq_pair_iff next).2
      ⟨[], hanswer, Feed.read_nil url, Html.discoverFeed_nil hnext⟩
  case web => exact course.web_eq
  case first_answer =>
    rw [← Web.ask_answer]
    obtain ⟨hone, -⟩ | ⟨page, next, -, -, htwo⟩ := course.requests_cases
    · rw [hone]
      rfl
    · rw [htwo]
      rfl
  case second_answer =>
    intro next hrequests
    rw [hrequests, Web.exchanges_eq]
    by_cases hsame : next = url
    · simp [hsame]
    · simp [hsame, Ne.symm hsame]
  case feed_iff => exact course.result_eq_feed_iff
  case none_iff => exact course.result_eq_none_iff

end FeedPage
