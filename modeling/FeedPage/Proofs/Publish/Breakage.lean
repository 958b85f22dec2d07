-- SUMMARY: Which remote content breaks the page: on a web whose requests fail only as requests do, publishing ends in a fault in four cases and no others, whatever documents read as.
import Mathlib.Data.List.GetD
import FeedPage.Proofs.Fetch.Trace
import FeedPage.Proofs.Publish.Outcome
import FeedPage.Proofs.Url.Refusal

/-!
# What breaks the page

Failed requests, statuses other than 200 and documents that hold no feed leave the page without rows,
and an error in the log. Some documents do more: they end publishing in a fault, and the page is not
served at all. `Breaks` lists them, and `publish_survives` shows that there are no others. Which
documents cannot be read is for the readers to say: all this holds with any of them.
-/

namespace FeedPage

/-! ## Webs whose requests fail only as requests do -/

/-- No answer of the web is a failure that no caller expects. -/
def Web.Ordinary (w : Web) : Prop :=
  ∀ q ∈ w.queues, ∀ a ∈ q.2, ∀ kind cause, a ≠ .failure kind cause

theorem Web.Ordinary.answerAt_ne {w : Web} (hw : w.Ordinary) (url : Text) (n : Nat)
    (kind cause : Text) : w.answerAt url n ≠ .failure kind cause := by
  unfold answerAt
  rcases hq : w.queue? url with _ | _ | ⟨a, rest⟩
  · simp
  · simp
  · obtain ⟨before, after, hqueues, -⟩ := List.lookup_eq_some_iff.1 hq
    have hmem : (url, a :: rest) ∈ w.queues := by simp [hqueues]
    have hlt : min n rest.length < (a :: rest).length := by
      rw [List.length_cons]
      omega
    dsimp only
    rw [List.getD_eq_getElem _ _ hlt]
    exact hw _ hmem _ (List.getElem_mem hlt) kind cause

/-- On such a web an answer comes to a fault when its document cannot be read. -/
theorem Web.Ordinary.sight_eq_fault [Readers] {w : Web} (hw : w.Ordinary) {url : Text} {n : Nat}
    {why : Fault} :
    (w.answerAt url n).sight url = .fault why ↔
      ∃ content e, w.answerAt url n = .response 200 content ∧ Readers.feed url content = .error e ∧
        why = .feed e := by
  simp only [Answer.sight_eq_fault, hw.answerAt_ne, false_and, exists_false, or_false]

/-! ## Pages that no feed can be named for -/

/-- No feed can be named for a page that is rejected, nor for one that advertises a feed on a host that
is refused. -/
theorem Html.feedUrl_error_iff {url : Text} {b : Url} (hne : url ≠ [])
    (hurl : Url.parse [] url = .ok b) (read : Except Rejection (List Token)) :
    (∃ why, feedUrl url read = .error why) ↔
      (∃ why, read = .error why) ∨
        ∃ ts href host, read = .ok ts ∧ ts.findSome? Token.feedLink? = some href ∧
          Url.namedHost? href = some host ∧ Url.Refused host := by
  have hresolve := Url.resolve_error_iff hne hurl
  rcases read with why | ts
  · simp [feedUrl]
  rcases hlink : ts.findSome? Token.feedLink? with _ | href
  · -- Without a link the feed is looked for next to the page, and no host is named for that.
    have hfallback : Url.namedHost? fallbackDocument = none := by decide +kernel
    have hresolved : ¬ ∃ why, Url.resolve url fallbackDocument = .error why := by
      simp [hresolve, hfallback]
    rcases hr : Url.resolve url fallbackDocument with why | next
    · exact (hresolved ⟨why, hr⟩).elim
    · simp [feedUrl, hlink, hr, Except.mapError]
  · have hnamed := hresolve href
    rcases hr : Url.resolve url href with why | next
    · simpa [feedUrl, hlink, hr, Except.mapError] using hnamed
    · simpa [feedUrl, hlink, hr, Except.mapError] using hnamed

/-! ## The page -/

section

variable [Readers]

/-- The web breaks the page of the site at `url`. -/
inductive Breaks (url : Text) (w : Web) : Prop where
  /-- The first document cannot be read. -/
  | unreadable (content : Bytes) (why : Feed.Fault)
    (answer : w.answerAt url 0 = .response 200 content)
    (read : Readers.feed url content = .error why)
  /-- The first document is no feed, and its markup is rejected. -/
  | rejected (page : Bytes) (why : Html.Rejection)
    (answer : w.answerAt url 0 = .response 200 page)
    (read : Readers.feed url page = .ok none)
    (markup : Readers.page page = .error why)
  /-- The first document is no feed, and advertises one on a host that is refused. -/
  | refused (page : Bytes) (ts : List Html.Token) (href host : Text)
    (answer : w.answerAt url 0 = .response 200 page)
    (read : Readers.feed url page = .ok none)
    (markup : Readers.page page = .ok ts)
    (link : ts.findSome? Html.Token.feedLink? = some href)
    (named : Url.namedHost? href = some host)
    (untrusted : Url.Refused host)
  /-- The document that the first one leads to cannot be read. -/
  | secondUnreadable (page : Bytes) (next : Text) (content : Bytes) (why : Feed.Fault)
    (answer : w.answerAt url 0 = .response 200 page)
    (read : Readers.feed url page = .ok none)
    (discovery : Readers.discover url page = .ok next)
    (second : w.answerAt next (if next = url then 1 else 0) = .response 200 content)
    (reading : Readers.feed next content = .error why)

/-- Fetching ends in a fault on the webs that break the page, and on no other ordinary web. -/
theorem fetchFeed_error_iff {url : Text} {b : Url} (hne : url ≠ [])
    (hurl : Url.parse [] url = .ok b) {w : Web} (hw : w.Ordinary) :
    (∃ why, (fetchFeed url w).result = .error why) ↔ Breaks url w := by
  have course := fetchFeed_course url w
  simp only [course.result_eq_error_iff, Web.ask_answer, Web.answerAt_ask, hw.sight_eq_fault,
    Answer.sight_eq_other]
  constructor
  · rintro ⟨-, ⟨content, why, hanswer, hread, -⟩ |
      ⟨page, ⟨hanswer, hread⟩, ⟨e, hdisc, -⟩ |
        ⟨next, hdisc, content, why, hsecond, hreading, -⟩⟩⟩
    · exact .unreadable content why hanswer hread
    · obtain ⟨why, hmarkup⟩ | ⟨ts, href, host, hmarkup, hlink, hnamed, hrefused⟩ :=
        (Html.feedUrl_error_iff hne hurl (Readers.page page)).1 ⟨e, hdisc⟩
      · exact .rejected page why hanswer hread hmarkup
      · exact .refused page ts href host hanswer hread hmarkup hlink hnamed hrefused
    · exact .secondUnreadable page next content why hanswer hread hdisc hsecond hreading
  · intro hbreaks
    cases hbreaks with
    | unreadable content why answer read => exact ⟨_, .inl ⟨content, why, answer, read, rfl⟩⟩
    | rejected page why answer read markup =>
      obtain ⟨e, hdisc⟩ := (Html.feedUrl_error_iff hne hurl (Readers.page page)).2 (.inl ⟨why, markup⟩)
      exact ⟨_, .inr ⟨page, ⟨answer, read⟩, .inl ⟨e, hdisc, rfl⟩⟩⟩
    | refused page ts href host answer read markup link named untrusted =>
      obtain ⟨e, hdisc⟩ := (Html.feedUrl_error_iff hne hurl (Readers.page page)).2
        (.inr ⟨ts, href, host, markup, link, named, untrusted⟩)
      exact ⟨_, .inr ⟨page, ⟨answer, read⟩, .inl ⟨e, hdisc, rfl⟩⟩⟩
    | secondUnreadable page next content why answer read discovery second reading =>
      exact ⟨_, .inr ⟨page, ⟨answer, read⟩,
        .inr ⟨next, discovery, content, why, second, reading, rfl⟩⟩⟩

/-- A fault on an ordinary web is one of a document or a reference. -/
theorem fetchFeed_ne_raised {url : Text} {w : Web} (hw : w.Ordinary) {why : Fault}
    (h : (fetchFeed url w).result = .error why) (kind cause : Text) : why ≠ .raised kind cause := by
  have course := fetchFeed_course url w
  simp only [course.result_eq_error_iff, Web.ask_answer, Web.answerAt_ask, hw.sight_eq_fault] at h
  obtain ⟨-, e, -, -, rfl⟩ | ⟨page, -, ⟨e, -, rfl⟩ | ⟨next, -, -, e, -, -, rfl⟩⟩ := h
  · simp
  · cases e <;> simp [Html.DiscoveryError.toFault]
  · simp

/-- What the page comes to on the web `w`. -/
structure PageOn (w : Web) : Prop where
  /-- Publishing gives rows unless the web breaks the page. -/
  returns_iff : (∃ rows, (publish Page.feedUrl w).result = .ok rows) ↔ ¬ Breaks Page.feedUrl w
  /-- What ends it otherwise is found in a document or a reference. -/
  fault_ne_raised (why : Fault) (kind cause : Text) :
    (publish Page.feedUrl w).result = .error why → why ≠ .raised kind cause
  /-- A failed request, or a second document that is no feed, gives no rows and logs errors. -/
  without_feed :
    ((∃ x ∈ w.exchanges (publish Page.feedUrl w).requests, x.2.Fails) ∨
      ∃ x next content,
        w.exchanges (publish Page.feedUrl w).requests = [x, (next, .response 200 content)] ∧
          Readers.feed next content = .ok none) →
    (publish Page.feedUrl w).result = .ok [] ∧
      ∃ earlier entry, entry.level = .error ∧
        (publish Page.feedUrl w).log = earlier ++ [entry, .nothingToPublish Page.feedUrl]
  /-- The page is served unless the web breaks it, and then the server answers with an error. -/
  served :
    ∃ r, (Http.respond publish ⟨"GET".toList, "/".toList⟩ w).result = .ok r ∧
      (¬ Breaks Page.feedUrl w → r.status = 200) ∧ (Breaks Page.feedUrl w → r.status = 500)

theorem publish_error_iff_breaks {w : Web} (hw : w.Ordinary) :
    (∃ why, (publish Page.feedUrl w).result = .error why) ↔ Breaks Page.feedUrl w := by
  have hurl : Url.parse [] Page.feedUrl =
      .ok ⟨"http".toList, "tmate.org".toList, "/svn/".toList, [], [], []⟩ := by rfl
  simp only [publish_error_iff]
  exact fetchFeed_error_iff (by decide) hurl hw

/-- Remote content breaks the page in the cases of `Breaks`, and in no others. -/
theorem publish_survives (w : Web) (hw : w.Ordinary) : PageOn w := by
  have hbreaks := publish_error_iff_breaks hw
  constructor
  case returns_iff =>
    rw [← hbreaks]
    rcases (publish Page.feedUrl w).result with why | rows <;> simp
  case fault_ne_raised =>
    intro why kind cause hfault
    exact fetchFeed_ne_raised hw (publish_error_iff.1 hfault) kind cause
  case without_feed =>
    intro hanswers
    have course := fetchFeed_course Page.feedUrl w
    rw [publish_requests, ← course.result_eq_none_iff] at hanswers
    obtain ⟨earlier, entry, hlog, hlevel⟩ := course.log_of_none hanswers
    rw [publish_of_none hanswers, hlog]
    exact ⟨rfl, earlier, entry, hlevel, by simp⟩
  case served =>
    have hroute : Http.route (Http.pathOf "/".toList) = .page := by decide +kernel
    refine ⟨_, Http.respond_page publish w hroute (by decide) (by decide), ?_, ?_⟩
    · intro hnot
      rcases hresult : (publish Page.feedUrl w).result with why | rows
      · exact (hnot (hbreaks.1 ⟨why, hresult⟩)).elim
      · rfl
    · intro h
      obtain ⟨why, hfault⟩ := hbreaks.2 h
      rw [hfault]
      rfl

end

/-- The web on which the site answers with a page that numbers half a character. -/
def halfCharacterWeb : Web :=
  ⟨[(Page.feedUrl, [.response 200 (Text.toUtf8 "<a>&#55296;</a>".toList)])]⟩

theorem halfCharacterWeb_ordinary : halfCharacterWeb.Ordinary := by
  simp [Web.Ordinary, halfCharacterWeb]

theorem publish_survives_halfCharacterWeb : halfCharacterWeb.Ordinary ∧ PageOn halfCharacterWeb :=
  ⟨halfCharacterWeb_ordinary, publish_survives halfCharacterWeb halfCharacterWeb_ordinary⟩

/-- There are ordinary webs that break the page. -/
theorem publish_not_total :
    ¬ ∀ w : Web, w.Ordinary → ∃ rows, (publish Page.feedUrl w).result = .ok rows := by
  intro htotal
  obtain ⟨rows, hrows⟩ := htotal halfCharacterWeb halfCharacterWeb_ordinary
  have hfault : (publish Page.feedUrl halfCharacterWeb).result.isOk = false := by decide +kernel
  rw [hrows] at hfault
  cases hfault

end FeedPage
