-- SUMMARY: The course of a fetch: what an answer comes to, and the three ways in which fetching a feed can go.
import FeedPage.Fetch

/-!
# The course of a fetch

An answer of the web comes to one of four things (`Sighting`): a fault, no document and an entry that
says why, a feed, or a document that is no feed. A fetch ends as its last answer tells
(`Sighting.ending`): the first answer, unless that is a document that is no feed and names one, and
then the second (`fetchFeed_course`). All this is so for every way of reading documents.
-/

namespace FeedPage

/-! ## Sightings -/

/-- What an answer comes to for one who looks for a feed. -/
inductive Sighting where
  | fault (why : Fault)
  /-- No document, and what is logged about it. -/
  | nothing (entry : LogEntry)
  | feed (found : Feed)
  /-- A document that is no feed. -/
  | other (content : Bytes)

namespace Sighting

/-- What a fetch ends with when its last answer, to the request for `url`, comes to this: the result
and what is logged. -/
def ending (url : Text) : Sighting → Except Fault (Option Feed) × List LogEntry
  | .fault why => (.error why, [])
  | .nothing entry => (.ok none, [entry])
  | .feed found => (.ok (some found), [])
  | .other _ => (.ok none, [.noFeedFound url])

variable {url : Text} {s : Sighting}

theorem ending_eq_error_iff {why : Fault} : (s.ending url).1 = .error why ↔ s = .fault why := by
  cases s <;> simp [ending]

theorem ending_eq_feed_iff {found : Feed} :
    (s.ending url).1 = .ok (some found) ↔ s = .feed found := by
  cases s <;> simp [ending]

theorem ending_eq_none_iff :
    (s.ending url).1 = .ok none ↔ (∃ entry, s = .nothing entry) ∨ ∃ content, s = .other content := by
  cases s <;> simp [ending]

end Sighting

/-! ## Answers -/

/-- Whether an answer is a failed request: one that failed on the way, or a status other than 200. -/
def Answer.Fails : Answer → Prop
  | .response status _ => status ≠ 200
  | .networkFailure .. => True
  | .failure .. => False

variable [Readers]

/-- What the document at `url` comes to. -/
def Sighting.ofDocument (url : Text) (content : Bytes) : Sighting :=
  match Readers.feed url content with
  | .error why => .fault (.feed why)
  | .ok (some f) => .feed f
  | .ok none => .other content

/-- What the answer to a request for `url` comes to. -/
def Answer.sight (url : Text) : Answer → Sighting
  | .response status content =>
    if status = 200 then .ofDocument url content else .nothing (.fetchRefused url status)
  | .networkFailure _ cause => .nothing (.fetchFailed url cause)
  | .failure kind cause => .fault (.raised kind cause)

theorem Sighting.ofDocument_eq_feed {url : Text} {content : Bytes} {found : Feed} :
    ofDocument url content = .feed found ↔ Readers.feed url content = .ok (some found) := by
  unfold ofDocument
  rcases Readers.feed url content with why | _ | f <;> simp

theorem Sighting.ofDocument_eq_other {url : Text} {content body : Bytes} :
    ofDocument url content = .other body ↔ Readers.feed url content = .ok none ∧ body = content := by
  unfold ofDocument
  rcases Readers.feed url content with why | _ | f <;> simp [eq_comm]

theorem Sighting.ofDocument_eq_fault {url : Text} {content : Bytes} {why : Fault} :
    ofDocument url content = .fault why ↔
      ∃ e, Readers.feed url content = .error e ∧ why = .feed e := by
  unfold ofDocument
  rcases Readers.feed url content with e | _ | f <;> simp [eq_comm]

theorem Sighting.ofDocument_ne_nothing (url : Text) (content : Bytes) (entry : LogEntry) :
    ofDocument url content ≠ .nothing entry := by
  unfold ofDocument
  rcases Readers.feed url content with why | _ | f <;> simp

theorem Answer.sight_eq_feed {url : Text} {a : Answer} {found : Feed} :
    a.sight url = .feed found ↔
      ∃ content, a = .response 200 content ∧ Readers.feed url content = .ok (some found) := by
  cases a with
  | response status content =>
    by_cases h : status = 200
    · subst h
      simp [sight, Sighting.ofDocument_eq_feed]
    · simp [sight, h]
  | networkFailure kind cause => simp [sight]
  | failure kind cause => simp [sight]

theorem Answer.sight_eq_other {url : Text} {a : Answer} {content : Bytes} :
    a.sight url = .other content ↔
      a = .response 200 content ∧ Readers.feed url content = .ok none := by
  cases a with
  | response status body =>
    by_cases h : status = 200
    · subst h
      simp only [sight, if_true, Sighting.ofDocument_eq_other, Answer.response.injEq, true_and]
      constructor
      · rintro ⟨hread, rfl⟩
        exact ⟨rfl, hread⟩
      · rintro ⟨rfl, hread⟩
        exact ⟨hread, rfl⟩
    · simp [sight, h]
  | networkFailure kind cause => simp [sight]
  | failure kind cause => simp [sight]

/-- The faults of an answer: one that its document ends in, or one that no caller expects. -/
theorem Answer.sight_eq_fault {url : Text} {a : Answer} {why : Fault} :
    a.sight url = .fault why ↔
      (∃ content e, a = .response 200 content ∧ Readers.feed url content = .error e ∧ why = .feed e) ∨
        ∃ kind cause, a = .failure kind cause ∧ why = .raised kind cause := by
  cases a with
  | response status content =>
    by_cases h : status = 200
    · subst h
      simp [sight, Sighting.ofDocument_eq_fault]
    · simp [sight, h]
  | networkFailure kind cause => simp [sight]
  | failure kind cause => simp [sight, and_assoc, eq_comm]

theorem Answer.fails_iff (url : Text) (a : Answer) :
    a.Fails ↔ ∃ entry, a.sight url = .nothing entry := by
  cases a with
  | response status content =>
    by_cases h : status = 200
    · simp [sight, Fails, h, Sighting.ofDocument_ne_nothing]
    · simp [sight, Fails, h]
  | networkFailure kind cause => simp [sight, Fails]
  | failure kind cause => simp [sight, Fails]

/-- What is logged about a missing document is an error. -/
theorem Answer.level_of_sight_eq_nothing {url : Text} {a : Answer} {entry : LogEntry}
    (h : a.sight url = .nothing entry) : entry.level = .error := by
  cases a with
  | response status content =>
    by_cases hs : status = 200
    · rw [sight, if_pos hs] at h
      exact (Sighting.ofDocument_ne_nothing url content entry h).elim
    · rw [sight, if_neg hs] at h
      cases h
      rfl
  | networkFailure kind cause =>
    cases h
    rfl
  | failure kind cause => cases h

/-- A fetch without a feed logs an error. -/
theorem Answer.ending_log_of_none {url : Text} {a : Answer}
    (h : ((a.sight url).ending url).1 = .ok none) :
    ∃ entry, ((a.sight url).ending url).2 = [entry] ∧ entry.level = .error := by
  rcases hs : a.sight url with why | entry | found | content
  · simp [hs, Sighting.ending] at h
  · exact ⟨entry, rfl, Answer.level_of_sight_eq_nothing hs⟩
  · simp [hs, Sighting.ending] at h
  · exact ⟨.noFeedFound url, rfl, rfl⟩

/-! ## Rounds -/

/-- One round of a fetch: the document at `url` is the feed, or `rest` goes on with it. -/
def round (url : Text) (rest : Bytes → Act (Option Feed)) : Act (Option Feed) := do
  match ← fetchDocument url with
  | none => pure none
  | some content =>
    match ← Act.ofExcept .feed (Readers.feed url content) with
    | some feed => pure (some feed)
    | none => rest content

/-- The second round of a fetch: for the feed that the page at `url` advertises. -/
def secondRound (url : Text) (page : Bytes) : Act (Option Feed) := do
  let next ← Act.ofExcept Html.DiscoveryError.toFault (Readers.discover url page)
  Act.log (.tryingNext url next)
  round next fun _ => do
    Act.log (.noFeedFound next)
    pure none

theorem fetchFeed_eq_round (url : Text) : fetchFeed url = round url (secondRound url) := rfl

/-- A round ends as the answer tells; the rest of the fetch is left for a document that is no
feed. -/
theorem round_eq (url : Text) (rest : Bytes → Act (Option Feed)) (w : Web) :
    round url rest w =
      match (w.ask url).1.sight url with
      | .other content =>
        { result := (rest content (w.ask url).2).result
          requests := { url } :: (rest content (w.ask url).2).requests
          log := (rest content (w.ask url).2).log
          web := (rest content (w.ask url).2).web }
      | s =>
        { result := (s.ending url).1, requests := [{ url }], log := (s.ending url).2,
          web := (w.ask url).2 } := by
  unfold round fetchDocument Act.request
  simp only [bind, Act.andThen]
  rcases w.ask url with ⟨a, w'⟩
  cases a with
  | response status content =>
    by_cases h : status = 200
    · simp only [Answer.sight, Sighting.ofDocument, if_pos h, pure, Act.done, List.append_nil]
      rcases Readers.feed url content with why | _ | found
      · rfl
      · simp only [Act.ofExcept, Act.andThen, Act.done, List.nil_append, List.singleton_append]
      · rfl
    · simp only [Answer.sight, if_neg h]
      rfl
  | networkFailure kind cause => rfl
  | failure kind cause => rfl

theorem secondRound_of_error {url : Text} {page : Bytes} {why : Html.DiscoveryError}
    (h : Readers.discover url page = .error why) (w : Web) :
    secondRound url page w = { result := .error why.toFault, web := w } := by
  rw [secondRound, h]
  rfl

theorem secondRound_of_ok {url next : Text} {page : Bytes}
    (h : Readers.discover url page = .ok next) (w : Web) :
    secondRound url page w =
      { result := (((w.ask next).1.sight next).ending next).1
        requests := [{ url := next }]
        log := .tryingNext url next :: (((w.ask next).1.sight next).ending next).2
        web := (w.ask next).2 } := by
  rw [secondRound, h]
  simp only [Act.ofExcept, bind, Act.andThen, Act.done, Act.log, round_eq]
  rcases (w.ask next).1.sight next <;> rfl

/-! ## Fetching a feed -/

/-- The ways in which fetching the feed at `url` on the web `w` can go, each with its outcome. -/
inductive Course (url : Text) (w : Web) : Outcome (Option Feed) → Prop where
  /-- The first answer is the last. -/
  | once (first : ∀ page, (w.ask url).1.sight url ≠ .other page) :
    Course url w
      { result := (((w.ask url).1.sight url).ending url).1
        requests := [{ url }]
        log := (((w.ask url).1.sight url).ending url).2
        web := (w.ask url).2 }
  /-- The first document is no feed, and none can be named for it. -/
  | undiscovered (page : Bytes) (why : Html.DiscoveryError)
    (first : (w.ask url).1.sight url = .other page)
    (discovery : Readers.discover url page = .error why) :
    Course url w
      { result := .error why.toFault
        requests := [{ url }]
        log := []
        web := (w.ask url).2 }
  /-- The first document is no feed, and the one it names is asked for. -/
  | twice (page : Bytes) (next : Text)
    (first : (w.ask url).1.sight url = .other page)
    (discovery : Readers.discover url page = .ok next) :
    Course url w
      { result := ((((w.ask url).2.ask next).1.sight next).ending next).1
        requests := [{ url }, { url := next }]
        log := .tryingNext url next :: ((((w.ask url).2.ask next).1.sight next).ending next).2
        web := ((w.ask url).2.ask next).2 }

/-- Fetching a feed goes in one of these ways. -/
theorem fetchFeed_course (url : Text) (w : Web) : Course url w (fetchFeed url w) := by
  have honce := @Course.once _ url w
  rw [fetchFeed_eq_round, round_eq]
  rcases hfirst : (w.ask url).1.sight url with why | entry | found | page
  · simpa [hfirst] using honce
  · simpa [hfirst] using honce
  · simpa [hfirst] using honce
  rcases hdisc : Readers.discover url page with why | next
  · simp only [secondRound_of_error hdisc]
    exact .undiscovered page why hfirst hdisc
  · simp only [secondRound_of_ok hdisc]
    exact .twice page next hfirst hdisc

namespace Course

variable {url : Text} {w : Web} {o : Outcome (Option Feed)}

/-- A fetch ends in a fault at an answer that comes to one, or at a page that no feed can be named
for. -/
theorem result_eq_error_iff (h : Course url w o) {why : Fault} :
    o.result = .error why ↔
      (w.ask url).1.sight url = .fault why ∨
        ∃ page, (w.ask url).1.sight url = .other page ∧
          ((∃ e, Readers.discover url page = .error e ∧ why = e.toFault) ∨
            ∃ next, Readers.discover url page = .ok next ∧
              ((w.ask url).2.ask next).1.sight next = .fault why) := by
  cases h with
  | once first => simp [Sighting.ending_eq_error_iff, first]
  | undiscovered page e first discovery => simp [first, discovery, eq_comm]
  | twice page next first discovery => simp [Sighting.ending_eq_error_iff, first, discovery]

/-- A fetch without a feed logs an error last. -/
theorem log_of_none (h : Course url w o) (hnone : o.result = .ok none) :
    ∃ earlier entry, o.log = earlier ++ [entry] ∧ entry.level = .error := by
  cases h with
  | once first =>
    obtain ⟨entry, hlog, hlevel⟩ := Answer.ending_log_of_none hnone
    exact ⟨[], entry, hlog, hlevel⟩
  | undiscovered page why first discovery => cases hnone
  | twice page next first discovery =>
    obtain ⟨entry, hlog, hlevel⟩ := Answer.ending_log_of_none hnone
    exact ⟨[.tryingNext url next], entry, by rw [hlog]; rfl, hlevel⟩

end Course
end FeedPage
