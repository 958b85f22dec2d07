-- SUMMARY: What the log of publishing tells: which feed was found and how many items it has, or why there is none, and whether a second request was made.
import Mathlib.Logic.Basic
import FeedPage.Proofs.Feed.ReadBack
import FeedPage.Proofs.Fetch.Trace
import FeedPage.Proofs.Publish.Outcome
import FeedPage.Proofs.Rows.Apart
import FeedPage.Proofs.Rows.ReadBack

/-!
# The report of a publishing

Whoever reads the log of a publishing that gave rows knows how it went. Either a feed was found, and
the log names it and tells the number of its items; or none was, and the last error but one says
what became of the last request. A second request is announced before anything is said about it
(`publish_report`). The log is taken as it is read, as lines with a level and a wording: no URL,
title or cause makes one kind of line look like another.
-/

namespace FeedPage

/-! ## Lines -/

/-- A line of the log: its level, and its wording. -/
abbrev LogLine := Level × Text

/-- The line that an entry is read as. -/
def LogEntry.line (e : LogEntry) : LogLine := (e.level, e.message)

namespace LogLine

/-- The document at `url` is no feed, and the one it advertises is asked for. -/
def trying (url next : Text) : LogLine :=
  (.info, "No feed at ".toList ++ url ++ ". Trying ".toList ++ next ++ "...".toList)

/-- A feed was found. -/
def itemsFound (count : Nat) (url title : Text) : LogLine :=
  (.info, Text.ofNat count ++ " items found for ".toList ++ url ++ " - ".toList ++ title)

/-- A description was rejected. -/
def cleaningFailed (cause : Text) : LogLine := (.error, "Failed to clean HTML: ".toList ++ cause)

/-- Nothing is published for the site. -/
def nothingToPublish (url : Text) : LogLine := (.error, "No feed to publish for ".toList ++ url)

/-- The next document is told from the line. -/
theorem trying_inj {url next other : Text} : trying url next = trying url other ↔ next = other := by
  simp [trying]

/-- A number does not begin with a letter, so the two notices are never the same. -/
theorem itemsFound_ne_trying (count : Nat) (at' title url next : Text) :
    itemsFound count at' title ≠ trying url next := by
  intro h
  have hfront := congrArg (fun l : LogLine => l.2.head?) h
  have hdigit : ∀ d ∈ Text.ofNat count, d.isDigit = true := fun d hd =>
    Nat.isDigit_of_mem_toDigits (by decide) (by decide) hd
  rcases hcount : Text.ofNat count with _ | ⟨d, ds⟩
  · simp [itemsFound, trying, hcount] at hfront
  · obtain rfl : d = 'N' := by simpa [itemsFound, trying, hcount] using hfront
    have hn := hdigit 'N' (by simp [hcount])
    simp at hn

end LogLine

/-! ## What a fetch logs -/

/-- The reason that the answer to the last request, for `asked`, gives when there is no feed. -/
inductive Answer.Excuse (asked : Text) : Answer → Text → Prop where
  | refused {status : Int} {content : Bytes} (other : status ≠ 200) :
    Excuse asked (.response status content)
      ("Failed to fetch ".toList ++ asked ++ ": ".toList ++ Text.ofInt status)
  | failed (kind cause : Text) :
    Excuse asked (.networkFailure kind cause)
      ("Failed to fetch ".toList ++ asked ++ ": ".toList ++ cause)
  | noFeed {content : Bytes} (read : Feed.read asked content = .ok none) :
    Excuse asked (.response 200 content) ("No feed found at ".toList ++ asked)

/-- An answer without a feed leaves one error, its excuse. -/
theorem Answer.excuse_of_ending {asked : Text} {a : Answer}
    (h : ((a.sight asked).ending asked).1 = .ok none) :
    ∃ entry reason, ((a.sight asked).ending asked).2 = [entry] ∧ entry.line = (.error, reason) ∧
      a.Excuse asked reason := by
  cases a with
  | response status content =>
    by_cases hstatus : status = 200
    · subst hstatus
      rcases hread : Readers.feed asked content with why | _ | found
      · simp [sight, Sighting.ofDocument, hread, Sighting.ending] at h
      · exact ⟨.noFeedFound asked, _, by simp [sight, Sighting.ofDocument, hread, Sighting.ending],
          rfl, .noFeed hread⟩
      · simp [sight, Sighting.ofDocument, hread, Sighting.ending] at h
    · exact ⟨.fetchRefused asked status, _, by simp [sight, hstatus, Sighting.ending], rfl,
        .refused hstatus⟩
  | networkFailure kind cause => exact ⟨.fetchFailed asked cause, _, rfl, rfl, .failed kind cause⟩
  | failure kind cause => cases h

/-- An answer with a feed leaves nothing in the log of the fetch. -/
theorem Sighting.ending_log_of_feed {asked : Text} {s : Sighting} {found : Feed}
    (h : (s.ending asked).1 = .ok (some found)) : (s.ending asked).2 = [] := by
  obtain rfl := ending_eq_feed_iff.1 h
  rfl

/-- What is logged ahead of the last answer: the second request, when there is one. -/
def announcements (url : Text) : List Request → List LogEntry
  | [_, second] => [.tryingNext url second.url]
  | _ => []

theorem trying_of_mem_announcements {url : Text} {requests : List Request} {l : LogLine}
    (h : l ∈ (announcements url requests).map LogEntry.line) :
    ∃ next, l = LogLine.trying url next := by
  unfold announcements at h
  split at h
  · exact ⟨_, List.mem_singleton.1 h⟩
  · cases h

/-- A fetch logs what getting its last document logs, and then whether that was no feed. -/
theorem ending_log_eq (asked : Text) (w : Web) :
    ∃ later, (((w.ask asked).1.sight asked).ending asked).2 =
      (fetchDocument asked w).log ++ later := by
  unfold fetchDocument Act.request
  simp only [bind, Act.andThen]
  rcases w.ask asked with ⟨a, w'⟩
  cases a with
  | response status content =>
    by_cases hstatus : status = 200
    · simp only [if_pos hstatus]
      exact ⟨_, rfl⟩
    · simp only [if_neg hstatus, Answer.sight]
      exact ⟨[], rfl⟩
  | networkFailure kind cause => exact ⟨[], rfl⟩
  | failure kind cause => exact ⟨[], rfl⟩

namespace Course

variable {url : Text} {w : Web} {o : Outcome (Option Feed)}

/-- A fetch that ends without a fault ends with its last answer, and its log says first that there
was another one. -/
theorem ends_with_answer (h : Course url w o) {found : Option Feed} (hok : o.result = .ok found) :
    ∃ asked a, (w.exchanges o.requests).getLast? = some (asked, a) ∧
      ((a.sight asked).ending asked).1 = .ok found ∧
      o.log = announcements url o.requests ++ ((a.sight asked).ending asked).2 := by
  cases h with
  | once first => exact ⟨_, _, rfl, hok, rfl⟩
  | undiscovered page why first discovery => cases hok
  | twice page next first discovery => exact ⟨_, _, rfl, hok, rfl⟩

/-- The line about a second request is there exactly when the request is. -/
theorem count_announcements (h : Course url w o) (next : Text) :
    ((announcements url o.requests).map LogEntry.line).count (LogLine.trying url next) =
      if o.requests = [⟨url, 5, 15⟩, ⟨next, 5, 15⟩] then 1 else 0 := by
  obtain ⟨hone, -⟩ | ⟨-, second, -, -, htwo⟩ := h.requests_cases
  · simp [hone, announcements]
  · have hline : (LogEntry.tryingNext url second).line = LogLine.trying url second := rfl
    by_cases hnext : second = next
    · subst hnext
      simp [htwo, announcements, hline]
    · simp [htwo, announcements, hline, hnext, LogLine.trying_inj]

/-- After the line about a second request comes what getting that document logs. -/
theorem log_of_second (h : Course url w o) {next : Text}
    (hrequests : o.requests = [⟨url, 5, 15⟩, ⟨next, 5, 15⟩]) :
    ∃ later, o.log =
      .tryingNext url next :: ((fetchDocument next (w.ask url).2).log ++ later) := by
  cases h with
  | once first => cases hrequests
  | undiscovered page why first discovery => cases hrequests
  | twice page d first discovery =>
    cases hrequests
    obtain ⟨later, hlater⟩ := ending_log_eq next (w.ask url).2
    exact ⟨later, by rw [hlater]⟩

end Course

/-! ## The report -/

/-- The rows of a feed are empty when it has no items, and only then. -/
theorem Feed.rows_eq_nil_iff (feed : Feed) : feed.rows = [] ↔ feed.items.length = 0 := by
  cases hitems : feed.items with
  | nil => simp [rows, hitems]
  | cons item items =>
    have hrow : item.row ≠ [] := by
      rw [Item.row_eq, Row.write]
      exact Row.layout_ne_nil _
    simp [rows, hitems, maxItems, hrow]

/-- What rendering the rows of a feed logs: a line for each rejected description that is shown. -/
theorem Feed.lines_rowsLog (feed : Feed) :
    feed.rowsLog.map LogEntry.line =
      (feed.items.take 5).filterMap fun item =>
        item.description.rejection?.map fun why => LogLine.cleaningFailed why.message := by
  rw [rowsLog_eq, List.map_filterMap]
  simp only [Item.complaint?, Option.map_map]
  rfl

/-- The publishing found no feed. -/
structure WithoutFeed (url : Text) (w : Web) (o : Outcome Text) : Prop where
  absent : (fetchFeed url w).result = .ok none
  result : o.result = .ok []
  /-- The log ends with its two errors: what became of the last request, and that nothing is
  published. -/
  errors : ∃ notices asked a reason,
    o.log.map LogEntry.line = notices ++ [(.error, reason), LogLine.nothingToPublish url] ∧
      (∀ l ∈ notices, l.1 = .info) ∧
      (w.exchanges o.requests).getLast? = some (asked, a) ∧ a.Excuse asked reason
  /-- No items are reported. -/
  silent (count : Nat) (site title : Text) :
    LogLine.itemsFound count site title ∉ o.log.map LogEntry.line

/-- The publishing found a feed. -/
structure WithFeed (url : Text) (w : Web) (o : Outcome Text) (feed : Feed) : Prop where
  found : (fetchFeed url w).result = .ok (some feed)
  /-- The log reports the feed with the number of all its items, before that only notices of other
  kinds, and after that one error for each rejected description among the first five. -/
  items : ∃ notices,
    o.log.map LogEntry.line =
      notices ++ LogLine.itemsFound feed.items.length feed.url feed.title ::
        (feed.items.take 5).filterMap (fun item =>
          item.description.rejection?.map fun why => LogLine.cleaningFailed why.message) ∧
      ∀ l ∈ notices, l.1 = .info ∧ ∀ count site title, l ≠ LogLine.itemsFound count site title
  /-- No rows are given exactly when there are no items. -/
  result_eq_nil_iff : o.result = .ok [] ↔ feed.items.length = 0

/-- What the log of a publishing tells. -/
structure Report (url : Text) (w : Web) (o : Outcome Text) : Prop where
  /-- Whether a feed was found, and which. -/
  outcome : Xor (WithoutFeed url w o) (∃ feed, WithFeed url w o feed)
  /-- The line about a second request is there once when the request was made, and else not at
  all. -/
  second (next : Text) :
    (o.log.map LogEntry.line).count (LogLine.trying url next) =
      if o.requests = [⟨url, 5, 15⟩, ⟨next, 5, 15⟩] then 1 else 0
  /-- It stands in front, before what the second request logs. -/
  front (next : Text) :
    o.requests = [⟨url, 5, 15⟩, ⟨next, 5, 15⟩] →
      ∃ later, o.log.map LogEntry.line =
        LogLine.trying url next ::
          ((fetchDocument next (w.ask url).2).log ++ later).map LogEntry.line

section

variable {url : Text} {w : Web}

/-- A publishing without a feed logs what the fetch does, and one error more. -/
theorem lines_of_none (h : (fetchFeed url w).result = .ok none) :
    ∃ asked a reason,
      (publish url w).log.map LogEntry.line =
        (announcements url (fetchFeed url w).requests).map LogEntry.line ++
          [(.error, reason), LogLine.nothingToPublish url] ∧
        (w.exchanges (publish url w).requests).getLast? = some (asked, a) ∧
        a.Excuse asked reason := by
  obtain ⟨asked, a, hlast, hending, hlog⟩ := (fetchFeed_course url w).ends_with_answer h
  obtain ⟨entry, reason, hentry, hline, hexcuse⟩ := Answer.excuse_of_ending hending
  refine ⟨asked, a, reason, ?_, by rw [publish_requests, hlast], hexcuse⟩
  rw [publish_of_none h, hlog, hentry]
  simp only [List.map_append, List.map_cons, List.map_nil, hline, List.append_assoc,
    List.cons_append, List.nil_append]
  rfl

/-- A publishing with a feed logs what the fetch does, and then the feed. -/
theorem lines_of_feed {feed : Feed} (h : (fetchFeed url w).result = .ok (some feed)) :
    (publish url w).log.map LogEntry.line =
      (announcements url (fetchFeed url w).requests).map LogEntry.line ++
        LogLine.itemsFound feed.items.length feed.url feed.title ::
          (feed.items.take 5).filterMap fun item =>
            item.description.rejection?.map fun why => LogLine.cleaningFailed why.message := by
  obtain ⟨asked, a, -, hending, hlog⟩ := (fetchFeed_course url w).ends_with_answer h
  rw [Sighting.ending_log_of_feed hending, List.append_nil] at hlog
  rw [publish_of_feed h, hlog, List.map_append, List.map_cons, Feed.lines_rowsLog]
  rfl

theorem withoutFeed_of_fetch (h : (fetchFeed url w).result = .ok none) :
    WithoutFeed url w (publish url w) := by
  obtain ⟨asked, a, reason, hlines, hlast, hexcuse⟩ := lines_of_none h
  constructor
  case absent => exact h
  case result => rw [publish_of_none h]
  case errors =>
    refine ⟨_, asked, a, reason, hlines, fun l hl => ?_, hlast, hexcuse⟩
    obtain ⟨next, rfl⟩ := trying_of_mem_announcements hl
    rfl
  case silent =>
    intro count site title hmem
    rw [hlines, List.mem_append] at hmem
    rcases hmem with hmem | hmem
    · obtain ⟨next, hnext⟩ := trying_of_mem_announcements hmem
      exact LogLine.itemsFound_ne_trying _ _ _ _ _ hnext
    · simp [LogLine.itemsFound, LogLine.nothingToPublish] at hmem

theorem withFeed_of_fetch {feed : Feed} (h : (fetchFeed url w).result = .ok (some feed)) :
    WithFeed url w (publish url w) feed := by
  constructor
  case found => exact h
  case items =>
    refine ⟨_, lines_of_feed h, fun l hl => ?_⟩
    obtain ⟨next, rfl⟩ := trying_of_mem_announcements hl
    exact ⟨rfl, fun count site title h => LogLine.itemsFound_ne_trying _ _ _ _ _ h.symm⟩
  case result_eq_nil_iff =>
    rw [publish_of_feed h, Except.ok.injEq]
    exact feed.rows_eq_nil_iff

/-- Behind what the fetch announces, no line speaks of a second request. -/
theorem count_lines {found : Option Feed} (h : (fetchFeed url w).result = .ok found)
    (next : Text) :
    ((publish url w).log.map LogEntry.line).count (LogLine.trying url next) =
      ((announcements url (fetchFeed url w).requests).map LogEntry.line).count
        (LogLine.trying url next) := by
  have herror (reason : Text) : ((.error, reason) : LogLine) ≠ LogLine.trying url next := by
    simp [LogLine.trying]
  cases found with
  | none =>
    obtain ⟨asked, a, reason, hlines, -⟩ := lines_of_none h
    rw [hlines, List.count_append, Nat.add_eq_left, List.count_eq_zero]
    simp [LogLine.nothingToPublish, (herror _).symm]
  | some feed =>
    rw [lines_of_feed h, List.count_append, Nat.add_eq_left, List.count_eq_zero, List.mem_cons,
      List.mem_filterMap]
    rintro (hline | ⟨item, -, hline⟩)
    · exact LogLine.itemsFound_ne_trying _ _ _ _ _ hline.symm
    · obtain ⟨why, -, hwhy⟩ := Option.map_eq_some_iff.1 hline
      exact herror _ hwhy

/-- The log of a publishing that gives rows tells what became of it. -/
theorem publish_report {rows : Text} (h : (publish url w).result = .ok rows) :
    Report url w (publish url w) := by
  have course := fetchFeed_course url w
  rcases hfetch : (fetchFeed url w).result with why | found
  · simp [publish_of_error hfetch] at h
  constructor
  case outcome =>
    cases found with
    | none =>
      refine .inl ⟨withoutFeed_of_fetch hfetch, ?_⟩
      rintro ⟨feed, hfeed⟩
      cases hfetch.symm.trans hfeed.found
    | some feed =>
      refine .inr ⟨⟨feed, withFeed_of_fetch hfetch⟩, fun hnone => ?_⟩
      cases hfetch.symm.trans hnone.absent
  case second =>
    intro next
    rw [count_lines hfetch, course.count_announcements, publish_requests]
  case front =>
    intro next hrequests
    rw [publish_requests] at hrequests
    obtain ⟨later, hlog⟩ := course.log_of_second hrequests
    cases found with
    | none =>
      refine ⟨later ++ [.nothingToPublish url], ?_⟩
      rw [publish_of_none hfetch, hlog, List.cons_append, List.append_assoc]
      rfl
    | some feed =>
      refine ⟨later ++ .itemsFound feed.items.length feed.url feed.title :: feed.rowsLog, ?_⟩
      rw [publish_of_feed hfetch, hlog, List.cons_append, List.append_assoc]
      rfl

end

theorem Feed.isPlain_short : Text.IsPlain "News".toList ∧ Text.IsPlain "Beta".toList := by decide

/-- A document with one item. -/
def Feed.Rss.shortDocument : Rss.Document :=
  { title := .ofPlain "News".toList isPlain_short.1
    items := [{ title := .ofPlain "Beta".toList isPlain_short.2
                link := ⟨'b', [], rfl, List.forall_mem_nil _⟩ }] }

/-- Where the site has its feed when its page advertises none. -/
def adjacentUrl : Text := "http://tmate.org/svn/rss2.xml".toList

/-- The web on which the site answers with an empty page, and a feed stands next to it. -/
def adjacentWeb : Web :=
  ⟨[(Page.feedUrl, [.response 200 []]),
    (adjacentUrl, [.response 200 (Text.toUtf8 Feed.Rss.shortDocument.text)])]⟩

theorem publish_adjacentWeb :
    (publish Page.feedUrl adjacentWeb).result =
      .ok (Feed.Rss.shortDocument.meant adjacentUrl).rows := by
  have course := fetchFeed_course Page.feedUrl adjacentWeb
  have hnext : Url.resolve Page.feedUrl Html.fallbackDocument = .ok adjacentUrl := by rfl
  have hrequests := (course.requests_eq_pair_iff adjacentUrl).2
    ⟨[], by rfl, Feed.read_nil _, Html.discoverFeed_nil hnext⟩
  have hlast : (adjacentWeb.exchanges [{ url := Page.feedUrl }, { url := adjacentUrl }]).getLast? =
      some (adjacentUrl, .response 200 (Text.toUtf8 Feed.Rss.shortDocument.text)) := by rfl
  have hread : Feed.read adjacentUrl (Text.toUtf8 Feed.Rss.shortDocument.text) =
      .ok (some (Feed.Rss.shortDocument.meant adjacentUrl)) := by
    rw [Feed.Rss.Document.text, Feed.Style.read_write _ (by decide),
      Feed.Rss.Document.dates_children, Feed.Rss.Document.feedOf_children]
    rfl
  have hfetch := (course.result_eq_feed_iff (Feed.Rss.shortDocument.meant adjacentUrl)).2
    ⟨_, by rw [hrequests]; exact hlast, hread⟩
  rw [publish_of_feed hfetch]

theorem publish_report_adjacentWeb :
    (publish Page.feedUrl adjacentWeb).result =
        .ok (Feed.Rss.shortDocument.meant adjacentUrl).rows ∧
      Report Page.feedUrl adjacentWeb (publish Page.feedUrl adjacentWeb) :=
  ⟨publish_adjacentWeb, publish_report publish_adjacentWeb⟩

end FeedPage
