-- SUMMARY: The outcomes of publishing and of serving the page, by what the program before each came to.
import FeedPage.Http

/-!
# Publishing and serving

Publishing follows fetching: a fault goes through, no feed gives no rows, and a feed gives its rows.
Serving the page follows publishing: a fault makes the answer an error of the server, and rows make it
the page with them.
-/

namespace FeedPage

/-! ## Publishing -/

section

variable [Readers] {url : Text} {w : Web}

theorem publish_of_error {why : Fault} (h : (fetchFeed url w).result = .error why) :
    publish url w =
      { result := .error why
        requests := (fetchFeed url w).requests
        log := (fetchFeed url w).log
        web := (fetchFeed url w).web } := by
  simp only [publish, bind, Act.andThen, h]

theorem publish_of_none (h : (fetchFeed url w).result = .ok none) :
    publish url w =
      { result := .ok []
        requests := (fetchFeed url w).requests
        log := (fetchFeed url w).log ++ [.nothingToPublish url]
        web := (fetchFeed url w).web } := by
  simp only [publish, bind, Act.andThen, h, Act.log, pure, Act.done, List.append_nil]

theorem publish_of_feed {found : Feed} (h : (fetchFeed url w).result = .ok (some found)) :
    publish url w =
      { result := .ok found.rows
        requests := (fetchFeed url w).requests
        log := (fetchFeed url w).log ++
          .itemsFound found.items.length found.url found.title :: found.rowsLog
        web := (fetchFeed url w).web } := by
  simp only [publish, bind, Act.andThen, h, Act.log, Act.logAll, pure, Act.done, List.append_nil,
    List.singleton_append]

theorem publish_requests (url : Text) (w : Web) :
    (publish url w).requests = (fetchFeed url w).requests := by
  rcases h : (fetchFeed url w).result with why | _ | found
  · rw [publish_of_error h]
  · rw [publish_of_none h]
  · rw [publish_of_feed h]

theorem publish_error_iff {why : Fault} :
    (publish url w).result = .error why ↔ (fetchFeed url w).result = .error why := by
  rcases h : (fetchFeed url w).result with e | _ | found
  · simp [publish_of_error h]
  · simp [publish_of_none h]
  · simp [publish_of_feed h]

end

/-! ## Serving -/

namespace Http

/-- What a publisher's result makes of a request for the page. -/
def pageResult (headOnly : Bool) : Except Fault Text → Response
  | .ok rows => pageResponse headOnly (Page.render rows)
  | .error _ => { status := 500 }

/-- A request for the page always gets a response. -/
theorem respond_page (p : Publisher) {request : Request} (w : Web)
    (hroute : route (pathOf request.target) = .page)
    (hmethod : request.method.map Char.toUpper ∈ methods)
    (hoptions : request.method.map Char.toUpper ≠ "OPTIONS".toList) :
    (respond p request w).result =
      .ok (pageResult (request.method.map Char.toUpper = "HEAD".toList)
        (p Page.feedUrl w).result) := by
  unfold respond
  simp only [hroute, if_neg hoptions, if_pos hmethod, bind, Act.andThen, attempt, renderPage]
  rcases (p Page.feedUrl w).result with why | rows <;> rfl

end Http
end FeedPage
