-- SUMMARY: Publishing a site's feed as rows of the download table.
import FeedPage.Fetch
import FeedPage.Rows

/-!
# Publishing

The feed of a site becomes rows of the download table. A site without a feed gives no rows.
-/

namespace FeedPage

/-- A publisher gives the rows for a site. -/
abbrev Publisher := Text → Act Text

/-- The rows for the feed behind a URL. -/
def publish [Readers] : Publisher := fun url => do
  match ← fetchFeed url with
  | none =>
    Act.log (.nothingToPublish url)
    pure []
  | some feed =>
    Act.log (.itemsFound feed.items.length feed.url feed.title)
    Act.logAll feed.rowsLog
    pure feed.rows

end FeedPage
