-- SUMMARY: Fetching documents and feeds: at most two requests, the second for the feed that the first document advertises.
import FeedPage.Web
import FeedPage.Feed.Read
import FeedPage.Html.Alternate

/-!
# Fetching

A document is fetched by one request; a failure on the way and a status other than 200 are logged
and give no document. A feed is fetched by reading the document at its URL. When that is no feed, it
is taken for a page of the site, and the feed it advertises is fetched in its place, once.

What a document reads as, as a feed and as a page, is left to `Readers`. The library has its own, and
they are used wherever no others are given.
-/

namespace FeedPage

/-- The document at a URL. -/
def fetchDocument (url : Text) : Act (Option Bytes) := do
  match ← Act.request url with
  | .response status content =>
    if status = 200 then pure (some content)
    else
      Act.log (.fetchRefused url status)
      pure none
  | .networkFailure _ cause =>
    Act.log (.fetchFailed url cause)
    pure none
  | .failure kind cause => Act.fail (.raised kind cause)

/-- The fault of a page without a feed to name. -/
def Html.DiscoveryError.toFault : Html.DiscoveryError → Fault
  | .rejected why => .page why
  | .url why => .url why

/-- What reads documents. -/
class Readers where
  /-- The feed at a URL that a document holds, if it is one. -/
  feed : Text → Bytes → Except Feed.Fault (Option Feed)
  /-- The tokens of a page. -/
  page : Bytes → Except Html.Rejection (List Html.Token)

namespace Readers

/-- The library's own readers. -/
instance own : Readers where
  feed := Feed.read
  page content := Html.tokens (Html.Document.decode content)

/-- The URL of the feed of the page at `pageUrl`. -/
def discover [Readers] (pageUrl : Text) (content : Bytes) : Except Html.DiscoveryError Text :=
  Html.feedUrl pageUrl (page content)

end Readers

/-- The feed at a URL, or the one that the page there advertises. -/
def fetchFeed [Readers] (url : Text) : Act (Option Feed) := do
  match ← fetchDocument url with
  | none => pure none
  | some content =>
    match ← Act.ofExcept .feed (Readers.feed url content) with
    | some feed => pure (some feed)
    | none =>
      let next ← Act.ofExcept Html.DiscoveryError.toFault (Readers.discover url content)
      Act.log (.tryingNext url next)
      match ← fetchDocument next with
      | none => pure none
      | some content =>
        match ← Act.ofExcept .feed (Readers.feed next content) with
        | some feed => pure (some feed)
        | none =>
          Act.log (.noFeedFound next)
          pure none

end FeedPage
