-- SUMMARY: The feed that a page advertises: its first link to an alternate RSS or Atom document.
import FeedPage.Html.Token
import FeedPage.Html.Document
import FeedPage.Url.Resolve

/-!
# The feed of a page

A page advertises its feed by a `link` element with an `href`, the word `alternate` among its `rel`
words, and the media type of RSS or Atom. The first such link counts, wherever it stands. A page
without one has its feed in the document `rss2.xml` next to it.
-/

namespace FeedPage.Html

/-- The value of an attribute; the last one counts when there are several of one name. -/
def Attr.lookup? (name : Text) (attrs : List Attr) : Option Text :=
  (attrs.reverse.find? (·.name = name)).map (·.value)

/-- Media types of feeds. -/
def feedTypes : List Text := ["application/rss+xml", "application/atom+xml"].map String.toList

/-- The document next to a page that advertises no feed. -/
def fallbackDocument : Text := "rss2.xml".toList

/-- The reference of a link to a feed. -/
def Token.feedLink? : Token → Option Text
  | .startTag name attrs _ =>
    if name = "link".toList then
      match Attr.lookup? "href".toList attrs with
      | none => none
      | some href =>
        let rel := Text.words ((Attr.lookup? "rel".toList attrs).getD [])
        let type := Text.lower ((Attr.lookup? "type".toList attrs).getD [])
        if "alternate".toList ∈ rel ∧ type ∈ feedTypes then some href else none
    else none
  | _ => none

/-- Why no feed can be named for a page. -/
inductive DiscoveryError where
  | rejected (why : Rejection)
  | url (why : Url.Error)
  deriving DecidableEq, Repr

/-- The URL of the feed of the page at `pageUrl`, when reading the page gave these tokens, or why it
gave none. -/
def feedUrl (pageUrl : Text) : Except Rejection (List Token) → Except DiscoveryError Text
  | .error why => .error (.rejected why)
  | .ok ts =>
    (Url.resolve pageUrl ((ts.findSome? Token.feedLink?).getD fallbackDocument)).mapError .url

/-- The URL of the feed of the page at `pageUrl`. -/
def discoverFeed (pageUrl : Text) (page : Bytes) : Except DiscoveryError Text :=
  feedUrl pageUrl (tokens (Document.decode page))

end FeedPage.Html
