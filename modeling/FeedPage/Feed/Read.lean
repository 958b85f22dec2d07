-- SUMMARY: The feed that a document holds.
import FeedPage.Feed
import FeedPage.Feed.Document
import FeedPage.Feed.Reading

/-!
# Reading feeds

A document that is well-formed XML is read as such, and any other as lenient markup. It is a feed
when a version or an item is found in it; what has neither is not a feed (`read`).

A document is the bytes that arrived and nothing else. Bytes that happen to be the name of a local
file are read as bytes here; looking for that file first, as a reader with a file system may do, is
left out.
-/

namespace FeedPage.Feed

/-- The description of an item with a summary; one without a summary has an empty description. -/
def descriptionOf : Option (Option Text) → Description
  | none => .text []
  | some none => .missing
  | some (some s) => .text s

/-- The item that has been read. It is published when it says so, or else when it was updated. -/
def Record.item (r : Record) : Item :=
  { title := r.title.getD []
    link := r.link.getD []
    published := ((r.published.filter (!·.isEmpty)).or r.updated).getD []
    description := descriptionOf r.summary }

/-- The state after a document is read. -/
def Document.state (d : Document) : Except Fault State :=
  match Xml.Event.ofDocument? d.text with
  | some es => State.events {} es
  | none =>
    State.tokens { lenient := true, entities := d.entities }
      (Markup.tokens { closesEmpty := true, keepsSections := true } d.text)

/-- The feed at `url` that has been read, if there is a version or an item. -/
def State.feed? (q : State) (url : Text) (version : Option Text) : Option Feed :=
  if version.isNone && q.version.isEmpty && q.items.isEmpty then none
  else
    some
      { url
        title := q.feed.title.getD []
        items := q.items.reverse.map (·.record.item) }

/-- The feed at `url` that `content` holds, if it is one. -/
def read (url : Text) (content : Bytes) : Except Fault (Option Feed) :=
  if content.isEmpty then .ok none
  else do
    let d := Document.ofBytes content
    return (← d.state).feed? url d.version

end FeedPage.Feed
