-- SUMMARY: Feeds as rows of the download table.
import FeedPage.Html.Clean
import FeedPage.Text.Blank

/-!
# Rows

The first items of a feed become rows of the download table. A row has a link, then the date of
publication and the visible text of the description, each only when it is not empty. All that comes
from the feed is escaped, so that it can hold no markup.
-/

namespace FeedPage

/-- The number of items that are shown. -/
def maxItems : Nat := 5

/-- The number of characters of a description that are shown. -/
def maxDescription : Nat := 300

/-- A character of running text or of an attribute value. -/
def escapeChar (c : Char) : Text :=
  if c = '&' then "&amp;".toList
  else if c = '<' then "&lt;".toList
  else if c = '>' then "&gt;".toList
  else if c = '\'' then "&#39;".toList
  else if c = '"' then "&#34;".toList
  else [c]

/-- Text for use between tags or in a quoted attribute value. -/
def escape (s : Text) : Text := s.flatMap escapeChar

/-- A text cut to the length that is shown, with dots where it was cut. -/
def shorten (s : Text) : Text :=
  if maxDescription < s.length then s.take maxDescription ++ "...".toList else s

/-- What is shown of a description, and what is logged about it. -/
def Description.shown (d : Description) : Text × List LogEntry :=
  (shorten (Text.trim d.clean.1), d.clean.2)

/-- The row of an item. -/
def Item.row (item : Item) : Text :=
  let shown := item.description.shown.1
  "<tr><td colspan=\"2\">".toList ++
    "<a href=\"".toList ++ escape item.link ++ "\">".toList ++ escape item.title ++
      "</a>".toList ++
    (if item.published.isEmpty then []
      else " <small>".toList ++ escape item.published ++ "</small>".toList) ++
    (if shown.isEmpty then [] else "<br />".toList ++ escape shown) ++
    "</td></tr>\n".toList

/-- The rows of a feed. -/
def Feed.rows (feed : Feed) : Text := (feed.items.take maxItems).flatMap Item.row

/-- What is logged while the rows of a feed are rendered. -/
def Feed.rowsLog (feed : Feed) : List LogEntry :=
  (feed.items.take maxItems).flatMap fun item => item.description.shown.2

end FeedPage
