-- SUMMARY: Feeds and their items, as the page shows them.
import FeedPage.Text.Utf8

/-!
# Feeds

A feed has a URL, a title and a list of items; an item has a title, a link, the date of its
publication as the feed writes it, and a description. Everything is text as it came; only a
description may also be bytes, or missing.
-/

namespace FeedPage

/-- The description of an item. -/
inductive Description where
  | text (s : Text)
  | bytes (b : Bytes)
  | missing
  deriving DecidableEq, Repr

/-- An item of a feed. -/
structure Item where
  title : Text
  link : Text
  published : Text
  description : Description
  deriving DecidableEq, Repr

/-- A feed. -/
structure Feed where
  url : Text
  title : Text
  items : List Item := []
  deriving DecidableEq, Repr

end FeedPage
