-- SUMMARY: The reading of a feed: the state after the events of well-formed XML, or the tokens of lenient markup.
import FeedPage.Feed.Tag
import FeedPage.Markup.Token
import FeedPage.Xml.Event

/-!
# Reading

A feed is read event by event when it is well-formed XML, and token by token when it is not. Both
come down to tags, text and references.

In well-formed XML a name belongs to a namespace, whatever its qualifier. It is read with the short
name of its vocabulary, or else with a qualifier that the feed declares for its namespace. An
attribute is read under its name in its vocabulary, and under its name as it is written.
-/

namespace FeedPage.Feed.State

/-! ## Well-formed XML -/

/-- A qualifier in front of a base name. -/
def qualify (qualifier base : Text) : Text :=
  if qualifier.isEmpty then base else qualifier ++ ':' :: base

/-- The tag of an element. -/
def tagOf (q : State) (name : Xml.ExpandedName) : Text :=
  let short := (shortName? (name.space.getD [])).getD []
  let qualifier :=
    if short.isEmpty then
      ((q.spaces.find? fun (n, s) => !n.isEmpty && some s = name.space).map (·.1)).getD []
    else short
  Text.lower (qualify qualifier name.base)

/-- The namespace of links between documents. -/
def linkSpace : Text := "http://www.w3.org/1999/xlink".toList

/-- The attributes of an element under both of their names, behind those it has anyway. -/
def attributesOf (own : Attributes) (attrs : List Xml.Attribute) : Attributes :=
  let named := attrs.map fun a =>
    (qualify ((shortName? (a.name.space.getD [])).getD []) a.name.base, a.value)
  let written := attrs.map fun a => (qualify (a.written.qualifier.getD []) a.written.base, a.value)
  (named ++ written).foldl (fun out (name, value) => assign (Text.lower name) value out) own

/-- An event of well-formed XML is read. -/
def event (q : State) : Xml.Event → Except Fault State
  | .declare qualifier space =>
    if space.isEmpty then .ok q
    else
      let q := q.declareSpace qualifier space
      match qualifier with
      | some name =>
        .ok <| if space = linkSpace then
          { q with links := assign ("xmlns:".toList ++ name) space q.links }
        else q
      | none => .ok q
  | .start name attrs =>
    let name := { name with space := name.space.map unifySpace, base := Text.lower name.base }
    let space := name.space.getD []
    let own :=
      if drawingSpaces.contains (name.base, space) then assign "xmlns".toList space q.links
      else q.links
    { q with links := [] }.startTag (q.tagOf name) (attributesOf own attrs)
  | .finish name => q.endTag (q.tagOf name)
  | .text s => .ok (q.addText s)

/-- Events are read one after the other. -/
def events (q : State) : List Xml.Event → Except Fault State
  | [] => .ok q
  | e :: es => do (← q.event e).events es

theorem events_append (q : State) (es fs : List Xml.Event) :
    q.events (es ++ fs) = (q.events es).bind (·.events fs) := by
  induction es generalizing q with
  | nil => rfl
  | cons e es ih =>
    simp only [List.cons_append, events, bind, Except.bind]
    cases q.event e with
    | error _ => rfl
    | ok q => exact ih q

/-! ## Lenient markup -/

/-- A token of lenient markup is read. -/
def token (q : State) : Markup.Token → Except Fault State
  | .text s => .ok (q.addText s)
  | .section_ s => .ok (q.addPiece { text := escapeContent s })
  | .number digits => q.addNumber digits
  | .named name => .ok (q.addEntity name)
  | .startTag name attrs => q.startTag name (attrs.map fun a => (a.name, a.value))
  | .endTag name => q.endTag name
  | .comment _ | .instruction _ | .doctype _ => .ok q

/-- Tokens are read one after the other. -/
def tokens (q : State) : List Markup.Token → Except Fault State
  | [] => .ok q
  | t :: ts => do (← q.token t).tokens ts

end FeedPage.Feed.State
