-- SUMMARY: Sessions: named feeds that are built, loaded, edited, rendered and compared over a changing web.
import FeedPage.Fetch
import FeedPage.Rows

/-!
# Sessions

A session holds a web and named feeds. Its steps change the web, build or load a feed under a name,
edit one, render one, or compare two. A step that fails leaves every feed as it was.

A feed is a value with items of its own. That is all there is to say of lists that change in place:
every feed that is built or loaded begins with a fresh list, one that is built without items too, no
step hands the list of one feed to another, and so there is never a second name through which a
change could show.
-/

namespace FeedPage.Session

/-- Where a session stands. -/
structure State where
  web : Web := {}
  feeds : List (Text × Feed) := []
  deriving DecidableEq, Repr

/-- A change of one field of an item. -/
inductive Change where
  | title (s : Text)
  | link (s : Text)
  | published (s : Text)
  | description (d : Description)
  deriving DecidableEq, Repr

/-- A step of a session. A place in a list counts from its end when it is negative. -/
inductive Step where
  | put (url : Text) (answers : List Answer)
  | drop (url : Text)
  | new (name : Text) (feed : Feed)
  | load (name url : Text)
  | add (name : Text) (item : Item) (place : Option Int)
  | remove (name : Text) (place : Int)
  | edit (name : Text) (place : Int) (change : Change)
  | rows (name : Text)
  | equal (a b : Text)
  deriving DecidableEq, Repr

/-- Why a step fails. -/
inductive Failure where
  | unknownName (name : Text)
  /-- There is no item to remove at the place. -/
  | nothingToRemove
  /-- There is no item to edit at the place. -/
  | nothingToEdit
  | fault (why : Fault)
  deriving DecidableEq, Repr

/-- What a step answers. -/
inductive Reply where
  | done
  | known (was : Bool)
  | built (feed : Feed)
  | loaded (feed : Option Feed)
  | count (n : Nat)
  | rows (s : Text)
  | equal (same : Bool)
  deriving DecidableEq, Repr

/-- How a step ended. -/
structure Result where
  reply : Except Failure Reply
  requests : List Request := []
  log : List LogEntry := []
  state : State

/-- The feed of a name. -/
def State.feed? (q : State) (name : Text) : Option Feed := q.feeds.lookup name

/-- The session in which a name has the given feed. -/
def State.store (q : State) (name : Text) (feed : Feed) : State :=
  { q with feeds := (name, feed) :: q.feeds.filter (·.1 ≠ name) }

/-- A place from the end as a place from the front. -/
def fromFront (length : Nat) (place : Int) : Int := if place < 0 then place + length else place

/-- The place of an existing item. -/
def placeOf? (length : Nat) (place : Int) : Option Nat :=
  let k := fromFront length place
  if 0 ≤ k ∧ k < length then some k.toNat else none

/-- The place before which a new item goes; places outside the list are its ends. -/
def insertionPlace (length : Nat) : Option Int → Nat
  | none => length
  | some place => min (fromFront length place).toNat length

/-- An item after a change. -/
def Change.apply (item : Item) : Change → Item
  | title s => { item with title := s }
  | link s => { item with link := s }
  | published s => { item with published := s }
  | description d => { item with description := d }

/-- Goes on with the feed of a name; an unknown name fails. -/
def State.withFeed (q : State) (name : Text) (f : Feed → Result) : Result :=
  match q.feed? name with
  | none => { reply := .error (.unknownName name), state := q }
  | some feed => f feed

/-- One step. -/
def State.step (q : State) : Step → Result
  | .put url answers => { reply := .ok .done, state := { q with web := q.web.put url answers } }
  | .drop url =>
    { reply := .ok (.known (q.web.queue? url).isSome), state := { q with web := q.web.drop url } }
  | .new name feed => { reply := .ok (.built feed), state := q.store name feed }
  | .load name url =>
    let o := fetchFeed url q.web
    let q := { q with web := o.web }
    { reply := match o.result with
        | .ok feed => .ok (.loaded feed)
        | .error why => .error (.fault why)
      requests := o.requests
      log := o.log
      state := match o.result with
        | .ok (some feed) => q.store name feed
        | _ => q }
  | .add name item place => q.withFeed name fun feed =>
    let items := feed.items.insertIdx (insertionPlace feed.items.length place) item
    { reply := .ok (.count items.length), state := q.store name { feed with items := items } }
  | .remove name place => q.withFeed name fun feed =>
    match placeOf? feed.items.length place with
    | none => { reply := .error .nothingToRemove, state := q }
    | some k =>
      let items := feed.items.eraseIdx k
      { reply := .ok (.count items.length), state := q.store name { feed with items := items } }
  | .edit name place change => q.withFeed name fun feed =>
    match placeOf? feed.items.length place with
    | none => { reply := .error .nothingToEdit, state := q }
    | some k =>
      { reply := .ok .done
        state := q.store name { feed with items := feed.items.modify k change.apply } }
  | .rows name => q.withFeed name fun feed =>
    { reply := .ok (.rows feed.rows), log := feed.rowsLog, state := q }
  | .equal a b => q.withFeed a fun feedA => q.withFeed b fun feedB =>
    { reply := .ok (.equal (feedA = feedB)), state := q }

end FeedPage.Session
