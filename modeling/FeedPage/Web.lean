-- SUMMARY: The web as a table of answers, and programs that ask it: their result, what they requested and logged, and the web they leave.
import FeedPage.Feed
import FeedPage.Log
import FeedPage.Html.Token
import FeedPage.Url.Basic
import FeedPage.Feed.Fault

/-!
# The web

The web is a table: each URL has a queue of answers. A request takes the first answer of its queue;
the last answer is given again and again, and a URL without answers answers that nothing is there.

A program that makes requests is a function of the web (`Act`). Its outcome holds the result or the
fault that ended it, the requests it made and what it logged, in order, and the web it left. An
outcome that ends in a fault keeps the requests and the log up to the fault.
-/

namespace FeedPage

/-- How the web answers a request. -/
inductive Answer where
  | response (status : Int) (content : Bytes)
  /-- The request failed on the way, as requests do. -/
  | networkFailure (kind cause : Text)
  /-- The request failed in a way that no caller expects. -/
  | failure (kind cause : Text)
  deriving DecidableEq, Repr

/-- What ends a program without a result. -/
inductive Fault where
  /-- A collaborator failed; `kind` names the failure. -/
  | raised (kind cause : Text)
  | url (why : Url.Error)
  | page (why : Html.Rejection)
  | feed (why : Feed.Fault)
  deriving DecidableEq, Repr

/-- A request: where it goes, and how many seconds it may take to connect and to be answered. -/
structure Request where
  url : Text
  connectSeconds : Nat := 5
  readSeconds : Nat := 15
  deriving DecidableEq, Repr

/-- The answers of each URL. -/
structure Web where
  queues : List (Text × List Answer) := []
  deriving DecidableEq, Repr

namespace Web

/-- The queue of a URL. -/
def queue? (w : Web) (url : Text) : Option (List Answer) := w.queues.lookup url

/-- The web in which a URL has no answers. -/
def drop (w : Web) (url : Text) : Web := ⟨w.queues.filter (·.1 ≠ url)⟩

/-- The web in which a URL has the given answers. -/
def put (w : Web) (url : Text) (answers : List Answer) : Web :=
  ⟨(url, answers) :: (w.drop url).queues⟩

/-- The answer to a request, and the web after it. -/
def ask (w : Web) (url : Text) : Answer × Web :=
  match w.queue? url with
  | some (a :: b :: rest) => (a, w.put url (b :: rest))
  | some [a] => (a, w)
  | _ => (.response 404 [], w)

end Web

/-- How a program ended. -/
structure Outcome (α : Type) where
  result : Except Fault α
  requests : List Request := []
  log : List LogEntry := []
  web : Web

/-- A program that may make requests. -/
def Act (α : Type) := Web → Outcome α

namespace Act

/-- Ends with a value. -/
def done {α : Type} (a : α) : Act α := fun w => { result := .ok a, web := w }

/-- Ends with a fault. -/
def fail {α : Type} (f : Fault) : Act α := fun w => { result := .error f, web := w }

/-- Goes on with the value of the first program; a fault ends both. -/
def andThen {α β : Type} (x : Act α) (f : α → Act β) : Act β := fun w =>
  let o := x w
  match o.result with
  | .error e => { result := .error e, requests := o.requests, log := o.log, web := o.web }
  | .ok a =>
    let o' := f a o.web
    { result := o'.result, requests := o.requests ++ o'.requests, log := o.log ++ o'.log,
      web := o'.web }

instance : Monad Act where
  pure := done
  bind := andThen

/-- Logs an entry. -/
def log (e : LogEntry) : Act Unit := fun w => { result := .ok (), log := [e], web := w }

/-- Logs entries. -/
def logAll (es : List LogEntry) : Act Unit := fun w => { result := .ok (), log := es, web := w }

/-- Makes a request. -/
def request (url : Text) : Act Answer := fun w =>
  { result := .ok (w.ask url).1, requests := [{ url := url }], web := (w.ask url).2 }

/-- Ends as the result tells. -/
def ofExcept {ε α : Type} (fault : ε → Fault) : Except ε α → Act α
  | .ok a => done a
  | .error e => fail (fault e)

end Act
end FeedPage
