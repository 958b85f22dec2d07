-- SUMMARY: Requests to the server and its responses: the two routes of the page, the automatic methods, and Latin-1 bodies.
import FeedPage.Page
import FeedPage.Text.Utf8

/-!
# Serving

The server has one page on two paths. `GET` and `HEAD` on them run the publisher and answer with the
page; `OPTIONS` tells the methods; any other method is refused. The page goes out in Latin-1, with
the characters that Latin-1 lacks as numeric references. A publisher that fails makes the answer an
error of the server, without any of the page.
-/

namespace FeedPage.Http

/-- A request to the server. -/
structure Request where
  method : Text
  target : Text
  deriving DecidableEq, Repr

/-- A response of the server. Media type, length and body are those of a successful response; the
body is its bytes as characters. -/
structure Response where
  status : Nat
  type : Option Text := none
  length : Option Nat := none
  allow : Option (List Text) := none
  body : Option Text := none
  deriving DecidableEq, Repr

/-- What a path leads to. -/
inductive Route where
  /-- The page. -/
  | page
  /-- The place of static files, where there are none. -/
  | static
  /-- An empty path, which is sent to the page. -/
  | root
  | nothing
  deriving DecidableEq, Repr

/-- The bytes of a path with its percent escapes resolved; an incomplete escape stays. -/
def unescape : Bytes → Bytes
  | 0x25 :: a :: b :: rest =>
    match Text.hexDigit? (Char.ofNat a.toNat), Text.hexDigit? (Char.ofNat b.toNat) with
    | some x, some y => UInt8.ofNat (16 * x + y) :: unescape rest
    | _, _ => 0x25 :: unescape (a :: b :: rest)
  | c :: s => c :: unescape s
  | [] => []
termination_by s => s.length

/-- The path that a target names: without query and fragment, its escapes resolved, and with one
slash in front. -/
def pathOf (target : Text) : Text :=
  match Url.split [] target with
  | .error _ => "/?".toList
  | .ok u =>
    let path := Text.ofUtf8Marking (unescape (Text.toUtf8 u.path))
    if path.isEmpty then [] else '/' :: path.dropWhile (· == '/')

/-- The route of a path. -/
def route (path : Text) : Route :=
  if path = "/".toList ∨ path = "/library.html".toList then .page
  else if path.isEmpty then .root
  else match Text.after? "/static/".toList path with
    | some (c :: _) => if c = '/' then .nothing else .static
    | _ => .nothing

/-- The methods that are answered. -/
def methods : List Text := ["GET", "HEAD", "OPTIONS"].map String.toList

/-- A character in Latin-1: itself, or a numeric reference. -/
def latin1Char (c : Char) : Text :=
  if c.toNat < 256 then [c] else "&#".toList ++ Text.ofNat c.toNat ++ [';']

/-- A text in Latin-1, each byte as the character of its code. -/
def latin1 (s : Text) : Text := s.flatMap latin1Char

/-- The media type of the page. -/
def pageType : Text := "text/html; charset=iso-8859-1".toList

/-- The answer to `OPTIONS`. -/
def options : Response :=
  { status := 200, type := some "text/html; charset=utf-8".toList, length := some 0,
    allow := some methods, body := some [] }

/-- The response with a page. -/
def pageResponse (headOnly : Bool) (page : Text) : Response :=
  let body := latin1 page
  { status := 200, type := some pageType, length := some body.length,
    body := some (if headOnly then [] else body) }

/-- The program whose faults become values. -/
def attempt {α : Type} (x : Act α) : Act (Except Fault α) := fun w =>
  let o := x w
  { result := .ok o.result, requests := o.requests, log := o.log, web := o.web }

/-- The response to a request. -/
def respond (publish : Publisher) (request : Request) : Act Response :=
  let method := request.method.map Char.toUpper
  match route (pathOf request.target) with
  | .nothing => pure { status := 404 }
  | .root => pure { status := if method ∈ methods then 308 else 404 }
  | .static =>
    if method = "OPTIONS".toList then pure options
    else if method ∈ methods then pure { status := 404 }
    else pure { status := 405, allow := some methods }
  | .page =>
    if method = "OPTIONS".toList then pure options
    else if method ∈ methods then do
      match ← attempt (renderPage publish) with
      | .ok page => pure (pageResponse (method = "HEAD".toList) page)
      | .error _ => pure { status := 500 }
    else pure { status := 405, allow := some methods }

end FeedPage.Http
