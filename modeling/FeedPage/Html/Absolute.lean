-- SUMMARY: Markup with its references resolved against a base.
import FeedPage.Markup.Render
import FeedPage.Url.Safe

/-!
# Absolute references

Markup that is shown away from its place needs references that are complete. Those attributes that
hold references are resolved against the base; a reference that cannot be resolved to a safe one
stays as it is.
-/

namespace FeedPage.Html

/-- The attributes that hold references, with their elements. -/
def referenceAttributes : List (String × String) :=
  [("a", "href"), ("applet", "codebase"), ("area", "href"), ("audio", "src"),
    ("blockquote", "cite"), ("body", "background"), ("del", "cite"), ("form", "action"),
    ("frame", "longdesc"), ("frame", "src"), ("iframe", "longdesc"), ("iframe", "src"),
    ("head", "profile"), ("img", "longdesc"), ("img", "src"), ("img", "usemap"), ("input", "src"),
    ("input", "usemap"), ("ins", "cite"), ("link", "href"), ("object", "classid"),
    ("object", "codebase"), ("object", "data"), ("object", "usemap"), ("q", "cite"),
    ("script", "src"), ("source", "src"), ("video", "poster"), ("video", "src")]

/-- An attribute of an element with its reference resolved. -/
def resolveAttr (base element : Text) (a : Markup.Attr) : Markup.Attr :=
  if referenceAttributes.any fun (e, n) => e.toList = element && n.toList = a.name then
    let url := Url.safe base (Text.trim a.value)
    if url.isEmpty then a else { a with value := url }
  else a

/-- A token with its references resolved. -/
def resolveToken (base : Text) : Markup.Token → Markup.Token
  | .startTag name attrs => .startTag name ((Markup.normalize attrs).map (resolveAttr base name))
  | t => t

/-- Markup with its references resolved; in XHTML an empty tag closes its element. -/
def absolute (base : Text) (xhtml : Bool) (s : Text) : Text :=
  (Markup.tokens { closesEmpty := xhtml } s).flatMap fun t => (resolveToken base t).render

end FeedPage.Html
