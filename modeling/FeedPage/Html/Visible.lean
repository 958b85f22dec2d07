-- SUMMARY: The visible text of a page: what its tokens leave when the markup is taken away.
import FeedPage.Html.Token
import FeedPage.Text.Utf8

/-!
# Visible text

The visible text of a page is its text outside the elements whose text is not for display (scripts,
style sheets, templates, ruby annotations), with its references resolved. Text between two pieces of
markup is one run; a run of nothing but ASCII blanks shrinks to a line feed, if it holds one, or to
a space, except in preformatted elements. Comments, declarations and instructions are invisible, but
they end a run. The text of a CDATA section is visible everywhere.

To know in which elements a run stands, the open elements are tracked innermost first. An end tag
closes the innermost open element of its name and everything inside it, and is ignored when no
element of its name is open. A void element is closed at once; an explicit end tag for it is then
ignored once.
-/

namespace FeedPage.Html

/-- Elements without content. -/
def voidElements : List Text :=
  ["area", "base", "br", "col", "embed", "hr", "img", "input", "keygen", "link", "menuitem",
    "meta", "param", "source", "track", "wbr", "basefont", "bgsound", "command", "frame", "image",
    "isindex", "nextid", "spacer"].map String.toList

/-- Elements whose text is not for display. -/
def hiddenElements : List Text := ["rt", "rp", "style", "script", "template"].map String.toList

/-- Elements that keep their blanks. -/
def preformattedElements : List Text := ["pre", "textarea"].map String.toList

namespace Visible

/-- Where reading stands: the open elements, innermost first; the void elements that were closed at
once and whose end tag may still come; and the run of text that is being collected, if one has
begun. -/
structure State where
  openElements : List Text := []
  closedAtOnce : List Text := []
  pending : Option Text := none
  deriving DecidableEq, Repr

/-- A run of text as it is shown: a run of blanks shrinks unless it is kept. -/
def collapse (keep : Bool) (run : Text) : Text :=
  if !keep && run.all Text.isAsciiBlank then if '\n' ∈ run then ['\n'] else [' '] else run

/-- Whether the open elements keep blanks. -/
def State.keeps (q : State) : Bool := q.openElements.any (· ∈ preformattedElements)

/-- Whether the open elements hide their text. -/
def State.hides (q : State) : Bool := q.openElements.any (· ∈ hiddenElements)

/-- Ends the run: the text shown for it, and the state without it. -/
def State.flush (q : State) : Text × State :=
  match q.pending with
  | none => ([], q)
  | some run => (if q.hides then [] else collapse q.keeps run, { q with pending := none })

/-- Adds text to the run. -/
def State.append (q : State) (s : Text) : State :=
  { q with pending := some (q.pending.getD [] ++ s) }

/-- The character that a numeric reference stands for in running text: the numbers below 256 are
read as Windows-1252, and a number that names no character is marked. -/
def charOfNumber (n : Nat) : Char :=
  if n = 0 ∨ (0xD800 ≤ n ∧ n ≤ 0xDFFF) ∨ 0x10FFFF < n then '\ufffd'
  else (Text.windows1252? n).getD (Char.ofNat n)

/-- The number that the digits of a reference denote. -/
def numberOfDigits : Text → Nat
  | 'x' :: hex => Text.ofHexDigits hex
  | 'X' :: hex => Text.ofHexDigits hex
  | digits => Text.ofDecimalDigits digits

/-- The text of a named reference. An unknown name stays as it was written, without its
semicolon. -/
def textOfName (name : Text) : Text := (Entity.named? name).getD ('&' :: name)

/-- The open elements after an end tag. -/
def closeElement (name : Text) (openElements : List Text) : List Text :=
  if name ∈ openElements then (openElements.dropWhile (· ≠ name)).drop 1 else openElements

/-- The text shown when a token ends a run, and the state after it. -/
def State.step (q : State) : Token → Text × State
  | .text s => ([], q.append s)
  | .charRef digits => ([], q.append [charOfNumber (numberOfDigits digits)])
  | .nameRef name => ([], q.append (textOfName name))
  | .startTag name _ closed =>
    let (shown, q) := q.flush
    if closed then
      if name ∈ q.closedAtOnce then
        (shown, { q with openElements := name :: q.openElements
                         closedAtOnce := q.closedAtOnce.erase name })
      else (shown, q)
    else if name ∈ voidElements then (shown, { q with closedAtOnce := name :: q.closedAtOnce })
    else (shown, { q with openElements := name :: q.openElements })
  | .endTag name =>
    if name ∈ q.closedAtOnce then ([], { q with closedAtOnce := q.closedAtOnce.erase name })
    else
      let (shown, q) := q.flush
      (shown, { q with openElements := closeElement name q.openElements })
  | .section_ content =>
    let (shown, q) := q.flush
    match Text.afterFolded? "cdata[".toList content with
    | some s => (shown ++ collapse q.keeps s, q)
    | none => (shown, q)
  | .comment | .instruction | .doctype => q.flush

/-- The text shown for a sequence of tokens. -/
def State.show (q : State) : List Token → Text
  | [] => q.flush.1
  | t :: ts => (q.step t).1 ++ (q.step t).2.show ts

end Visible

/-- The visible text of a page. -/
def visibleText (page : Text) : Except Rejection Text :=
  (tokens page).map fun ts => Visible.State.show {} ts

end FeedPage.Html
