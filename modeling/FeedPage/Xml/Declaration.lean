-- SUMMARY: The encoding that the first line of a document declares.
import FeedPage.Text.Basic

/-!
# XML declarations

The first line of a document may declare its encoding. It begins with `<?`, and the last place of
the line counts at which `encoding=` has a value in quotes and `?>` follows at some place behind it.
-/

namespace FeedPage.Xml

/-- The value between quotes behind `encoding=`, which `after?` takes off the front: the rest of the
line must hold a closing quote, and `?>` at some place behind it. -/
def quotedEncoding? (after? : Text → Text → Option Text) (s : Text) : Option Text :=
  match after? "encoding=".toList s with
  | some (q :: t) =>
    if q = '\'' ∨ q = '"' then
      let line := t.takeWhile (· ≠ '\n')
      let label := line.takeWhile fun c => !(c == '\'' || c == '"')
      let rest := line.drop label.length
      if !rest.isEmpty && (Text.cut? "?>".toList (rest.drop 1)).isSome then some label else none
    else none
  | _ => none

/-- The encoding of the declaration at the front of a text; `after?` takes the word `encoding=` off
the front of a text, in the cases that are meant. -/
def declaredEncoding? (after? : Text → Text → Option Text) (s : Text) : Option Text :=
  match Text.after? "<?".toList s with
  | none => none
  | some t => lastOn? t
where
  /-- The last `encoding=` of the line with a complete value. -/
  lastOn? : Text → Option Text
    | [] => none
    | c :: s => if c = '\n' then none else lastOn? s <|> quotedEncoding? after? (c :: s)

/-- What follows the XML declaration at the front of a text. -/
def afterDeclaration? (s : Text) : Option Text :=
  ((Text.after? "<?xml".toList s).bind (Text.cutChar? '>')).map (·.2)

end FeedPage.Xml
