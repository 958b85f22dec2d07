-- SUMMARY: Whether a text that is said to be plain looks like markup.
import FeedPage.Html.Entity
import FeedPage.Html.Safe

/-!
# Guessing markup

Text that is said to be plain is often markup. It looks like markup when it holds an end tag or a
reference, and when all of its tags and named references are known ones.
-/

namespace FeedPage.Html

/-- A part with a mark before it and a mark behind it, made of word characters between. -/
def enclosedWord? (opening : Text) (closing : Char) (s : Text) : Option Text :=
  match Text.after? opening s with
  | none => none
  | some t =>
    if !(t.takeWhile Text.isWord).isEmpty && (t.dropWhile Text.isWord).head? = some closing then
      some (t.takeWhile Text.isWord)
    else none

/-- The name in a tag at the front. -/
def tagName? (s : Text) : Option Text :=
  match s with
  | '<' :: '/' :: t | '<' :: t =>
    if (t.takeWhile Text.isWord).isEmpty then none else some (t.takeWhile Text.isWord)
  | _ => none

/-- Whether a text looks like markup. -/
def looksLikeMarkup (s : Text) : Bool :=
  let finds (m : Text → Option Text) : List Text :=
    Text.collect (fun s => (m s).map fun w => (w.length + 1, w)) s
  let endTags := finds (enclosedWord? "</".toList '>')
  let references := finds (enclosedWord? ['&'] ';')
  let numbers := finds (enclosedWord? "&#".toList ';')
  !(endTags.isEmpty && references.isEmpty && numbers.isEmpty) &&
    (finds tagName?).all (fun n => Text.lower n ∈ safeElements) &&
    references.all fun n => (Entity.classic? n).isSome

end FeedPage.Html
