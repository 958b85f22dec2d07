-- SUMMARY: Descriptions without their markup, and the wording of a rejected page.
import FeedPage.Feed
import FeedPage.Log
import FeedPage.Html.Visible

/-!
# Clean descriptions

A description is shown as its visible text. Bytes are read as UTF-8 with invalid groups dropped, and
a missing description is empty. A description that cannot be read is shown as empty too, and the
reason is logged.
-/

namespace FeedPage

namespace Html

/-- The reason that a rejected page gives: its marked section, or its number. -/
def Rejection.reason : Rejection → Text
  | .unknownSection name =>
    "unknown status keyword ".toList ++ Text.quoted name ++ " in marked section".toList
  | .namelessSection source => "expected name token at ".toList ++ Text.quoted (source.take 20)
  | .numberTooLong digits => Text.tooManyDigits digits

/-- What stands in front of a reason that concerns the markup. -/
def markupRejected : Text :=
  ("The markup you provided was rejected by the parser. Trying a different parser or a different " ++
    "encoding may help.\n\nOriginal exception(s) from parser:\n AssertionError: ").toList

/-- The wording of a rejection. -/
def Rejection.message (why : Rejection) : Text :=
  match why with
  | .numberTooLong _ => why.reason
  | _ => markupRejected ++ why.reason

end Html

/-- The text of a description, with its markup. -/
def Description.source : Description → Text
  | .text s => s
  | .bytes b => Text.ofUtf8Dropping b
  | .missing => []

/-- The visible text of a description, and what is logged about it. -/
def Description.clean (d : Description) : Text × List LogEntry :=
  match d with
  | .missing => ([], [])
  | d => match Html.visibleText d.source with
    | .ok s => (s, [])
    | .error why => ([], [.cleaningFailed why.message])

end FeedPage
