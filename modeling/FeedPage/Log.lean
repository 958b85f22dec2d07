-- SUMMARY: What the program logs, by event, with the wording of each.
import FeedPage.Text.Quoted

/-!
# Log

Each kind of event that is logged is one constructor; its level and its wording follow from it.
-/

namespace FeedPage

/-- The level of a log entry. -/
inductive Level where
  | info
  | error
  deriving DecidableEq, Repr

/-- A log entry. -/
inductive LogEntry where
  /-- A request failed. -/
  | fetchFailed (url cause : Text)
  /-- A request was answered with a status other than 200. -/
  | fetchRefused (url : Text) (status : Int)
  /-- The document at `url` is no feed; the feed it advertises is tried next. -/
  | tryingNext (url next : Text)
  /-- The advertised document is no feed either. -/
  | noFeedFound (url : Text)
  /-- Nothing can be published for the site at `url`. -/
  | nothingToPublish (url : Text)
  | itemsFound (count : Nat) (url title : Text)
  /-- A description could not be read. -/
  | cleaningFailed (cause : Text)
  | pageRendered (fragmentLength : Nat)
  | badPort (value : Text)
  | serving (host : Text) (port : Int)
  deriving DecidableEq, Repr

/-- The level of an entry. -/
def LogEntry.level : LogEntry → Level
  | tryingNext .. | itemsFound .. | pageRendered .. | serving .. => .info
  | _ => .error

/-- The wording of an entry. -/
def LogEntry.message : LogEntry → Text
  | fetchFailed url cause => "Failed to fetch ".toList ++ url ++ ": ".toList ++ cause
  | fetchRefused url status =>
    "Failed to fetch ".toList ++ url ++ ": ".toList ++ Text.ofInt status
  | tryingNext url next =>
    "No feed at ".toList ++ url ++ ". Trying ".toList ++ next ++ "...".toList
  | noFeedFound url => "No feed found at ".toList ++ url
  | nothingToPublish url => "No feed to publish for ".toList ++ url
  | itemsFound count url title =>
    Text.ofNat count ++ " items found for ".toList ++ url ++ " - ".toList ++ title
  | cleaningFailed cause => "Failed to clean HTML: ".toList ++ cause
  | pageRendered n =>
    "Rendered library page with ".toList ++ Text.ofNat n ++ " character feed fragment".toList
  | badPort value => "LIBRARY_PAGE_PORT must be an integer, got ".toList ++ Text.quoted value
  | serving host port =>
    "Serving library page on http://".toList ++ host ++ ":".toList ++ Text.ofInt port ++ "/".toList

end FeedPage
