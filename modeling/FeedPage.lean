import FeedPage.Text.Basic
import FeedPage.Text.Blank
import FeedPage.Text.Word
import FeedPage.Text.Printable
import FeedPage.Text.Digit
import FeedPage.Text.Integer
import FeedPage.Text.Case
import FeedPage.Text.Utf8
import FeedPage.Text.Quoted
import FeedPage.Text.Base64
import FeedPage.Text.Windows1252
import FeedPage.Text.Charset
import FeedPage.Html.Entity
import FeedPage.Html.Reference
import FeedPage.Html.Visible
import FeedPage.Html.Alternate
import FeedPage.Html.Absolute
import FeedPage.Html.Safe
import FeedPage.Html.Guess
import FeedPage.Url.Resolve
import FeedPage.Url.Safe
import FeedPage.Xml.Event
import FeedPage.Markup.Render
import FeedPage.Feed.Date
import FeedPage.Feed.Read
import FeedPage.Rows
import FeedPage.Page
import FeedPage.Http
import FeedPage.Settings
import FeedPage.Session
import FeedPage.Main
import FeedPage.Proofs.Rows.ReadBack
import FeedPage.Proofs.Fetch.Trace
import FeedPage.Proofs.Publish.Breakage
import FeedPage.Proofs.Page.Latin1
import FeedPage.Proofs.Rows.Apart
import FeedPage.Proofs.Feed.ReadBack
import FeedPage.Proofs.Publish.Report
import FeedPage.Proofs.Publish.Calls
import FeedPage.Proofs.Page.Substitution
import FeedPage.Proofs.Http.Surface
import FeedPage.Proofs.Xml.Parts
import FeedPage.Proofs.Xml.Unique
import FeedPage.Proofs.Xml.Tree
import FeedPage.Proofs.Xml.Printed
import FeedPage.Proofs.Page.Table
import FeedPage.Proofs.Session.Isolation
import FeedPage.Proofs.Html.Cleaned
import FeedPage.Proofs.Html.Advertised
import FeedPage.Proofs.Site.Outside
import FeedPage.Proofs.Text.Utf8
import FeedPage.Proofs.Settings.Configured
import FeedPage.Proofs.Url.Nearby
