-- SUMMARY: The library download page: a fixed template with one slot for the rows of the feed.
import FeedPage.Publish

/-!
# The page

The page is a template: source text with slots for the keywords, the description, the URL of the
feed, and the rows. The first three are escaped; the rows are put in as they are.
-/

namespace FeedPage

namespace Page

/-- The site whose feed is shown. -/
def feedUrl : Text := "http://tmate.org/svn/".toList

/-- The keywords of the page. -/
def keywords : Text :=
  Text.join [','] (["Subversion", "SVN", "Version Control", "Java", "Library", "Development",
    "Team", "Teamwork", "Configuration Management", "Software Configuration Management", "SCM",
    "CM", "Revision Control", "Collaboration", "Open Source", "Software Development",
    "Collaborative Software Development"].map String.toList)

/-- The description of the page. -/
def description : Text :=
  "Pure Java Subversion Library. Open Source, provided by TMate Software".toList

/-- A slot of the template. -/
inductive Slot where
  | keywords
  | description
  | feedUrl
  | rows
  deriving DecidableEq, Repr

/-- A piece of the template. -/
inductive Piece where
  | source (s : String)
  | slot (name : Slot)
  deriving DecidableEq, Repr

/-- The template of the page. -/
def template : List Piece :=
  [.source "<!DOCTYPE html PUBLIC \"-//W3C//DTD XHTML 1.0 Transitional//EN\" ",
   .source "\"http://www.w3.org/TR/xhtml1/DTD/xhtml1-transitional.dtd\">\n",
   .source "<html xmlns=\"http://www.w3.org/1999/xhtml\">\n",
   .source "<head><title>Get&#160;JavaSVN&#160;Library</title>\n",
   .source "<meta name=\"keywords\" content=\"",
   .slot .keywords,
   .source "\" />\n",
   .source "<meta name=\"description\" content=\"",
   .slot .description,
   .source "\" />\n",
   .source "<meta http-equiv=\"Content-Type\" content=\"text/html; charset=iso-8859-1\" />\n",
   .source "<link rel=\"stylesheet\" type=\"text/css\" media=\"screen\" href=\"home0000.css\" />\n",
   .source "</head>\n",
   .source "\n",
   .source "<body>\n",
   .source "<table bgcolor=\"white\" width=\"900\" cellpadding=\"0\" align=\"center\" ",
   .source "style=\"height: 100%;\" border=\"0\" cellspacing=\"0\">\n",
   .source "<tr align=\"center\" valign=\"top\">\n",
   .source "<td colspan=\"1\" rowspan=\"1\">\n",
   .source "\n",
   .source "<div class=\"leftedge\">\n",
   .source "<div class=\"rightedge\">\n",
   .source "\n",
   .source "<table cellpadding=\"0\" align=\"center\" width=\"870\" style=\"height:100%\" ",
   .source "border=\"0\" cellspacing=\"0\">\n",
   .source "<tr align=\"center\" valign=\"top\">\n",
   .source "<td align=\"left\" valign=\"top\" style=\"padding: 20px 20px 20px 20px;\">\n",
   .source "\n",
   .source "<p>\n",
   .source "<span class=\"javasvn\"><a style=\"border-bottom: 0px; color: rgb(51, 102, 153);\" ",
   .source "href=\"http://tmate.org/svn/\">JavaSVN</a>&#160;</span><span style=\"font-size: 140%; ",
   .source "font-weight: bold;\">The only pure Java Subversion client library in the ",
   .source "world!</span>\n",
   .source "</p>\n",
   .source "<br />\n",
   .source "<div style=\"border-bottom: 1px solid #ccc;\"></div>\n",
   .source "<small><a href=\"index.html\" style=\"border-bottom: 0px;\">Home</a></small>\n",
   .source "\n",
   .source "\n",
   .source "<h1>JavaSVN Library</h1>\n",
   .source "<!--Contents-->\n",
   .source "<br />\n",
   .source "<h4>Repository</h4>\n",
   .source "To browse source code visit <a id=\"normal\" ",
   .source "href=\"http://72.9.228.230:8080/svn/jsvn/\">http://72.9.228.230:8080/svn/jsvn/</a>\n",
   .source "<br />To get the latest source code (with the SVN command line client) use the ",
   .source "following command:\n",
   .source "<pre>$ svn co http://72.9.228.230:8080/svn/jsvn/trunk/</pre>\n",
   .source "<br />\n",
   .source "<p>\n",
   .source "Check the <a href=\"status.html\">JavaSVN status</a> page to see\n",
   .source "what features are planned, but not yet implemented.\n",
   .source "</p>\n",
   .source "<br />\n",
   .source "<table width=\"100%\">\n",
   .source "<tbody>\n",
   .source "<tr><td width=\"30%\"><span style=\"font-size: 12pt\"><b>Download</b></span></td>\n",
   .source "<td align=\"right\" width=\"70%\"><a style=\"text-decoration: none; border: 0px;\" ",
   .source "href=\"rss.xml\"><span style=\"font-family:Arial;font-size:9px;background: ",
   .source "#ff6000;color: #fff;padding: 0 4px\">rss&#160;1.0</span></a>\n",
   .source "<a style=\"text-decoration: none; border: 0px;\" href=\"rss2.xml\"><span ",
   .source "style=\"font-family:Arial;font-size:9px;background: #ff6000;color: #fff;padding: 0 ",
   .source "4px\">rss&#160;2.0</span></a></td>\n",
   .source "</tr>\n",
   .source "<tr><td style=\"padding-bottom: 5px;\" colspan=\"2\"><b>Note:</b> to get an Eclipse ",
   .source "plugin version use <b>",
   .slot .feedUrl,
   .source "</b> as an update site location in Eclipse Update Manager.<br /></td></tr>\n",
   .slot .rows,
   .source "\n",
   .source "</tbody></table>\n",
   .source "<br />\n",
   .source "\n",
   .source "<table style=\"margin-top: 1em;\" width=\"100%\" cellpadding=\"0\" ",
   .source "cellspacing=\"0\"><tr><td id=\"footer\" align=\"left\">Copyright &#169;\n",
   .source "2004-2005, TMate Software</td><td align=\"right\" id=\"footer\">feedback is welcome ",
   .source "at <a href=\"mailto:feedback%40tmatesoft.com\">feedback@tmatesoft.com</a>",
   .source "</td></tr></table>\n",
   .source "\n",
   .source "</td>\n",
   .source "</tr>\n",
   .source "</table>\n",
   .source "</div>\n",
   .source "</div>\n",
   .source "</td>\n",
   .source "</tr>\n",
   .source "</table>\n",
   .source "\n",
   .source "</body>\n",
   .source "</html>\n"]

/-- What stands in a slot. -/
def Slot.content (rows : Text) : Slot → Text
  | .keywords => escape Page.keywords
  | .description => escape Page.description
  | .feedUrl => escape Page.feedUrl
  | .rows => rows

/-- The text of a piece. -/
def Piece.text (rows : Text) : Piece → Text
  | .source s => s.toList
  | .slot name => name.content rows

/-- The page with the given rows. -/
def render (rows : Text) : Text := template.flatMap (Piece.text rows)

end Page

/-- The page with the rows that a publisher gives. -/
def renderPage (publish : Publisher) : Act Text := do
  let rows ← publish Page.feedUrl
  Act.log (.pageRendered rows.length)
  pure (Page.render rows)

end FeedPage
