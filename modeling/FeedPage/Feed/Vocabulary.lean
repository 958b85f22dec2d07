-- SUMMARY: The vocabularies of feeds: namespaces with their short names, and the elements that have a meaning.
import FeedPage.Text.Case

/-!
# Vocabularies

Feeds mix vocabularies. A known namespace has a short name, whatever qualifier a feed gives it; that
of the feed formats themselves is empty. The name of an element is that of its vocabulary, an
underscore and its base name, or the base name alone.

An element may have a meaning when it starts (`Opening`), when it ends (`Closing`), or both.
-/

namespace FeedPage.Feed

/-! ## Namespaces -/

/-- The short names of the known namespaces. -/
def spaces : List (String × String) :=
  [("", ""), ("http://backend.userland.com/rss", ""),
    ("http://blogs.law.harvard.edu/tech/rss", ""), ("http://purl.org/rss/1.0/", ""),
    ("http://my.netscape.com/rdf/simple/0.9/", ""), ("http://example.com/newformat#", ""),
    ("http://example.com/necho", ""), ("http://purl.org/echo/", ""),
    ("uri/of/echo/namespace#", ""), ("http://purl.org/pie/", ""),
    ("http://purl.org/atom/ns#", ""), ("http://www.w3.org/2005/Atom", ""),
    ("http://purl.org/rss/1.0/modules/rss091#", ""), ("http://webns.net/mvcb/", "admin"),
    ("http://purl.org/rss/1.0/modules/aggregation/", "ag"),
    ("http://purl.org/rss/1.0/modules/annotate/", "annotate"),
    ("http://media.tangent.org/rss/1.0/", "audio"),
    ("http://backend.userland.com/blogChannelModule", "blogChannel"),
    ("http://creativecommons.org/ns#license", "cc"), ("http://web.resource.org/cc/", "cc"),
    ("http://cyber.law.harvard.edu/rss/creativeCommonsRssModule.html", "creativecommons"),
    ("http://backend.userland.com/creativeCommonsRssModule", "creativecommons"),
    ("http://purl.org/rss/1.0/modules/company", "co"),
    ("http://purl.org/rss/1.0/modules/content/", "content"),
    ("http://my.theinfo.org/changed/1.0/rss/", "cp"),
    ("http://purl.org/dc/elements/1.1/", "dc"), ("http://purl.org/dc/terms/", "dcterms"),
    ("http://purl.org/rss/1.0/modules/email/", "email"),
    ("http://purl.org/rss/1.0/modules/event/", "ev"),
    ("http://rssnamespace.org/feedburner/ext/1.0", "feedburner"),
    ("http://freshmeat.net/rss/fm/", "fm"), ("http://xmlns.com/foaf/0.1/", "foaf"),
    ("http://www.w3.org/2003/01/geo/wgs84_pos#", "geo"),
    ("http://www.georss.org/georss", "georss"), ("http://www.opengis.net/gml", "gml"),
    ("http://postneo.com/icbm/", "icbm"), ("http://purl.org/rss/1.0/modules/image/", "image"),
    ("http://www.itunes.com/DTDs/PodCast-1.0.dtd", "itunes"),
    ("http://example.com/DTDs/PodCast-1.0.dtd", "itunes"),
    ("http://purl.org/rss/1.0/modules/link/", "l"), ("http://search.yahoo.com/mrss", "media"),
    ("http://search.yahoo.com/mrss/", "media"),
    ("http://madskills.com/public/xml/rss/module/pingback/", "pingback"),
    ("http://prismstandard.org/namespaces/1.2/basic/", "prism"),
    ("http://www.w3.org/1999/02/22-rdf-syntax-ns#", "rdf"),
    ("http://www.w3.org/2000/01/rdf-schema#", "rdfs"),
    ("http://purl.org/rss/1.0/modules/reference/", "ref"),
    ("http://purl.org/rss/1.0/modules/richequiv/", "reqv"),
    ("http://purl.org/rss/1.0/modules/search/", "search"),
    ("http://purl.org/rss/1.0/modules/slash/", "slash"),
    ("http://schemas.xmlsoap.org/soap/envelope/", "soap"),
    ("http://purl.org/rss/1.0/modules/servicestatus/", "ss"),
    ("http://hacks.benhammersley.com/rss/streaming/", "str"),
    ("http://purl.org/rss/1.0/modules/subscription/", "sub"),
    ("http://purl.org/rss/1.0/modules/syndication/", "sy"),
    ("http://schemas.pocketsoap.com/rss/myDescModule/", "szf"),
    ("http://purl.org/rss/1.0/modules/taxonomy/", "taxo"),
    ("http://purl.org/rss/1.0/modules/threading/", "thr"),
    ("http://purl.org/rss/1.0/modules/textinput/", "ti"),
    ("http://madskills.com/public/xml/rss/module/trackback/", "trackback"),
    ("http://wellformedweb.org/commentAPI/", "wfw"),
    ("http://purl.org/rss/1.0/modules/wiki/", "wiki"), ("http://www.w3.org/1999/xhtml", "xhtml"),
    ("http://www.w3.org/1999/xlink", "xlink"), ("http://www.w3.org/XML/1998/namespace", "xml"),
    ("http://podlove.org/simple-chapters", "psc")]

/-- The short name of a namespace, in whatever case it is written. -/
def shortName? (space : Text) : Option Text :=
  (spaces.find? fun (s, _) => Text.lowerAscii s.toList = Text.lower space).map (·.2.toList)

/-- The namespace of the RSS formats under its usual name. -/
def rssSpace : Text := "http://backend.userland.com/rss".toList

/-- A namespace, with all variants of that of the RSS formats as one. -/
def unifySpace (space : Text) : Text :=
  if (Text.cut? "backend.userland.com/rss".toList (Text.lower space)).isSome then rssSpace
  else space

/-- The version of a feed that declares a namespace. -/
def versionOfSpace? (qualifier : Option Text) (space : Text) : Option Text :=
  let space := Text.lower space
  if qualifier = none ∧ space = "http://my.netscape.com/rdf/simple/0.9/".toList then
    some "rss090".toList
  else if space = "http://purl.org/rss/1.0/".toList then some "rss10".toList
  else if space = "http://www.w3.org/2005/atom".toList then some "atom10".toList
  else none

/-- A list of texts by name, with `value` under `name`; a name keeps its place. -/
def assign (name value : Text) : List (Text × Text) → List (Text × Text)
  | [] => [(name, value)]
  | (n, v) :: rest => if n = name then (n, value) :: rest else (n, v) :: assign name value rest

/-! ## Elements -/

/-- What the start of an element means. -/
inductive Opening where
  | rss
  | channel
  | feed
  | image
  | textInput
  | item
  | source
  | title
  | description
  | abstract_
  | summary
  | content
  /-- Content that is markup of a media type; `full` tells whether it is the full text. -/
  | markup (type : String) (full : Bool)
  | link
  | id
  | podcastImage
  | chapters
  | chapter
  /-- A text that belongs to what surrounds the element under the name `key`, when it is `kept`. -/
  | field (key : String) (kept : Bool)
  /-- A part of what surrounds the element, and perhaps a text like that of a field. -/
  | part (name : Option String) (text : Option (String × Bool))
  /-- A relation to another document. -/
  | relation
  /-- Prose of a media type that belongs to what surrounds the element. -/
  | prose (key type : String)
  /-- Something that only groups others. -/
  | group
  deriving DecidableEq, Repr

/-- What the end of an element means. -/
inductive Closing where
  | feed
  | image
  | textInput
  | item
  | source
  | title
  /-- The end of a title that leaves open which titles may follow. -/
  | openTitle
  | description
  | summary
  | content
  | id
  | category
  | license
  | chapters
  | field (key : String)
  /-- A field that is followed by a look at what surrounds it. -/
  | linkedField (key : String)
  /-- A date, which is read. -/
  | date (key : String)
  /-- The first and the last day on which something is valid. -/
  | validity
  /-- A field that must be there. -/
  | neededField (key : String)
  /-- A number. -/
  | measure (key : String)
  /-- Words that become categories; `all` tells whether empty ones count. -/
  | words (key : String) (all : Bool)
  /-- A field that belongs to the part `part`, when it has a text. -/
  | detail (part key : String)
  /-- A field that belongs to the part `part` in any case. -/
  | alwaysDetail (part key : String)
  | thumbnail
  | prose (key : String)
  deriving DecidableEq, Repr

/-- The elements with a meaning when they start. -/
def openings : List (String × Opening) :=
  [("rss", .rss), ("channel", .channel), ("feed", .feed), ("image", .image),
    ("textinput", .textInput), ("item", .item), ("entry", .item), ("source", .source),
    ("title", .title), ("dc_title", .title), ("media_title", .title),
    ("description", .description), ("dc_description", .description),
    ("media_description", .description), ("abstract", .abstract_), ("summary", .summary),
    ("itunes_summary", .summary), ("content", .content),
    ("body", .markup "application/xhtml+xml" false),
    ("xhtml_body", .markup "application/xhtml+xml" false),
    ("content_encoded", .markup "text/html" true), ("fullitem", .markup "text/html" true),
    ("link", .link), ("guid", .id), ("id", .id),
    ("published", .field "published" true), ("issued", .field "published" true),
    ("pubdate", .field "published" true), ("dcterms_issued", .field "published" true),
    ("updated", .field "updated" true), ("modified", .field "updated" true),
    ("lastbuilddate", .field "updated" true), ("dc_date", .field "updated" true),
    ("dcterms_modified", .field "updated" true), ("created", .field "created" true),
    ("dcterms_created", .field "created" true), ("expirationdate", .field "expired" true),
    ("dcterms_valid", .field "validity" true), ("language", .field "language" true),
    ("dc_language", .field "language" true), ("name", .field "name" false),
    ("itunes_name", .field "name" false), ("email", .field "email" false),
    ("itunes_email", .field "email" false), ("url", .field "href" true),
    ("homepage", .field "href" true), ("uri", .field "href" true),
    ("width", .field "width" false), ("height", .field "height" false),
    ("webmaster", .field "publisher" true), ("dc_publisher", .field "publisher" true),
    ("itunes_owner", .field "publisher" false), ("newlocation", .field "newlocation" true),
    ("tags", .field "tags" true), ("itunes_keywords", .field "itunes_keywords" true),
    ("media_keywords", .field "media_keywords" true),
    ("creativecommons_license", .field "license" true), ("gml_pos", .field "pos" false),
    ("gml_poslist", .field "pos" false), ("gml_exterior", .field "geometry" false),
    ("gml_linearring", .field "geometry" false),
    ("author", .part none (some ("author", true))),
    ("managingeditor", .part none (some ("author", true))),
    ("dc_author", .part none (some ("author", true))),
    ("dc_creator", .part none (some ("author", true))),
    ("itunes_author", .part none (some ("author", true))),
    ("contributor", .part none (some ("contributor", false))),
    ("dc_contributor", .part none (some ("name", false))),
    ("generator", .part none (some ("generator", true))),
    ("category", .part (some "tags") (some ("category", true))),
    ("keywords", .part (some "tags") (some ("category", true))),
    ("dc_subject", .part (some "tags") (some ("category", true))),
    ("itunes_category", .part (some "tags") (some ("category", true))),
    ("media_category", .part (some "tags") (some ("category", true))),
    ("media_rating", .part (some "media_rating") (some ("rating", true))),
    ("media_credit", .part (some "media_credit") (some ("credit", true))),
    ("media_restriction", .part (some "media_restriction") (some ("restriction", true))),
    ("media_license", .part (some "media_license") (some ("license", true))),
    ("media_thumbnail", .part (some "media_thumbnail") (some ("url", true))),
    ("media_player", .part (some "media_player") (some ("media_player", false))),
    ("media_content", .part (some "media_content") none),
    ("cloud", .part none none), ("admin_generatoragent", .part none none),
    ("admin_errorreportsto", .part none none),
    ("where", .part (some "where") (some ("where", false))),
    ("georss_where", .part (some "where") (some ("where", false))),
    ("georss_point", .part (some "where") (some ("geometry", false))),
    ("georss_line", .part (some "where") (some ("geometry", false))),
    ("georss_polygon", .part (some "where") (some ("geometry", false))),
    ("georss_box", .part (some "where") (some ("geometry", false))),
    ("georssgeom", .part (some "where") (some ("geometry", false))),
    ("gml_point", .part (some "where") (some ("geometry", false))),
    ("gml_linestring", .part (some "where") (some ("geometry", false))),
    ("gml_polygon", .part (some "where") (some ("geometry", false))),
    ("enclosure", .relation), ("cc_license", .relation),
    ("subtitle", .prose "subtitle" "text/plain"), ("tagline", .prose "subtitle" "text/plain"),
    ("itunes_subtitle", .prose "subtitle" "text/plain"),
    ("rights", .prose "rights" "text/plain"), ("copyright", .prose "rights" "text/plain"),
    ("dc_rights", .prose "rights" "text/plain"), ("info", .prose "info" "text/plain"),
    ("feedburner_browserfriendly", .prose "info" "text/plain"),
    ("itunes_image", .podcastImage), ("itunes_link", .podcastImage),
    ("psc_chapters", .chapters), ("psc_chapter", .chapter), ("media_group", .group)]

/-- The elements with a meaning when they end. -/
def closings : List (String × Closing) :=
  [("channel", .feed), ("feed", .feed), ("image", .image), ("textinput", .textInput),
    ("item", .item), ("entry", .item), ("source", .source), ("title", .title),
    ("dc_title", .title), ("media_title", .openTitle), ("description", .description),
    ("abstract", .description), ("dc_description", .description),
    ("media_description", .description), ("summary", .summary), ("itunes_summary", .summary),
    ("content", .content), ("body", .content), ("xhtml_body", .content),
    ("content_encoded", .content), ("fullitem", .content), ("link", .field "link"), ("guid", .id),
    ("id", .id), ("published", .date "published"), ("issued", .date "published"),
    ("pubdate", .date "published"), ("dcterms_issued", .date "published"),
    ("updated", .date "updated"), ("modified", .date "updated"),
    ("lastbuilddate", .date "updated"), ("dc_date", .date "updated"),
    ("dcterms_modified", .date "updated"), ("created", .date "created"),
    ("dcterms_created", .date "created"), ("expirationdate", .date "expired"),
    ("dcterms_valid", .validity), ("language", .field "language"),
    ("dc_language", .field "language"), ("name", .linkedField "name"),
    ("itunes_name", .linkedField "name"), ("dc_contributor", .linkedField "name"),
    ("email", .field "email"), ("itunes_email", .field "email"), ("url", .field "href"),
    ("homepage", .field "href"), ("uri", .field "href"), ("width", .measure "width"),
    ("height", .measure "height"), ("author", .linkedField "author"),
    ("managingeditor", .linkedField "author"), ("dc_author", .linkedField "author"),
    ("dc_creator", .linkedField "author"), ("itunes_author", .linkedField "author"),
    ("contributor", .field "contributor"), ("webmaster", .linkedField "publisher"),
    ("dc_publisher", .linkedField "publisher"), ("itunes_owner", .linkedField "publisher"),
    ("generator", .linkedField "generator"), ("newlocation", .neededField "newlocation"),
    ("category", .category), ("keywords", .category), ("dc_subject", .category),
    ("itunes_category", .category), ("media_category", .category), ("tags", .words "tags" true),
    ("itunes_keywords", .words "itunes_keywords" false),
    ("media_keywords", .words "media_keywords" false),
    ("creativecommons_license", .license), ("media_rating", .detail "media_rating" "rating"),
    ("media_credit", .detail "media_credit" "credit"),
    ("media_restriction", .detail "media_restriction" "restriction"),
    ("media_license", .detail "media_license" "license"), ("media_thumbnail", .thumbnail),
    ("media_player", .alwaysDetail "media_player" "media_player"),
    ("gml_pos", .alwaysDetail "where" "pos"), ("gml_poslist", .alwaysDetail "where" "pos"),
    ("georss_point", .field "geometry"), ("georss_line", .field "geometry"),
    ("georss_polygon", .field "geometry"), ("georss_box", .field "geometry"),
    ("geom", .field "geometry"), ("gml_point", .field "geometry"),
    ("gml_linestring", .field "geometry"), ("gml_linearring", .field "geometry"),
    ("gml_exterior", .field "geometry"), ("gml_polygon", .field "geometry"),
    ("where", .field "where"), ("georss_where", .field "where"),
    ("itunes_block", .linkedField "itunes_block"),
    ("itunes_explicit", .linkedField "itunes_explicit"), ("subtitle", .prose "subtitle"),
    ("tagline", .prose "subtitle"), ("itunes_subtitle", .prose "subtitle"),
    ("rights", .prose "rights"), ("copyright", .prose "rights"), ("dc_rights", .prose "rights"),
    ("info", .prose "info"), ("feedburner_browserfriendly", .prose "info"),
    ("psc_chapters", .chapters)]

/-- The meaning of an element's start. -/
def Opening.ofName? (name : Text) : Option Opening :=
  (openings.find? fun (n, _) => n.toList = name).map (·.2)

/-- The meaning of an element's end. -/
def Closing.ofName? (name : Text) : Option Closing :=
  (closings.find? fun (n, _) => n.toList = name).map (·.2)

end FeedPage.Feed
