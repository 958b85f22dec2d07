-- SUMMARY: What the elements of feeds do to the state of reading when they start and when they end.
import FeedPage.Feed.Date
import FeedPage.Feed.State

/-!
# Elements

The meaning of an element is a change of the state of reading: one when it starts, given its
attributes (`State.open_`), and one when it ends (`State.close`).
-/

namespace FeedPage.Feed

/-- The attributes of an element. -/
abbrev Attributes := List (Text × Text)

/-- The value of an attribute; the last one of a name counts. -/
def Attributes.get? (attrs : Attributes) (name : String) : Option Text :=
  (attrs.reverse.find? fun (n, _) => n = name.toList).map (·.2)

namespace State

/-- The attribute of a qualified name, whose qualifier the feed may have given another name. -/
def qualifiedAttribute? (q : State) (attrs : Attributes) (qualifier base : String) : Option Text :=
  let short := (q.qualifiers.lookup (some qualifier.toList)).getD qualifier.toList
  attrs.get? (String.ofList (short ++ ':' :: base.toList))

/-- Opens an element with prose that its attributes describe. -/
def pushProseOf (q : State) (name : Text) (attrs : Attributes) (fallback : String) (kept : Bool) :
    State :=
  q.pushProse name (attrs.get? "type") (attrs.get? "mode") fallback.toList kept

/-! ## Links -/

/-- The reference among the attributes of a link. -/
def reference? (attrs : Attributes) : Option Text :=
  attrs.get? "url" <|> attrs.get? "uri" <|> attrs.get? "href"

/-- A link starts. An empty reference counts only under its usual name. A link to a page is the link
of what surrounds it; one without a reference has it as its text. -/
def openLink (q : State) (attrs : Attributes) : Except Fault State := do
  let rel := (attrs.get? "rel").getD "alternate".toList
  let fallback := if rel = "self".toList then "application/atom+xml" else "text/html"
  let type := (attrs.get? "type").getD fallback.toList
  let place ← q.place
  let href := ((reference? attrs).filter (!·.isEmpty) <|> attrs.get? "href").map (Url.join q.base)
  let q := q.mapRecord (fun r => { r with relations := some (r.relations.getD 0) }) place
  let q := if q.inItem && q.inImage then q else q.mapRecord Record.relate place
  match href with
  | none => return q.push "link".toList q.isSurrounded
  | some url =>
    if rel = "alternate".toList ∧ fullType type ∈ markupTypes then
      return q.mapRecord (fun r => { r with link := some url }) place
    else return q

/-- A date is read, when it is there, behind the element that held it. -/
def readDate (q : State) (date : Option Text) : Except Fault State := do
  Date.check (date.getD [])
  q.look

/-- The attributes of channels and items in which some feeds tell when and where they are. -/
def openTold (q : State) (attrs : Attributes) : Except Fault State := do
  let q ← match attrs.get? "lastmod" with
    | none => pure q
    | some told =>
      let q := (q.push "updated".toList true).setPiece told
      let (text, q) ← q.pop "updated".toList
      q.readDate text
  match attrs.get? "href" with
  | none => return q
  | some told =>
    let q ← q.openLink []
    return (← (q.setPiece told).pop "link".toList).2

/-! ## Versions -/

/-- The version of an RSS feed by what it says of itself. -/
def rssVersion (told : Text) : Text :=
  let known := [("0.91", "rss091u"), ("0.92", "rss092"), ("0.93", "rss093"), ("0.94", "rss094")]
  match known.find? fun (n, _) => n.toList = told with
  | some (_, version) => version.toList
  | none => if Text.startsWith "2.".toList told then "rss20".toList else "rss".toList

/-- The version of an Atom feed by what it says of itself. -/
def atomVersion (told : Option Text) : Text :=
  let known := [("0.1", "atom01"), ("0.2", "atom02"), ("0.3", "atom03")]
  match known.find? fun (n, _) => some n.toList = told with
  | some (_, version) => version.toList
  | none => "atom".toList

/-! ## Starts -/

/-- Content starts. It is open twice, so that its end leaves it open. -/
def openContent (q : State) (attrs : Attributes) : State :=
  (({ q with hasContent := true }).pushProseOf "content".toList attrs "text/plain" true).push
    "content".toList true

/-- Whether a summary is there already, so that more of it is content. -/
def hasSummary (q : State) : Except Fault Bool := do
  return (q.record (← q.place)).summary.isSome && !q.hasContent

/-- The change that the start of an element makes. -/
def open_ (q : State) (attrs : Attributes) : Opening → Except Fault State
  | .rss =>
    .ok <| if Text.startsWith "rss".toList q.version then q
    else { q with version := rssVersion ((attrs.get? "version").getD []) }
  | .channel => ({ q with inFeed := true }).openTold attrs
  | .feed =>
    .ok <| if q.version.isEmpty then
      { q with inFeed := true, version := atomVersion (attrs.get? "version") }
    else { q with inFeed := true }
  | .image => do
    let place ← q.place
    let isNew := !(q.record place).parts.contains "image".toList
    let q :=
      if q.inItem then q
      else
        let q := q.mapRecord (·.attach "image".toList) place
        if isNew && place = .feed then { q with image := {} } else q
    return ({ q with inImage := true, titleDepth := -1 }).push "image".toList false
  | .textInput => do
    let place ← q.place
    let isNew := !(q.record place).parts.contains "textinput".toList
    let q := q.mapRecord (·.attach "textinput".toList) place
    let q := if isNew && place = .feed then { q with textInput := {} } else q
    return ({ q with inTextInput := true, titleDepth := -1 }).push "textinput".toList false
  | .item => do
    let q := { q with items := {} :: q.items }.push "item".toList false
    let q := { q with inItem := true, idIsLink := false, titleDepth := -1 }
    let about := (q.qualifiedAttribute? attrs "rdf" "about").getD []
    let q ← if about.isEmpty then pure q else q.look
    q.openTold attrs
  | .source => .ok ({ q.push "source".toList true with inSource := true, titleDepth := -1 })
  | .title => .ok (q.pushProseOf "title".toList attrs "text/plain" q.isSurrounded)
  | .description => do
    if ← q.hasSummary then return ({ q with summaryIsContent := true }).openContent attrs
    else return q.pushProseOf "description".toList attrs "text/html" q.isSurrounded
  | .abstract_ => .ok (q.pushProseOf "description".toList attrs "text/plain" q.isSurrounded)
  | .summary => do
    if ← q.hasSummary then return ({ q with summaryIsContent := true }).openContent attrs
    else
      return ({ q with summaryIsContent := false }).pushProseOf "summary".toList attrs "text/plain"
        true
  | .content => .ok (q.openContent attrs)
  | .markup type full =>
    let q := { q with hasContent := q.hasContent || full }
    .ok (q.pushProseOf "content".toList attrs type true)
  | .link => q.openLink attrs
  | .id =>
    let told := (attrs.get? "ispermalink").getD "true".toList
    .ok ({ q with idIsLink := told = "true".toList }.push "id".toList true)
  | .podcastImage =>
    let q := q.push "itunes_image".toList false
    if [attrs.get? "href", attrs.get? "url"].any fun a => a.any (!·.isEmpty) then do
      let place ← q.place
      let q := q.mapRecord (·.attach "image".toList) place
      return if place = .feed then { q with image := {} } else q
    else .ok q
  | .chapters => do
    let place ← q.place
    if (q.record place).parts.contains "psc_chapters".toList then return q
    else return ({ q with inChapters := true }).mapRecord (·.attach "psc_chapters".toList) place
  | .chapter =>
    if !q.inChapters then .ok q
    else if (attrs.get? "start").isNone then .error .chapterWithoutStart
    else do
      let place ← q.place
      if (q.record place).parts.contains "psc_chapters".toList then return q
      else throw (.missingPart "psc_chapters".toList)
  | .field key kept => .ok (q.push key.toList kept)
  | .part name text => do
    let q ← match name with
      | some part => q.mapSurroundings (·.attach part.toList)
      | none => q.look
    match text with
    | some (key, kept) => return q.push key.toList kept
    | none => return q
  | .relation => q.mapSurroundings Record.relate
  | .prose key type => .ok (q.pushProseOf key.toList attrs type true)
  | .group => .ok q

/-! ## Ends -/

/-- Needs a part of what surrounds. -/
def needPart (q : State) (part : String) : Except Fault State := do
  if (q.record (← q.place)).parts.contains part.toList then return q
  else throw (.missingPart part.toList)

/-- Whether a text is there and not blank. -/
def isFilled (text : Option Text) : Bool := text.any fun s => !(Text.trim s).isEmpty

/-- A summary where there is none. -/
def summarize (text : Option Text) (r : Record) : Record :=
  if r.summary.isSome then r else { r with summary := some text }

/-- Content ends: it is the summary as well, where there is none. -/
def closeContent (q : State) : Except Fault State := do
  let isShown : Bool := q.prose.type.any fun type =>
    type = "text/plain".toList || markupTypes.contains type
  let (text, q) ← q.popProse "content".toList
  if isShown then q.mapSurroundings (summarize text) else return q

/-- A title ends; if it has a text, it is the title of its depth. -/
def closeTitle (q : State) : Except Fault State := do
  let (text, q) ← q.popProse "title".toList
  return if text.any (!·.isEmpty) then { q with titleDepth := q.depth } else q

/-- The change that the end of an element makes, and nothing when it has no meaning here: content
ends only where the type of prose is known, and some elements only where they are open. -/
def close (q : State) : Closing → Except Fault (Option State)
  | .feed => .ok (some { q with inFeed := false })
  | .image => do return some { (← q.pop "image".toList).2 with inImage := false }
  | .textInput => do return some { (← q.pop "textinput".toList).2 with inTextInput := false }
  | .item => do
    return some { (← q.pop "item".toList).2 with inItem := false, hasContent := false }
  | .source => do
    let (_, q) ← ({ q with inSource := false }).pop "source".toList
    return some { (← q.look) with source := {} }
  | .title => do return some (← q.closeTitle)
  | .openTitle => do return some { (← q.closeTitle) with titleDepth := q.titleDepth }
  | .description => do
    if q.summaryIsContent then
      if q.prose.type.isNone then return none
      else return some { (← q.closeContent) with summaryIsContent := false }
    else return some (← q.popProse "description".toList).2
  | .summary => do
    if q.summaryIsContent then
      if q.prose.type.isNone then return none
      else return some { (← q.closeContent) with summaryIsContent := false }
    else return some (← q.popProse "summary".toList).2
  | .content => do if q.prose.type.isNone then return none else return some (← q.closeContent)
  | .id => do
    let (text, q) ← q.pop "id".toList
    let q ← q.look
    match text with
    | some link =>
      if q.idIsLink then
        return some (← q.mapSurroundings fun r => { r with link := r.link <|> some link })
      else return some q
    | none => return some q
  | .category => do
    let (text, q) ← q.pop "category".toList
    if text.all List.isEmpty then return some q else return some (← q.needPart "tags")
  | .license => do
    let (_, q) ← q.pop "license".toList
    let q ← q.mapSurroundings Record.relate
    let q ← q.needPart "license"
    return some (← q.mapSurroundings (·.detach "license".toList))
  | .chapters => .ok (some { q with inChapters := false })
  | .field key => do return some (← q.pop key.toList).2
  | .linkedField key => do return some (← (← q.pop key.toList).2.look)
  | .date key => do
    let (text, q) ← q.pop key.toList
    return some (← q.readDate text)
  | .validity => do
    let (text, q) ← q.pop "validity".toList
    let details := (Text.pieces ';' (text.getD [])).map (Text.cutChar? '=')
    let dates := details.filterMap fun detail =>
      (detail.filter fun (key, _) => key = "start".toList || key = "end".toList).map (·.2)
    return some (← dates.foldlM (fun q date => do (← q.look).readDate (some date)) q)
  | .neededField key => do
    let (text, q) ← q.pop key.toList
    if text.isNone then return none else return some (← q.look)
  | .measure key => do
    let (text, q) ← q.pop key.toList
    if text.isNone then throw .missingNumber
    return some (← if q.inImage then q.look else pure q)
  | .words key all => do
    let (text, q) ← q.pop key.toList
    match text with
    | none => return none
    | some s =>
      if all || (Text.pieces ',' s).any fun w => isFilled (some w) then
        return some (← q.mapSurroundings (·.attach "tags".toList))
      else return some q
  | .detail part key => do
    let (text, q) ← q.pop key.toList
    return some (← if isFilled text then q.needPart part else pure q)
  | .alwaysDetail part key => do
    let (_, q) ← q.pop key.toList
    return some (← q.needPart part)
  | .thumbnail => do
    let (text, q) ← q.pop "url".toList
    let q ← q.look
    return some (← if isFilled text then q.needPart "media_thumbnail" else pure q)
  | .prose key => do return some (← q.popProse key.toList).2

end State
end FeedPage.Feed
