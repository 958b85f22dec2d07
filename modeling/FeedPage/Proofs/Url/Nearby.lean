-- SUMMARY: Where a page's feed is: the segments of a reference walk over the page's directory, and the host stays that of the page.
import FeedPage.Proofs.Html.Advertised
import FeedPage.Proofs.Url.Written

/-!
# Feeds near their pages

A reference by a path is followed from the directory of the page, or from the root when it begins
with a slash: `..` leads to the directory above, of which the root has none, `.` nowhere, and any
other segment to what it names (`enter`). The reader of references walks on a stack whose first
entry, an empty segment, stands for the root and can be popped too, so a stack stands for a
directory with or without it (`Stands`). What a page advertises in this way, or has next to it, is
on its host (`discoverFeed_nearby`).
-/

namespace FeedPage.Url

/-! ## Walking -/

/-- What a segment leads to from a directory. -/
def enter (dir : List Text) (segment : Text) : List Text :=
  if segment = "..".toList then dir.dropLast
  else if segment = ".".toList then dir
  else dir ++ [segment]

/-- The directory that a stack of segments, last first, stands for: its segments, but for an empty
one at the bottom. -/
def Stands (stack dir : List Text) : Prop := stack = dir.reverse ++ [[]] ∨ stack = dir.reverse

theorem Stands.push {stack dir : List Text} (h : Stands stack dir) (segment : Text) :
    Stands (pushSegment stack segment) (enter dir segment) := by
  unfold pushSegment enter
  split
  · rcases List.eq_nil_or_concat dir with rfl | ⟨above, d, rfl⟩
    · rcases h with rfl | rfl <;> exact .inr rfl
    · rcases h with rfl | rfl
      · exact .inl (by simp)
      · exact .inr (by simp)
  · split
    · exact h
    · exact h.imp (by rintro rfl; simp) (by rintro rfl; simp)

theorem Stands.walk {stack dir : List Text} (h : Stands stack dir) (segments : List Text) :
    Stands (segments.foldl pushSegment stack) (segments.foldl enter dir) := by
  induction segments generalizing stack dir with
  | nil => exact h
  | cons s segments ih => exact ih (h.push s)

/-- Names are entered one below the other. -/
theorem foldl_enter_names {names : List Text} (h : ∀ s ∈ names, IsName s) (dir : List Text) :
    names.foldl enter dir = dir ++ names := by
  induction names generalizing dir with
  | nil => simp
  | cons s names ih =>
    have hs := (h s (List.mem_cons_self ..)).2
    simp only [dots, List.mem_cons, List.not_mem_nil, or_false, not_or] at hs
    have henter : enter dir s = dir ++ [s] := by rw [enter, if_neg hs.2, if_neg hs.1]
    rw [List.foldl_cons, henter, ih fun t ht => h t (List.mem_cons_of_mem s ht)]
    simp

/-- What is entered was there or is a segment that names something. -/
theorem areNames_foldl_enter {segments dir : List Text} (hdir : ∀ s ∈ dir, IsName s)
    (h : ∀ s ∈ segments, IsSegment s) : ∀ s ∈ segments.foldl enter dir, IsName s := by
  induction segments generalizing dir with
  | nil => exact hdir
  | cons t segments ih =>
    refine ih ?_ fun s hs => h s (List.mem_cons_of_mem t hs)
    intro s hs
    unfold enter at hs
    split at hs
    · exact hdir s (List.dropLast_subset _ hs)
    · next hup =>
      split at hs
      · exact hdir s hs
      · next hhere =>
        rcases List.mem_append.1 hs with hs | hs
        · exact hdir s hs
        · obtain rfl := List.mem_singleton.1 hs
          exact ⟨h s (List.mem_cons_self ..), by simpa [dots] using ⟨hhere, hup⟩⟩

/-- A walk that does not end with dots leads below the root. -/
theorem foldl_enter_ne_nil {segments : List Text} {s : Text} (h : segments.getLast? = some s)
    (hs : s ∉ dots) (dir : List Text) : segments.foldl enter dir ≠ [] := by
  obtain ⟨before, rfl⟩ := List.getLast?_eq_some_iff.1 h
  simp only [dots, List.mem_cons, List.not_mem_nil, or_false, not_or] at hs
  rw [List.foldl_append, List.foldl_cons, List.foldl_nil, enter, if_neg hs.2, if_neg hs.1]
  exact List.append_ne_nil_of_right_ne_nil _ (List.cons_ne_nil s [])

/-! ## Paths as segments -/

theorem pathText_eq_join (names : List Text) (slash : Bool) :
    pathText names slash = Text.join ['/'] ([] :: (names ++ if slash then [[]] else [])) := by
  rw [Text.join_cons, pathText, List.flatMap_append]
  cases slash <;> rfl

theorem pieces_pathText {names : List Text} (h : ∀ s ∈ names, IsSegment s) (slash : Bool) :
    Text.pieces '/' (pathText names slash) = [] :: (names ++ if slash then [[]] else []) := by
  rw [pathText_eq_join, Text.pieces_join (List.cons_ne_nil _ _)]
  intro s hs
  rcases List.mem_cons.1 hs with rfl | hs
  · exact List.not_mem_nil
  · rcases List.mem_append.1 hs with hs | hs
    · exact (h s hs).slash_not_mem
    · cases slash with
      | false => cases hs
      | true =>
        obtain rfl := List.mem_singleton.1 hs
        exact List.not_mem_nil

/-- A path as it is written behind a host. -/
def atRoot (path : Text) : Text :=
  if path.isEmpty || Text.startsWith ['/'] path then path else '/' :: path

/-- A path as it is evaluated to: the root is never nothing. -/
def orRoot (path : Text) : Text := if path.isEmpty then ['/'] else path

theorem atRoot_of_slash (s : Text) : atRoot (orRoot ('/' :: s)) = '/' :: s := by
  have hstarts : Text.startsWith ['/'] ('/' :: s) = true := by simp [startsWith_slash]
  simp [orRoot, atRoot, hstarts]

theorem atRoot_of_no_slash {s : Text} (h : '/' ∉ s.head?) : atRoot (orRoot s) = '/' :: s := by
  cases s with
  | nil => rfl
  | cons c s =>
    have hstarts : Text.startsWith ['/'] (c :: s) = false := by
      rw [startsWith_slash]
      exact decide_eq_false h
    simp [orRoot, atRoot, hstarts]

/-- A path begins with a slash, unless it is that of the root and has none. -/
theorem pathText_eq_cons {dir : List Text} {slash : Bool} (hplace : dir ≠ [] ∨ slash = true) :
    pathText dir slash = '/' :: Text.join ['/'] (dir ++ if slash then [[]] else []) := by
  cases dir with
  | nil =>
    obtain rfl : slash = true := by simpa using hplace
    rfl
  | cons d ds =>
    rw [pathText_eq_join]
    rfl

/-- The path that a stack of segments is written as is that of the directory that it stands for. -/
theorem atRoot_join {stack dir : List Text} (h : Stands stack dir) (hdir : ∀ s ∈ dir, IsSegment s)
    {slash : Bool} (hplace : dir ≠ [] ∨ slash = true) :
    atRoot (orRoot (Text.join ['/'] (if slash then [] :: stack else stack).reverse)) =
      pathText dir slash := by
  have hreverse : (if slash then [] :: stack else stack).reverse =
      stack.reverse ++ if slash then [[]] else [] := by
    cases slash <;> simp
  rw [hreverse]
  rcases h with rfl | rfl
  · rw [List.reverse_append, List.reverse_reverse, List.reverse_singleton, List.singleton_append,
      List.cons_append, ← pathText_eq_join, pathText_eq_cons hplace, atRoot_of_slash]
  · rw [List.reverse_reverse, pathText_eq_cons hplace, atRoot_of_no_slash]
    cases dir with
    | nil => cases slash <;> exact Option.not_mem_none _
    | cons d ds => exact (hdir d (List.mem_cons_self ..)).slash_not_mem_head _

/-- A walk from the root, as the reader of references evaluates it. -/
theorem atRoot_evalSegments {segments : List Text} (hne : segments ≠ [])
    (h : ∀ s ∈ segments, IsSegment s) :
    atRoot (evalSegments ([] :: segments)) =
      pathText (segments.foldl enter []) (segments.getLast?.all (· ∈ dots)) := by
  obtain ⟨s, hs⟩ : ∃ s, segments.getLast? = some s := ⟨_, List.getLast?_eq_some_getLast hne⟩
  have hroot : Stands (pushSegment [] []) [] := .inl rfl
  have hstands : Stands (([] :: segments).foldl pushSegment []) (segments.foldl enter []) :=
    hroot.walk segments
  have hnames : ∀ s ∈ segments.foldl enter [], IsName s := areNames_foldl_enter (by simp) h
  have hlast : ([] :: segments).getLast? = some s := by
    rw [List.getLast?_cons, hs]
    rfl
  have hdots : (decide (s = "..".toList) || decide (s = ".".toList)) = decide (s ∈ dots) := by
    simp [dots, Bool.or_comm]
  have hplace : segments.foldl enter [] ≠ [] ∨ decide (s ∈ dots) = true := by
    by_cases hmem : s ∈ dots
    · exact .inr (decide_eq_true hmem)
    · exact .inl (foldl_enter_ne_nil hs hmem [])
  have hjoin := atRoot_join hstands (fun t ht => (hnames t ht).1) hplace
  rw [hs, Option.all_some, ← hjoin]
  simp only [evalSegments, hlast, Option.any_some, hdots, orRoot]

/-- The empty segment that a slash leaves behind a directory is dropped in front of others. -/
theorem mergeSegments_append {dir segments : List Text} (hdir : ∀ s ∈ dir, IsSegment s)
    (h : ∀ s ∈ segments, IsSegment s) (hne : segments ≠ []) {slash : Bool} :
    mergeSegments ([] :: ((dir ++ if slash then [[]] else []) ++ segments)) =
      [] :: (dir ++ segments) := by
  have hfilter {names : List Text} (h : ∀ s ∈ names, IsSegment s) :
      names.filter (!·.isEmpty) = names :=
    List.filter_eq_self.2 fun s hs => by simpa using (h s hs).1
  obtain ⟨before, s, rfl⟩ := (List.eq_nil_or_concat segments).resolve_left hne
  rw [List.concat_eq_append] at h ⊢
  have hbefore := hfilter fun t ht => h t (List.mem_append_left _ ht)
  have htail : (if slash then [[]] else [] : List Text).filter (!·.isEmpty) = [] := by
    cases slash <;> rfl
  rw [mergeSegments, ← List.append_assoc, List.dropLast_concat, List.getLast?_concat,
    List.filter_append, List.filter_append, hfilter hdir, htail, hbefore]
  simp

/-! ## References of a page -/

namespace PageUrl

variable (p : PageUrl) (r : PathReference)

theorem directory_areNames : ∀ s ∈ p.directory, IsName s := by
  unfold directory
  split
  · exact p.names_areNames
  · exact fun s hs => p.names_areNames s (List.dropLast_subset _ hs)

/-- The segments of the directory of a page begin at the root, and a slash leaves an empty one. -/
theorem directory_path :
    Url.directory p.path = [] :: (p.directory ++ if p.slash then [[]] else []) := by
  have hpieces : Text.pieces '/' p.path = [] :: (p.names ++ if p.slash then [[]] else []) :=
    pieces_pathText (fun s hs => (p.names_areNames s hs).1) p.slash
  unfold Url.directory
  rw [hpieces]
  cases hslash : p.slash with
  | true => simp [PageUrl.directory, hslash, List.getLast?_cons]
  | false =>
    rcases List.eq_nil_or_concat p.names with hnil | ⟨above, s, hnames⟩
    · simp [PageUrl.directory, hslash, hnil]
    · have hs : s ≠ [] := (p.names_areNames s (by simp [hnames])).1.1
      simp [PageUrl.directory, hslash, hnames, hs, List.getLast?_cons, List.dropLast_cons_of_ne_nil]

/-- Where a reference begins: at the root or in the directory of the page. -/
def start : List Text := if r.rooted then [] else p.directory

theorem start_areNames : ∀ s ∈ p.start r, IsName s := by
  unfold start
  split
  · simp
  · exact p.directory_areNames

/-- What a reference is evaluated from: the way to where it begins, and its own segments. -/
theorem segmentsFrom_text (hne : r.segments ≠ []) :
    segmentsFrom p.path r.text = [] :: (p.start r ++ r.segments) := by
  have hslash : ∀ s ∈ r.segments, '/' ∉ s := fun s hs => (r.areSegments s hs).slash_not_mem
  rw [segmentsFrom, r.startsWith_text, start]
  cases hrooted : r.rooted with
  | true =>
    have htext : r.text = Text.join ['/'] ([] :: r.segments) := by
      obtain ⟨s, rest, hsegments⟩ := List.exists_cons_of_ne_nil hne
      rw [PathReference.text, hrooted, hsegments]
      rfl
    rw [if_pos rfl, if_pos rfl, htext]
    exact Text.pieces_join (List.cons_ne_nil _ _) (by simpa using hslash)
  | false =>
    have htext : r.text = Text.join ['/'] r.segments := by rw [PathReference.text, hrooted]; rfl
    have hdirectory : ∀ s ∈ p.directory, IsSegment s := fun s hs => (p.directory_areNames s hs).1
    rw [if_neg Bool.false_ne_true, if_neg Bool.false_ne_true, htext, Text.pieces_join hne hslash,
      directory_path, List.cons_append, mergeSegments_append hdirectory r.areSegments hne]

/-- The path that a reference leads to. -/
theorem atRoot_segmentsFrom :
    atRoot (evalSegments (segmentsFrom p.path r.text)) =
      pathText (r.segments.foldl enter (p.start r)) r.isDirectory := by
  by_cases hne : r.segments = []
  · have hrooted : r.rooted = true := r.filled.resolve_right fun h => h hne
    have htext : r.text = ['/'] := by rw [PathReference.text, hrooted, hne]; rfl
    rw [htext, start, hrooted, PathReference.isDirectory, hne]
    rfl
  · have hsegments : ∀ s ∈ p.start r ++ r.segments, IsSegment s := by
      intro s hs
      rcases List.mem_append.1 hs with hs | hs
      · exact (p.start_areNames r s hs).1
      · exact r.areSegments s hs
    have hlast : (p.start r ++ r.segments).getLast? = r.segments.getLast? :=
      List.getLast?_append_of_ne_nil _ hne
    have hwalk : (p.start r).foldl enter [] = p.start r :=
      foldl_enter_names (p.start_areNames r) []
    rw [p.segmentsFrom_text r hne, atRoot_evalSegments (by simp [hne]) hsegments, hlast,
      List.foldl_append, hwalk, PathReference.isDirectory]

/-- What a reference of a page leads to. -/
def follow : PageUrl where
  secure := p.secure
  host := p.host
  names := r.segments.foldl enter (p.start r)
  slash := r.isDirectory
  query := none
  fragment := none
  host_filled := p.host_filled
  host_isWord := p.host_isWord
  names_areNames := areNames_foldl_enter (p.start_areNames r) r.areSegments
  query_isWord := by simp
  fragment_isWord := by simp

theorem follow_text : (p.follow r).text =
    p.origin ++ pathText (r.segments.foldl enter (p.start r)) r.isDirectory :=
  (List.append_nil _).trans (List.append_nil _)

theorem render_host (path : Text) :
    render ⟨p.scheme, p.host, path, [], [], []⟩ = p.origin ++ atRoot path := by
  have hhost : p.host.isEmpty = false := by simpa using p.host_filled
  have hscheme : p.scheme.isEmpty = false := by
    unfold scheme
    cases p.secure <;> rfl
  simp [render, marked, hhost, hscheme, origin, atRoot]

/-- A reference by a path is resolved to what it leads to from the page. -/
theorem resolve_text : resolve p.text r.text = .ok (p.follow r).text := by
  have hpage : p.text.isEmpty = false := by simp [text, origin]
  have href : r.text.isEmpty = false := by simpa using r.text_ne_nil
  obtain ⟨hhierarchical, hhosts, -⟩ := p.scheme_mem
  rw [resolve, hpage, href, p.parse_text, follow_text, ← p.atRoot_segmentsFrom r, ← render_host]
  simp only [Bool.false_eq_true, if_false, bind, Except.bind, r.parse_text, ne_eq, not_true_eq_false,
    hhierarchical, or_self, hhosts, List.isEmpty_nil, Bool.not_true, and_false, if_true, href,
    Bool.and_true]
  rfl

/-- The document next to a page. -/
def nextDocument : PathReference where
  rooted := false
  segments := ["rss2.xml".toList]
  areSegments := by decide
  filled := by decide

/-- Where the feed of a page is on its host: what the reference leads to, and the document next to
the page when there is none. -/
def feedPath : Option PathReference → Text
  | some r => pathText (r.segments.foldl enter (p.start r)) r.isDirectory
  | none => pathText p.directory true ++ "rss2.xml".toList

theorem follow_nextDocument : (p.follow nextDocument).text = p.origin ++ p.feedPath none := by
  have hwalk : nextDocument.segments.foldl enter (p.start nextDocument) =
      p.directory ++ ["rss2.xml".toList] := rfl
  have hplain : nextDocument.isDirectory = false := rfl
  rw [follow_text, hwalk, hplain, feedPath]
  simp [pathText]

theorem follow_getD (ref : Option PathReference) :
    (p.follow (ref.getD nextDocument)).text = p.origin ++ p.feedPath ref := by
  cases ref with
  | none => exact p.follow_nextDocument
  | some r => exact p.follow_text r

/-- The document next to a page is in the same directory. -/
theorem directory_nextDocument : (p.follow nextDocument).directory = p.directory :=
  List.dropLast_concat

end PageUrl

end FeedPage.Url

/-! ## Feeds of pages -/

namespace FeedPage.Html

open Url

/-- The reference that the first link to a feed in a page names. -/
def advertised? (page : Bytes) : Except Rejection (Option Text) :=
  (tokens (Document.decode page)).map (·.findSome? Token.feedLink?)

/-- A page in ASCII, whose pieces tell no character set, advertises what its first link to a feed
does. -/
theorem advertised?_writePage {pieces : List PagePiece} (ascii : (writePage pieces).IsAscii)
    (quiet : ∀ p ∈ pieces, p.Quiet) :
    advertised? (Text.toUtf8 (writePage pieces)) = .ok (pieces.findSome? PagePiece.feed?) := by
  have hdeclared := Document.declared?_eq_none ascii (front_writePage pieces)
    (silent_writePage ascii quiet)
  obtain ⟨ts, htokens, hletters⟩ := tokens_of_spelled (spelled_flatMap PagePiece.spelled_append pieces)
  have hfeed : ts.findSome? Token.feedLink? = pieces.findSome? PagePiece.feed? := by
    rw [← findSome?_feedLink?_letters, hletters, findSome?_tokens]
  rw [advertised?, Document.decode_ascii ascii hdeclared]
  simp only [writePage, htokens, Except.map, hfeed]

theorem discoverFeed_of_advertised {page : Bytes} {ref : Option Text}
    (h : advertised? page = .ok ref) (pageUrl : Text) :
    discoverFeed pageUrl page =
      (Url.resolve pageUrl (ref.getD fallbackDocument)).mapError .url := by
  unfold advertised? at h
  unfold discoverFeed
  cases htokens : tokens (Document.decode page) with
  | error why => simp [htokens, Except.map] at h
  | ok ts =>
    obtain rfl : ts.findSome? Token.feedLink? = ref := by simpa [htokens, Except.map] using h
    rfl

/-- What a page advertises by a path, or has next to it, is found on its host. -/
theorem discoverFeed_page (page : PageUrl) {document : Bytes} {ref : Option PathReference}
    (h : advertised? document = .ok (ref.map PathReference.text)) :
    discoverFeed page.text document = .ok (page.origin ++ page.feedPath ref) := by
  have htext : (ref.map PathReference.text).getD fallbackDocument =
      (ref.getD PageUrl.nextDocument).text := by
    cases ref with
    | none => rfl
    | some r => rfl
  rw [discoverFeed_of_advertised h, htext, page.resolve_text, page.follow_getD]
  rfl

/-- A page that advertises a feed by a path has it where the path leads to from its directory, one
that advertises none has it next to itself, and its last name, its query and its fragment play no
part. The feed is on the host of the page, and whoever looks for feeds from the document next to the
page finds those that are found from the page. -/
theorem discoverFeed_nearby (page : PageUrl) (document : Bytes) (ref : Option PathReference)
    (h : advertised? document = .ok (ref.map PathReference.text)) :
    discoverFeed page.text document = .ok (page.origin ++ page.feedPath ref) ∧
      (∃ u, parse [] (page.origin ++ page.feedPath ref) = .ok u ∧
        u.scheme = page.scheme ∧ u.host = page.host) ∧
      discoverFeed (page.origin ++ page.feedPath none) document =
        .ok (page.origin ++ page.feedPath ref) := by
  refine ⟨discoverFeed_page page h, ?_, ?_⟩
  · have hparse := (page.follow (ref.getD PageUrl.nextDocument)).parse_text
    rw [page.follow_getD] at hparse
    exact ⟨_, hparse, rfl, rfl⟩
  · have hfrom := discoverFeed_page (page.follow PageUrl.nextDocument) h
    have hpath : (page.follow PageUrl.nextDocument).feedPath ref = page.feedPath ref := by
      unfold PageUrl.feedPath PageUrl.start
      rw [page.directory_nextDocument]
    rw [page.follow_nextDocument, hpath] at hfrom
    exact hfrom

/-- A page whose feed is beside the directory that it is in. -/
def branchPage : PageUrl where
  secure := true
  host := "svn.tmate.org".toList
  names := ["a".toList, "b".toList]
  slash := false
  query := some "page".toList
  fragment := some "top".toList
  host_filled := by decide
  host_isWord := by decide
  names_areNames := by decide
  query_isWord := by decide
  fragment_isWord := by decide

/-- A reference that leads over the root. -/
def climbing : PathReference where
  rooted := false
  segments := ["..", "..", "new", ".", "feed.xml"].map String.toList
  areSegments := by decide
  filled := by decide

/-- A link to a feed by this reference. -/
def climbingLink : PagePiece :=
  .startTag ⟨"LINK".toList, [("rel".toList, "alternate".toList),
    ("type".toList, "application/atom+xml".toList), ("href".toList, climbing.text)], .angle,
    isName_of_isTag (by decide), by decide⟩ (by decide) (by decide)

theorem discoverFeed_nearby_climbing :
    branchPage.text = "https://svn.tmate.org/a/b?page#top".toList ∧
      climbing.text = "../../new/./feed.xml".toList ∧
      advertised? (Text.toUtf8 (writePage [climbingLink])) = .ok (some climbing.text) ∧
      discoverFeed branchPage.text (Text.toUtf8 (writePage [climbingLink])) =
        .ok "https://svn.tmate.org/new/feed.xml".toList := by
  have ascii : (writePage [climbingLink]).IsAscii := by
    unfold Text.IsAscii
    decide +kernel
  have quiet : ∀ p ∈ [climbingLink], p.Quiet := by
    simp only [climbingLink, List.forall_mem_cons]
    exact ⟨fun h => absurd h (by decide), by simp⟩
  have hfeed : [climbingLink].findSome? PagePiece.feed? = some climbing.text := by decide +kernel
  have hadvertised := advertised?_writePage ascii quiet
  rw [hfeed] at hadvertised
  have hplace : branchPage.origin ++ branchPage.feedPath (some climbing) =
      "https://svn.tmate.org/new/feed.xml".toList := by
    decide +kernel
  have hnearby := (discoverFeed_nearby branchPage _ (some climbing) hadvertised).1
  rw [hplace] at hnearby
  exact ⟨by decide +kernel, by decide +kernel, hadvertised, hnearby⟩

end FeedPage.Html
