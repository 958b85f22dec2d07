-- SUMMARY: Regular feeds as they are written in each style, and the feed that is read from the bytes.
import FeedPage.Proofs.Feed.Items

/-!
# Written feeds

A regular feed is written as XML: each text escaped in an element, each item as an element around its
fields, all in the frame that the style has (`Style.write`). The parts are read as their events
(`reads_child`), the frame brings the reading to its first place and leaves it from its last, and so
the bytes are read as the feed that was written (`Style.read_write`), unless a date ends the reading.
-/

namespace FeedPage.Feed

/-! ## Texts and fields -/

/-- The element that holds a text. -/
def WrittenText.element (s : WrittenText) (name : Text) : Text :=
  match s.written with
  | none => Xml.emptyElement name []
  | some written => Xml.element name [] written

namespace Style

/-- A field as it is written. -/
def writeField (style : Style) : Field → Text
  | .title s => s.element (style.fieldName .title)
  | .link a =>
    match style with
    | rss => Xml.element (style.fieldName .link) [] a.text
    | atom => Xml.emptyElement (style.fieldName .link) (linkAttributes a)
  | .published s => s.element (style.fieldName .published)
  | .updated s => s.element (style.fieldName .updated)
  | .summary s => s.element (style.fieldName .summary)

/-- What stands in a feed as it is written. -/
def writeChild (style : Style) : Child → Text
  | .title s => s.element "title".toList
  | .updated s => s.element "updated".toList
  | .item fields => Xml.element style.itemName [] (fields.list.flatMap style.writeField)

/-- A feed as it is written. -/
def write (style : Style) (children : List Child) : Text :=
  let inside := children.flatMap style.writeChild
  match style with
  | rss =>
    Xml.element "rss".toList [("version".toList, "2.0".toList)] (Xml.element "channel".toList [] inside)
  | atom => Xml.element "feed".toList [("xmlns".toList, atomSpace)] inside

end Style

end Feed

namespace Xml

theorem Reference.isPrintable {r : Text} {c : Char} (h : Reference r c) : r.IsPrintable := by
  cases h with
  | named known =>
    have hall : ∀ name ∈ predefinedNames, Text.IsPrintable name := by decide
    exact hall r (mem_predefinedNames known)
  | decimal digits code legal =>
    have hdigits := Text.IsPrintable.of_isAlphanum fun d hd => by
      rw [Char.isAlphanum, digits.2 d hd, Bool.or_true]
    exact .cons (by decide) hdigits
  | hexadecimal digits code legal =>
    refine .cons (by decide) (.cons (by decide) fun d hd => ?_)
    have := Text.toNat_of_isHexDigit (digits.2 d hd)
    omega

theorem Escaped.isPrintable {written meant : Text} (h : Escaped written meant)
    (hmeant : meant.IsPrintable) : written.IsPrintable := by
  induction h with
  | nil => exact hmeant
  | char safe rest ih =>
    have hsplit := List.forall_mem_cons.1 hmeant
    exact List.forall_mem_cons.2 ⟨hsplit.1, ih hsplit.2⟩
  | reference reference rest ih =>
    have hsplit := List.forall_mem_cons.1 hmeant
    have hfront := Text.IsPrintable.cons (by decide : Text.IsPrintable ['&']) reference.isPrintable
    exact hfront.append (.cons (by decide) (ih hsplit.2))

theorem IsTag.isPrintable {name : Text} (h : IsTag name) : name.IsPrintable :=
  .of_isAlphanum fun c hc => Text.isAlphanum_of_isAlpha (h.2 c hc)

theorem isPrintable_writeAttributes {attrs : List (Text × Text)}
    (h : ∀ a ∈ attrs, a.1.IsPrintable ∧ a.2.IsPrintable) : (writeAttributes attrs).IsPrintable := by
  refine Text.IsPrintable.flatMap fun a ha => ?_
  have hname := Text.IsPrintable.cons (by decide : Text.IsPrintable [' ']) (h a ha).1
  exact ((hname.append (by decide : Text.IsPrintable "=\"".toList)).append (h a ha).2).append
    (by decide : Text.IsPrintable ['"'])

theorem isPrintable_element {name inside : Text} {attrs : List (Text × Text)} (isTag : IsTag name)
    (hattrs : ∀ a ∈ attrs, a.1.IsPrintable ∧ a.2.IsPrintable) (hinside : inside.IsPrintable) :
    (element name attrs inside).IsPrintable := by
  have hstart := (Text.IsPrintable.cons (by decide : Text.IsPrintable ['<']) isTag.isPrintable).append
    (isPrintable_writeAttributes hattrs)
  have hend := (Text.IsPrintable.cons (by decide : Text.IsPrintable ['<'])
    (.cons (by decide : Text.IsPrintable ['/']) isTag.isPrintable)).append
    (by decide : Text.IsPrintable ['>'])
  exact hstart.append (.cons (by decide) (hinside.append hend))

theorem isPrintable_emptyElement {name : Text} {attrs : List (Text × Text)} (isTag : IsTag name)
    (hattrs : ∀ a ∈ attrs, a.1.IsPrintable ∧ a.2.IsPrintable) :
    (emptyElement name attrs).IsPrintable := by
  have hstart := (Text.IsPrintable.cons (by decide : Text.IsPrintable ['<']) isTag.isPrintable).append
    (isPrintable_writeAttributes hattrs)
  exact hstart.append (by decide)

end Xml

theorem Address.isSafe_of_mem (a : Address) {c : Char} (h : c ∈ a.text) : Xml.isSafe c = true := by
  obtain ⟨hlow, hhigh, hmarks⟩ := a.bounds_of_mem h
  simp only [List.mem_cons, List.not_mem_nil, or_false, not_or] at hmarks
  simp [Xml.isSafe, Xml.isDocumentChar, hmarks]
  omega

namespace Feed

/-! ## Events -/

namespace Style

variable (style : Style) {name : Text}

theorem arePlain_linkAttributes (a : Address) : Xml.ArePlain (linkAttributes a) where
  plain x hx := by
    rcases List.mem_cons.1 hx with rfl | hx
    · exact ⟨by decide, by decide, by decide, by decide⟩
    · obtain rfl := List.mem_singleton.1 hx
      have isTag : Xml.IsTag "href".toList := by decide
      refine ⟨isTag, fun c hc => ?_, fun c hc => ?_, fun c hc hspace => ?_⟩
      · have hsafe := a.isSafe_of_mem hc
        simp only [Xml.isSafe, Bool.and_eq_true] at hsafe
        exact hsafe.2
      · have hmarks := (a.bounds_of_mem hc).2.2
        simp only [List.mem_cons, List.not_mem_nil, or_false, not_or] at hmarks
        exact ⟨hmarks.1, hmarks.2.2⟩
      · have hlow := (a.bounds_of_mem hc).1
        exact absurd hlow (Xml.of_isSpace (P := fun c => ¬ 32 < c.toNat) hspace (by decide))
  nodup := by
    have hnames : ["rel".toList, "href".toList].Nodup := by decide
    exact hnames
  undeclared x hx := by
    have hnames : ∀ name ∈ ["rel".toList, "href".toList], name ≠ "xmlns".toList := by decide
    exact hnames x.1 (List.mem_map_of_mem (f := Prod.fst) hx)

theorem reads_element (s : WrittenText) (isTag : Xml.IsTag name) :
    Xml.Reads style.space (s.element name) (style.textElement name s.text) := by
  obtain ⟨text, isPlain, written, isEscaped⟩ := s
  cases written with
  | none =>
    cases isEscaped
    exact .emptyElement isTag .nil
  | some written => exact isEscaped.inside.element isTag .nil

theorem isTag_fieldName (kind : Field.Kind) : Xml.IsTag (style.fieldName kind) := by
  cases style <;> cases kind <;> decide

theorem reads_field (f : Field) : Xml.Reads style.space (style.writeField f) (style.fieldEvents f) := by
  have isTag := style.isTag_fieldName
  cases f with
  | title s | published s | updated s | summary s => exact style.reads_element s (isTag _)
  | link a =>
    cases style with
    | rss =>
      have hescaped := Xml.Escaped.of_safe fun c hc => a.isSafe_of_mem hc
      exact hescaped.inside.element (isTag .link) .nil
    | atom =>
      exact .emptyElement (isTag .link) (arePlain_linkAttributes a)

theorem reads_child (c : Child) : Xml.Reads style.space (style.writeChild c) (style.childEvents c) := by
  cases c with
  | title s | updated s => exact style.reads_element s (by decide)
  | item fields =>
    have isTag : Xml.IsTag style.itemName := by cases style <;> decide
    exact (Xml.Reads.flatMap fun f _ => style.reads_field f).inside.element isTag .nil

/-! ## Characters -/

theorem isPrintable_element (s : WrittenText) (isTag : Xml.IsTag name) :
    (s.element name).IsPrintable := by
  obtain ⟨text, isPlain, written, isEscaped⟩ := s
  cases written with
  | none => exact Xml.isPrintable_emptyElement isTag (by simp)
  | some written => exact Xml.isPrintable_element isTag (by simp) (isEscaped.isPrintable isPlain.printable)

theorem isPrintable_field (f : Field) : (style.writeField f).IsPrintable := by
  have isTag := style.isTag_fieldName
  cases f with
  | title s | published s | updated s | summary s => exact isPrintable_element s (isTag _)
  | link a =>
    cases style with
    | rss => exact Xml.isPrintable_element (isTag .link) (by simp) a.isPlain.printable
    | atom =>
      refine Xml.isPrintable_emptyElement (isTag .link) fun x hx => ?_
      rcases List.mem_cons.1 hx with rfl | hx
      · exact ⟨by decide, by decide⟩
      · obtain rfl := List.mem_singleton.1 hx
        have hname : Text.IsPrintable "href".toList := by decide
        exact ⟨hname, a.isPlain.printable⟩

theorem isPrintable_child (c : Child) : (style.writeChild c).IsPrintable := by
  cases c with
  | title s | updated s => exact isPrintable_element s (by decide)
  | item fields =>
    have isTag : Xml.IsTag style.itemName := by cases style <;> decide
    exact Xml.isPrintable_element isTag (by simp) (.flatMap fun f _ => style.isPrintable_field f)

theorem isPrintable_write (children : List Child) : (style.write children).IsPrintable := by
  have hinside := Text.IsPrintable.flatMap fun c (_ : c ∈ children) => style.isPrintable_child c
  cases style with
  | rss =>
    exact Xml.isPrintable_element (by decide) (by decide)
      (Xml.isPrintable_element (by decide) (by simp) hinside)
  | atom => exact Xml.isPrintable_element (by decide) (by decide +kernel) hinside

/-! ## Frames -/

/-- The events in front of what stands in a feed. -/
def openingEvents : Style → List Xml.Event
  | rss => [.start ⟨none, "rss".toList⟩ [Xml.Attribute.ofPlain ("version".toList, "2.0".toList)],
      .start ⟨none, "channel".toList⟩ []]
  | atom => [.declare none atomSpace, .start ⟨some atomSpace, "feed".toList⟩ []]

/-- The events behind what stands in a feed. -/
def closingEvents : Style → List Xml.Event
  | rss => [.finish ⟨none, "channel".toList⟩, .finish ⟨none, "rss".toList⟩]
  | atom => [.finish ⟨some atomSpace, "feed".toList⟩]

/-- The place where what stands in a feed begins. -/
def top : Style → Place
  | rss => { depth := 2 }
  | atom => { depth := 1 }

/-- A written feed is read as its frame around what stands in it. -/
theorem ofDocument?_write (children : List Child) :
    Xml.Event.ofDocument? ('\n' :: style.write children) =
      some (style.openingEvents ++ (children.flatMap style.childEvents ++ style.closingEvents)) := by
  have hinside := (Xml.Reads.flatMap fun c (_ : c ∈ children) => style.reads_child c).inside
  have hlines : '\r' ∉ style.write children := fun h =>
    absurd (style.isPrintable_write children '\r' h).1 (by decide)
  cases style with
  | rss =>
    have hversion : Xml.IsPlainAttribute ("version".toList, "2.0".toList) :=
      ⟨by decide, by decide, by decide, by decide⟩
    have hattrs : Xml.ArePlain [("version".toList, "2.0".toList)] :=
      ⟨List.forall_mem_singleton.2 hversion, by decide, by decide⟩
    have hbindings : Xml.Bindings.outermost.Gives none := fun _ => rfl
    have hchannel := (hinside.element (by decide : Xml.IsTag "channel".toList) .nil).inside
    have hdocument := Xml.ofDocument?_element (by decide : Xml.IsTag "rss".toList) hattrs.plain
      (Xml.Opening.read?_plain hattrs hbindings _) hbindings hchannel hlines
    rw [show rss.write children = Xml.element _ _ _ from rfl, hdocument]
    simp [openingEvents, closingEvents, Xml.Opening.events, space]
  | atom =>
    have hspace : Xml.IsPlainAttribute ("xmlns".toList, atomSpace) :=
      ⟨by decide, by decide +kernel, by decide +kernel, by decide +kernel⟩
    have hvalue : Xml.valueText? {} 1 (atomSpace.map .plain) = some atomSpace :=
      Xml.valueText?_plain {} 1 hspace.space
    have hopening : Xml.Opening.read? {} .outermost ⟨none, "feed".toList⟩
        ([("xmlns".toList, atomSpace)].map Xml.Attr.ofPlain) =
        some ⟨[(none, atomSpace)], (none, atomSpace) :: Xml.Bindings.outermost,
          ⟨some atomSpace, "feed".toList⟩, []⟩ := by
      unfold Xml.Opening.read?
      simp only [List.map_cons, List.map_nil, Xml.Attr.ofPlain, List.mapM_cons, List.mapM_nil,
        List.length_nil, Nat.zero_add, hvalue, Option.map_some]
      rfl
    exact Xml.ofDocument?_element (by decide : Xml.IsTag "feed".toList)
      (List.forall_mem_singleton.2 hspace) hopening (fun _ => rfl) hinside hlines

theorem events_opening : ({} : State).events style.openingEvents = .ok (style.state style.top) := by
  cases style with
  | rss => decide +kernel
  | atom => decide +kernel

/-- Leaving an element changes nothing that has been read. -/
theorem leave_frame (q : State) : ∃ base bases,
    { q.leaveBase with depth := q.depth - 1 } = { q with base, bases, depth := q.depth - 1 } := by
  unfold State.leaveBase
  split
  · exact ⟨_, _, rfl⟩
  · exact ⟨_, _, rfl⟩

/-- The end of the feed's element ends the feed and changes nothing that has been read. -/
theorem event_finish_feed {p : Place} (h : p.IsOutside) {name : Text} (hname : IsElementName name name)
    (hclosing : Closing.ofName? name = some .feed) :
    ∃ base bases, (style.state p).event (.finish ⟨style.space, name⟩) =
      .ok { style.state p with inFeed := false, base, bases, depth := p.depth - 1 } := by
  have hclosed : (style.state p).closeElement name =
      (Date.checkAll []).map fun _ => { style.state p with inFeed := false } := by
    simp only [State.closeElement, hclosing]
    rfl
  have hprose : (style.state p).proseDepth = 0 := by simp [state, h.prose]
  obtain ⟨base, bases, hleave⟩ := leave_frame { style.state p with inFeed := false }
  refine ⟨base, bases, ?_⟩
  rw [State.event, style.tagOf_eq, hname.1,
    State.endTag_of_closed (style.nameOf_eq hname) (base_ne_svg hname) hclosed hprose, hleave]
  rfl

/-- The end of the document's element has no meaning where nothing is open. -/
theorem event_finish_rss {q : State} (hqualifiers : q.qualifiers = []) (hspaces : q.spaces = [])
    (hstack : q.stack = []) (hprose : q.proseDepth = 0) :
    ∃ base bases, q.event (.finish ⟨none, "rss".toList⟩) =
      .ok { q with base, bases, depth := q.depth - 1 } := by
  have htag : q.tagOf ⟨none, "rss".toList⟩ = "rss".toList := by
    rw [State.tagOf, hspaces]
    decide
  have hname : q.nameOf "rss".toList = "rss".toList := by
    rw [State.nameOf, State.shortOf, hqualifiers]
    decide
  have hclosing : Closing.ofName? "rss".toList = none := by decide
  have hpop : q.pop "rss".toList = .ok (none, q) := by rw [State.pop, hstack]
  have hclosed : q.closeElement "rss".toList = (Date.checkAll []).map fun _ => q := by
    simp only [State.closeElement, hclosing, hpop]
    rfl
  obtain ⟨base, bases, hleave⟩ := leave_frame q
  refine ⟨base, bases, ?_⟩
  rw [State.event, htag, State.endTag_of_closed hname (by decide) hclosed hprose, hleave]
  rfl

/-- The ends of the frame change nothing that has been read. -/
theorem events_closing {p : Place} (h : p.IsOutside) :
    ∃ q : State, (style.state p).events style.closingEvents = .ok q ∧ q.version = style.version ∧
      q.feed = p.feed ∧ q.items = p.items := by
  have hitems : (style.state p).items = p.items := by simp [state, h.item]
  cases style with
  | rss =>
    obtain ⟨base, bases, hchannel⟩ := rss.event_finish_feed h
      (by decide : IsElementName "channel".toList "channel".toList) (by decide)
    obtain ⟨base', bases', hrss⟩ := event_finish_rss
      (q := { rss.state p with inFeed := false, base, bases, depth := p.depth - 1 })
      rfl rfl h.stack (by simp [state, h.prose])
    refine ⟨{ rss.state p with inFeed := false, base := base', bases := bases', depth := p.depth - 1 - 1 },
      ?_, rfl, rfl, hitems⟩
    simp only [closingEvents, State.events]
    rw [show (rss.state p).event (.finish ⟨none, "channel".toList⟩) = _ from hchannel]
    simp only [bind, Except.bind, hrss]
  | atom =>
    obtain ⟨base, bases, hfeed⟩ := atom.event_finish_feed h
      (by decide : IsElementName "feed".toList "feed".toList) (by decide)
    refine ⟨{ atom.state p with inFeed := false, base, bases, depth := p.depth - 1 }, ?_, rfl, rfl, hitems⟩
    simp only [closingEvents, State.events]
    rw [show (atom.state p).event (.finish ⟨some atomSpace, "feed".toList⟩) = _ from hfeed]
    rfl

/-! ## Reading what is written -/

/-- The feed at `url` that has been written. -/
def feedOf (url : Text) (children : List Child) : FeedPage.Feed :=
  { url
    title := ((children.filterMap Child.title?).head?.map (·.text)).getD []
    items := (children.filterMap Child.fields?).map (·.record.item) }

theorem isOutside_top (style : Style) : style.top.IsOutside := by
  cases style with
  | rss | atom => exact ⟨rfl, rfl, rfl⟩

/-- All the events of a written feed are read, unless one of its dates cannot be. -/
theorem events_write {children : List Child} (hsingle : (children.filterMap Child.title?).length ≤ 1) :
    ∃ q : State, ({} : State).events
        (style.openingEvents ++ (children.flatMap style.childEvents ++ style.closingEvents)) =
        (Date.checkAll (children.flatMap Child.dates)).map (fun _ => q) ∧
      q.version = style.version ∧ q.feed = (children.foldl Place.takeChild style.top).feed ∧
      q.items = (children.foldl Place.takeChild style.top).items := by
  have houtside : (children.foldl Place.takeChild style.top).IsOutside :=
    List.foldlRecOn children Place.takeChild style.isOutside_top fun _ h c _ => h.takeChild c
  have huntitled : style.top.IsUntitled := by
    rintro ⟨hlow, -⟩
    cases style with
    | rss | atom => exact absurd hlow (by decide)
  have hsteps := style.steps_children style.isOutside_top hsingle fun _ => huntitled
  obtain ⟨q, hclosing, hread⟩ := style.events_closing houtside
  refine ⟨q, ?_, hread⟩
  rw [State.events_append, style.events_opening, Except.bind, State.events_append, hsteps]
  cases Date.checkAll (children.flatMap Child.dates) with
  | error why => rfl
  | ok _ => exact hclosing

theorem ofBytes_write (children : List Child) :
    Document.ofBytes (Text.toUtf8 (style.write children)) = { text := '\n' :: style.write children } := by
  have hascii := (style.isPrintable_write children).isAscii
  cases style with
  | rss => exact Document.ofBytes_ascii hascii (by decide)
  | atom => exact Document.ofBytes_ascii hascii (by decide)

theorem foldl_last {α β : Type} (f : α → β) (init : Option β) {as : List α} (h : as.length ≤ 1) :
    as.foldl (fun _ a => some (f a)) init = (as.head?.map f).or init := by
  cases as with
  | nil => rfl
  | cons a as =>
    obtain rfl := List.eq_nil_of_length_eq_zero (by simpa using h)
    rfl

/-- What has been read of a written feed is the feed. -/
theorem feed?_write {children : List Child} (hsingle : (children.filterMap Child.title?).length ≤ 1)
    {q : State} (hversion : q.version = style.version)
    (hfeed : q.feed = (children.foldl Place.takeChild style.top).feed)
    (hitems : q.items = (children.foldl Place.takeChild style.top).items) (url : Text) :
    q.feed? url none = some (feedOf url children) := by
  have htop : style.top.feed.title = none ∧ style.top.items = [] := by
    cases style with
    | rss | atom => exact ⟨rfl, rfl⟩
  have hknown : q.version.isEmpty = false := by
    rw [hversion]
    cases style <;> decide
  have htitle : q.feed.title = (children.filterMap Child.title?).head?.map (·.text) := by
    rw [hfeed, Place.foldl_takeChild_title, htop.1, foldl_last _ _ hsingle, Option.or_none]
  have hrecords : q.items.map (·.record) =
      ((children.filterMap Child.fields?).map Fields.record).reverse := by
    rw [hitems, Place.foldl_takeChild_items style.isOutside_top, htop.2, List.map_nil, List.append_nil]
  have hlist : q.items.reverse.map (·.record.item) =
      (children.filterMap Child.fields?).map (·.record.item) := by
    have hmap := congrArg (fun rs => (rs.map Record.item).reverse) hrecords
    simpa [Function.comp_def] using hmap
  rw [State.feed?, hknown, Bool.and_false, Bool.false_and, if_neg Bool.false_ne_true, htitle, hlist]
  rfl

/-- The bytes of a written feed are read as that feed, unless one of its dates cannot be read. -/
theorem read_write {children : List Child} (hsingle : (children.filterMap Child.title?).length ≤ 1)
    (url : Text) :
    read url (Text.toUtf8 (style.write children)) =
      (Date.checkAll (children.flatMap Child.dates)).map fun _ => some (feedOf url children) := by
  have hfilled : (Text.toUtf8 (style.write children)).isEmpty = false := by
    cases style with
    | rss | atom => rfl
  obtain ⟨q, hevents, hversion, hfeed, hitems⟩ := style.events_write hsingle
  have hstate : Document.state { text := '\n' :: style.write children } =
      (Date.checkAll (children.flatMap Child.dates)).map fun _ => q := by
    simp only [Document.state, style.ofDocument?_write, hevents]
  have hresult := style.feed?_write hsingle hversion hfeed hitems url
  simp only [read, hfilled, Bool.false_eq_true, if_false, style.ofBytes_write, hstate]
  cases Date.checkAll (children.flatMap Child.dates) with
  | error why => rfl
  | ok _ => exact congrArg Except.ok hresult

end Style
end FeedPage.Feed
