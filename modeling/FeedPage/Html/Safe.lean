-- SUMMARY: Markup reduced to elements, attributes and styles that may be shown.
import FeedPage.Html.Style
import FeedPage.Markup.Render
import FeedPage.Url.Safe

/-!
# Safe markup

Markup from elsewhere is shown only as far as it is harmless. Elements and attributes that are not
known to be harmless lose their tags, and some elements their text as well. Drawings and formulas
have elements and attributes of their own, which count only inside of them; there their spelling in
mixed case is restored. Documents that are not XHTML may leave out the namespaces of drawings and
formulas.
-/

namespace FeedPage.Html

/-! ## What is harmless -/

/-- Harmless elements. -/
def safeElements : List Text :=
  ["a", "abbr", "acronym", "address", "area", "article", "aside", "audio", "b", "big",
    "blockquote", "br", "button", "canvas", "caption", "center", "cite", "code", "col", "colgroup",
    "command", "datagrid", "datalist", "dd", "del", "details", "dfn", "dialog", "dir", "div", "dl",
    "dt", "em", "event-source", "fieldset", "figcaption", "figure", "font", "footer", "form", "h1",
    "h2", "h3", "h4", "h5", "h6", "header", "hr", "i", "img", "input", "ins", "kbd", "keygen",
    "label", "legend", "li", "m", "map", "menu", "meter", "multicol", "nav", "nextid", "noscript",
    "ol", "optgroup", "option", "output", "p", "pre", "progress", "q", "s", "samp", "section",
    "select", "small", "sound", "source", "spacer", "span", "strike", "strong", "sub", "sup",
    "table", "tbody", "td", "textarea", "tfoot", "th", "thead", "time", "tr", "tt", "u", "ul",
    "var", "video"].map String.toList

/-- Harmless attributes. -/
def safeAttributes : List Text :=
  ["abbr", "accept", "accept-charset", "accesskey", "action", "align", "alt", "autocomplete",
    "autofocus", "axis", "background", "balance", "bgcolor", "bgproperties", "border",
    "bordercolor", "bordercolordark", "bordercolorlight", "bottompadding", "cellpadding",
    "cellspacing", "ch", "challenge", "char", "charoff", "charset", "checked", "choff", "cite",
    "class", "clear", "color", "cols", "colspan", "compact", "contenteditable", "controls",
    "coords", "data", "datafld", "datapagesize", "datasrc", "datetime", "default", "delay", "dir",
    "disabled", "draggable", "dynsrc", "enctype", "end", "face", "for", "form", "frame",
    "galleryimg", "gutter", "headers", "height", "hidden", "hidefocus", "high", "href", "hreflang",
    "hspace", "icon", "id", "inputmode", "ismap", "keytype", "label", "lang", "leftspacing",
    "list", "longdesc", "loop", "loopcount", "loopend", "loopstart", "low", "lowsrc", "max",
    "maxlength", "media", "method", "min", "multiple", "name", "nohref", "noshade", "nowrap",
    "open", "optimum", "pattern", "ping", "point-size", "poster", "pqg", "preload", "prompt",
    "radiogroup", "readonly", "rel", "repeat-max", "repeat-min", "replace", "required", "rev",
    "rightspacing", "rows", "rowspan", "rules", "scope", "selected", "shape", "size", "span",
    "src", "start", "step", "style", "summary", "suppress", "tabindex", "target", "template",
    "title", "toppadding", "type", "unselectable", "urn", "usemap", "valign", "value", "variable",
    "volume", "vrml", "vspace", "width", "wrap", "xml:lang"].map String.toList

/-- Elements whose text is dropped together with their tags. -/
def muteElements : List Text := ["applet", "script", "style"].map String.toList

/-- Elements of formulas. -/
def formulaElements : List Text :=
  ["annotation", "annotation-xml", "maction", "maligngroup", "malignmark", "math", "menclose",
    "merror", "mfenced", "mfrac", "mglyph", "mi", "mlabeledtr", "mlongdiv", "mmultiscripts", "mn",
    "mo", "mover", "mpadded", "mphantom", "mprescripts", "mroot", "mrow", "ms", "mscarries",
    "mscarry", "msgroup", "msline", "mspace", "msqrt", "msrow", "mstack", "mstyle", "msub",
    "msubsup", "msup", "mtable", "mtd", "mtext", "mtr", "munder", "munderover", "none",
    "semantics"].map String.toList

/-- Attributes of formulas. -/
def formulaAttributes : List Text :=
  ["accent", "accentunder", "actiontype", "align", "alignmentscope", "altimg", "altimg-height",
    "altimg-valign", "altimg-width", "alttext", "bevelled", "charalign", "close", "columnalign",
    "columnlines", "columnspacing", "columnspan", "columnwidth", "crossout", "decimalpoint",
    "denomalign", "depth", "dir", "display", "displaystyle", "edge", "encoding", "equalcolumns",
    "equalrows", "fence", "fontstyle", "fontweight", "form", "frame", "framespacing", "groupalign",
    "height", "href", "id", "indentalign", "indentalignfirst", "indentalignlast", "indentshift",
    "indentshiftfirst", "indentshiftlast", "indenttarget", "infixlinebreakstyle", "largeop",
    "length", "linebreak", "linebreakmultchar", "linebreakstyle", "lineleading", "linethickness",
    "location", "longdivstyle", "lquote", "lspace", "mathbackground", "mathcolor", "mathsize",
    "mathvariant", "maxsize", "minlabelspacing", "minsize", "movablelimits", "notation",
    "numalign", "open", "other", "overflow", "position", "rowalign", "rowlines", "rowspacing",
    "rowspan", "rquote", "rspace", "scriptlevel", "scriptminsize", "scriptsizemultiplier",
    "selection", "separator", "separators", "shift", "side", "src", "stackalign", "stretchy",
    "subscriptshift", "superscriptshift", "symmetric", "voffset", "width", "xlink:href",
    "xlink:show", "xlink:type", "xmlns", "xmlns:xlink"].map String.toList

/-- Elements of drawings, as they are spelled. -/
def drawingElements : List Text :=
  ["a", "animate", "animateColor", "animateMotion", "animateTransform", "circle", "defs", "desc",
    "ellipse", "font-face", "font-face-name", "font-face-src", "foreignObject", "g", "glyph",
    "hkern", "line", "linearGradient", "marker", "metadata", "missing-glyph", "mpath", "path",
    "polygon", "polyline", "radialGradient", "rect", "set", "stop", "svg", "switch", "text",
    "title", "tspan", "use"].map String.toList

/-- Attributes of drawings, as they are spelled. -/
def drawingAttributes : List Text :=
  ["accent-height", "accumulate", "additive", "alphabetic", "arabic-form", "ascent",
    "attributeName", "attributeType", "baseProfile", "bbox", "begin", "by", "calcMode",
    "cap-height", "class", "color", "color-rendering", "content", "cx", "cy", "d", "descent",
    "display", "dur", "dx", "dy", "end", "fill", "fill-opacity", "fill-rule", "font-family",
    "font-size", "font-stretch", "font-style", "font-variant", "font-weight", "from", "fx", "fy",
    "g1", "g2", "glyph-name", "gradientUnits", "hanging", "height", "horiz-adv-x",
    "horiz-origin-x", "id", "ideographic", "k", "keyPoints", "keySplines", "keyTimes", "lang",
    "marker-end", "marker-mid", "marker-start", "markerHeight", "markerUnits", "markerWidth",
    "mathematical", "max", "min", "name", "offset", "opacity", "orient", "origin",
    "overline-position", "overline-thickness", "panose-1", "path", "pathLength", "points",
    "preserveAspectRatio", "r", "refX", "refY", "repeatCount", "repeatDur", "requiredExtensions",
    "requiredFeatures", "restart", "rotate", "rx", "ry", "slope", "stemh", "stemv", "stop-color",
    "stop-opacity", "strikethrough-position", "strikethrough-thickness", "stroke",
    "stroke-dasharray", "stroke-dashoffset", "stroke-linecap", "stroke-linejoin",
    "stroke-miterlimit", "stroke-opacity", "stroke-width", "systemLanguage", "target",
    "text-anchor", "to", "transform", "type", "u1", "u2", "underline-position",
    "underline-thickness", "unicode", "unicode-range", "units-per-em", "values", "version",
    "viewBox", "visibility", "width", "widths", "x", "x-height", "x1", "x2", "xlink:actuate",
    "xlink:arcrole", "xlink:href", "xlink:role", "xlink:show", "xlink:title", "xlink:type",
    "xml:base", "xml:lang", "xml:space", "xmlns", "xmlns:xlink", "y", "y1", "y2",
    "zoomAndPan"].map String.toList

/-- The spelling of a name in a list, given in lower case. -/
def spelling? (names : List Text) (name : Text) : Option Text :=
  names.find? fun n => Text.lowerAscii n = name

/-! ## Namespaces -/

/-- The namespace of drawings. -/
def drawingSpace : Text := "http://www.w3.org/2000/svg".toList

/-- The namespace of formulas. -/
def formulaSpace : Text := "http://www.w3.org/1998/Math/MathML".toList

/-- The declaration of the namespace of links between documents. -/
def linkSpace : Markup.Attr := ⟨"xmlns:xlink".toList, "http://www.w3.org/1999/xlink".toList⟩

/-! ## Reduction -/

/-- Where the reduction stands: how many mute elements are open, less those that were only closed,
and how many formulas and drawings. -/
structure SafeState where
  mute : Int := 0
  formulas : Nat := 0
  drawings : Nat := 0
  deriving DecidableEq, Repr

/-- The vocabulary that a start tag belongs to: its name as spelled, and the attributes that it may
have with their spelling. -/
def SafeState.vocabulary? (q : SafeState) (name : Text) : Option (Text × (Text → Option Text)) :=
  let plain (names : List Text) (n : Text) : Option Text := if n ∈ names then some n else none
  if name ∈ safeElements ∧ q.drawings = 0 then some (name, plain safeAttributes)
  else if 0 < q.formulas ∧ name ∈ formulaElements then some (name, plain formulaAttributes)
  else match if 0 < q.drawings then spelling? drawingElements name else none with
    | some spelled => some (spelled, spelling? drawingAttributes)
    | none => if name ∈ safeElements then some (name, plain safeAttributes) else none

/-- An attribute in the form in which it may be shown. -/
def SafeState.attr? (q : SafeState) (spelled? : Text → Option Text) (a : Markup.Attr) :
    Option Markup.Attr :=
  match spelled? a.name with
  | none => none
  | some name =>
    if a.name = "style".toList then
      let style := Style.sanitize (0 < q.drawings) a.value
      if style.isEmpty then none else some { a with value := style }
    else if name = "href".toList then some ⟨name, Url.safe a.value []⟩
    else some ⟨name, a.value⟩

/-- The attributes with the namespace that a drawing or a formula may leave out. -/
def withSpace (xhtml : Bool) (name : Text) (attrs : List Markup.Attr) : List Markup.Attr :=
  let known := (attrs.reverse.find? (·.name = "xmlns".toList)).any fun a => !a.value.isEmpty
  if xhtml || known then attrs
  else if name = "svg".toList then attrs ++ [⟨"xmlns".toList, drawingSpace⟩]
  else if name = "math".toList then attrs ++ [⟨"xmlns".toList, formulaSpace⟩]
  else attrs

/-- The state inside of an element that is not harmless by itself. -/
def SafeState.enter (q : SafeState) (name : Text) (attrs : List Markup.Attr) : SafeState :=
  { mute := if name ∈ muteElements then q.mute + 1 else q.mute
    formulas :=
      if name = "math".toList ∧ attrs.contains ⟨"xmlns".toList, formulaSpace⟩ then q.formulas + 1
      else q.formulas
    drawings :=
      if name = "svg".toList ∧ attrs.contains ⟨"xmlns".toList, drawingSpace⟩ then q.drawings + 1
      else q.drawings }

/-- A start tag reduced. -/
def SafeState.start (q : SafeState) (xhtml : Bool) (name : Text) (attrs : List Markup.Attr) :
    SafeState × Text :=
  let isPlain : Bool := name ∈ safeElements && q.drawings = 0
  let attrs := if isPlain then attrs else withSpace xhtml name attrs
  let q := if isPlain then q else q.enter name attrs
  match q.vocabulary? name with
  | none => (q, [])
  | some (spelled, spelled?) =>
    let attrs :=
      if (0 < q.formulas ∨ 0 < q.drawings) ∧
          attrs.any (fun a => Text.startsWith "xlink:".toList a.name) ∧
          !attrs.contains linkSpace then
        attrs ++ [linkSpace]
      else attrs
    let attrs := (Markup.normalize attrs).filterMap (q.attr? spelled?)
    (q, (Markup.Token.startTag spelled attrs).render)

/-- An end tag reduced. -/
def SafeState.finish (q : SafeState) (name : Text) : SafeState × Text :=
  if name ∈ safeElements then (q, (Markup.Token.endTag name).render)
  else
    let q := if name ∈ muteElements then { q with mute := q.mute - 1 } else q
    if 0 < q.formulas ∧ name ∈ formulaElements then
      let q := if name = "math".toList then { q with formulas := q.formulas - 1 } else q
      (q, (Markup.Token.endTag name).render)
    else match if 0 < q.drawings then spelling? drawingElements name else none with
      | some spelled =>
        let q := if spelled = "svg".toList then { q with drawings := q.drawings - 1 } else q
        (q, (Markup.Token.endTag spelled).render)
      | none => (q, [])

/-- A token reduced. -/
def SafeState.step (xhtml : Bool) (q : SafeState) : Markup.Token → SafeState × Text
  | .text s => (q, if q.mute = 0 then s else [])
  | .startTag name attrs => q.start xhtml name attrs
  | .endTag name => q.finish name
  | .instruction _ | .doctype _ => (q, [])
  | t => (q, t.render)

/-- Tokens reduced one after the other. -/
def SafeState.run (xhtml : Bool) : SafeState → List Markup.Token → Text
  | _, [] => []
  | q, t :: ts => (q.step xhtml t).2 ++ run xhtml (q.step xhtml t).1 ts

/-- Markup reduced to what is harmless. Sections of text lose their brackets; in XHTML an empty tag
closes its element. -/
def sanitize (xhtml : Bool) (s : Text) : Text :=
  let s := Text.replace "<![CDATA[".toList "&lt;![CDATA[".toList s
  let ts := Markup.tokens { closesEmpty := xhtml, dropsOpenComments := true } s
  Text.replace "\r\n".toList ['\n'] (Text.trim (SafeState.run xhtml {} ts))

end FeedPage.Html
