-- SUMMARY: URLs as their six parts: reading a URL into them and writing them back.
import FeedPage.Text.Quoted
import FeedPage.Url.Address

/-!
# URLs

A URL has six parts: scheme, host, path, parameters of the last path segment, query and fragment.
Reading never fails but for a host that cannot be trusted: one with a lone square bracket, one whose
brackets enclose no address, or one whose characters decompose into delimiters, so that it would
show another host than it names. Blanks and controls at the front are dropped, and so are tabs and
line ends anywhere.
-/

namespace FeedPage

/-- The parts of a URL; a part that is missing is empty. -/
structure Url where
  scheme : Text
  host : Text
  path : Text
  params : Text
  query : Text
  fragment : Text
  deriving DecidableEq, Repr

namespace Url

/-- Why a URL is refused. -/
inductive Error where
  /-- A square bracket of the host has no partner. -/
  | loneBracket
  /-- The brackets of the host enclose no address that may stand there. -/
  | noAddress (enclosed : Text)
  /-- The host holds a character that decomposes into a delimiter. -/
  | deceptiveHost (host : Text)
  deriving DecidableEq, Repr

/-- The wording of an error. -/
def Error.message : Error → Text
  | .loneBracket => "Invalid IPv6 URL".toList
  | .noAddress enclosed =>
    if enclosed.head? = some 'v' then "IPvFuture address is invalid".toList
    else if Address.isVersion4 enclosed then "An IPv4 address cannot be in brackets".toList
    else Text.quoted enclosed ++ " does not appear to be an IPv4 or IPv6 address".toList
  | .deceptiveHost host =>
    "netloc '".toList ++ host ++ "' contains invalid characters under NFKC normalization".toList

/-- Schemes whose references are resolved against a base. -/
def hierarchicalSchemes : List Text :=
  ["", "ftp", "http", "gopher", "nntp", "imap", "wais", "file", "https", "shttp", "mms",
    "prospero", "rtsp", "rtsps", "rtspu", "sftp", "svn", "svn+ssh", "ws", "wss"].map String.toList

/-- Schemes whose URLs have a host. -/
def hostSchemes : List Text :=
  ["", "ftp", "http", "gopher", "nntp", "telnet", "imap", "wais", "file", "mms", "https", "shttp",
    "snews", "prospero", "rtsp", "rtsps", "rtspu", "rsync", "svn", "svn+ssh", "sftp", "nfs", "git",
    "git+ssh", "ws", "wss"].map String.toList

/-- Schemes whose last path segment may carry parameters. -/
def paramSchemes : List Text :=
  ["", "ftp", "hdl", "prospero", "http", "imap", "https", "shttp", "rtsp", "rtsps", "rtspu", "sip",
    "sips", "mms", "sftp", "tel"].map String.toList

/-- Characters of a scheme. -/
def isSchemeChar (c : Char) : Bool := c.isAlphanum || c == '+' || c == '-' || c == '.'

/-- The URL without what readers of URLs ignore. -/
def scrub (s : Text) : Text :=
  (s.dropWhile fun c => c.toNat ≤ 32).filter fun c => !(c == '\t' || c == '\r' || c == '\n')

/-- The scheme in lower case, when one is written, and the rest. -/
def takeScheme? (s : Text) : Option (Text × Text) :=
  match Text.cutChar? ':' s with
  | some (name, rest) =>
    if name.head?.any Char.isAlpha && name.all isSchemeChar then some (Text.lowerAscii name, rest)
    else none
  | none => none

/-- Characters that end the host. -/
def endsHost (c : Char) : Bool := c == '/' || c == '?' || c == '#'

/-- Characters that decompose into a text with one of the delimiters `/ ? # @ :`. -/
def deceptive : List Nat :=
  [0x2047, 0x2048, 0x2049, 0x2100, 0x2101, 0x2105, 0x2106, 0x2A74, 0xFE13, 0xFE16, 0xFE55, 0xFE56,
    0xFE5F, 0xFE6B, 0xFF03, 0xFF0F, 0xFF1A, 0xFF1F, 0xFF20]

/-- What the first square bracket of a host opens, up to a closing one. -/
def enclosed (host : Text) : Text := (Text.partition ']' (Text.partition '[' host).2).1

/-- Refuses a host that cannot be trusted. -/
def checkHost (host : Text) : Except Error Unit :=
  if ('[' ∈ host) ≠ (']' ∈ host) then .error .loneBracket
  else if '[' ∈ host && !Address.mayStandInBrackets (enclosed host) then
    .error (.noAddress (enclosed host))
  else if host.any fun c => c.toNat ∈ deceptive then .error (.deceptiveHost host)
  else .ok ()

/-- The path without the parameters of its last segment, and the parameters. -/
def splitParams (path : Text) : Text × Text :=
  let last := (path.reverse.takeWhile (· ≠ '/')).reverse
  match Text.cutChar? ';' last with
  | some (segment, params) => (path.take (path.length - last.length) ++ segment, params)
  | none => (path, [])

/-- The parts of a URL, its parameters still in the path. `scheme` is taken where none is
written. -/
def split (scheme source : Text) : Except Error Url := do
  let (scheme, s) := (takeScheme? (scrub source)).getD (scheme, scrub source)
  let (host, s) := match Text.after? "//".toList s with
    | some t => Text.run (!endsHost ·) t
    | none => ([], s)
  checkHost host
  let (s, fragment) := Text.partition '#' s
  let (path, query) := Text.partition '?' s
  pure ⟨scheme, host, path, [], query, fragment⟩

/-- The parts of a URL. `scheme` is taken where none is written. -/
def parse (scheme source : Text) : Except Error Url := do
  let u ← split scheme source
  if u.scheme ∈ paramSchemes then
    let (path, params) := splitParams u.path
    pure { u with path := path, params := params }
  else pure u

/-- A part with its mark in front, nothing when the part is empty. -/
def marked (mark : Char) (part : Text) : Text := if part.isEmpty then [] else mark :: part

/-- The text of a URL. A path behind a host begins with a slash; a path that begins with two slashes
has an empty host written in front of it. -/
def render (u : Url) : Text :=
  let path := u.path ++ marked ';' u.params
  let place :=
    if !u.host.isEmpty || (!u.scheme.isEmpty && u.scheme ∈ hostSchemes) ||
        Text.startsWith "//".toList path then
      "//".toList ++ u.host ++
        (if path.isEmpty || Text.startsWith ['/'] path then path else '/' :: path)
    else path
  (if u.scheme.isEmpty then place else u.scheme ++ ':' :: place) ++ marked '?' u.query ++
    marked '#' u.fragment

end Url
end FeedPage
