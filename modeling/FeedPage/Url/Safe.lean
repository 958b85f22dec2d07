-- SUMMARY: Lenient resolution of references, and the schemes that may stand in what is shown.
import FeedPage.Text.Blank
import FeedPage.Url.Resolve

/-!
# Safe references

Feeds are full of references that are not quite URLs. They are resolved leniently (`join`): slashes
that a scheme has too many of are dropped, and what cannot be resolved is empty. A reference that is
shown must have a known harmless scheme once it is resolved (`safe`).
-/

namespace FeedPage.Url

/-- Characters of a scheme as it is written in front of `://`. -/
def isWrittenSchemeChar (c : Char) : Bool := isSchemeChar c || c = ','

/-- The reference without the slashes that follow `://`. -/
def dropExtraSlashes (s : Text) : Text :=
  match Text.after? "://".toList (s.dropWhile isWrittenSchemeChar) with
  | some rest =>
    if s.head?.any Char.isAlpha then
      s.takeWhile isWrittenSchemeChar ++ "://".toList ++ rest.dropWhile (· = '/')
    else s
  | none => s

/-- The reference seen from `base`; empty when it cannot be resolved. -/
def join (base ref : Text) : Text :=
  match resolve base (dropExtraSlashes ref) with
  | .ok url => url
  | .error _ => []

/-- Schemes that may stand in what is shown. -/
def safeSchemes : List Text :=
  ["file", "ftp", "gopher", "h323", "hdl", "http", "https", "imap", "magnet", "mailto", "mms",
    "news", "nntp", "prospero", "rsync", "rtsp", "rtspu", "sftp", "shttp", "sip", "sips", "snews",
    "svn", "svn+ssh", "telnet", "wais", "aim", "callto", "cvs", "facetime", "feed", "git", "gtalk",
    "irc", "ircs", "irc6", "itms", "mms", "msnim", "skype", "ssh", "smb", "svn", "ymsg"].map
    String.toList

/-- The reference seen from `base` when the result has a safe scheme, and empty otherwise. Without a
base there is nothing to check. -/
def safe (base ref : Text) : Text :=
  if base.isEmpty then ref
  else if ref.isEmpty then
    match split [] base with
    | .ok u => if u.scheme.isEmpty || u.scheme ∈ safeSchemes then base else []
    | .error _ => []
  else
    let url := join base ref
    if (Text.partition ':' (Text.trim url)).1 ∈ safeSchemes then url else []

end FeedPage.Url
