-- SUMMARY: Resolving a reference against a base URL, with its path evaluated as a stack of segments.
import FeedPage.Url.Basic

/-!
# Resolving references

A reference is read with the scheme of the base as its default. With another scheme, or one that
knows no hierarchy, it stands for itself. With a host of its own it keeps its path. Otherwise it
takes the host of the base, and its path is evaluated segment by segment: `.` does nothing, `..`
drops the last segment, and all others are pushed; a relative path begins in the directory of the
base.
-/

namespace FeedPage.Url

/-- A stack of path segments, last first, after one more segment. -/
def pushSegment (stack : List Text) (segment : Text) : List Text :=
  if segment = "..".toList then stack.tail
  else if segment = ".".toList then stack
  else segment :: stack

/-- The path that a list of segments leads to. A final `.` or `..` names a directory. -/
def evalSegments (segments : List Text) : Text :=
  let stack := segments.foldl pushSegment []
  let isDir := segments.getLast?.any fun s => s = "..".toList || s = ".".toList
  let path := Text.join ['/'] (if isDir then [] :: stack else stack).reverse
  if path.isEmpty then ['/'] else path

/-- The segments of the base's directory: all but the last, unless that is empty. -/
def directory (path : Text) : List Text :=
  let segments := Text.pieces '/' path
  if segments.getLast? = some [] then segments else segments.dropLast

/-- Drops the empty segments that are neither first nor last, which would double a slash. -/
def mergeSegments : List Text → List Text
  | [] => []
  | s :: rest => s :: (rest.dropLast.filter (!·.isEmpty) ++ rest.getLast?.toList)

/-- The segments to evaluate for a path seen from the base's path. -/
def segmentsFrom (base path : Text) : List Text :=
  if Text.startsWith ['/'] path then Text.pieces '/' path
  else mergeSegments (directory base ++ Text.pieces '/' path)

/-- The reference `ref` seen from `base`. -/
def resolve (base ref : Text) : Except Error Text :=
  if base.isEmpty then .ok ref
  else if ref.isEmpty then .ok base
  else do
    let b ← parse [] base
    let u ← parse b.scheme ref
    if u.scheme ≠ b.scheme ∨ u.scheme ∉ hierarchicalSchemes then pure ref
    else if u.scheme ∈ hostSchemes ∧ !u.host.isEmpty then pure u.render
    else
      let u := if u.scheme ∈ hostSchemes then { u with host := b.host } else u
      if u.path.isEmpty && u.params.isEmpty then
        pure ({ u with path := b.path, params := b.params,
                       query := if u.query.isEmpty then b.query else u.query } : Url).render
      else pure ({ u with path := evalSegments (segmentsFrom b.path u.path) } : Url).render

end FeedPage.Url
