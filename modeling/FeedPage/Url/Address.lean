-- SUMMARY: Which texts may stand in square brackets in a host: addresses of version 6, perhaps with a zone, and addresses of later versions.
import FeedPage.Text.Basic

/-!
# Addresses in brackets

A host may be an address in square brackets. An address of version 6 has eight groups of hexadecimal
digits between colons. Two colons in a row stand for the groups that are left out, at least one of
them, and an address of version 4 may stand for the last two groups. A zone may follow behind a
percent sign. An address of a later version begins with the number of that version.
-/

namespace FeedPage.Url.Address

/-- A number up to 255 in decimal digits, without zeros in front. -/
def isOctet (s : Text) : Bool :=
  s.all Char.isDigit && (s = ['0'] || s.head?.any (· ≠ '0')) && s.length ≤ 3 &&
    Text.ofDecimalDigits s ≤ 255

/-- An address of version 4: four octets between points. -/
def isVersion4 (s : Text) : Bool :=
  let octets := Text.pieces '.' s
  octets.length = 4 && octets.all isOctet

/-- A group of an address of version 6. -/
def isGroup (s : Text) : Bool := !s.isEmpty && s.length ≤ 4 && s.all Text.isHexDigit

/-- How many groups a row of groups has; `last` tells whether the row ends the address, so that an
address of version 4 may stand for two groups. -/
def countGroups? (last : Bool) : List Text → Option Nat
  | [] => some 0
  | s :: rest =>
    if isGroup s then (countGroups? last rest).map (· + 1)
    else if last && rest.isEmpty && isVersion4 s then some 2
    else none

/-- How many groups stand between colons in a text. -/
def groups? (last : Bool) (s : Text) : Option Nat :=
  if s.isEmpty then some 0 else countGroups? last (Text.pieces ':' s)

/-- An address of version 6. -/
def isVersion6 (s : Text) : Bool :=
  match Text.cut? "::".toList s with
  | some (before, behind) =>
    match groups? false before, groups? true behind with
    | some m, some n => m + n < 8
    | _, _ => false
  | none => groups? true s = some 8

/-- An address of version 6, perhaps with a zone. -/
def isZoned (s : Text) : Bool :=
  match Text.cutChar? '%' s with
  | some (address, zone) => !zone.isEmpty && '%' ∉ zone && isVersion6 address
  | none => isVersion6 s

/-- An address of a later version: `v`, the version in hexadecimal digits, a point, and more. -/
def isLater (s : Text) : Bool :=
  match Text.after? ['v'] s with
  | some t =>
    !(t.takeWhile Text.isHexDigit).isEmpty &&
      (Text.after? ['.'] (t.dropWhile Text.isHexDigit)).any (!·.isEmpty)
  | none => false

/-- What may stand in brackets. -/
def mayStandInBrackets (s : Text) : Bool := isLater s || isZoned s

end FeedPage.Url.Address
