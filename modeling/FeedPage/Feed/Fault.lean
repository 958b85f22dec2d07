-- SUMMARY: What ends the reading of a feed without a result.
import FeedPage.Text.Integer
import FeedPage.Text.Quoted

/-!
# Faults of reading a feed

A feed that is not well-formed is still read, as well as it goes. Reading ends in a fault only in a
few cases: a numbered character that does not exist, a character where a tag is looked for, an
element that closes what its context does not have, and a date with a month that does not exist or
that is too far away.
-/

namespace FeedPage.Feed

/-- What ends the reading of a feed. -/
inductive Fault where
  /-- A character number of more digits than numbers may have. -/
  | numberTooLong (digits : Nat)
  /-- A character number above the last code point. -/
  | numberOutOfRange
  /-- A character number that does not fit in 32 bits. -/
  | numberTooLarge
  /-- The number of half a character. -/
  | halfCharacter (code : Nat)
  /-- A character stands where markup is looked at tag by tag. -/
  | characterForTag
  /-- A context lacks the part of this name. -/
  | missingPart (name : Text)
  /-- A chapter does not tell when it starts. -/
  | chapterWithoutStart
  /-- There is no relation that a link could complete. -/
  | noRelation
  /-- A date has a month after the twelfth. -/
  | lateMonth
  /-- The year of a date does not fit in 32 bits. -/
  | remoteYear
  /-- A number has no text. -/
  | missingNumber
  deriving DecidableEq, Repr

/-- The wording of a fault. -/
def Fault.message : Fault → Text
  | .numberTooLong digits => Text.tooManyDigits digits
  | .numberOutOfRange => "chr() arg not in range(0x110000)".toList
  | .numberTooLarge => "Python int too large to convert to C int".toList
  | .halfCharacter code =>
    "'utf-8' codec can't encode character '\\u".toList ++ Text.hexOfNat code ++
      "' in position 0: surrogates not allowed".toList
  | .characterForTag =>
    "startswith first arg must be bytes or a tuple of bytes, not str".toList
  | .missingPart name => Text.quoted name
  | .chapterWithoutStart => "expected string or bytes-like object, got 'NoneType'".toList
  | .noRelation | .lateMonth => "list index out of range".toList
  | .remoteYear => "[Errno 75] Value too large for defined data type".toList
  | .missingNumber =>
    ("int() argument must be a string, a bytes-like object or a real number, not " ++
      "'NoneType'").toList

end FeedPage.Feed
