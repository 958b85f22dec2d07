-- SUMMARY: UTF-8: writing it, and reading it strictly, with invalid groups dropped, or with invalid groups marked.
import FeedPage.Text.Basic

/-!
# UTF-8

Bytes are read group by group. A group is either the complete encoding of one character or an
invalid group: a byte that begins no encoding, or the longest proper beginning of an encoding that
the next byte does not continue. Reading resumes right after the group, so that an invalid group
never takes a byte of its neighbour with it. The three readings differ only in what they make of
the invalid groups.
-/

namespace FeedPage

/-- A document as it arrives. -/
abbrev Bytes := List UInt8

namespace Text

/-- The character whose code point consists of the lead bits `v` and the low six bits of each
following byte. -/
def Utf8.assemble (v : Nat) (tail : Bytes) : Char :=
  Char.ofNat (tail.foldl (fun n b => n * 64 + b.toNat % 64) v)

/-- Whether a byte continues an encoding. -/
def Utf8.continues (b : UInt8) : Bool := 0x80 ≤ b && b ≤ 0xBF

/-- Whether the second byte of an encoding may follow the given lead byte: this excludes overlong
encodings, surrogates, and code points past the last. -/
def Utf8.continuesLead (lead b : UInt8) : Bool :=
  (if lead = 0xE0 then 0xA0 else if lead = 0xF0 then 0x90 else 0x80) ≤ b &&
    b ≤ (if lead = 0xED then 0x9F else if lead = 0xF4 then 0x8F else 0xBF)

open Utf8 in
/-- The groups of a byte sequence: a character for each complete encoding, nothing for each
invalid group. -/
def Utf8.groups : Bytes → List (Option Char)
  | [] => []
  | a :: s =>
    if a < 0x80 then some (Char.ofNat a.toNat) :: groups s
    else if a < 0xC2 || 0xF4 < a then none :: groups s
    else match s with
      | [] => [none]
      | b :: s =>
        if !continuesLead a b then none :: groups (b :: s)
        else if a < 0xE0 then some (assemble (a.toNat % 32) [b]) :: groups s
        else match s with
          | [] => [none]
          | c :: s =>
            if !continues c then none :: groups (c :: s)
            else if a < 0xF0 then some (assemble (a.toNat % 16) [b, c]) :: groups s
            else match s with
              | [] => [none]
              | d :: s =>
                if !continues d then none :: groups (d :: s)
                else some (assemble (a.toNat % 8) [b, c, d]) :: groups s
termination_by s => s.length

/-- The text of valid UTF-8. -/
def ofUtf8? (b : Bytes) : Option Text := (Utf8.groups b).mapM id

/-- The text of UTF-8, invalid groups dropped. -/
def ofUtf8Dropping (b : Bytes) : Text := (Utf8.groups b).filterMap id

/-- The text of UTF-8, each invalid group marked by a replacement character. -/
def ofUtf8Marking (b : Bytes) : Text := (Utf8.groups b).map (·.getD '\ufffd')

/-- The bytes of a text in UTF-8. -/
def toUtf8 (s : Text) : Bytes := s.flatMap String.utf8EncodeChar

/-- The bytes of an ASCII text are its code points. -/
def ofAscii (b : Bytes) : Text := b.map fun x => Char.ofNat x.toNat

end Text
end FeedPage
