-- SUMMARY: Reading Base64, with foreign characters skipped.
import FeedPage.Text.Utf8

/-!
# Base64

Four characters of the alphabet stand for three bytes. Other characters are skipped. An equals sign
ends the text where it completes a group; a group that is begun must be completed.
-/

namespace FeedPage.Text.Base64

/-- The value of a character of the alphabet. -/
def sextet? (c : Char) : Option Nat :=
  if 'A' ≤ c ∧ c ≤ 'Z' then some (c.toNat - 65)
  else if 'a' ≤ c ∧ c ≤ 'z' then some (c.toNat - 71)
  else if '0' ≤ c ∧ c ≤ '9' then some (c.toNat + 4)
  else if c = '+' then some 62
  else if c = '/' then some 63
  else none

/-- The bytes of a text. `count` characters of a group are read, whose bits not yet used are `left`;
`pads` equals signs stand behind them. -/
def decodeFrom? (count left pads : Nat) : Text → Option Bytes
  | [] => if count = 0 then some [] else none
  | c :: s =>
    if c = '=' then
      if 2 ≤ count ∧ 4 ≤ count + pads + 1 then some []
      else decodeFrom? count left (if 2 ≤ count then pads + 1 else pads) s
    else match sextet? c with
      | none => decodeFrom? count left pads s
      | some n =>
        match count with
        | 0 => decodeFrom? 1 n 0 s
        | 1 => (decodeFrom? 2 (n % 16) 0 s).map (UInt8.ofNat (left * 4 + n / 16) :: ·)
        | 2 => (decodeFrom? 3 (n % 4) 0 s).map (UInt8.ofNat (left * 16 + n / 4) :: ·)
        | _ => (decodeFrom? 0 0 0 s).map (UInt8.ofNat (left * 64 + n) :: ·)

/-- The bytes that a text in Base64 stands for. -/
def decode? (s : Text) : Option Bytes := decodeFrom? 0 0 0 s

end FeedPage.Text.Base64
