-- SUMMARY: Reading East Asian character sets that are switched by escape sequences.
import FeedPage.Text.Charset.Double

/-!
# Switched sets

A switched set writes East Asian characters in the bytes of ASCII. What a byte stands for depends on
the set that an escape sequence has called up last.
-/

namespace FeedPage.Text.Charset

/-! ## A tilde as the switch -/

/-- The Chinese set in which a tilde switches. The state tells that characters take two bytes. -/
def tildeStep : Step Bool
  | shifted, 0x7E, b :: _ =>
    if shifted then if b = 0x7D then some ([], 1, false) else none
    else if b = 0x7B then some ([], 1, true)
    else if b = 0x7E then some (['~'], 1, false)
    else if b = 0x0A then some ([], 1, false)
    else none
  | _, 0x7E, [] => none
  | false, a, _ => (asciiChar? a).map ([·], 0, false)
  | true, a, b :: _ =>
    if a < 0x80 && b < 0x80 then (simplifiedGrid.text? (a + 0x80) (b + 0x80)).map (·, 1, true)
    else none
  | true, _, [] => none

/-! ## Escape sequences as the switch -/

/-- What an escape sequence calls up, by its last byte, and whether characters take two bytes. -/
structure Mark where
  byte : UInt8
  double : Bool := false
  deriving DecidableEq, Repr

/-- ASCII as what is called up. -/
def Mark.ascii : Mark := ⟨0x42, false⟩

/-- The text of a pair of bytes of ASCII, in what is called up; `second` tells the edition of the
extended Japanese set. -/
def Mark.two? (m : Mark) (second : Bool) (a b : UInt8) : Option Text :=
  if 0x80 ≤ b then none
  else match Char.ofNat m.byte.toNat with
    | 'A' => simplifiedGrid.text? (a + 0x80) (b + 0x80)
    | '@' | 'B' => japaneseGrid.text? (a + 0x80) (b + 0x80)
    | 'C' => (koreanChar? (a + 0x80) (b + 0x80)).map ([·])
    | 'D' => supplementaryGrid.text? (a + 0x80) (b + 0x80)
    | 'O' => firstPlane? false (a + 0x80) (b + 0x80)
    | 'Q' => firstPlane? true (a + 0x80) (b + 0x80)
    | 'P' => secondPlane? second (a + 0x80) (b + 0x80)
    | _ => none

/-- The character of a byte of ASCII, in what is called up. -/
def Mark.one? (m : Mark) (a : UInt8) : Option Char :=
  match Char.ofNat m.byte.toNat with
  | 'B' => asciiChar? a
  | 'J' => roman? a
  | 'I' => narrow? (a + 0x80)
  | _ => none

/-- How characters in what is called up are read. -/
def Mark.read (m : Mark) (second : Bool) : Reading :=
  if m.double then .ofTwo (m.two? second) else .ofOne m.one?

/-- The older Greek set. -/
def olderGreek? (a : UInt8) : Option Text :=
  if a = 0xA4 || a = 0xA5 || a = 0xAA then none else decodeSingle? "iso8859_7" [a]

/-- The text of a byte of ASCII in the upper half of what is called up. -/
def Mark.upper? (m : Mark) (a : UInt8) : Option Text :=
  if 0x80 ≤ a then none
  else match Char.ofNat m.byte.toNat with
    | 'A' => some [Char.ofNat (a.toNat + 0x80)]
    | 'B' => some [Char.ofNat a.toNat]
    | 'F' => olderGreek? (a + 0x80)
    | _ => none

/-- A set switched by escape sequences. -/
structure Switched where
  /-- The last bytes of the sequences for characters of one byte, beside that for ASCII. -/
  single : Text := []
  /-- The last bytes of the sequences for characters of two bytes. -/
  double : Text
  /-- Whether the bytes 14 and 15 shift. -/
  shifts : Bool := false
  /-- Whether a single character can be taken from an upper half. -/
  lends : Bool := false
  /-- Whether a sequence may stand in front of the one for two bytes. -/
  prefixed : Bool := true
  /-- The edition of the extended Japanese set. -/
  second : Bool := false
  deriving DecidableEq, Repr

/-- Whether the set can call up what a sequence names. -/
def Switched.knows (w : Switched) (m : Mark) : Bool :=
  m = .ascii || (if m.double then w.double else w.single).contains (Char.ofNat m.byte.toNat)

/-- The places in which something can be called up. -/
inductive Slot where
  | base | shifted | upper
  deriving DecidableEq, Repr

/-- What has been called up. -/
structure Calls where
  base : Mark := .ascii
  shifted : Mark := .ascii
  upper : Mark := .ascii
  /-- Whether the base is shifted. -/
  isShifted : Bool := false
  /-- Whether an unknown sequence is passing. -/
  isPassing : Bool := false
  deriving DecidableEq, Repr

/-- What is called up in a place. -/
def Calls.call (q : Calls) (m : Mark) : Slot → Calls
  | .base => { q with base := m }
  | .shifted => { q with shifted := m }
  | .upper => { q with upper := m }

/-- Whether a byte ends a sequence. -/
def endsSequence (a : UInt8) : Bool := 0x40 ≤ a && a ≤ 0x5A

/-- The place and the mark of the sequence at the front, without its first byte, and its length. -/
def Switched.sequence? (w : Switched) (s : Bytes) : Option (Slot × Mark × Nat) :=
  plain.filter (fun (_, m, _) => endsSequence m.byte) <|> double
where
  /-- A sequence of one, two or three bytes. -/
  plain : Option (Slot × Mark × Nat) :=
    match s with
    | 0x24 :: 0x28 :: m :: _ => some (.base, ⟨m, true⟩, 3)
    | 0x24 :: 0x29 :: m :: _ => some (.shifted, ⟨m, true⟩, 3)
    | 0x24 :: m :: _ => some (.base, ⟨m, true⟩, 2)
    | 0x28 :: m :: _ => some (.base, ⟨m, false⟩, 2)
    | 0x29 :: m :: _ => some (.shifted, ⟨m, false⟩, 2)
    | 0x2E :: m :: _ => if w.lends then some (.upper, ⟨m, false⟩, 2) else none
    | _ => none
  /-- Two sequences in a row, of which the second counts. -/
  double : Option (Slot × Mark × Nat) :=
    match s with
    | x :: y :: 0x1B :: 0x24 :: 0x42 :: _ =>
      if w.prefixed && (!endsSequence y || x = 0x26 && y = 0x40) then some (.base, ⟨0x42, true⟩, 5)
      else none
    | _ => none

/-- How a set that is switched by escape sequences is read. -/
def Switched.step (w : Switched) : Step Calls := fun q a s =>
  if q.isPassing then
    some ([Char.ofNat a.toNat], 0, { q with isPassing := !endsSequence a })
  else if a = 0x1B then
    match s with
    | [] => none
    | b :: s' =>
      if "$().&".toList.contains (Char.ofNat b.toNat) then do
        let (slot, m, n) ← w.sequence? s
        if w.knows m then some ([], n, q.call m slot) else none
      else if w.lends && b = 0x4E then do
        let c ← s'.head?
        let t ← q.upper.upper? c
        some (t, 2, q)
      else some (['\x1b'], 0, { q with isPassing := true })
  else if w.shifts && a = 0x0F then some ([], 0, { q with isShifted := false })
  else if w.shifts && a = 0x0E then some ([], 0, { q with isShifted := true })
  else if a = 0x0A then some (['\n'], 0, { q with isShifted := false })
  else if a < 0x20 then some ([Char.ofNat a.toNat], 0, q)
  else if 0x80 ≤ a then none
  else ((if q.isShifted then q.shifted else q.base).read w.second a s).map fun (t, n) => (t, n, q)

end FeedPage.Text.Charset
