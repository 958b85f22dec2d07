-- SUMMARY: Reading East Asian character sets in which characters take one or more bytes.
import FeedPage.Text.Charset.Extension
import FeedPage.Text.Charset.Grid
import FeedPage.Text.Charset.Single

/-!
# Double-byte sets

In a double-byte set most characters take two bytes, which name a cell of a grid; others take one
byte, three, four or eight. Sets of vendors, regions and later editions take the characters of an
older grid and add their own.
-/

namespace FeedPage.Text.Charset

/-! ## Reading step by step -/

/-- How a set reads the bytes `a :: s` in a state: the text at their front, the number of the bytes
in `s` that belong to it, and the state behind it. -/
abbrev Step (σ : Type) := σ → UInt8 → Bytes → Option (Text × Nat × σ)

/-- The text of bytes that are read from the given state on. -/
def Step.decode? {σ : Type} (step : Step σ) (q : σ) : Bytes → Option Text
  | [] => some []
  | a :: s => do
    let (t, n, q) ← step q a s
    (step.decode? q (s.drop n)).map (t ++ ·)
termination_by s => s.length
decreasing_by
  simp only [List.length_cons, List.length_drop]
  omega

/-- How a set without states reads the bytes `a :: s`. -/
abbrev Reading := UInt8 → Bytes → Option (Text × Nat)

/-- The text of bytes in a set without states. -/
def Reading.decode? (read? : Reading) : Bytes → Option Text :=
  Step.decode? (fun _ a s => (read? a s).map fun (t, n) => (t, n, ())) ()

/-- Tries one way to read, then another. -/
def Reading.or (first second : Reading) : Reading := fun a s => first a s <|> second a s

/-- The reading of single bytes. -/
def Reading.ofOne (one? : UInt8 → Option Char) : Reading := fun a _ => (one? a).map ([·], 0)

/-- The reading of pairs of bytes. -/
def Reading.ofTwo (two? : UInt8 → UInt8 → Option Text) : Reading
  | a, b :: _ => (two? a b).map (·, 1)
  | _, [] => none

/-- The character of an ASCII byte. -/
def asciiChar? (a : UInt8) : Option Char := if a < 0x80 then some (Char.ofNat a.toNat) else none

/-- The Japanese syllable in narrow form that a byte stands for. -/
def narrow? (a : UInt8) : Option Char :=
  if 0xA1 ≤ a && a ≤ 0xDF then some (Char.ofNat (0xFEC0 + a.toNat)) else none

/-! ## Grids and tables -/

/-- A grid of characters: the row of a first byte, the column of a second byte, the number of
columns, and the cells row by row. -/
structure Grid where
  row? : Nat → Option Nat
  column? : Nat → Option Nat
  width : Nat
  cells : Array Char

/-- The character of a pair of bytes. -/
def Grid.char? (g : Grid) (a b : UInt8) : Option Char := do
  let r ← g.row? a.toNat
  let c ← g.column? b.toNat
  let x ← g.cells[r * g.width + c]?
  if x = '.' then none else some x

/-- The text of a pair of bytes. -/
def Grid.text? (g : Grid) (a b : UInt8) : Option Text := (g.char? a b).map ([·])

/-- The place of a byte in a row of consecutive bytes. -/
def span? (lo hi n : Nat) : Option Nat := if lo ≤ n ∧ n ≤ hi then some (n - lo) else none

/-- The place of a byte in a row of consecutive bytes without 127. -/
def spanButDelete? (lo hi n : Nat) : Option Nat :=
  if n = 127 then none else (span? lo hi n).map fun k => if 127 < n then k - 1 else k

/-- A grid of 94 rows and columns. -/
def Grid.square (lines : List String) : Grid :=
  ⟨span? 0xA1 0xFE, span? 0xA1 0xFE, 94, cellsOf lines⟩

/-- The number of a pair of bytes. -/
def pairNumber (a b : UInt8) : Nat := a.toNat * 256 + b.toNat

/-- What pairs of bytes stand for, by number. -/
abbrev Table := Std.HashMap Nat Text

/-- The table of runs of characters and of pairs that stand for a whole text. -/
def Table.of (runs whole : List (Nat × String)) : Table :=
  Std.HashMap.ofList <|
    (runs.flatMap fun (start, s) => s.toList.zipIdx start |>.map fun (c, k) => (k, [c])) ++
      whole.map fun (k, s) => (k, s.toList)

/-- The text of a pair of bytes. -/
def Table.text? (t : Table) (a b : UInt8) : Option Text := t[pairNumber a b]?

/-! ## Chinese -/

/-- The Chinese grid. -/
def chineseGrid : Grid :=
  ⟨span? 0x81 0xFE, spanButDelete? 0x40 0xFE, 190, cellsOf chineseSource⟩

/-- The older Chinese grid. -/
def simplifiedGrid : Grid := .square simplifiedSource

/-- The traditional Chinese grid. -/
def traditionalGrid : Grid :=
  ⟨span? 0xA1 0xF9,
    fun n => span? 0x40 0x7E n <|> (span? 0xA1 0xFE n).map (· + 63), 157,
    cellsOf traditionalSource⟩

/-- The character of a four-byte sequence of the Chinese set. -/
def chineseFour? (a b c d : UInt8) : Option Char := do
  let w ← span? 0x81 0xFE a.toNat
  let x ← span? 0x30 0x39 b.toNat
  let y ← span? 0x81 0xFE c.toNat
  let z ← span? 0x30 0x39 d.toNat
  let place := ((w * 10 + x) * 126 + y) * 10 + z
  if 189000 ≤ place then
    if place - 189000 < 0x100000 then some (Char.ofNat (0x10000 + (place - 189000))) else none
  else
    let (start, code, _) ← chineseRuns.find? fun (start, _, n) =>
      start ≤ place && place < start + n
    some (Char.ofNat (code + (place - start)))

/-- Whether the older part of the Chinese grid leaves a cell empty. -/
def isChineseGap (a b : UInt8) : Bool :=
  match chineseGrid.row? a.toNat, chineseGrid.column? b.toNat with
  | some r, some c => chineseGaps.contains (r * 190 + c)
  | _, _ => false

/-- The Chinese set, with or without its four-byte part. -/
def readChinese (four : Bool) : Reading :=
  .or (.ofOne asciiChar?) fun a s =>
    match s with
    | [] => none
    | b :: s =>
      if four && 0x30 ≤ b && b ≤ 0x39 then
        match s with
        | c :: d :: _ => (chineseFour? a b c d).map ([·], 3)
        | _ => none
      else if !four && isChineseGap a b then none
      else (chineseGrid.text? a b).map (·, 1)

/-- The older Chinese set. -/
def readSimplified : Reading := .or (.ofOne asciiChar?) (.ofTwo simplifiedGrid.text?)

/-- The traditional Chinese set. -/
def readTraditional : Reading := .or (.ofOne asciiChar?) (.ofTwo traditionalGrid.text?)

/-- What the vendor set of Taiwan adds. -/
def taiwaneseTable : Table := .of taiwaneseSource []

/-- The vendor set of Taiwan. -/
def readTaiwanese : Reading :=
  .or (.ofOne asciiChar?) (.or (.ofTwo taiwaneseTable.text?) (.ofTwo traditionalGrid.text?))

/-- What the set of Hong Kong adds. -/
def hongKongTable : Table := .of hongKongSource hongKongCombinedSource

/-- The set of Hong Kong. A part of the traditional grid is its own. -/
def readHongKong : Reading :=
  .or (.ofOne asciiChar?) <| .ofTwo fun a b =>
    hongKongTable.text? a b <|>
      if 0xC6A1 ≤ pairNumber a b && pairNumber a b ≤ 0xC8FE then none
      else traditionalGrid.text? a b

/-! ## Japanese -/

/-- The Japanese grid in shifted places. -/
def shiftedGrid : Grid :=
  ⟨fun n => span? 0x81 0x9F n <|> (span? 0xE0 0xFC n).map (· + 31), spanButDelete? 0x40 0xFC, 188,
    cellsOf shiftedSource⟩

/-- The Japanese grid. -/
def japaneseGrid : Grid := .square japaneseSource

/-- The supplementary Japanese grid. -/
def supplementaryGrid : Grid := .square supplementarySource

/-- The shifted Japanese set. -/
def readShifted : Reading :=
  .or (.ofOne asciiChar?) (.or (.ofOne narrow?) (.ofTwo shiftedGrid.text?))

/-- The single bytes of the vendor set of Japan that stand for characters of its own. -/
def vendorChar? (a : UInt8) : Option Char :=
  if a = 0x80 then some '\x80'
  else if a = 0xA0 then some '\uf8f0'
  else if 0xFD ≤ a then some (Char.ofNat (0xF8F1 + (a.toNat - 0xFD)))
  else none

/-- The characters of users in the vendor set of Japan: ten rows of private code points. -/
def userChar? (a b : UInt8) : Option Char := do
  let r ← span? 0xF0 0xF9 a.toNat
  let c ← spanButDelete? 0x40 0xFC b.toNat
  some (Char.ofNat (0xE000 + 188 * r + c))

/-- What the vendor set of Japan adds. -/
def windowsJapaneseTable : Table := .of windowsJapaneseSource []

/-- The vendor set of Japan. -/
def readWindowsJapanese : Reading :=
  .or (.ofOne fun a => asciiChar? a <|> narrow? a <|> vendorChar? a) <| .ofTwo fun a b =>
    windowsJapaneseTable.text? a b <|> shiftedGrid.text? a b <|> (userChar? a b).map ([·])

/-- The Japanese set: the byte 0x8E announces a narrow syllable, 0x8F a supplementary character. -/
def readJapanese : Reading :=
  .or (.ofOne asciiChar?) fun a s =>
    if a = 0x8E then
      match s with
      | b :: _ => (narrow? b).map ([·], 1)
      | [] => none
    else if a = 0x8F then
      match s with
      | b :: c :: _ => (supplementaryGrid.text? b c).map (·, 2)
      | _ => none
    else Reading.ofTwo japaneseGrid.text? a s

/-- What the first plane of the extended Japanese set adds. -/
def firstPlaneTable : Table := .of firstPlaneSource combinedSource

/-- The second plane of the extended Japanese set. -/
def secondPlaneTable : Table := .of secondPlaneSource []

/-- The pairs of the first plane that came with its second edition. -/
def laterPairs : List Nat :=
  [0xAEA1, 0xAFFE, 0xCFD4, 0xCFFE, 0xF4A7, 0xFEFA, 0xFEFB, 0xFEFC, 0xFEFD, 0xFEFE]

/-- The text of a pair in the first plane, in the first or the second edition. -/
def firstPlane? (second : Bool) (a b : UInt8) : Option Text :=
  if !second && laterPairs.contains (pairNumber a b) then none
  else japaneseGrid.text? a b <|> firstPlaneTable.text? a b

/-- The text of a pair in the second plane, in the first or the second edition. -/
def secondPlane? (second : Bool) (a b : UInt8) : Option Text :=
  if !second && pairNumber a b = 0xFDBB then some ['鬝'] else secondPlaneTable.text? a b

/-- The extended Japanese set: the byte 0x8E announces a narrow syllable, 0x8F a pair of the second
plane or a supplementary character. -/
def readExtended (second : Bool) : Reading :=
  .or (.ofOne asciiChar?) fun a s =>
    if a = 0x8E then
      match s with
      | b :: _ => (narrow? b).map ([·], 1)
      | [] => none
    else if a = 0x8F then
      match s with
      | b :: c :: _ => (secondPlane? second b c <|> supplementaryGrid.text? b c).map (·, 2)
      | _ => none
    else Reading.ofTwo (firstPlane? second) a s

/-- The row of the second plane that stands in a shifted place, from the end of the first plane
on. -/
def secondPlaneRow (row : Nat) : Nat :=
  if 0x67 ≤ row then row + 0x07 else if 0x63 ≤ row ∨ row = 0x5F then row - 0x37 else row - 0x3D

/-- The text of a pair in the shifted form of the extended Japanese set: two rows of a plane stand
in one, and two marks keep their narrow forms. -/
def shiftedPlanes? (second : Bool) (a b : UInt8) : Option Text := do
  let r ← shiftedGrid.row? a.toNat
  let c ← shiftedGrid.column? b.toNat
  let row := 2 * r + c / 94
  let column := UInt8.ofNat (0xA1 + c % 94)
  if pairNumber a b = 0x815F then some ['\\']
  else if pairNumber a b = 0x81B0 then some ['~']
  else if row < 94 then firstPlane? second (UInt8.ofNat (0xA1 + row)) column
  else secondPlane? second (UInt8.ofNat (0x80 + secondPlaneRow row)) column

/-- The character of a byte in the Japanese form of ASCII. -/
def roman? (a : UInt8) : Option Char :=
  if a = 0x5C then some '¥' else if a = 0x7E then some '‾' else asciiChar? a

/-- The shifted form of the extended Japanese set. -/
def readShiftedExtended (second : Bool) : Reading :=
  .or (.ofOne roman?) (.or (.ofOne narrow?) (.ofTwo (shiftedPlanes? second)))

/-! ## Korean -/

/-- The Korean grid. -/
def koreanGrid : Grid := .square koreanSource

/-- The consonants that begin a syllable, in their order. -/
def initials : Text := "ㄱㄲㄴㄷㄸㄹㅁㅂㅃㅅㅆㅇㅈㅉㅊㅋㅌㅍㅎ".toList

/-- The vowels, in their order. -/
def vowels : Text := "ㅏㅐㅑㅒㅓㅔㅕㅖㅗㅘㅙㅚㅛㅜㅝㅞㅟㅠㅡㅢㅣ".toList

/-- The consonants that end a syllable, in their order. -/
def finals : Text := "ㄱㄲㄳㄴㄵㄶㄷㄹㄺㄻㄼㄽㄾㄿㅀㅁㅂㅄㅅㅆㅇㅈㅊㅋㅌㅍㅎ".toList

/-- The mark that fills the place of a letter. -/
def filler : Char := '\u3164'

/-- The syllable of the numbers of its letters; a missing last letter is number 0. -/
def syllable (first vowel last : Nat) : Char :=
  Char.ofNat (0xAC00 + (first * 21 + vowel) * 28 + last)

/-- The syllable of three letters, the last of which may be the filler. -/
def compose? (first vowel last : Char) : Option Char := do
  let i ← initials.idxOf? first
  let v ← vowels.idxOf? vowel
  let f ← (filler :: finals).idxOf? last
  some (syllable i v f)

/-- The character of a pair of bytes, the filler among them. -/
def koreanChar? (a b : UInt8) : Option Char :=
  if a = 0xA4 && b = 0xD4 then some filler else koreanGrid.char? a b

/-- The Korean set. A syllable outside the grid is spelled: the filler, then its letters. -/
def readKorean : Reading :=
  .or (.ofOne asciiChar?) fun a s =>
    match s with
    | [] => none
    | b :: s =>
      if a = 0xA4 && b = 0xD4 then
        match s with
        | 0xA4 :: x :: 0xA4 :: y :: 0xA4 :: z :: _ => do
          let c ← compose? (← koreanChar? 0xA4 x) (← koreanChar? 0xA4 y) (← koreanChar? 0xA4 z)
          some ([c], 7)
        | _ => none
      else (koreanGrid.text? a b).map (·, 1)

/-- The syllables that the Korean grid leaves out, in their order. -/
def otherSyllables : Array Char :=
  let known := Std.HashSet.ofArray (koreanGrid.cells.map Char.toNat)
  ((List.range' 0xAC00 11172).filter (!known.contains ·)).toArray.map Char.ofNat

/-- The place of a pair of bytes among the syllables that the Korean grid leaves out: rows of 178
in front of the grid, rows of 84 beside it. -/
def otherPlace? (a b : UInt8) : Option Nat := do
  let c ← span? 0x41 0x5A b.toNat <|> (span? 0x61 0x7A b.toNat).map (· + 26) <|>
    (span? 0x81 0xFE b.toNat).map (· + 52)
  match span? 0x81 0xA0 a.toNat with
  | some r => some (r * 178 + c)
  | none =>
    let r ← span? 0xA1 0xC6 a.toNat
    if c < 84 then some (32 * 178 + r * 84 + c) else none

/-- The vendor set of Korea. -/
def readWindowsKorean : Reading :=
  .or (.ofOne asciiChar?) <| .ofTwo fun a b =>
    ((koreanChar? a b) <|> (otherPlace? a b).bind (otherSyllables[·]?)).map ([·])

/-- The letter of five bits: fillers come first, and some numbers are left out. `runs` gives the
first number and the letters of each run. -/
def bitLetter? (fillerNumber : Nat) (runs : List (Nat × Text)) (n : Nat) : Option Char :=
  if n = fillerNumber then some filler
  else runs.findSome? fun (start, letters) => if start ≤ n then letters[n - start]? else none

/-- The character of three groups of five bits: a syllable, or a letter alone. -/
def combined? (a b : UInt8) : Option Char := do
  let n := pairNumber a b
  let i ← bitLetter? 1 [(2, initials)] (n / 1024 % 32)
  let v ← bitLetter? 2
    [(3, vowels.take 5), (10, (vowels.drop 5).take 6), (18, (vowels.drop 11).take 6),
      (26, vowels.drop 17)] (n / 32 % 32)
  let f ← bitLetter? 1 [(2, finals.take 16), (19, finals.drop 16)] (n % 32)
  if i ≠ filler && v ≠ filler then compose? i v f
  else match [i, v, f].filter (· ≠ filler) with
    | [] => some '\u3000'
    | [c] => some c
    | _ => none

/-- The text of a pair of bytes that stands for a cell of the Korean grid in the set of combined
letters: two rows of the grid stand in one. -/
def combinedGrid? (a b : UInt8) : Option Text := do
  let row ← (span? 0xD9 0xDE a.toNat).map (2 * ·) <|> (span? 0xE0 0xF9 a.toNat).map (2 * · + 41)
  let c ← span? 0x31 0x7E b.toNat <|> (span? 0x91 0xFE b.toNat).map (· + 78)
  if a = 0xDA && 0xA1 ≤ b && b ≤ 0xD3 then none
  else
    (koreanChar? (UInt8.ofNat (0xA1 + row + c / 94)) (UInt8.ofNat (0xA1 + c % 94))).map ([·])

/-- The Korean set of combined letters. -/
def readCombined : Reading :=
  .or (.ofOne asciiChar?) <| .ofTwo fun a b =>
    if a < 0xD8 then (combined? a b).map ([·]) else combinedGrid? a b

end FeedPage.Text.Charset
