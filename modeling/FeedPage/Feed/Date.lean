-- SUMMARY: Dates of feeds: which styles of dates can be read, and the dates that end the reading of a feed.
import FeedPage.Feed.Fault
import FeedPage.Text.Case
import FeedPage.Text.Integer

/-!
# Dates

Dates are shown as they are written. But each date is also read, in one style after the other, until
a style fits: that of the W3C, that of mail, that of ISO 8601, that of C, and one that writes a date
with slashes. A date that fits none of them is passed over, with one exception: when what looks like
a date with slashes has a month after the twelfth, or is so far away that its year is no number of 32
bits, the reading of the feed ends (`Date.check`).

Of the other styles only that they fit is of interest.
-/

namespace FeedPage.Feed

namespace Date

/-! ## Points in time -/

/-- A day and a time of day, in some zone. -/
structure Stamp where
  year : Int
  month : Int
  day : Int
  hour : Int
  minute : Int
  second : Int
  deriving DecidableEq, Repr

/-- Whether a year has a leap day. -/
def isLeap (year : Int) : Bool := year % 4 = 0 && (year % 100 ≠ 0 || year % 400 = 0)

/-- The number of days of a month. -/
def daysIn (year month : Int) : Int :=
  if month = 2 then (if isLeap year then 29 else 28)
  else if month ∈ [4, 6, 9, 11] then 30
  else 31

namespace Stamp

/-- Whether there is such a day and such a time of day. -/
def isValid (t : Stamp) : Bool :=
  1 ≤ t.year && t.year ≤ 9999 && 1 ≤ t.month && t.month ≤ 12 &&
    1 ≤ t.day && t.day ≤ daysIn t.year t.month && 0 ≤ t.hour && t.hour ≤ 23 &&
    0 ≤ t.minute && t.minute ≤ 59 && 0 ≤ t.second && t.second ≤ 59

/-- The number of the day; the first day of the first year has the number one. -/
def dayNumber (t : Stamp) : Int :=
  let before := t.year - 1
  let months := (List.range (t.month.toNat - 1)).map fun m : Nat => daysIn t.year (m + 1)
  before * 365 + before / 4 - before / 100 + before / 400 + months.foldl (· + ·) 0 + t.day

/-- The number of the last day of the year 9999. -/
def lastDay : Int := 3652059

/-- Whether there is such a point in time, and it is in the years from 1 to 9999 as well when the
distance of its zone, in minutes, is taken off. -/
def isWithin (t : Stamp) (zone : Int) : Bool :=
  let day := ((t.dayNumber * 24 + t.hour) * 60 + t.minute - zone) / 1440
  t.isValid && 1 ≤ day && day ≤ lastDay

end Stamp

/-! ## Zones -/

/-- The hours by which zones differ. -/
def zones : List (String × Int) :=
  [("ut", 0), ("gmt", 0), ("z", 0), ("adt", -3), ("ast", -4), ("at", -4), ("edt", -4), ("est", -5),
    ("et", -5), ("cdt", -5), ("cst", -6), ("ct", -6), ("mdt", -6), ("mst", -7), ("mt", -7),
    ("pdt", -7), ("pst", -8), ("pt", -8), ("a", -1), ("n", 1), ("m", -12), ("y", 12)]

/-- Zones that only mail knows. -/
def mailZones : List (String × Int) := zones ++ [("met", 1), ("mest", 2)]

/-- The distance of a named zone in minutes; an unknown zone has none. -/
def named (known : List (String × Int)) (zone : Text) : Int :=
  60 * ((known.find? fun (name, _) => name.toList = zone).map (·.2)).getD 0

/-- Whether a zone is written as a distance. -/
def isDistance (zone : Text) : Bool := zone.head?.any fun c => c = '-' || c = '+'

/-- The distance that a sign, two digits of hours and the minutes from place `from_` on tell. -/
def distance? (zone : Text) (from_ : Nat) : Option Int := do
  let hours ← Text.integer? ((zone.drop 1).take 2)
  let minutes ← Text.integer? (zone.drop from_)
  some (if zone.head? = some '-' then -(60 * hours + minutes) else 60 * hours + minutes)

/-! ## The style of the W3C -/

/-- The pieces of a text, with all from the third on as one. -/
def threePieces (c : Char) (s : Text) : List Text :=
  match Text.pieces c s with
  | p :: q :: r :: rest => [p, q, Text.join [c] (r :: rest)]
  | ps => ps

/-- Three texts, of which the last may be missing. -/
def pad (missing : Text) (ps : List Text) : List Text :=
  ps ++ List.replicate (3 - ps.length) missing

/-- The number that a decimal fraction has before its point. -/
def wholePart? (s : Text) : Option Int :=
  let (negative, s) := Text.takeSign (Text.trimNumber s)
  let whole := s.takeWhile (· ≠ '.')
  let fraction := (s.dropWhile (· ≠ '.')).drop 1
  let isMissing (t : Text) : Bool := t.isEmpty && '.' ∈ s
  if isMissing whole && isMissing fraction then none
  else do
    let digits ← if isMissing whole then some [] else Text.digits? whole
    if fraction.isEmpty || (Text.digits? fraction).isSome then
      some (Text.signed negative (Text.ofDigits digits))
    else none

/-- The day, the time of day and the zone of a date in which a `t` stands before the time, or blanks
around it. -/
def w3Parts? (s : Text) : Option (Text × Text × Text) :=
  match Text.pieces 't' (Text.lower s) with
  | [s] => match Text.words s with
    | [] => none
    | [day] => some (zoned day "00:00:00z".toList none)
    | day :: time :: rest => some (zoned day time rest.head?)
  | [day, time] => some (zoned day time none)
  | _ => none
where
  /-- The zone is the one that is given, or a `z` behind the time, or begins at a sign in it. -/
  zoned (day time : Text) (zone : Option Text) : Text × Text × Text :=
    let ends := Text.endsWith ['z'] time
    let time := if ends then time.dropLast else time
    let sign := if '-' ∈ time then '-' else '+'
    let inTime := if ends then ['z'] else time.dropWhile (· ≠ sign)
    (day, time.takeWhile (· ≠ sign), zone.getD inTime)

/-- Whether a date is in the style of the W3C. -/
def isW3 (s : Text) : Bool :=
  (do
    let (day, time, zone) ← w3Parts? s
    let days := threePieces '-' day
    if days.head?.any fun d : Text => d.length = 4 then
      match ← (pad ['1'] days).mapM Text.integer?,
        ← (pad ['0'] (threePieces ':' time)).mapM wholePart? with
      | [year, month, day], [hour, minute, second] =>
        let zone ← if isDistance zone then distance? zone 4 else some (named zones zone)
        some (Stamp.isWithin ⟨year, month, day, hour, minute, second⟩ zone)
      | _, _ => none
    else none).getD false

/-! ## The style of mail -/

/-- The beginnings of the names of days. -/
def dayNames : List Text := ["mon", "tue", "wed", "thu", "fri", "sat", "sun"].map String.toList

/-- The beginnings of the names of months. -/
def monthNames : List Text :=
  ["jan", "feb", "mar", "apr", "may", "jun", "jul", "aug", "sep", "oct", "nov", "dec"].map
    String.toList

/-- The month whose name a word begins with. -/
def month? (word : Text) : Option Int :=
  (monthNames.findIdx? (· = word.take 3)).map fun n => (n : Int) + 1

/-- The month and the day that stand in two words, in either order. -/
def monthAndDay? (first second : Text) : Option (Int × Int) :=
  match Text.integer? first with
  | some day => (month? second).map fun month => (month, day)
  | none => do
    let month ← month? first
    let day ← Text.integer? second
    some (month, day)

/-- The year of a word; one of two characters belongs to the years from 1990 to 2089. -/
def year? (word : Text) : Option Int :=
  (Text.integer? word).map fun year =>
    if word.length ≤ 2 then (if year < 90 then year + 2000 else year + 1900) else year

/-- The distance of a zone of mail. -/
def mailZone? (zone : Text) : Option Int :=
  let zone := (Text.after? "etc/".toList zone).getD zone
  let zone := match Text.after? "gmt".toList zone with
    | some rest =>
      if rest.all (· = ':') then "gmt".toList else rest.filter (· ≠ ':')
    | none => zone
  if isDistance zone then distance? zone (if ':' ∈ zone then 4 else 3)
  else some (named mailZones zone)

/-- Whether words are a date in the style of mail. -/
def areMail (words : List Text) : Bool :=
  let words := if words.length < 5 then words ++ ["00:00:00".toList, "0000".toList] else words
  let words := if words.head?.any (·.take 3 ∈ dayNames) then words.tail else words
  match words with
  | first :: second :: year :: time :: zone :: _ =>
    (do
      let (month, day) ← monthAndDay? first second
      let year ← year? year
      match ← (pad ['0'] (Text.pieces ':' time)).mapM Text.integer? with
      | [hour, minute, second] =>
        some (Stamp.isWithin ⟨year, month, day, hour, minute, second⟩ (← mailZone? zone))
      | _ => none).getD false
  | _ => false

/-- Whether a date is in the style of mail. -/
def isMail (s : Text) : Bool := areMail (Text.words (Text.lower s))

/-- Whether a date is in the style of C: name of the day, month, day, time, perhaps a zone, year. -/
def isC (s : Text) : Bool :=
  match Text.words (Text.lower s) with
  | [a, b, c, time, year] => areMail [a, c, b, year, time, "+0000".toList]
  | [a, b, c, time, zone, year] => areMail [a, c, b, year, time, zone]
  | _ => false

/-! ## The style of ISO 8601 -/

/-- Whether a character is a decimal digit of any script. -/
def isDigit (c : Char) : Bool := (Text.digit? c).isSome

/-- A character of a pattern. -/
inductive Mark where
  | digit
  | among (chars : String)
  /-- A character that may be left out. -/
  | maybe (c : Char)
  deriving DecidableEq, Repr

/-- Whether a text begins as a pattern tells. -/
def beginsAs : List Mark → Text → Bool
  | [], _ => true
  | .maybe c :: marks, s => beginsAs marks (if s.head? = some c then s.tail else s)
  | .digit :: marks, c :: s => isDigit c && beginsAs marks s
  | .among chars :: marks, c :: s => c ∈ chars.toList && beginsAs marks s
  | _ :: _, [] => false

/-- The beginnings by which dates of ISO 8601 are known. -/
def isoPatterns : List (List Mark) :=
  [[.digit, .digit, .digit, .digit],
    [.digit, .digit, .maybe '-', .among "01", .digit, .maybe '-', .among "0123", .digit],
    [.digit, .digit, .maybe '-', .among "0123", .digit, .digit],
    [.among "-", .digit, .digit],
    [.among "-", .among "-", .among "01", .digit],
    [.among "-", .among "-", .among "-", .among "0123", .digit],
    [.maybe 'T', .digit, .digit, .among ":", .digit, .digit]]

/-- Whether a date is in the style of ISO 8601; a century alone is, too. -/
def isIso (s : Text) : Bool :=
  isoPatterns.any (beginsAs · s) || (s.length = 2 && s.all isDigit)

/-! ## The style with slashes -/

/-- A date with slashes. -/
structure Slashed where
  year : Text
  month : Text
  day : Text
  hour : Text
  minute : Text
  second : Text
  zone : Text
  deriving DecidableEq, Repr

/-- Between `least` and `most` digits that `ending` follows, and the rest behind it. -/
def number? (least most : Nat) (ending : Char) (s : Text) : Option (Text × Text) :=
  let (digits, rest) := Text.run isDigit s
  match rest with
  | c :: rest =>
    if c = ending ∧ least ≤ digits.length ∧ digits.length ≤ most then some (digits, rest) else none
  | [] => none

/-- The date with slashes whose comma stands at the front. -/
def slashed? (s : Text) : Option Slashed := do
  let s ← Text.after? ", ".toList s
  let (year, s) ← number? 0 4 '/' s
  let (month, s) ← number? 0 2 '/' s
  let (day, s) ← number? 2 2 ' ' s
  let (hour, s) ← number? 0 2 ':' s
  let (minute, s) ← number? 2 2 ':' s
  let (second, s) ← number? 2 2 ' ' s
  let zone := s.takeWhile (!Text.isBlank ·)
  if zone.isEmpty then none else some { year, month, day, hour, minute, second, zone }

/-- The first date with slashes. -/
def firstSlashed? : Text → Option Slashed
  | [] => none
  | c :: s => match slashed? (c :: s) with
    | some d => some d
    | none => firstSlashed? s

/-- The text without a comma at its end. -/
def dropComma (s : Text) : Text := if Text.endsWith [','] s then s.dropLast else s

namespace Slashed

/-- The text of the time of day. -/
def time (d : Slashed) : Text := Text.join [':'] [d.hour, d.minute, d.second]

/-- The parts of the zone where it stands for a time and a zone: in front of the first plus, or else
the first minus, and from there on. -/
def zoneParts (d : Slashed) : Text × Text :=
  let sign := if '+' ∈ d.zone then '+' else '-'
  let front := d.zone.takeWhile (· ≠ sign)
  if front.isEmpty then (d.zone, []) else (front, d.zone.dropWhile (· ≠ sign))

/-- The year, the time and the zone, told apart as in mail: where there is no year all move up, a
year with a colon is the time, and one that does not begin with a digit is the zone. -/
def parts? (d : Slashed) : Option (Text × Text × Text) :=
  let (year, time, zone) := if d.year.isEmpty then (d.time, d.zoneParts) else (d.year, d.time, d.zone)
  let (year, time) := if ':' ∈ year ∧ year.head? ≠ some ':' then (time, year) else (year, time)
  let year := dropComma year
  if year.isEmpty then none
  else if year.head?.any isDigit then some (year, dropComma time, zone)
  else some (zone, dropComma time, year)

/-- Hour, minute and second of a time with colons or with points, of which the last may be missing. -/
def timeParts? (time : Text) : Option (List Text) :=
  let ps := Text.pieces ':' time
  let ps := if ps.length = 1 then Text.pieces '.' time else ps
  if 2 ≤ ps.length ∧ ps.length ≤ 3 then some (pad ['0'] ps) else none

/-- A year of less than three digits belongs to the years from 1969 to 2068. -/
def fullYear (year : Int) : Int :=
  if year < 100 then (if 68 < year then year + 1900 else year + 2000) else year

/-- The distance in seconds of a zone that is a number: hundreds are hours. The hours of named zones
take no date far enough to matter. -/
def distance (zone : Text) : Int :=
  match Text.integer? zone with
  | some n => n.sign * ((n.natAbs / 100 : Nat) * 3600 + (n.natAbs % 100 : Nat) * 60)
  | none => 0

/-- The number of the first day of the year 1970. -/
def epoch : Int := 719163

/-- The seconds from 1970 to a date in this month, when it can be told. -/
def seconds? (d : Slashed) (month : Int) : Option Int := do
  let (year, time, zone) ← d.parts?
  let year := fullYear (← Text.integer? year)
  let day ← Text.integer? d.day
  match ← (← timeParts? time).mapM Text.integer? with
  | [hour, minute, second] =>
    if 1 ≤ year ∧ year ≤ 9999 then
      let days := Stamp.dayNumber ⟨year, month, day, 0, 0, 0⟩ - epoch
      some (((days * 24 + hour) * 60 + minute) * 60 + second - distance zone)
    else none
  | _ => none

/-- The fault that looking up the date ends in. The month before the first is the last. -/
def fault? (d : Slashed) : Option Fault := do
  let month ← (Text.digits? d.month).map Text.ofDigits
  if 12 < month then some .lateMonth
  else if (d.seconds? (if month = 0 then 12 else month)).any isRemote then some .remoteYear
  else none
where
  /-- Whether seconds fit into 64 bits, but their year does not fit into 32. -/
  isRemote (seconds : Int) : Bool :=
    -9223372036854775808 ≤ seconds && seconds ≤ 9223372036854775807 &&
      !(-67768040609740800 ≤ seconds && seconds ≤ 67768036191676799)

end Slashed

/-! ## Reading -/

/-- The fault that reading a date ends in, if it is in no other style. -/
def fault? (s : Text) : Option Fault :=
  if isW3 s || isMail s || isIso s || isC s then none else (firstSlashed? s).bind Slashed.fault?

/-- A date is read. -/
def check (s : Text) : Except Fault Unit :=
  match fault? s with
  | some why => .error why
  | none => .ok ()

end Date
end FeedPage.Feed
