-- SUMMARY: Which texts are read as an integer, and as which: a grammar of numerals, and that reading accepts just these.
import Mathlib.Data.List.TakeWhile
import Mathlib.Data.Nat.Digits.Defs
import FeedPage.Text.Integer

/-!
# Numerals

A numeral is white space, perhaps a sign, groups of digits of any script joined by underscores, and
white space again. A text is read as an integer exactly when it is a numeral of no more digits than
are allowed, and then as the number that the digits denote in base ten (`integer?_eq_some_iff`).
-/

namespace FeedPage.Text

/-! ## Digits -/

/-- A decimal digit: the zero of its script, and its value. -/
structure Digit where
  zero : Nat
  value : Nat
  isZero : zero ∈ zeros
  value_lt : value < 10

/-- The character of a digit. -/
def Digit.char (d : Digit) : Char := Char.ofNat (d.zero + d.value)

/-- The digits of different scripts do not overlap. -/
theorem zeros_apart : zeros.Pairwise fun y z => y + 10 ≤ z := by decide +kernel

theorem digit?_of_zero {c : Char} {z : Nat} (hz : z ∈ zeros) (hle : z ≤ c.toNat)
    (hlt : c.toNat < z + 10) : digit? c = some (c.toNat - z) := by
  have hfind : zeros.find? (fun z => z ≤ c.toNat && c.toNat < z + 10) = some z := by
    have hapart := zeros_apart
    generalize zeros = rows at hz hapart
    induction rows with
    | nil => cases hz
    | cons y rows ih =>
      obtain ⟨hy, hrows⟩ := List.pairwise_cons.1 hapart
      rcases List.mem_cons.1 hz with rfl | hz
      · simp [hle, hlt]
      · have hbehind := hy z hz
        have hother : (decide (y ≤ c.toNat) && decide (c.toNat < y + 10)) = false := by
          simp only [Bool.and_eq_false_iff, decide_eq_false_iff_not]
          omega
        rw [List.find?_cons, hother]
        exact ih hz hrows
  rw [digit?, hfind, Option.map_some]

theorem Digit.toNat_char (d : Digit) : d.char.toNat = d.zero + d.value := by
  have hall : ∀ z ∈ zeros, z + 10 ≤ 0xD800 ∨ (0xE000 ≤ z ∧ z + 10 ≤ 0x110000) := by decide +kernel
  have hvalid := hall d.zero d.isZero
  have hlt := d.value_lt
  have hchar : Nat.isValidChar (d.zero + d.value) := by
    unfold Nat.isValidChar
    omega
  rw [Digit.char, toNat_ofNat hchar]

theorem Digit.digit?_char (d : Digit) : digit? d.char = some d.value := by
  have hlt := d.value_lt
  rw [digit?_of_zero d.isZero (by rw [d.toNat_char]; omega) (by rw [d.toNat_char]; omega),
    d.toNat_char, Nat.add_sub_cancel_left]

theorem exists_digit {c : Char} {n : Nat} (h : digit? c = some n) :
    ∃ d : Digit, d.char = c ∧ d.value = n := by
  have hlt := digit?_lt h
  obtain ⟨z, hz, rfl⟩ := Option.map_eq_some_iff.1 h
  have hbounds := List.find?_some hz
  simp only [Bool.and_eq_true, decide_eq_true_eq] at hbounds
  refine ⟨⟨z, c.toNat - z, List.mem_of_find?_eq_some hz, hlt⟩, ?_, rfl⟩
  rw [Digit.char, Nat.add_sub_cancel' hbounds.1, Char.ofNat_toNat]

/-- A digit is no character that is none. -/
theorem Digit.char_ne (d : Digit) {c : Char} (h : digit? c = none) : d.char ≠ c := by
  rintro rfl
  rw [d.digit?_char] at h
  cases h

/-- The number that digits denote, written in base ten. -/
theorem ofDigits_eq (ds : List Nat) : ofDigits ds = Nat.ofDigits 10 ds.reverse := by
  rw [Nat.ofDigits_eq_foldr, List.foldr_reverse, ofDigits]
  simp only [Nat.cast_id, Nat.add_comm]

/-! ## Groups of digits -/

/-- Groups of digits as they are written. -/
def writeGroups (groups : List (List Digit)) : Text :=
  join ['_'] (groups.map fun g => g.map Digit.char)

/-- Groups as they may stand in a numeral: there is one, and none is empty. -/
def AreFilled (groups : List (List Digit)) : Prop := groups ≠ [] ∧ ∀ g ∈ groups, g ≠ []

theorem writeGroups_cons_cons (d : Digit) (g : List Digit) (gs : List (List Digit)) :
    writeGroups ((d :: g) :: gs) = d.char :: writeGroups (g :: gs) := by
  cases gs <;> rfl

theorem writeGroups_singleton_cons (d : Digit) {gs : List (List Digit)} (h : gs ≠ []) :
    writeGroups ([d] :: gs) = d.char :: '_' :: writeGroups gs := by
  obtain ⟨g, gs, rfl⟩ := List.exists_cons_of_ne_nil h
  rfl

theorem AreFilled.tail {g : List Digit} {gs : List (List Digit)} (h : AreFilled (g :: gs))
    (hgs : gs ≠ []) : AreFilled gs :=
  ⟨hgs, fun g' hg' => h.2 g' (List.mem_cons_of_mem g hg')⟩

/-- Groups of digits are read as their digits. -/
theorem digits?_writeGroups {groups : List (List Digit)} (h : AreFilled groups) :
    digits? (writeGroups groups) = some (groups.flatten.map Digit.value) := by
  have hunderscore : digit? '_' = none := by decide
  induction groups with
  | nil => exact absurd rfl h.1
  | cons g gs ih =>
    obtain ⟨d, g, rfl⟩ := List.exists_cons_of_ne_nil (h.2 g (List.mem_cons_self ..))
    have hrest (hgs : gs ≠ []) := ih (h.tail hgs)
    clear h ih
    induction g generalizing d with
    | nil =>
      by_cases hgs : gs = []
      · subst hgs
        simp [writeGroups, join, digits?, d.digit?_char]
      · rw [writeGroups_singleton_cons d hgs, digits?]
        simp only [d.digit?_char, if_true, hrest hgs]
        rfl
    | cons e g ihg =>
      have hgroup := ihg e
      rw [writeGroups_cons_cons] at hgroup
      rw [writeGroups_cons_cons, writeGroups_cons_cons, digits?]
      simp only [d.digit?_char, e.char_ne hunderscore, if_false, hgroup]
      rfl

/-- Digits that are read were written in groups. -/
theorem exists_groups {s : Text} {ds : List Nat} (h : digits? s = some ds) :
    ∃ groups, AreFilled groups ∧ writeGroups groups = s := by
  fun_induction digits? s generalizing ds with
  | case1 => cases h
  | case2 c s hc => cases h
  | case3 c n hc =>
    obtain ⟨d, rfl, -⟩ := exists_digit hc
    exact ⟨[[d]], ⟨List.cons_ne_nil _ _, by simp⟩, rfl⟩
  | case4 c n hc t ih =>
    obtain ⟨rest, hrest, -⟩ := Option.map_eq_some_iff.1 h
    obtain ⟨d, rfl, -⟩ := exists_digit hc
    obtain ⟨gs, hgs, rfl⟩ := ih hrest
    refine ⟨[d] :: gs, ⟨List.cons_ne_nil _ _, ?_⟩, writeGroups_singleton_cons d hgs.1⟩
    simpa using hgs.2
  | case5 c n hc e t he ih =>
    obtain ⟨rest, hrest, -⟩ := Option.map_eq_some_iff.1 h
    obtain ⟨d, rfl, -⟩ := exists_digit hc
    obtain ⟨gs, hgs, htext⟩ := ih hrest
    obtain ⟨g, gs, rfl⟩ := List.exists_cons_of_ne_nil hgs.1
    refine ⟨(d :: g) :: gs, ⟨List.cons_ne_nil _ _, ?_⟩, ?_⟩
    · simpa using fun g' hg' => hgs.2 g' (List.mem_cons_of_mem g hg')
    · rw [writeGroups_cons_cons, htext]

/-- Groups are written with digits and underscores. -/
theorem mem_writeGroups {groups : List (List Digit)} {c : Char} (h : c ∈ writeGroups groups) :
    c = '_' ∨ ∃ d : Digit, d.char = c := by
  obtain h | ⟨p, hp, hc⟩ := mem_join h
  · exact .inl (List.mem_singleton.1 h)
  · obtain ⟨g, -, rfl⟩ := List.mem_map.1 hp
    obtain ⟨d, -, hd⟩ := List.mem_map.1 hc
    exact .inr ⟨d, hd⟩

/-! ## White space -/

/-- The code points of white space, as the Unicode standard lists them. -/
def whiteSpace : List Nat :=
  List.range' 0x9 5 ++ [0x20, 0x85, 0xA0, 0x1680] ++ List.range' 0x2000 11 ++
    [0x2028, 0x2029, 0x202F, 0x205F, 0x3000]

/-- A text of white space only. -/
def IsWhite (s : Text) : Prop := ∀ c ∈ s, c.toNat ∈ whiteSpace

theorem isNumberBlank_iff {c : Char} : isNumberBlank c = true ↔ c.toNat ∈ whiteSpace := by
  simp only [isNumberBlank, isBlank, whiteSpace, Bool.and_eq_true, Bool.or_eq_true,
    Bool.not_eq_true', Bool.and_eq_false_iff, decide_eq_true_eq, decide_eq_false_iff_not,
    beq_iff_eq, List.mem_append, List.mem_range'_1, List.mem_cons, List.not_mem_nil, or_false]
  omega

theorem IsWhite.isNumberBlank {s : Text} (h : IsWhite s) : ∀ c ∈ s, isNumberBlank c = true :=
  fun c hc => isNumberBlank_iff.2 (h c hc)

/-- White space around a text without any is taken off. -/
theorem trimNumber_append {before core after : Text} (hbefore : IsWhite before)
    (hafter : IsWhite after) (hcore : ∀ c ∈ core, isNumberBlank c = false) :
    trimNumber (before ++ (core ++ after)) = core := by
  have hend {s : Text} (h : ∀ c ∈ s, isNumberBlank c = false) : s.dropWhile isNumberBlank = s := by
    cases s with
    | nil => rfl
    | cons c s => simp [h c (List.mem_cons_self ..)]
  rw [trimNumber, List.dropWhile_append_of_pos hbefore.isNumberBlank, List.dropWhile_append,
    hend hcore]
  split
  · next hempty =>
    rw [List.isEmpty_iff.1 hempty, List.dropWhile_eq_nil_iff.2 hafter.isNumberBlank]
    rfl
  · have hback : ∀ c ∈ core.reverse, isNumberBlank c = false := fun c hc =>
      hcore c (List.mem_reverse.1 hc)
    have hwhite : ∀ c ∈ after.reverse, isNumberBlank c = true := fun c hc =>
      hafter.isNumberBlank c (List.mem_reverse.1 hc)
    rw [List.reverse_append, List.dropWhile_append_of_pos hwhite, hend hback, List.reverse_reverse]

/-- A text is what is left of it with white space around. -/
theorem exists_trimNumber (s : Text) :
    ∃ before after, IsWhite before ∧ IsWhite after ∧ s = before ++ (trimNumber s ++ after) := by
  refine ⟨s.takeWhile isNumberBlank,
    ((s.dropWhile isNumberBlank).reverse.takeWhile isNumberBlank).reverse, ?_, ?_, ?_⟩
  · intro c hc
    exact isNumberBlank_iff.1 (List.mem_takeWhile_imp hc)
  · intro c hc
    exact isNumberBlank_iff.1 (List.mem_takeWhile_imp (List.mem_reverse.1 hc))
  · rw [trimNumber, ← List.reverse_append, List.takeWhile_append_dropWhile, List.reverse_reverse,
      List.takeWhile_append_dropWhile]

/-! ## Numerals -/

/-- The sign of a number. -/
inductive Sign where
  | plus
  | minus
  deriving DecidableEq

/-- A sign as it is written, nothing where none is. -/
def writeSign : Option Sign → Text
  | none => []
  | some .plus => ['+']
  | some .minus => ['-']

/-- An integer as it may be written. -/
structure Numeral where
  before : Text
  sign : Option Sign
  groups : List (List Digit)
  after : Text
  before_isWhite : IsWhite before
  areFilled : AreFilled groups
  after_isWhite : IsWhite after

namespace Numeral

/-- The text of a numeral. -/
def text (w : Numeral) : Text := w.before ++ (writeSign w.sign ++ writeGroups w.groups ++ w.after)

/-- All digits of a numeral, in their order. -/
def digits (w : Numeral) : List Digit := w.groups.flatten

/-- The integer that a numeral denotes in base ten. -/
def value (w : Numeral) : Int :=
  let n : Nat := Nat.ofDigits 10 (w.digits.map Digit.value).reverse
  if w.sign = some .minus then -(n : Int) else n

end Numeral

/-- The sign in front of a text, as it was written. -/
theorem exists_sign (s : Text) : ∃ sign, s = writeSign sign ++ (takeSign s).2 := by
  unfold takeSign
  split
  · exact ⟨some .minus, rfl⟩
  · exact ⟨some .plus, rfl⟩
  · exact ⟨none, rfl⟩

theorem takeSign_writeSign (sign : Option Sign) {s : Text} (hplus : '+' ∉ s) (hminus : '-' ∉ s) :
    takeSign (writeSign sign ++ s) = (decide (sign = some .minus), s) := by
  match sign with
  | some .plus => rfl
  | some .minus => rfl
  | none =>
    rw [writeSign, List.nil_append]
    unfold takeSign
    split
    · exact absurd (List.mem_cons_self ..) hminus
    · exact absurd (List.mem_cons_self ..) hplus
    · rfl

theorem not_mem_writeGroups {c : Char} (groups : List (List Digit)) (hdigit : digit? c = none)
    (hunderscore : c ≠ '_') : c ∉ writeGroups groups := by
  intro hmem
  obtain rfl | ⟨d, rfl⟩ := mem_writeGroups hmem
  · exact hunderscore rfl
  · exact d.char_ne hdigit rfl

/-- There is no white space between a sign and its digits, nor among them. -/
theorem not_isNumberBlank_of_mem (sign : Option Sign) (groups : List (List Digit)) :
    ∀ c ∈ writeSign sign ++ writeGroups groups, isNumberBlank c = false := by
  have hwhite : ∀ n ∈ whiteSpace, digit? (Char.ofNat n) = none ∧ Char.ofNat n ≠ '_' := by decide
  have hsign : ∀ c ∈ writeSign sign, isNumberBlank c = false := by
    match sign with
    | none => decide
    | some .plus => decide
    | some .minus => decide
  intro c hc
  rcases List.mem_append.1 hc with hc | hc
  · exact hsign c hc
  · refine Bool.eq_false_iff.2 fun hblank => ?_
    have hnone := hwhite c.toNat (isNumberBlank_iff.1 hblank)
    rw [Char.ofNat_toNat] at hnone
    exact not_mem_writeGroups groups hnone.1 hnone.2 hc

theorem signed_decide (p : Prop) [Decidable p] (n : Nat) :
    signed (decide p) n = if p then -(n : Int) else n := by
  by_cases h : p <;> simp [signed, h]

/-- A numeral is read as the integer that it denotes, unless it has too many digits. -/
theorem Numeral.integer?_text (w : Numeral) :
    integer? w.text = if maxDigits < w.digits.length then none else some w.value := by
  have htrim : trimNumber w.text = writeSign w.sign ++ writeGroups w.groups :=
    trimNumber_append w.before_isWhite w.after_isWhite (not_isNumberBlank_of_mem w.sign w.groups)
  have hsign := takeSign_writeSign w.sign
    (not_mem_writeGroups (c := '+') w.groups (by decide) (by decide))
    (not_mem_writeGroups (c := '-') w.groups (by decide) (by decide))
  simp only [integer?, htrim, hsign, digits?_writeGroups w.areFilled, List.length_map,
    Numeral.value, Numeral.digits, signed_decide, ofDigits_eq]
  rfl

/-- What is read as an integer is a numeral. -/
theorem exists_numeral {s : Text} {n : Int} (h : integer? s = some n) :
    ∃ w : Numeral, w.text = s := by
  obtain ⟨before, after, hbefore, hafter, hs⟩ := exists_trimNumber s
  obtain ⟨sign, hsign⟩ := exists_sign (trimNumber s)
  unfold integer? at h
  cases hdigits : digits? (takeSign (trimNumber s)).2 with
  | none => simp [hdigits] at h
  | some ds =>
    obtain ⟨groups, hfilled, htext⟩ := exists_groups hdigits
    refine ⟨⟨before, sign, groups, after, hbefore, hfilled, hafter⟩, ?_⟩
    rw [Numeral.text, htext, ← hsign, ← hs]

/-- A text is read as an integer when it is a numeral of that integer with few enough digits. -/
theorem integer?_eq_some_iff {s : Text} {n : Int} :
    integer? s = some n ↔
      ∃ w : Numeral, w.text = s ∧ w.digits.length ≤ maxDigits ∧ w.value = n := by
  constructor
  · intro h
    obtain ⟨w, rfl⟩ := exists_numeral h
    rw [w.integer?_text] at h
    split at h
    · cases h
    · next hfew => exact ⟨w, rfl, Nat.not_lt.1 hfew, Option.some.inj h⟩
  · rintro ⟨w, rfl, hfew, rfl⟩
    rw [w.integer?_text, if_neg (Nat.not_lt.2 hfew)]

/-! ## Spellings of one number -/

/-- Numerals with the same digits and the same minus: they may differ in white space, a plus sign,
underscores and the scripts of their digits. -/
def Numeral.Respells (v w : Numeral) : Prop :=
  (v.sign = some .minus ↔ w.sign = some .minus) ∧
    v.digits.map Digit.value = w.digits.map Digit.value

theorem Numeral.Respells.integer?_eq {v w : Numeral} (h : v.Respells w) :
    integer? v.text = integer? w.text := by
  have hlength : v.digits.length = w.digits.length := by
    simpa using congrArg List.length h.2
  have hvalue : v.value = w.value := by
    simp only [Numeral.value, h.1, h.2]
  rw [v.integer?_text, w.integer?_text, hlength, hvalue]

/-- Digits of ASCII with their values. -/
theorem exists_asciiDigits {s : Text} (h : ∀ c ∈ s, c.isDigit = true) :
    ∃ ds : List Digit, ds.map Digit.char = s ∧
      ds.map Digit.value = s.map fun c => c.toNat - '0'.toNat := by
  induction s with
  | nil => exact ⟨[], rfl, rfl⟩
  | cons c s ih =>
    obtain ⟨ds, hchars, hvalues⟩ := ih fun d hd => h d (List.mem_cons_of_mem c hd)
    have hc := Char.isDigit_iff_toNat.1 (h c (List.mem_cons_self ..))
    have hzero : '0'.toNat = 48 := rfl
    have hnine : '9'.toNat = 57 := rfl
    rw [hzero, hnine] at hc
    refine ⟨⟨48, c.toNat - 48, by decide, by omega⟩ :: ds, ?_, ?_⟩
    · rw [List.map_cons, hchars, Digit.char, Nat.add_sub_cancel' hc.1, Char.ofNat_toNat]
    · rw [List.map_cons, hvalues, List.map_cons, hzero]

/-- A number in decimal digits is read as it, with the sign in front, when it has few enough
digits. -/
theorem integer?_writeSign_ofNat (sign : Option Sign) {n : Nat} (h : n < 10 ^ maxDigits) :
    integer? (writeSign sign ++ ofNat n) = some (if sign = some .minus then -(n : Int) else n) := by
  obtain ⟨ds, hchars, hvalues⟩ := exists_asciiDigits fun c hc => isDigit_of_mem_ofNat (n := n) hc
  have hfilled : ds ≠ [] := by
    rintro rfl
    exact Nat.toDigits_ne_nil hchars.symm
  have hfew : ds.length ≤ maxDigits := by
    rw [← List.length_map Digit.char, hchars]
    exact (Nat.length_toDigits_le_iff (by decide) (by decide)).2 h
  have hnumber : Nat.ofDigits 10 (ds.map Digit.value).reverse = n := by
    rw [← ofDigits_eq, hvalues, ofDigits, List.foldl_map]
    exact ofDecimalDigits_ofNat n
  refine integer?_eq_some_iff.2
    ⟨⟨[], sign, [ds], [], by simp [IsWhite], ⟨List.cons_ne_nil _ _, by simpa using hfilled⟩,
      by simp [IsWhite]⟩, ?_, ?_, ?_⟩
  · simp [Numeral.text, writeGroups, join, hchars]
  · simpa [Numeral.digits] using hfew
  · simp [Numeral.value, Numeral.digits, hnumber]

/-- The decimal numeral of an integer is read as it, when it has few enough digits. -/
theorem integer?_ofInt {n : Int} (h : n.natAbs < 10 ^ maxDigits) : integer? (ofInt n) = some n := by
  cases n with
  | ofNat m => exact integer?_writeSign_ofNat none h
  | negSucc m => exact integer?_writeSign_ofNat (some .minus) h

end FeedPage.Text
