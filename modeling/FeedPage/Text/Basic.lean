-- SUMMARY: Text as a list of characters, and the few ways the library cuts it, searches it and replaces in it.

/-!
# Text

A text is its list of characters. This module holds the operations that every reader of the
library is built from: taking a literal off the front (`Text.after?`), searching for the first
place where something stands (`Text.search?`), replacing whatever a matcher recognises
(`Text.substitute`), and joining. The lemmas say what is left over: nothing is lost, and the rest
never grows, which is what ends the readers' loops.
-/

namespace FeedPage

/-- A text is its list of characters. -/
abbrev Text := List Char

namespace Text

/-- Whether a text is in a list can be decided. -/
instance decidableMem (s : Text) (texts : List Text) : Decidable (s ∈ texts) :=
  List.instDecidableMemOfLawfulBEq s texts

/-- Whether something holds of all characters of a text is decided along the text. -/
instance decidableForall (s : Text) (p : Char → Prop) [DecidablePred p] : Decidable (∀ c ∈ s, p c) :=
  List.decidableBAll p s

/-! ## Literals at the front -/

/-- What follows `lit` in `s`, when `s` begins with it. -/
def after? : (lit s : Text) → Option Text
  | [], s => some s
  | _ :: _, [] => none
  | p :: ps, c :: cs => if p = c then after? ps cs else none

/-- `after?` up to the case of ASCII letters; `lit` is written in lower case. -/
def afterFolded? : (lit s : Text) → Option Text
  | [], s => some s
  | _ :: _, [] => none
  | p :: ps, c :: cs => if p = c.toLower then afterFolded? ps cs else none

theorem after?_eq_some {lit s r : Text} : after? lit s = some r ↔ s = lit ++ r := by
  induction lit generalizing s with
  | nil => simp [after?, eq_comm]
  | cons p ps ih => cases s with
    | nil => simp [after?]
    | cons c cs => by_cases h : p = c <;> simp [after?, h, ih, eq_comm]

theorem after?_eq_none_iff {lit s : Text} : after? lit s = none ↔ ¬ lit <+: s := by
  rw [Option.eq_none_iff_forall_ne_some]
  constructor
  · rintro h ⟨r, hr⟩
    exact h r (after?_eq_some.2 hr.symm)
  · intro h r hr
    exact h ⟨r, (after?_eq_some.1 hr).symm⟩

theorem length_after? {lit s r : Text} (h : after? lit s = some r) :
    r.length + lit.length = s.length := by
  rw [after?_eq_some.1 h]; simp; omega

theorem length_afterFolded? {lit s r : Text} (h : afterFolded? lit s = some r) :
    r.length + lit.length = s.length := by
  induction lit generalizing s with
  | nil => simp_all [afterFolded?]
  | cons p ps ih => cases s with
    | nil => simp [afterFolded?] at h
    | cons c cs =>
      simp only [afterFolded?] at h
      split at h
      · have := ih h; simp; omega
      · cases h

/-- Whether `s` begins with `lit`. -/
def startsWith (lit s : Text) : Bool := (after? lit s).isSome

/-- Whether `s` ends with `lit`. -/
def endsWith (lit s : Text) : Bool := startsWith lit.reverse s.reverse

/-! ## Searching -/

/-- A recogniser looks at the front of a text and gives what follows the part it recognises. -/
abbrev Recogniser := Text → Option Text

/-- A recogniser never invents text. -/
def Recogniser.Shrinks (m : Recogniser) : Prop := ∀ ⦃s r⦄, m s = some r → r.length ≤ s.length

/-- The text before the first place where `m` recognises something, and the text after it. -/
def search? (m : Recogniser) : Text → Option (Text × Text)
  | [] => (m []).map fun r => ([], r)
  | c :: s => match m (c :: s) with
    | some r => some ([], r)
    | none => (search? m s).map fun (before, r) => (c :: before, r)

theorem length_search? {m : Recogniser} (hm : m.Shrinks) {s before r : Text}
    (h : search? m s = some (before, r)) : before.length + r.length ≤ s.length := by
  induction s generalizing before r with
  | nil =>
    simp only [search?, Option.map_eq_some_iff] at h
    obtain ⟨r', h', heq⟩ := h
    have := hm h'
    grind
  | cons c s ih =>
    simp only [search?] at h
    split at h
    · next h' => have := hm h'; grind
    · next h' =>
      simp only [Option.map_eq_some_iff] at h
      obtain ⟨⟨b, r'⟩, h'', heq⟩ := h
      have := ih h''
      grind

/-- The text before the first `lit`, and the text after it. -/
def cut? (lit s : Text) : Option (Text × Text) := search? (after? lit) s

theorem shrinks_after? (lit : Text) : Recogniser.Shrinks (after? lit) :=
  fun _ _ h => by have := length_after? h; omega

theorem length_cut? {lit s before r : Text} (h : cut? lit s = some (before, r)) :
    before.length + r.length ≤ s.length := length_search? (shrinks_after? lit) h

/-- The text before the first `c`, and the text after it. -/
def cutChar? (c : Char) : Text → Option (Text × Text)
  | [] => none
  | d :: s => if d = c then some ([], s) else (cutChar? c s).map fun (b, r) => (d :: b, r)

theorem cutChar?_eq_some {c : Char} {s before r : Text} :
    cutChar? c s = some (before, r) ↔ s = before ++ c :: r ∧ c ∉ before := by
  induction s generalizing before with
  | nil => simp [cutChar?]
  | cons d s ih =>
    by_cases h : d = c
    · subst h
      cases before with
      | nil => simp [cutChar?]
      | cons b bs => simp [cutChar?]; intro h1 h2; simp [h1]
    · cases before with
      | nil => simp [cutChar?, h]
      | cons b bs =>
        simp only [cutChar?, h, if_false, Option.map_eq_some_iff, Prod.exists, Prod.mk.injEq,
          List.cons_append, List.cons.injEq, List.mem_cons, not_or]
        constructor
        · rintro ⟨a, q, h1, ⟨rfl, rfl⟩, rfl⟩
          have := ih.1 h1
          exact ⟨⟨rfl, this.1⟩, fun hc => h hc.symm, this.2⟩
        · rintro ⟨⟨rfl, h1⟩, h2, h3⟩
          exact ⟨bs, r, ih.2 ⟨h1, h3⟩, ⟨rfl, rfl⟩, rfl⟩

theorem cutChar?_eq_none {c : Char} {s : Text} (h : c ∉ s) : cutChar? c s = none := by
  rw [Option.eq_none_iff_forall_ne_some]
  rintro ⟨before, rest⟩ hcut
  obtain ⟨rfl, -⟩ := cutChar?_eq_some.1 hcut
  exact h (by simp)

theorem length_cutChar? {c : Char} {s before r : Text} (h : cutChar? c s = some (before, r)) :
    before.length + r.length + 1 = s.length := by
  rw [(cutChar?_eq_some.1 h).1]; simp; omega

/-- The part of `s` before the first `c`, all of it when there is none, and the text after. -/
def partition (c : Char) (s : Text) : Text × Text := (cutChar? c s).getD (s, [])

/-- The pieces between the occurrences of `c`; a text without `c` is one piece. -/
def pieces (c : Char) : Text → List Text
  | [] => [[]]
  | d :: s => if d = c then [] :: pieces c s else match pieces c s with
    | [] => [[d]]
    | p :: ps => (d :: p) :: ps

/-- The pieces with `sep` between neighbours. -/
def join (sep : Text) : List Text → Text
  | [] => []
  | [p] => p
  | p :: ps => p ++ sep ++ join sep ps

/-- Behind the first piece, each piece has `sep` in front. -/
theorem join_cons (sep p : Text) (ps : List Text) :
    join sep (p :: ps) = p ++ ps.flatMap (sep ++ ·) := by
  induction ps generalizing p with
  | nil => simp [join]
  | cons q qs ih =>
    rw [join, ih q, List.flatMap_cons]
    · simp
    · exact List.cons_ne_nil q qs

theorem mem_join {sep : Text} {ps : List Text} {c : Char} (h : c ∈ join sep ps) :
    c ∈ sep ∨ ∃ p ∈ ps, c ∈ p := by
  cases ps with
  | nil => cases h
  | cons p ps =>
    rw [join_cons, List.mem_append, List.mem_flatMap] at h
    rcases h with h | ⟨q, hq, h⟩
    · exact .inr ⟨p, List.mem_cons_self .., h⟩
    · exact (List.mem_append.1 h).imp_right fun hc => ⟨q, List.mem_cons_of_mem p hq, hc⟩

/-- Pieces that do not hold what divides them are found again. -/
theorem pieces_join {c : Char} {ps : List Text} (hne : ps ≠ []) (h : ∀ p ∈ ps, c ∉ p) :
    pieces c (join [c] ps) = ps := by
  have hpiece {p : Text} (hp : c ∉ p) {s : Text} {q : Text} {qs : List Text}
      (hs : pieces c s = q :: qs) : pieces c (p ++ s) = (p ++ q) :: qs := by
    induction p with
    | nil => exact hs
    | cons d p ih =>
      obtain ⟨hd, hp⟩ := List.ne_and_not_mem_of_not_mem_cons hp
      simp [pieces, Ne.symm hd, ih hp]
  induction ps with
  | nil => exact absurd rfl hne
  | cons p ps ih =>
    have hp := h p (List.mem_cons_self ..)
    cases ps with
    | nil => simpa [join] using hpiece hp (s := []) rfl
    | cons q qs =>
      have hrest := ih (List.cons_ne_nil q qs) fun r hr => h r (List.mem_cons_of_mem p hr)
      have hdivided : pieces c ([c] ++ join [c] (q :: qs)) = [] :: q :: qs := by
        simp [pieces, hrest]
      rw [join, List.append_assoc, hpiece hp hdivided, List.append_nil]
      exact List.cons_ne_nil q qs

/-! ## Replacing -/

/-- Replaces, from the left and without overlap, each part that `m` recognises: `m` gives how many
characters it takes (at least one) and what stands in their place. The first argument counts
characters that an earlier match has taken. -/
def substituteFrom (m : Text → Option (Nat × Text)) : Nat → Text → Text
  | _, [] => []
  | n + 1, _ :: s => substituteFrom m n s
  | 0, c :: s => match m (c :: s) with
    | some (n, new) => new ++ substituteFrom m (n - 1) s
    | none => c :: substituteFrom m 0 s

/-- Replaces each part of the text that `m` recognises; see `substituteFrom`. -/
def substitute (m : Text → Option (Nat × Text)) (s : Text) : Text := substituteFrom m 0 s

/-- A text in which nothing is recognised stays as it is. -/
theorem substitute_eq_self {m : Text → Option (Nat × Text)} {s : Text}
    (h : ∀ t, t <:+ s → m t = none) : substitute m s = s := by
  unfold substitute
  induction s with
  | nil => rfl
  | cons c s ih =>
    simp only [substituteFrom, h (c :: s) (List.suffix_refl _)]
    rw [ih fun t ht => h t (ht.trans (List.suffix_cons c s))]

/-- Replaces every `lit`, which is not empty, by `new`. -/
def replace (lit new s : Text) : Text :=
  substitute (fun t => (after? lit t).map fun _ => (lit.length, new)) s

/-- Everything that `m` recognises, from the left and without overlap. -/
def collectFrom {α : Type} (m : Text → Option (Nat × α)) : Nat → Text → List α
  | _, [] => []
  | n + 1, _ :: s => collectFrom m n s
  | 0, c :: s => match m (c :: s) with
    | some (n, a) => a :: collectFrom m (n - 1) s
    | none => collectFrom m 0 s

/-- Everything that `m` recognises; see `collectFrom`. -/
def collect {α : Type} (m : Text → Option (Nat × α)) (s : Text) : List α := collectFrom m 0 s

/-! ## Order -/

/-- Whether a text stands before another one, or is the same, in the order of code points. -/
def precedes : Text → Text → Bool
  | [], _ => true
  | _ :: _, [] => false
  | c :: s, d :: t => if c = d then precedes s t else c.toNat < d.toNat

/-! ## Case -/

/-- ASCII letters in lower case, all else unchanged. -/
def lowerAscii (s : Text) : Text := s.map Char.toLower

/-! ## Runs of characters -/

/-- The longest front part whose characters satisfy `p`, and what follows it. -/
def run (p : Char → Bool) (s : Text) : Text × Text := (s.takeWhile p, s.dropWhile p)

/-- A run ends in front of the first character that does not belong to it. -/
theorem run_append {p : Char → Bool} {s : Text} {c : Char} (h : ∀ d ∈ s, p d = true)
    (hend : p c = false) (rest : Text) : run p (s ++ c :: rest) = (s, c :: rest) := by
  simp [run, List.takeWhile_append_of_pos h, List.dropWhile_append_of_pos h, hend]

theorem length_dropWhile_le (p : Char → Bool) (s : Text) : (s.dropWhile p).length ≤ s.length :=
  (List.dropWhile_suffix p).length_le

/-- The number that decimal digits denote. -/
def ofDecimalDigits (s : Text) : Nat := s.foldl (fun n c => 10 * n + (c.toNat - '0'.toNat)) 0

/-- The value of a hexadecimal digit, in either case. -/
def hexDigit? (c : Char) : Option Nat :=
  if c.isDigit then some (c.toNat - '0'.toNat)
  else if 'a' ≤ c ∧ c ≤ 'f' then some (c.toNat - 'a'.toNat + 10)
  else if 'A' ≤ c ∧ c ≤ 'F' then some (c.toNat - 'A'.toNat + 10)
  else none

/-- Whether a character is a hexadecimal digit. -/
def isHexDigit (c : Char) : Bool := (hexDigit? c).isSome

theorem toNat_ofNat {n : Nat} (h : n.isValidChar) : (Char.ofNat n).toNat = n := by
  delta Char.ofNat
  rw [dif_pos h]
  rfl

theorem isAlphanum_of_isAlpha {c : Char} (h : c.isAlpha = true) : c.isAlphanum = true := by
  rw [Char.isAlphanum, h, Bool.true_or]

/-- The code points of letters and digits of ASCII. -/
theorem toNat_of_isAlphanum {c : Char} (h : c.isAlphanum = true) :
    (65 ≤ c.toNat ∧ c.toNat ≤ 90) ∨ (97 ≤ c.toNat ∧ c.toNat ≤ 122) ∨
      (48 ≤ c.toNat ∧ c.toNat ≤ 57) := by
  change ((decide (c.val ≥ 'A'.val ∧ c.val ≤ 'Z'.val) ||
    (decide (c.val ≥ 'a'.val) && decide (c.val ≤ 'z'.val))) ||
    (decide (c.val ≥ '0'.val) && decide (c.val ≤ '9'.val))) = true at h
  simp only [Bool.or_eq_true, Bool.and_eq_true, decide_eq_true_eq, ge_iff_le,
    UInt32.le_iff_toNat_le] at h
  rcases h with (h | h) | h
  · exact .inl h
  · exact .inr (.inl h)
  · exact .inr (.inr h)

/-- The bounds of the code points of hexadecimal digits. -/
theorem toNat_of_isHexDigit {c : Char} (h : isHexDigit c = true) : 48 ≤ c.toNat ∧ c.toNat ≤ 102 := by
  have hc : c.toNat = c.val.toNat := rfl
  have ha : 'a'.val.toNat = 97 := rfl
  have hf : 'f'.val.toNat = 102 := rfl
  have hA : 'A'.val.toNat = 65 := rfl
  have hF : 'F'.val.toNat = 70 := rfl
  simp only [isHexDigit, hexDigit?, Char.le_def, UInt32.le_iff_toNat_le] at h
  split at h
  · next hdigit =>
    have hdecimal : 48 ≤ c.toNat ∧ c.toNat ≤ 57 := by
      change (decide (c.val ≥ '0'.val) && decide (c.val ≤ '9'.val)) = true at hdigit
      simpa [UInt32.le_iff_toNat_le] using hdigit
    omega
  · split at h
    · omega
    · split at h
      · omega
      · cases h

/-- The number that hexadecimal digits denote. -/
def ofHexDigits (s : Text) : Nat := s.foldl (fun n c => 16 * n + (hexDigit? c).getD 0) 0

/-- A number in decimal digits. -/
def ofNat (n : Nat) : Text := Nat.toDigits 10 n

theorem isDigit_of_mem_ofNat {n : Nat} {d : Char} (h : d ∈ ofNat n) : d.isDigit = true :=
  Nat.isDigit_of_mem_toDigits (by decide) (by decide) h

theorem ofDecimalDigits_ofNat (n : Nat) : ofDecimalDigits (ofNat n) = n := by
  rw [ofDecimalDigits, ofNat, ← Nat.ofDigitChars_eq_foldl, Nat.ofDigitChars_ten_toDigits]

/-- A number in lower-case hexadecimal digits. -/
def hexOfNat (n : Nat) : Text := Nat.toDigits 16 n

/-- An integer in decimal digits, with a minus sign when it is negative. -/
def ofInt : Int → Text
  | .ofNat n => ofNat n
  | .negSucc n => '-' :: ofNat (n + 1)

end Text
end FeedPage
