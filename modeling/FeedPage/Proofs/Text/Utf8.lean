-- SUMMARY: Reading UTF-8 with invalid groups dropped gives back the text between the groups, and nothing of it is lost.
import FeedPage.Html.Clean

/-!
# UTF-8 with invalid groups

The bytes of a text may have invalid groups strewn in: bytes that begin no character, and
characters that break off. Each group is read as nothing, and what stands around it is read as it
was written (`ofUtf8Dropping_strew`). A character that breaks off must be followed by the end or by
a byte that does not continue it, otherwise it would be another group (`Clear`).
-/

namespace FeedPage

namespace Text

namespace Utf8

/-! ## Encodings -/

/-- The bytes of a character: one of ASCII, or a lead byte with those that continue it. -/
inductive Encoding (c : Char) : Bytes → Prop where
  | one {a : UInt8} (low : a.toNat < 0x80) (value : Char.ofNat a.toNat = c) : Encoding c [a]
  | two {a b : UInt8} (above : 0xC2 ≤ a.toNat) (below : a.toNat < 0xE0)
    (second : continuesLead a b = true) (value : assemble (a.toNat % 32) [b] = c) :
    Encoding c [a, b]
  | three {a b d : UInt8} (above : 0xE0 ≤ a.toNat) (below : a.toNat < 0xF0)
    (second : continuesLead a b = true) (third : continues d = true)
    (value : assemble (a.toNat % 16) [b, d] = c) : Encoding c [a, b, d]
  | four {a b d e : UInt8} (above : 0xF0 ≤ a.toNat) (below : a.toNat ≤ 0xF4)
    (second : continuesLead a b = true) (third : continues d = true) (fourth : continues e = true)
    (value : assemble (a.toNat % 8) [b, d, e] = c) : Encoding c [a, b, d, e]

theorem continues_iff {b : UInt8} : continues b = true ↔ 0x80 ≤ b.toNat ∧ b.toNat ≤ 0xBF := by
  simp [continues, UInt8.le_iff_toNat_le]

theorem continuesLead_iff {a b : UInt8} :
    continuesLead a b = true ↔
      (if a.toNat = 0xE0 then 0xA0 else if a.toNat = 0xF0 then 0x90 else 0x80) ≤ b.toNat ∧
        b.toNat ≤ (if a.toNat = 0xED then 0x9F else if a.toNat = 0xF4 then 0x8F else 0xBF) := by
  have heq {n : UInt8} : a = n ↔ a.toNat = n.toNat := UInt8.toNat_inj.symm
  simp only [continuesLead, Bool.and_eq_true, decide_eq_true_eq, UInt8.le_iff_toNat_le, heq,
    apply_ite UInt8.toNat]
  rfl

theorem continues_of_continuesLead {a b : UInt8} (h : continuesLead a b = true) :
    continues b = true := by
  rw [continuesLead_iff] at h
  rw [continues_iff]
  grind

theorem assemble_eq {c : Char} {v : Nat} {tail : Bytes}
    (h : tail.foldl (fun n b => n * 64 + b.toNat % 64) v = c.toNat) : assemble v tail = c := by
  rw [assemble, h, Char.ofNat_toNat]

/-- Every character is written as an encoding of it. -/
theorem encoding_utf8EncodeChar (c : Char) : Encoding c (String.utf8EncodeChar c) := by
  have hvalid : c.toNat < 0xD800 ∨ (0xDFFF < c.toNat ∧ c.toNat < 0x110000) := c.valid
  have hbyte {n : Nat} (hn : n < 256) : (UInt8.ofNat n).toNat = n := by simp [Nat.mod_eq_of_lt hn]
  have hval : c.val.toNat = c.toNat := rfl
  simp only [String.utf8EncodeChar, hval]
  split
  · have ha := hbyte (n := c.toNat) (by omega)
    exact .one (by omega) (by rw [ha, Char.ofNat_toNat])
  have hlast := hbyte (n := c.toNat % 64 + 128) (by omega)
  split
  · have ha := hbyte (n := c.toNat / 64 % 32 + 192) (by omega)
    refine .two (by omega) (by omega) (continuesLead_iff.2 ?_) (assemble_eq ?_)
    · rw [ha, hlast]
      grind
    · simp only [List.foldl]
      omega
  have hsixth := hbyte (n := c.toNat / 64 % 64 + 128) (by omega)
  split
  · have ha := hbyte (n := c.toNat / 4096 % 16 + 224) (by omega)
    refine .three (by omega) (by omega) (continuesLead_iff.2 ?_) (continues_iff.2 (by omega))
      (assemble_eq ?_)
    · rw [ha, hsixth]
      grind
    · simp only [List.foldl]
      omega
  · have ha := hbyte (n := c.toNat / 262144 % 8 + 240) (by omega)
    have hb := hbyte (n := c.toNat / 4096 % 64 + 128) (by omega)
    refine .four (by omega) (by omega) (continuesLead_iff.2 ?_) (continues_iff.2 (by omega))
      (continues_iff.2 (by omega)) (assemble_eq ?_)
    · rw [ha, hb]
      grind
    · simp only [List.foldl]
      omega

/-! ## Groups -/

/-- A byte that begins no character. -/
def IsStray (b : UInt8) : Prop := (0x80 ≤ b.toNat ∧ b.toNat ≤ 0xC1) ∨ 0xF5 ≤ b.toNat

/-- Whether a byte begins no character can be decided. -/
instance decidableIsStray (b : UInt8) : Decidable (IsStray b) :=
  inferInstanceAs (Decidable (_ ∨ _))

/-- The bytes begin with none that continues a character. -/
def Clear (rest : Bytes) : Prop := ∀ b ∈ rest.head?, continues b = false

/-- Whether bytes begin with one that continues a character can be decided. -/
instance decidableClear (rest : Bytes) : Decidable (Clear rest) :=
  inferInstanceAs (Decidable (∀ b ∈ rest.head?, continues b = false))

theorem Clear.second {a b : UInt8} {rest : Bytes} (h : Clear (b :: rest)) :
    continuesLead a b = false := by
  refine Bool.eq_false_iff.2 fun hlead => ?_
  have hb := h b rfl
  rw [continues_of_continuesLead hlead] at hb
  cases hb

theorem not_lt_of_toNat_le {a n : UInt8} (h : n.toNat ≤ a.toNat) : ¬ a < n :=
  UInt8.not_lt.2 (UInt8.le_iff_toNat_le.2 h)

theorem isOutside_iff {a : UInt8} :
    (decide (a < 0xC2) || decide (0xF4 < a)) = true ↔ a.toNat < 0xC2 ∨ 0xF4 < a.toNat := by
  simp only [Bool.or_eq_true, decide_eq_true_eq, UInt8.lt_iff_toNat_lt]
  rfl

theorem groups_stray {a : UInt8} (h : IsStray a) (rest : Bytes) :
    groups (a :: rest) = none :: groups rest := by
  unfold IsStray at h
  have hlow : ¬ a < 0x80 := not_lt_of_toNat_le (by show 128 ≤ _; omega)
  have houtside := isOutside_iff.2 (show a.toNat < 0xC2 ∨ 0xF4 < a.toNat by omega)
  rw [groups.eq_def]
  simp only [hlow, houtside, if_true, if_false]

section Lead

variable {a b d : UInt8} (above : 0xC2 ≤ a.toNat) (below : a.toNat ≤ 0xF4)

include above in
theorem not_low : ¬ a < 0x80 := not_lt_of_toNat_le (by show 128 ≤ _; omega)

include above below in
theorem not_isOutside : (decide (a < 0xC2) || decide (0xF4 < a)) = false := by
  rw [Bool.eq_false_iff, ne_eq, isOutside_iff]
  omega

include above below in
/-- A character that breaks off behind its lead byte. -/
theorem groups_lead {rest : Bytes} (hrest : Clear rest) :
    groups (a :: rest) = none :: groups rest := by
  rw [groups.eq_def]
  simp only [not_low above, not_isOutside above below, if_false]
  cases rest with
  | nil => simp [groups]
  | cons b rest => simp [hrest.second]

include below in
/-- A character that breaks off behind its second byte. -/
theorem groups_second (above : 0xE0 ≤ a.toNat) (second : continuesLead a b = true) {rest : Bytes}
    (hrest : Clear rest) : groups (a :: b :: rest) = none :: groups rest := by
  have hlead : 0xC2 ≤ a.toNat := by omega
  have hlong : ¬ a < 0xE0 := not_lt_of_toNat_le above
  rw [groups.eq_def]
  simp only [not_low hlead, not_isOutside hlead below, second, hlong, if_false]
  cases rest with
  | nil => simp [groups]
  | cons d rest => simp [hrest d rfl]

include below in
/-- A character that breaks off behind its third byte. -/
theorem groups_third (above : 0xF0 ≤ a.toNat) (second : continuesLead a b = true)
    (third : continues d = true) {rest : Bytes} (hrest : Clear rest) :
    groups (a :: b :: d :: rest) = none :: groups rest := by
  have hlead : 0xC2 ≤ a.toNat := by omega
  have hlong : ¬ a < 0xE0 := not_lt_of_toNat_le (by show 224 ≤ _; omega)
  have hlongest : ¬ a < 0xF0 := not_lt_of_toNat_le above
  rw [groups.eq_def]
  simp only [not_low hlead, not_isOutside hlead below, second, third, hlong, hlongest, if_false]
  cases rest with
  | nil => simp [groups]
  | cons e rest => simp [hrest e rfl]

end Lead

/-- A complete character is read as itself. -/
theorem groups_encoding {c : Char} {b : Bytes} (h : Encoding c b) (rest : Bytes) :
    groups (b ++ rest) = some c :: groups rest := by
  cases h with
  | @one a low value =>
    have hlow : a < 0x80 := UInt8.lt_iff_toNat_lt.2 low
    simp only [List.cons_append, List.nil_append]
    rw [groups.eq_def]
    simp only [hlow, if_true, value]
  | @two a b above below second value =>
    have hshort : a < 0xE0 := UInt8.lt_iff_toNat_lt.2 below
    simp only [List.cons_append, List.nil_append]
    rw [groups.eq_def]
    simp [not_low above, not_isOutside above (by omega), second, hshort, value]
  | @three a b d above below second third value =>
    have hlead : 0xC2 ≤ a.toNat := by omega
    have hlong : ¬ a < 0xE0 := not_lt_of_toNat_le above
    have hshort : a < 0xF0 := UInt8.lt_iff_toNat_lt.2 below
    simp only [List.cons_append, List.nil_append]
    rw [groups.eq_def]
    simp [not_low hlead, not_isOutside hlead (by omega), second, third, hlong, hshort,
      value]
  | @four a b d e above below second third fourth value =>
    have hlead : 0xC2 ≤ a.toNat := by omega
    have hlong : ¬ a < 0xE0 := not_lt_of_toNat_le (by show 224 ≤ _; omega)
    have hlongest : ¬ a < 0xF0 := not_lt_of_toNat_le above
    simp only [List.cons_append, List.nil_append]
    rw [groups.eq_def]
    simp [not_low hlead, not_isOutside hlead below, second, third, fourth, hlong, hlongest,
      value]

/-- A character that breaks off is read as nothing. -/
theorem groups_take {c : Char} {b : Bytes} (h : Encoding c b) {n : Nat} (hpos : 0 < n)
    (hlt : n < b.length) {rest : Bytes} (hrest : Clear rest) :
    groups (b.take n ++ rest) = none :: groups rest := by
  cases h with
  | one => simp only [List.length_singleton] at hlt; omega
  | two above below second value =>
    obtain rfl : n = 1 := by simp only [List.length_cons, List.length_nil] at hlt; omega
    exact groups_lead above (by omega) hrest
  | three above below second third value =>
    obtain rfl | rfl : n = 1 ∨ n = 2 := by
      simp only [List.length_cons, List.length_nil] at hlt; omega
    · exact groups_lead (by omega) (by omega) hrest
    · exact groups_second (by omega) above second hrest
  | four above below second third fourth value =>
    obtain rfl | rfl | rfl : n = 1 ∨ n = 2 ∨ n = 3 := by
      simp only [List.length_cons, List.length_nil] at hlt; omega
    · exact groups_lead (by omega) below hrest
    · exact groups_second below (by omega) second hrest
    · exact groups_third below above second third hrest

/-! ## Texts with gaps -/

/-- An invalid group: a byte that begins no character, or a character that breaks off. -/
inductive Gap where
  | stray (b : UInt8) (isStray : IsStray b)
  /-- The first `kept` bytes of a character that has more. -/
  | broken (c : Char) (kept : Nat) (filled : 0 < kept)
    (short : kept < (String.utf8EncodeChar c).length)

/-- The bytes of an invalid group. -/
def Gap.bytes : Gap → Bytes
  | .stray b _ => [b]
  | .broken c kept _ _ => (String.utf8EncodeChar c).take kept

/-- A character breaks off only where the bytes behind it do not continue it. -/
def Gap.Ends (rest : Bytes) : Gap → Prop
  | .stray _ _ => True
  | .broken _ _ _ _ => Clear rest

/-- The bytes of a text with gaps in it: those of its first part, and each gap with the part
behind it. -/
def strew (first : Text) : List (Gap × Text) → Bytes
  | [] => toUtf8 first
  | (gap, next) :: rest => toUtf8 first ++ (gap.bytes ++ strew next rest)

/-- Each gap ends where the next part or gap begins. -/
def Apart : List (Gap × Text) → Prop
  | [] => True
  | (gap, next) :: rest => gap.Ends (strew next rest) ∧ Apart rest

theorem groups_toUtf8_append (s : Text) (rest : Bytes) :
    groups (toUtf8 s ++ rest) = s.map some ++ groups rest := by
  induction s with
  | nil => rfl
  | cons c s ih =>
    have hcons : toUtf8 (c :: s) = String.utf8EncodeChar c ++ toUtf8 s := List.flatMap_cons
    rw [hcons, List.append_assoc, groups_encoding (encoding_utf8EncodeChar c), ih, List.map_cons,
      List.cons_append]

theorem Gap.groups_append (gap : Gap) {rest : Bytes} (h : gap.Ends rest) :
    groups (gap.bytes ++ rest) = none :: groups rest := by
  cases gap with
  | stray b isStray => exact groups_stray isStray rest
  | broken c kept filled short => exact groups_take (encoding_utf8EncodeChar c) filled short h

end Utf8

/-- The parts of a text are read as they are, and the gaps between them as nothing. -/
theorem ofUtf8Dropping_strew (first : Text) {rest : List (Utf8.Gap × Text)}
    (h : Utf8.Apart rest) : ofUtf8Dropping (Utf8.strew first rest) = first ++ rest.flatMap (·.2) := by
  have hread (s : Text) : (s.map some).filterMap id = s := by simp
  induction rest generalizing first with
  | nil =>
    have hgroups := Utf8.groups_toUtf8_append first []
    rw [List.append_nil] at hgroups
    simp [Utf8.strew, ofUtf8Dropping, hgroups, Utf8.groups]
  | cons part rest ih =>
    obtain ⟨gap, next⟩ := part
    have hrest := ih next h.2
    rw [ofUtf8Dropping] at hrest
    rw [ofUtf8Dropping, Utf8.strew, Utf8.groups_toUtf8_append, gap.groups_append h.1,
      List.filterMap_append, hread, List.filterMap_cons, hrest, List.flatMap_cons]
    rfl

theorem ofUtf8Dropping_toUtf8 (s : Text) : ofUtf8Dropping (toUtf8 s) = s := by
  have hapart : Utf8.Apart [] := trivial
  simpa [Utf8.strew] using ofUtf8Dropping_strew s hapart

end Text

/-! ## Descriptions in bytes -/

/-- A description is cleaned alike, with the same entries of the log, as bytes and as the text that
they are of, whatever invalid groups stand between its parts. -/
theorem Description.clean_strew (first : Text) (rest : List (Text.Utf8.Gap × Text))
    (apart : Text.Utf8.Apart rest) :
    (Description.bytes (Text.Utf8.strew first rest)).clean =
        (Description.text (first ++ rest.flatMap (·.2))).clean ∧
      ∀ s, (Description.bytes (Text.toUtf8 s)).clean = (Description.text s).clean := by
  have hclean {b : Bytes} {s : Text} (h : Text.ofUtf8Dropping b = s) :
      (Description.bytes b).clean = (Description.text s).clean := by
    subst h
    rfl
  exact ⟨hclean (Text.ofUtf8Dropping_strew first apart),
    fun s => hclean (Text.ofUtf8Dropping_toUtf8 s)⟩

/-- Gaps of both kinds: inside a tag, next to each other, in front of a character of several bytes,
and at the end. -/
def tornTag : List (Text.Utf8.Gap × Text) :=
  [(.broken '€' 2 (by decide) (by decide), "b>2".toList), (.stray 0xFF (by decide), []),
    (.broken '😀' 3 (by decide) (by decide), "é".toList), (.broken 'é' 1 (by decide) (by decide), [])]

theorem Description.clean_strew_tornTag :
    Text.Utf8.Apart tornTag ∧
      (Description.bytes [0x31, 0x3C, 0xE2, 0x82, 0x62, 0x3E, 0x32, 0xFF, 0xF0, 0x9F, 0x98, 0xC3,
        0xA9, 0xC3]).clean = (Description.text "1<b>2é".toList).clean := by
  have apart : Text.Utf8.Apart tornTag := by
    refine ⟨?_, trivial, ?_, ?_, trivial⟩ <;>
    · show Text.Utf8.Clear _
      decide +kernel
  exact ⟨apart, (Description.clean_strew "1<".toList tornTag apart).1⟩

end FeedPage
