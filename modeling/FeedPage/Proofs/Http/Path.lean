-- SUMMARY: The path that a request asks for: percent escapes resolved, and the query and fragment left out.
import FeedPage.Http
import FeedPage.Proofs.Feed.Bytes

/-!
# Paths of requests

What a request asks for is told by its path: the text of the target up to the query or the fragment,
with its percent escapes resolved. Blanks in front, tabs and line ends are no part of a URL. A
target whose path begins with one slash, written as it is or as an escape, names that path and no
host (`pathOf_append`).
-/

namespace FeedPage

/-! ## The parts of a target -/

theorem Text.partition_fst (c : Char) (s : Text) :
    (Text.partition c s).1 = s.takeWhile (· ≠ c) := by
  induction s with
  | nil => rfl
  | cons d s ih =>
    by_cases h : d = c
    · simp [Text.partition, Text.cutChar?, h]
    · have hcons : (Text.partition c (d :: s)).1 = d :: (Text.partition c s).1 := by
        rcases hcut : Text.cutChar? c s with _ | ⟨before, rest⟩ <;>
          simp [Text.partition, Text.cutChar?, h, hcut]
      simp [hcons, ih, h]

namespace Url

/-- Characters that end the path of a target. -/
def endsPath (c : Char) : Bool := c == '?' || c == '#'

/-- The query and the fragment of a target, with the mark in front; both may be missing. -/
def IsQuery (s : Text) : Prop := ∀ c, s.head? = some c → endsPath c = true

theorem scrub_append {s : Text} (h : scrub s ≠ []) (t : Text) :
    scrub (s ++ t) = scrub s ++ t.filter fun c => !(c == '\t' || c == '\r' || c == '\n') := by
  have hfront : (s.dropWhile fun c => c.toNat ≤ 32).isEmpty = false := by
    rw [List.isEmpty_eq_false_iff]
    intro hnil
    exact h (by rw [scrub, hnil]; rfl)
  simp only [scrub, List.dropWhile_append, hfront, Bool.false_eq_true, if_false, List.filter_append]

theorem IsQuery.filter {s : Text} (h : IsQuery s) :
    IsQuery (s.filter fun c => !(c == '\t' || c == '\r' || c == '\n')) := by
  cases s with
  | nil => simp [IsQuery]
  | cons c s =>
    have hc : c = '?' ∨ c = '#' := by simpa [endsPath] using h c rfl
    rcases hc with rfl | rfl <;> simp [IsQuery, endsPath]

theorem partition_place {path query : Text} (hpath : ∀ c ∈ path, endsPath c = false)
    (hquery : IsQuery query) :
    (Text.partition '?' (Text.partition '#' (path ++ query)).1).1 = path := by
  have hfragment : ∀ c ∈ path, decide (c ≠ '#') = true := by
    intro c hc
    have := hpath c hc
    simp_all [endsPath]
  have hmark : ∀ c ∈ path, decide (c ≠ '?') = true := by
    intro c hc
    have := hpath c hc
    simp_all [endsPath]
  have hrest : (query.takeWhile (· ≠ '#')).takeWhile (· ≠ '?') = [] := by
    cases query with
    | nil => rfl
    | cons c s =>
      have hc : c = '?' ∨ c = '#' := by simpa [endsPath] using hquery c rfl
      rcases hc with rfl | rfl <;> simp
  rw [Text.partition_fst, Text.partition_fst, List.takeWhile_append_of_pos hfragment,
    List.takeWhile_append_of_pos hmark, hrest, List.append_nil]

/-- A target without scheme and host is split into its path and what follows it. -/
theorem split_place {target path query : Text} (hscrub : scrub target = path ++ query)
    (hscheme : takeScheme? (path ++ query) = none)
    (hhost : Text.after? "//".toList (path ++ query) = none)
    (hpath : ∀ c ∈ path, endsPath c = false) (hquery : IsQuery query) :
    ∃ u, split [] target = .ok u ∧ u.path = path := by
  have hcheck : checkHost [] = .ok () := by simp [checkHost]
  have hplace := partition_place hpath hquery
  simp only [split, hscrub, hscheme, Option.getD_none, hhost, hcheck, bind, Except.bind, pure,
    Except.pure]
  exact ⟨_, rfl, hplace⟩

theorem takeScheme?_eq_none {s : Text} (h : ∀ c, s.head? = some c → c.isAlpha = false) :
    takeScheme? s = none := by
  unfold takeScheme?
  rcases hcut : Text.cutChar? ':' s with _ | ⟨name, rest⟩
  · rfl
  · obtain ⟨rfl, -⟩ := Text.cutChar?_eq_some.1 hcut
    have hname : name.head?.any Char.isAlpha = false := by
      cases name with
      | nil => rfl
      | cons c name => exact h c rfl
    simp [hname]

end Url

/-! ## Escapes -/

namespace Http

/-- The value of two hexadecimal digits, given as bytes. -/
def hexByte? (a b : UInt8) : Option UInt8 := do
  let x ← Text.hexDigit? (Char.ofNat a.toNat)
  let y ← Text.hexDigit? (Char.ofNat b.toNat)
  return UInt8.ofNat (16 * x + y)

/-- Bytes begin with an escape for the byte `e`: a percent sign and two hexadecimal digits. -/
def EscapeFor (e : UInt8) (bytes rest : Bytes) : Prop :=
  ∃ a b, bytes = 0x25 :: a :: b :: rest ∧ hexByte? a b = some e

/-- The bytes that the bytes of a URL stand for: an escape for its byte, and any other byte for
itself. -/
inductive StandsFor : Bytes → Bytes → Prop where
  | nil : StandsFor [] []
  | escape {e : UInt8} {s rest t : Bytes} (front : EscapeFor e s rest) (behind : StandsFor rest t) :
    StandsFor s (e :: t)
  | byte {c : UInt8} {s t : Bytes} (front : ∀ e rest, ¬ EscapeFor e (c :: s) rest)
    (behind : StandsFor s t) : StandsFor (c :: s) (c :: t)

theorem unescape_escape {e : UInt8} {s rest : Bytes} (h : EscapeFor e s rest) :
    unescape s = e :: unescape rest := by
  obtain ⟨a, b, rfl, hbyte⟩ := h
  simp only [hexByte?, bind, Option.bind_eq_some_iff, pure, Option.some.injEq] at hbyte
  obtain ⟨x, hx, y, hy, rfl⟩ := hbyte
  rw [unescape]
  simp only [hx, hy]

theorem unescape_byte {c : UInt8} {s : Bytes} (h : ∀ e rest, ¬ EscapeFor e (c :: s) rest) :
    unescape (c :: s) = c :: unescape s := by
  rw [unescape.eq_def]
  split
  · next a b rest heq =>
    obtain ⟨rfl, rfl⟩ := List.cons.inj heq
    split
    · next x y hx hy =>
      have hbyte : hexByte? a b = some (UInt8.ofNat (16 * x + y)) := by
        simp only [hexByte?, hx, hy]
        rfl
      exact absurd ⟨a, b, rfl, hbyte⟩ (h _ rest)
    · rfl
  · next heq =>
    obtain ⟨rfl, rfl⟩ := List.cons.inj heq
    rfl
  · next heq => cases heq

theorem StandsFor.unescape_eq {s t : Bytes} (h : StandsFor s t) : unescape s = t := by
  induction h with
  | nil => simp [unescape]
  | escape front _ ih => rw [unescape_escape front, ih]
  | byte front _ ih => rw [unescape_byte front, ih]

theorem standsFor_unescape (s : Bytes) : StandsFor s (unescape s) := by
  induction hn : s.length using Nat.strongRecOn generalizing s with
  | ind n ih =>
    subst hn
    rcases s with _ | ⟨c, s⟩
    · simpa [unescape] using StandsFor.nil
    · by_cases hfront : ∃ e rest, EscapeFor e (c :: s) rest
      · obtain ⟨e, rest, hescape⟩ := hfront
        have hshorter : rest.length < (c :: s).length := by
          obtain ⟨a, b, heq, -⟩ := hescape
          simp only [heq, List.length_cons]
          omega
        rw [unescape_escape hescape]
        exact .escape hescape (ih _ hshorter rest rfl)
      · have hbyte : ∀ e rest, ¬ EscapeFor e (c :: s) rest := fun e rest h => hfront ⟨e, rest, h⟩
        rw [unescape_byte hbyte]
        exact .byte hbyte (ih _ (Nat.lt_succ_self _) s rfl)

/-- What a path of a URL reads as, once its escapes are resolved. -/
def Decodes (path decoded : Text) : Prop :=
  ∃ bytes, StandsFor (Text.toUtf8 (Url.scrub path)) bytes ∧ decoded = Text.ofUtf8Marking bytes

/-- The text of the escaped bytes of a text. -/
def resolve (s : Text) : Text := Text.ofUtf8Marking (unescape (Text.toUtf8 s))

theorem decodes_iff {path decoded : Text} :
    Decodes path decoded ↔ decoded = resolve (Url.scrub path) := by
  constructor
  · rintro ⟨bytes, hbytes, rfl⟩
    rw [resolve, hbytes.unescape_eq]
  · rintro rfl
    exact ⟨_, standsFor_unescape _, rfl⟩

@[simp]
theorem resolve_nil : resolve [] = [] := by
  simp [resolve, Text.toUtf8, unescape, Text.ofUtf8Marking, Text.Utf8.groups]

/-- A character of ASCII that is no percent sign reads as itself. -/
theorem resolve_cons {c : Char} (hascii : c.toNat < 128) (hplain : c ≠ '%') (s : Text) :
    resolve (c :: s) = c :: resolve s := by
  have hbytes : Text.toUtf8 (c :: s) = UInt8.ofNat c.toNat :: Text.toUtf8 s := by
    have hc : Text.IsAscii [c] := by simpa [Text.IsAscii] using hascii
    have := Text.toUtf8_ascii hc
    simp only [Text.toUtf8, List.flatMap_cons, List.flatMap_nil, List.append_nil, List.map_cons,
      List.map_nil] at this ⊢
    rw [this]
    rfl
  have hbyte : ∀ e rest, ¬ EscapeFor e (UInt8.ofNat c.toNat :: Text.toUtf8 s) rest := by
    rintro e rest ⟨a, b, heq, -⟩
    refine hplain ?_
    rw [← Text.ofNat_toNat_byte hascii, (List.cons.inj heq).1]
    rfl
  have hlow : UInt8.ofNat c.toNat < 0x80 := by
    rw [UInt8.lt_iff_toNat_lt, Text.toNat_byte hascii]
    exact hascii
  rw [resolve, hbytes, unescape_byte hbyte, Text.ofUtf8Marking, Text.Utf8.groups.eq_def]
  simp only [hlow, if_true, List.map_cons, Option.getD_some, Text.ofNat_toNat_byte hascii]
  rfl

/-! ## Paths with one slash in front -/

/-- A text that reads as a path with one slash in front has no scheme. -/
theorem takeScheme?_of_resolve {s : Text} (hroot : (resolve s).head? = some '/') (t : Text) :
    Url.takeScheme? (s ++ t) = none := by
  cases s with
  | nil => simp at hroot
  | cons c s =>
    refine Url.takeScheme?_eq_none fun d hd => ?_
    obtain rfl : c = d := by simpa using hd
    refine Bool.eq_false_iff.2 fun halpha => ?_
    have hbounds := Text.toNat_of_isAlphanum (c := c) (by simp [Char.isAlphanum, halpha])
    have hplain : c ≠ '%' := by
      rintro rfl
      exact absurd halpha (by decide)
    rw [resolve_cons (by omega) hplain, List.head?_cons, Option.some.injEq] at hroot
    subst hroot
    exact absurd halpha (by decide)

/-- A text that reads as a path with one slash in front has no host. -/
theorem after?_of_resolve {s query : Text} (hroot : (resolve s).head? = some '/')
    (hslash : ¬ ['/', '/'] <+: resolve s) (hquery : Url.IsQuery query) :
    Text.after? "//".toList (s ++ query) = none := by
  refine Option.eq_none_iff_forall_ne_some.2 fun rest hrest => ?_
  have heq : s ++ query = '/' :: '/' :: rest := Text.after?_eq_some.1 hrest
  rcases s with _ | ⟨c, s⟩
  · simp at hroot
  rcases s with _ | ⟨d, s⟩
  · -- The second slash cannot stand in the query.
    obtain ⟨-, rfl⟩ := List.cons.inj heq
    exact absurd (hquery '/' rfl) (by decide)
  · simp only [List.cons_append, List.cons.injEq] at heq
    obtain ⟨rfl, rfl, -⟩ := heq
    refine hslash ⟨resolve s, ?_⟩
    rw [resolve_cons (by decide) (by decide), resolve_cons (by decide) (by decide)]
    rfl

/-- A target names the path that it begins with, whatever its query and fragment. -/
theorem pathOf_append {path query decoded : Text} (hpath : ∀ c ∈ path, Url.endsPath c = false)
    (hquery : Url.IsQuery query) (hdecodes : Decodes path decoded)
    (hroot : decoded.head? = some '/') (hslash : ¬ ['/', '/'] <+: decoded) :
    pathOf (path ++ query) = decoded := by
  rw [decodes_iff] at hdecodes
  subst hdecodes
  have hnonempty : Url.scrub path ≠ [] := by
    intro hnil
    simp [hnil] at hroot
  have hscrubbed : ∀ c ∈ Url.scrub path, Url.endsPath c = false := fun c hc =>
    hpath c ((List.dropWhile_suffix _).subset (List.mem_filter.1 hc).1)
  obtain ⟨u, hu, hplace⟩ := Url.split_place (Url.scrub_append hnonempty query)
    (takeScheme?_of_resolve hroot _) (after?_of_resolve hroot hslash hquery.filter) hscrubbed
    hquery.filter
  change pathOf (path ++ query) = resolve (Url.scrub path)
  simp only [pathOf, hu, hplace]
  change (if (resolve (Url.scrub path)).isEmpty then [] else
    '/' :: (resolve (Url.scrub path)).dropWhile (· == '/')) = _
  -- One slash is taken off and put back.
  generalize resolve (Url.scrub path) = decoded at hroot hslash
  rcases decoded with _ | ⟨c, decoded⟩
  · cases hroot
  obtain rfl : c = '/' := by simpa using hroot
  rcases decoded with _ | ⟨d, decoded⟩
  · rfl
  have hd : d ≠ '/' := by
    rintro rfl
    exact hslash ⟨decoded, rfl⟩
  simp [hd]

end Http
end FeedPage
