-- SUMMARY: URLs of pages and references by paths, written from their parts, and that they are read back as these parts.
import Mathlib.Data.List.TakeWhile
import FeedPage.Url.Resolve

/-!
# Written URLs

The URL of a page is written from its scheme, its host, the names on its path, and a query and a
fragment that may be missing; all of these are words of letters, digits and the marks `-`, `_` and
`.`. A reference by a path is written from such words too. Reading gives back the parts
(`PageUrl.parse_text`, `PathReference.parse_text`).
-/

namespace FeedPage.Url

/-! ## Words -/

/-- Characters of the words that URLs are written from. -/
def isWordChar (c : Char) : Bool := c.isAlphanum || c == '-' || c == '_' || c == '.'

/-- A text of such characters. -/
def IsWord (s : Text) : Prop := ∀ c ∈ s, isWordChar c = true

instance (s : Text) : Decidable (IsWord s) :=
  inferInstanceAs (Decidable (∀ c ∈ s, isWordChar c = true))

theorem toNat_of_isWordChar {c : Char} (h : isWordChar c = true) :
    32 < c.toNat ∧ c.toNat < 128 := by
  simp only [isWordChar, Bool.or_eq_true, beq_iff_eq] at h
  rcases h with ((h | rfl) | rfl) | rfl
  · have := Text.toNat_of_isAlphanum h
    omega
  all_goals decide

/-- A character that has a meaning in URLs stands in no word. -/
theorem IsWord.not_mem {s : Text} (h : IsWord s) {c : Char} (hc : isWordChar c = false) : c ∉ s :=
  fun hmem => Bool.false_ne_true (hc.symm.trans (h c hmem))

/-- A part of a path. -/
def IsSegment (s : Text) : Prop := s ≠ [] ∧ IsWord s

instance (s : Text) : Decidable (IsSegment s) := inferInstanceAs (Decidable (s ≠ [] ∧ IsWord s))

theorem IsSegment.slash_not_mem {s : Text} (h : IsSegment s) : '/' ∉ s := h.2.not_mem (by decide)

/-- Segments in a row begin with no slash. -/
theorem IsSegment.slash_not_mem_head {s : Text} (h : IsSegment s) (rest : List Text) :
    '/' ∉ (Text.join ['/'] (s :: rest)).head? := by
  obtain ⟨c, cs, rfl⟩ := List.exists_cons_of_ne_nil h.1
  rw [Text.join_cons, List.cons_append]
  rintro hslash
  obtain rfl : c = '/' := by simpa using hslash
  exact h.slash_not_mem (List.mem_cons_self ..)

/-- The segments that lead to a directory rather than name something in one. -/
def dots : List Text := [".".toList, "..".toList]

/-- A part of a path that names something. -/
def IsName (s : Text) : Prop := IsSegment s ∧ s ∉ dots

instance (s : Text) : Decidable (IsName s) := inferInstanceAs (Decidable (IsSegment s ∧ s ∉ dots))

/-! ## Paths -/

/-- The path to what the names lead to, below the root. -/
def pathText (names : List Text) (slash : Bool) : Text :=
  names.flatMap ('/' :: ·) ++ if slash then ['/'] else []

/-- Characters of paths. -/
def isPathChar (c : Char) : Bool := isWordChar c || c == '/'

theorem toNat_of_isPathChar {c : Char} (h : isPathChar c = true) : 32 < c.toNat ∧ c.toNat < 128 := by
  simp only [isPathChar, Bool.or_eq_true, beq_iff_eq] at h
  rcases h with h | rfl
  · exact toNat_of_isWordChar h
  · decide

theorem isPathChar_pathText {names : List Text} (h : ∀ s ∈ names, IsWord s) (slash : Bool) :
    ∀ c ∈ pathText names slash, isPathChar c = true := by
  intro c hc
  rcases List.mem_append.1 hc with hc | hc
  · obtain ⟨s, hs, hc⟩ := List.mem_flatMap.1 hc
    rcases List.mem_cons.1 hc with rfl | hc
    · rfl
    · rw [isPathChar, h s hs c hc, Bool.true_or]
  · cases slash with
    | false => cases hc
    | true =>
      obtain rfl := List.mem_singleton.1 hc
      rfl

/-! ## Reading parts -/

/-- A part that may be missing, with its mark in front. -/
def optional (mark : Char) (part : Option Text) : Text := part.elim [] (mark :: ·)

theorem startsWith_slash {s : Text} : Text.startsWith ['/'] s = decide (s.head? = some '/') := by
  cases s with
  | nil => rfl
  | cons c s =>
    by_cases h : '/' = c
    · subst h
      rfl
    · simp [Text.startsWith, Text.after?, h, Ne.symm h]

theorem partition_optional {c : Char} {s : Text} (h : c ∉ s) (part : Option Text) :
    Text.partition c (s ++ optional c part) = (s, part.getD []) := by
  cases part with
  | none =>
    rw [optional, Option.elim_none, List.append_nil, Text.partition, Text.cutChar?_eq_none h]
    rfl
  | some t =>
    have hcut : Text.cutChar? c (s ++ optional c (some t)) = some (s, t) :=
      Text.cutChar?_eq_some.2 ⟨rfl, h⟩
    rw [Text.partition, hcut]
    rfl

/-- A text without blanks and controls is scrubbed to itself. -/
theorem scrub_eq_self {s : Text} (h : ∀ c ∈ s, 32 < c.toNat) : scrub s = s := by
  have hfront : s.dropWhile (fun c => c.toNat ≤ 32) = s := by
    cases s with
    | nil => rfl
    | cons c s => simp [h c (List.mem_cons_self ..)]
  rw [scrub, hfront, List.filter_eq_self]
  intro c hc
  have hlow : ∀ d ∈ ['\t', '\r', '\n'], d.toNat ≤ 32 := by decide
  have hne : ∀ d ∈ ['\t', '\r', '\n'], c ≠ d := by
    rintro d hd rfl
    exact absurd (hlow c hd) (Nat.not_le.2 (h c hc))
  simp_all

/-- A word is the name of a host that can be trusted. -/
theorem checkHost_word {host : Text} (h : IsWord host) : checkHost host = .ok () := by
  have hopen := h.not_mem (c := '[') (by decide)
  have hclose := h.not_mem (c := ']') (by decide)
  have hplain : (host.any fun c => c.toNat ∈ deceptive) = false := by
    have hhigh : ∀ n ∈ deceptive, 128 ≤ n := by decide
    refine List.any_eq_false.2 fun c hc hmem => ?_
    have := hhigh _ (of_decide_eq_true hmem)
    have := (toNat_of_isWordChar (h c hc)).2
    omega
  simp [checkHost, hopen, hclose, hplain]

/-- The text is empty or begins with a character that ends the host. -/
def EndsAtOnce (s : Text) : Prop := ∀ c ∈ s.head?, endsHost c = true

theorem EndsAtOnce.append {s t : Text} (hs : EndsAtOnce s) (ht : EndsAtOnce t) :
    EndsAtOnce (s ++ t) := by
  cases s with
  | nil => exact ht
  | cons c s => exact hs

theorem endsAtOnce_optional {mark : Char} (h : endsHost mark = true) (part : Option Text) :
    EndsAtOnce (optional mark part) := by
  cases part with
  | none => simp [EndsAtOnce, optional]
  | some s => simpa [EndsAtOnce, optional] using h

/-- A host is read up to what follows it. -/
theorem run_host {host rest : Text} (h : IsWord host) (hrest : EndsAtOnce rest) :
    Text.run (!endsHost ·) (host ++ rest) = (host, rest) := by
  have hhost : ∀ c ∈ host, (!endsHost c) = true := by
    intro c hc
    have hne {d : Char} (hd : isWordChar d = false) : c ≠ d := fun heq => h.not_mem hd (heq ▸ hc)
    have hslash : c ≠ '/' := hne (by decide)
    have hquery : c ≠ '?' := hne (by decide)
    have hfragment : c ≠ '#' := hne (by decide)
    simp [endsHost, hslash, hquery, hfragment]
  cases rest with
  | nil =>
    rw [List.append_nil, Text.run, List.takeWhile_eq_self_iff.2 hhost,
      List.dropWhile_eq_nil_iff.2 hhost]
  | cons c rest => exact Text.run_append hhost (by simp [hrest c rfl]) rest

theorem splitParams_eq_self {path : Text} (h : ';' ∉ path) : splitParams path = (path, []) := by
  have hlast : ';' ∉ (path.reverse.takeWhile (· ≠ '/')).reverse := fun hmem =>
    h (List.mem_reverse.1 ((List.takeWhile_prefix _).subset (List.mem_reverse.1 hmem)))
  simp only [splitParams, Text.cutChar?_eq_none hlast]

/-! ## URLs of pages -/

/-- The URL of a page, by its parts. -/
structure PageUrl where
  /-- Whether the scheme is `https` rather than `http`. -/
  secure : Bool
  host : Text
  /-- What the path names, from the root on. -/
  names : List Text
  /-- Whether the path ends in a slash. -/
  slash : Bool
  query : Option Text
  fragment : Option Text
  host_filled : host ≠ []
  host_isWord : IsWord host
  names_areNames : ∀ s ∈ names, IsName s
  query_isWord : ∀ s ∈ query, IsWord s
  fragment_isWord : ∀ s ∈ fragment, IsWord s

namespace PageUrl

variable (p : PageUrl)

/-- The scheme of a page. -/
def scheme : Text := if p.secure then "https".toList else "http".toList

/-- The scheme and the host of a page. -/
def origin : Text := p.scheme ++ "://".toList ++ p.host

/-- The names on the way to the directory that a page is in: a last name without a slash behind it
is that of the page itself. -/
def directory : List Text := if p.slash then p.names else p.names.dropLast

/-- The path of a page. -/
def path : Text := pathText p.names p.slash

/-- The URL of a page as it is written. -/
def text : Text := p.origin ++ p.path ++ optional '?' p.query ++ optional '#' p.fragment

theorem isPathChar_path : ∀ c ∈ p.path, isPathChar c = true :=
  isPathChar_pathText (fun s hs => (p.names_areNames s hs).1.2) p.slash

theorem not_mem_path {c : Char} (hc : isPathChar c = false) : c ∉ p.path :=
  fun hmem => Bool.false_ne_true (hc.symm.trans (p.isPathChar_path c hmem))

/-- The schemes of pages know hierarchies, hosts and parameters. -/
theorem scheme_mem :
    p.scheme ∈ hierarchicalSchemes ∧ p.scheme ∈ hostSchemes ∧ p.scheme ∈ paramSchemes := by
  unfold scheme
  cases p.secure <;> decide

theorem takeScheme?_append (rest : Text) :
    takeScheme? (p.scheme ++ ':' :: rest) = some (p.scheme, rest) := by
  unfold scheme
  cases p.secure <;> rfl

/-- The path, the query or the fragment begins where the host ends. -/
theorem endsAtOnce_rest :
    EndsAtOnce (p.path ++ optional '?' p.query ++ optional '#' p.fragment) := by
  have hpath : EndsAtOnce p.path := by
    refine EndsAtOnce.append ?_ ?_
    · cases p.names with
      | nil => simp [EndsAtOnce]
      | cons s names => simp [EndsAtOnce, endsHost]
    · cases p.slash <;> simp [EndsAtOnce, endsHost]
  exact (hpath.append (endsAtOnce_optional (by decide) p.query)).append
    (endsAtOnce_optional (by decide) p.fragment)

theorem scrub_text : scrub p.text = p.text := by
  have hword {s : Text} (h : IsWord s) : ∀ c ∈ s, 32 < c.toNat := fun c hc =>
    (toNat_of_isWordChar (h c hc)).1
  have hoptional {mark : Char} {part : Option Text} (hmark : 32 < mark.toNat)
      (h : ∀ s ∈ part, IsWord s) : ∀ c ∈ optional mark part, 32 < c.toNat := by
    cases part with
    | none => simp [optional]
    | some s => simpa [optional] using ⟨hmark, hword (h s rfl)⟩
  have hscheme : ∀ c ∈ p.scheme ++ "://".toList, 32 < c.toNat := by
    unfold scheme
    cases p.secure <;> decide
  refine scrub_eq_self fun c hc => ?_
  simp only [text, origin, List.mem_append] at hc
  rcases hc with (((hc | hc) | hc) | hc) | hc
  · exact hscheme c (List.mem_append.2 hc)
  · exact hword p.host_isWord c hc
  · exact (toNat_of_isPathChar (p.isPathChar_path c hc)).1
  · exact hoptional (by decide) p.query_isWord c hc
  · exact hoptional (by decide) p.fragment_isWord c hc

/-- The parts of the URL of a page. -/
theorem parse_text :
    parse [] p.text = .ok ⟨p.scheme, p.host, p.path, [], p.query.getD [], p.fragment.getD []⟩ := by
  have htext : p.text = p.scheme ++ ':' :: ("//".toList ++ (p.host ++
      (p.path ++ optional '?' p.query ++ optional '#' p.fragment))) := by
    simp [text, origin]
  have hslashes (rest : Text) : Text.after? "//".toList ("//".toList ++ rest) = some rest :=
    Text.after?_eq_some.2 rfl
  have hfragment : '#' ∉ p.path ++ optional '?' p.query := by
    have hquery := p.query_isWord
    have hpath := p.not_mem_path (c := '#') (by decide)
    cases hq : p.query with
    | none => simpa [optional] using hpath
    | some s =>
      have hs := (hquery s hq).not_mem (c := '#') (by decide)
      simpa [optional, hs] using hpath
  have hparams : splitParams p.path = (p.path, []) := splitParams_eq_self (p.not_mem_path (by decide))
  have hsplit : split [] p.text =
      .ok ⟨p.scheme, p.host, p.path, [], p.query.getD [], p.fragment.getD []⟩ := by
    rw [split, p.scrub_text, htext, takeScheme?_append]
    simp only [Option.getD_some, hslashes, run_host p.host_isWord p.endsAtOnce_rest,
      checkHost_word p.host_isWord, partition_optional hfragment,
      partition_optional (p.not_mem_path (c := '?') (by decide))]
    rfl
  simp only [parse, hsplit, bind, Except.bind, p.scheme_mem.2.2, if_true, hparams]
  rfl

end PageUrl

/-! ## References by paths -/

/-- A reference by a path. -/
structure PathReference where
  /-- Whether it begins with a slash. -/
  rooted : Bool
  segments : List Text
  areSegments : ∀ s ∈ segments, IsSegment s
  filled : rooted = true ∨ segments ≠ []

namespace PathReference

variable (r : PathReference)

/-- A reference as it is written. -/
def text : Text := (if r.rooted then ['/'] else []) ++ Text.join ['/'] r.segments

/-- Whether a reference leads to a directory. -/
def isDirectory : Bool := r.segments.getLast?.all (· ∈ dots)

theorem isPathChar_text : ∀ c ∈ r.text, isPathChar c = true := by
  intro c hc
  rcases List.mem_append.1 hc with hc | hc
  · cases hrooted : r.rooted with
    | false => simp [hrooted] at hc
    | true =>
      obtain rfl : c = '/' := by simpa [hrooted] using hc
      rfl
  · rcases Text.mem_join hc with hc | ⟨s, hs, hc⟩
    · obtain rfl := List.mem_singleton.1 hc
      rfl
    · rw [isPathChar, (r.areSegments s hs).2 c hc, Bool.true_or]

theorem not_mem_text {c : Char} (hc : isPathChar c = false) : c ∉ r.text :=
  fun hmem => Bool.false_ne_true (hc.symm.trans (r.isPathChar_text c hmem))

theorem slash_not_mem_head : '/' ∉ (Text.join ['/'] r.segments).head? := by
  cases hsegments : r.segments with
  | nil => simp [Text.join]
  | cons s rest => exact (r.areSegments s (by simp [hsegments])).slash_not_mem_head rest

theorem text_ne_nil : r.text ≠ [] := by
  rcases r.filled with hrooted | hfilled
  · simp [text, hrooted]
  · obtain ⟨s, rest, hsegments⟩ := List.exists_cons_of_ne_nil hfilled
    have hs := (r.areSegments s (by simp [hsegments])).1
    simp [text, hsegments, Text.join_cons, hs]

/-- A reference begins with a slash when it is rooted. -/
theorem startsWith_text : Text.startsWith ['/'] r.text = r.rooted := by
  rw [startsWith_slash]
  cases hrooted : r.rooted with
  | true => simp [text, hrooted]
  | false =>
    have hhead := r.slash_not_mem_head
    simpa [text, hrooted] using hhead

/-- A reference by a path names no host. -/
theorem after?_text : Text.after? "//".toList r.text = none := by
  refine Option.eq_none_iff_forall_ne_some.2 fun rest hrest => r.slash_not_mem_head ?_
  have htext : r.text = '/' :: '/' :: rest := Text.after?_eq_some.1 hrest
  cases hrooted : r.rooted with
  | true =>
    have hjoin : Text.join ['/'] r.segments = '/' :: rest := by simpa [text, hrooted] using htext
    rw [hjoin]
    rfl
  | false =>
    have hjoin : Text.join ['/'] r.segments = '/' :: '/' :: rest := by
      simpa [text, hrooted] using htext
    rw [hjoin]
    rfl

/-- A reference by a path has no other parts. -/
theorem parse_text (scheme : Text) : parse scheme r.text = .ok ⟨scheme, [], r.text, [], [], []⟩ := by
  have hscrub : scrub r.text = r.text := scrub_eq_self fun c hc =>
    (toNat_of_isPathChar (r.isPathChar_text c hc)).1
  have hscheme : takeScheme? r.text = none := by
    rw [takeScheme?, Text.cutChar?_eq_none (r.not_mem_text (by decide))]
  have hcheck : checkHost [] = .ok () := checkHost_word (by simp [IsWord])
  have hpart {c : Char} (hc : isPathChar c = false) : Text.partition c r.text = (r.text, []) := by
    have := partition_optional (r.not_mem_text hc) none
    simpa [optional] using this
  have hparams : splitParams r.text = (r.text, []) := splitParams_eq_self (r.not_mem_text (by decide))
  have hsplit : split scheme r.text = .ok ⟨scheme, [], r.text, [], [], []⟩ := by
    rw [split, hscrub, hscheme]
    simp only [Option.getD_none, r.after?_text, hcheck, hpart (c := '#') (by decide),
      hpart (c := '?') (by decide)]
    rfl
  simp only [parse, hsplit, bind, Except.bind, hparams, ite_self]
  rfl

end PathReference

end FeedPage.Url
