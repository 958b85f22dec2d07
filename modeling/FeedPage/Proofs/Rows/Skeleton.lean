-- SUMMARY: The skeleton of the rows: laying rows out, and a reader that cuts a text at the skeleton.
import FeedPage.Proofs.Escape

/-!
# The skeleton of the rows

A row is laid out along a fixed skeleton, in which two of its four texts may be missing with the
markup around them. A reader that knows nothing but the skeleton cuts a text at it (`Row.cutAll?`).
The cut is right when no text of a row holds the delimiter that ends it: then the reader finds
exactly the rows that were laid out (`Row.cutAll?_layout`).
-/

namespace FeedPage

namespace Text

theorem after?_append (lit rest : Text) : after? lit (lit ++ rest) = some rest :=
  after?_eq_some.2 rfl

/-- A literal is found at its first character, when nothing before it is that character. -/
theorem cut?_append {c : Char} {before : Text} (h : c ∉ before) (lit rest : Text)
    (hlit : lit.head? = some c) : cut? lit (before ++ (lit ++ rest)) = some (before, rest) := by
  obtain ⟨tail, rfl⟩ := List.head?_eq_some_iff.1 hlit
  induction before with
  | nil =>
    have hfound := after?_append (c :: tail) rest
    simp only [cut?, List.nil_append, List.cons_append, search?] at hfound ⊢
    rw [hfound]
  | cons d before ih =>
    simp only [List.mem_cons, not_or] at h
    have hd : after? (c :: tail) (d :: (before ++ (c :: tail ++ rest))) = none := by
      simp [after?, h.1]
    have hrest := ih h.2
    simp only [cut?] at hrest ⊢
    rw [List.cons_append, search?, hd, hrest]
    rfl

end Text

/-- The texts of a row; the two that may be missing are `none` then. -/
structure Row where
  link : Text
  title : Text
  published : Option Text
  shown : Option Text
  deriving DecidableEq, Repr

namespace Row

/-- The row with each of its texts changed. -/
def map (f : Text → Text) (r : Row) : Row :=
  { link := f r.link, title := f r.title, published := r.published.map f, shown := r.shown.map f }

/-! ## Laying out -/

/-- The date in its markup. -/
def layoutPublished (published : Option Text) : Text :=
  published.elim [] fun s => " <small>".toList ++ s ++ "</small>".toList

/-- The description behind its line break. -/
def layoutShown (shown : Option Text) : Text :=
  shown.elim [] fun s => "<br />".toList ++ s

/-- A row along its skeleton. -/
def layout (r : Row) : Text :=
  "<tr><td colspan=\"2\"><a href=\"".toList ++ r.link ++ "\">".toList ++ r.title ++
    "</a>".toList ++ layoutPublished r.published ++ layoutShown r.shown ++ "</td></tr>\n".toList

/-- No text of the row holds the delimiter that ends it: a quote the link, a tag the others. -/
structure Plain (r : Row) : Prop where
  link : '"' ∉ r.link
  title : '<' ∉ r.title
  published : ∀ s ∈ r.published, '<' ∉ s
  shown : ∀ s ∈ r.shown, '<' ∉ s

theorem plain_map_escape (r : Row) : (r.map escape).Plain where
  link := not_mem_escape rfl _
  title := not_mem_escape rfl _
  published s hs := by
    obtain ⟨t, -, rfl⟩ := Option.map_eq_some_iff.1 (Option.mem_def.1 hs)
    exact not_mem_escape rfl t
  shown s hs := by
    obtain ⟨t, -, rfl⟩ := Option.map_eq_some_iff.1 (Option.mem_def.1 hs)
    exact not_mem_escape rfl t

theorem map_unescape_map_escape (r : Row) : (r.map escape).map unescape = r := by
  cases r with
  | mk link title published shown =>
    cases published <;> cases shown <;> simp [map, unescape_escape]

/-! ## Cutting -/

/-- The date at the front, when its markup is there, and the rest. -/
def cutPublished? (s : Text) : Option (Option Text × Text) :=
  match Text.after? " <small>".toList s with
  | none => some (none, s)
  | some t => (Text.cut? "</small>".toList t).map fun (date, rest) => (some date, rest)

/-- The description at the front, when a line break is there, and the rest behind the row. -/
def cutShown? (s : Text) : Option (Option Text × Text) :=
  match Text.after? "<br />".toList s with
  | none => (Text.after? "</td></tr>\n".toList s).map fun rest => (none, rest)
  | some t => (Text.cut? "</td></tr>\n".toList t).map fun (shown, rest) => (some shown, rest)

/-- The row at the front of a text, as its skeleton divides it, and the rest. -/
def cut? (s : Text) : Option (Row × Text) := do
  let s ← Text.after? "<tr><td colspan=\"2\"><a href=\"".toList s
  let (link, s) ← Text.cut? "\">".toList s
  let (title, s) ← Text.cut? "</a>".toList s
  let (published, s) ← cutPublished? s
  let (shown, s) ← cutShown? s
  some (⟨link, title, published, shown⟩, s)

theorem length_cutPublished? {s rest : Text} {date : Option Text}
    (h : cutPublished? s = some (date, rest)) : rest.length ≤ s.length := by
  unfold cutPublished? at h
  split at h
  · cases h
    exact Nat.le_refl _
  · next t ht =>
    simp only [Option.map_eq_some_iff, Prod.mk.injEq, Prod.exists] at h
    obtain ⟨_, _, hc, _, rfl⟩ := h
    have := Text.length_after? ht
    have := Text.length_cut? hc
    omega

theorem length_cutShown? {s rest : Text} {shown : Option Text}
    (h : cutShown? s = some (shown, rest)) : rest.length ≤ s.length := by
  unfold cutShown? at h
  split at h
  · simp only [Option.map_eq_some_iff, Prod.mk.injEq] at h
    obtain ⟨_, ha, _, rfl⟩ := h
    have := Text.length_after? ha
    omega
  · next t ht =>
    simp only [Option.map_eq_some_iff, Prod.mk.injEq, Prod.exists] at h
    obtain ⟨_, _, hc, _, rfl⟩ := h
    have := Text.length_after? ht
    have := Text.length_cut? hc
    omega

theorem length_cut? {s rest : Text} {r : Row} (h : cut? s = some (r, rest)) :
    rest.length < s.length := by
  simp only [cut?, Option.bind_eq_bind, Option.bind_eq_some_iff, Option.some.injEq, Prod.mk.injEq,
    Prod.exists] at h
  obtain ⟨s1, h1, _, s2, h2, _, s3, h3, _, s4, h4, _, s5, h5, _, rfl⟩ := h
  -- The front of the row makes the rest shorter, and the other cuts never make it longer.
  have hfront := Text.length_after? h1
  have := Text.length_cut? h2
  have := Text.length_cut? h3
  have := length_cutPublished? h4
  have := length_cutShown? h5
  have hpositive : 0 < "<tr><td colspan=\"2\"><a href=\"".toList.length := by decide
  omega

/-- The rows that a text is divided into by their skeleton, when it is nothing but rows. -/
def cutAll? (s : Text) : Option (List Row) :=
  if s.isEmpty then some [] else
  match h : cut? s with
  | none => none
  | some (r, rest) =>
    have := length_cut? h
    (cutAll? rest).map (r :: ·)
termination_by s.length

/-! ## Cutting what was laid out -/

theorem cutShown?_layout {shown : Option Text} (h : ∀ s ∈ shown, '<' ∉ s) (rest : Text) :
    cutShown? (layoutShown shown ++ ("</td></tr>\n".toList ++ rest)) = some (shown, rest) := by
  cases shown with
  | none => simp [layoutShown, cutShown?, Text.after?]
  | some s =>
    simp only [layoutShown, Option.elim_some, List.append_assoc, cutShown?, Text.after?_append]
    rw [Text.cut?_append (h s rfl) _ _ (by decide), Option.map_some]

/-- What follows the date begins with a tag, so that no date is seen where there is none. -/
theorem cutPublished?_layout {published : Option Text} (h : ∀ s ∈ published, '<' ∉ s)
    (rest : Text) :
    cutPublished? (layoutPublished published ++ ('<' :: rest)) = some (published, '<' :: rest) := by
  cases published with
  | none => simp [layoutPublished, cutPublished?, Text.after?]
  | some s =>
    simp only [layoutPublished, Option.elim_some, List.append_assoc, cutPublished?, Text.after?_append]
    rw [Text.cut?_append (h s rfl) _ _ (by decide), Option.map_some]

/-- The markup behind the date begins with a tag. -/
theorem head?_layoutShown_append (shown : Option Text) (rest : Text) :
    (layoutShown shown ++ ("</td></tr>\n".toList ++ rest)).head? = some '<' := by
  cases shown <;> simp [layoutShown]

theorem cut?_layout {r : Row} (h : r.Plain) (rest : Text) :
    cut? (r.layout ++ rest) = some (r, rest) := by
  -- Whether a date is cut depends on what follows it, so its first character is brought out.
  obtain ⟨t, ht⟩ := List.head?_eq_some_iff.1 (head?_layoutShown_append r.shown rest)
  have hshown := cutShown?_layout h.shown rest
  rw [ht] at hshown
  unfold layout
  simp only [List.append_assoc, cut?, Option.bind_eq_bind, Text.after?_append, ht,
    Option.bind_some]
  rw [Text.cut?_append h.link _ _ (by decide), Option.bind_some,
    Text.cut?_append h.title _ _ (by decide), Option.bind_some,
    cutPublished?_layout h.published, Option.bind_some, hshown, Option.bind_some]

theorem layout_ne_nil (r : Row) : r.layout ≠ [] := by
  unfold layout
  simp

/-- Rows that were laid out one behind the other are found again. -/
theorem cutAll?_layout {rs : List Row} (h : ∀ r ∈ rs, r.Plain) :
    cutAll? (rs.flatMap layout) = some rs := by
  induction rs with
  | nil =>
    rw [cutAll?]
    rfl
  | cons r rs ih =>
    have hr := cut?_layout (h r (by simp)) (rs.flatMap layout)
    have hrs := ih fun q hq => h q (by simp [hq])
    rw [List.flatMap_cons, cutAll?, if_neg (by simp [layout_ne_nil])]
    split
    · next hnone => simp [hr] at hnone
    · next q rest hsome =>
      rw [hr] at hsome
      cases hsome
      rw [hrs]
      rfl

end Row
end FeedPage
