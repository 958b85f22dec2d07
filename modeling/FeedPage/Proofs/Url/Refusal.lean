-- SUMMARY: Which references cannot be resolved: those that name a host with a lone bracket, with brackets around no address, or with a deceptive character.
import FeedPage.Url.Resolve

/-!
# Refused references

Resolving a reference against a base that can be read fails for one reason only: the reference names
a host of its own, and that host is refused (`resolve_error_iff`). Nothing else about a reference
matters, however it is written.
-/

namespace FeedPage.Url

/-- The host that a reference names, if it names one. -/
def namedHost? (ref : Text) : Option Text :=
  (Text.after? "//".toList ((takeScheme? (scrub ref)).elim (scrub ref) (·.2))).map
    (·.takeWhile (!endsHost ·))

/-- A host is refused when a square bracket has no partner, when its brackets enclose no address that
may stand there, or when a character decomposes into a delimiter. -/
inductive Refused (host : Text) : Prop where
  | loneBracket (unpaired : ¬ ('[' ∈ host ↔ ']' ∈ host))
  | noAddress (opened : '[' ∈ host) (closed : ']' ∈ host)
    (enclosed : Address.mayStandInBrackets (enclosed host) = false)
  | deceptive (c : Char) (mem : c ∈ host) (decomposes : c.toNat ∈ deceptive)

theorem checkHost_error_iff (host : Text) : (∃ e, checkHost host = .error e) ↔ Refused host := by
  unfold checkHost
  split
  · next h => exact ⟨fun _ => .loneBracket fun hiff => h (propext hiff), fun _ => ⟨_, rfl⟩⟩
  next h =>
  have hpaired : '[' ∈ host ↔ ']' ∈ host := iff_of_eq (Decidable.not_not.1 h)
  split
  · next hopened =>
    simp only [Bool.and_eq_true, decide_eq_true_eq, Bool.not_eq_true'] at hopened
    exact ⟨fun _ => .noAddress hopened.1 (hpaired.1 hopened.1) hopened.2, fun _ => ⟨_, rfl⟩⟩
  next hplain =>
  split
  · next hany =>
    obtain ⟨c, hc, hdeceptive⟩ := List.any_eq_true.1 hany
    exact ⟨fun _ => .deceptive c hc (by simpa using hdeceptive), fun _ => ⟨_, rfl⟩⟩
  · next hnone =>
    constructor
    · rintro ⟨e, ⟨⟩⟩
    · intro hrefused
      cases hrefused with
      | loneBracket unpaired => exact (unpaired hpaired).elim
      | noAddress opened closed enclosed => simp [opened, enclosed] at hplain
      | deceptive c mem decomposes =>
        exact (hnone (List.any_eq_true.2 ⟨c, mem, by simpa using decomposes⟩)).elim

theorem not_refused_nil : ¬ Refused [] := by
  rintro (h | h | ⟨c, h, -⟩)
  · exact h (by simp)
  · cases h
  · cases h

/-- A step that always succeeds leaves the failures of the step before it. -/
theorem bind_error_iff {ε α β : Type} {x : Except ε α} {f : α → Except ε β}
    (hf : ∀ a, ∃ b, f a = .ok b) : (∃ e, x >>= f = .error e) ↔ ∃ e, x = .error e := by
  cases x with
  | error e => simp [bind, Except.bind]
  | ok a =>
    obtain ⟨b, hb⟩ := hf a
    simp [bind, Except.bind, hb]

/-- Splitting a URL fails when the check of its host does. -/
theorem split_error_iff_checkHost (scheme source : Text) :
    (∃ e, split scheme source = .error e) ↔
      ∃ e, checkHost ((namedHost? source).getD []) = .error e := by
  unfold split namedHost?
  rcases takeScheme? (scrub source) with _ | ⟨name, rest⟩
  · simp only [Option.getD_none, Option.elim_none]
    rcases Text.after? "//".toList (scrub source) with _ | t <;>
      exact bind_error_iff fun _ => ⟨_, rfl⟩
  · simp only [Option.getD_some, Option.elim_some]
    rcases Text.after? "//".toList rest with _ | t <;>
      exact bind_error_iff fun _ => ⟨_, rfl⟩

theorem split_error_iff (scheme source : Text) :
    (∃ e, split scheme source = .error e) ↔
      ∃ host, namedHost? source = some host ∧ Refused host := by
  rw [split_error_iff_checkHost, checkHost_error_iff]
  rcases namedHost? source with _ | host
  · simp [not_refused_nil]
  · simp

theorem parse_error_iff (scheme source : Text) :
    (∃ e, parse scheme source = .error e) ↔
      ∃ host, namedHost? source = some host ∧ Refused host := by
  rw [← split_error_iff scheme]
  refine bind_error_iff fun u => ?_
  split <;> exact ⟨_, rfl⟩

/-- A reference cannot be resolved when it names a host that is refused. -/
theorem resolve_error_iff {base : Text} {b : Url} (hne : base ≠ [])
    (hbase : parse [] base = .ok b) (ref : Text) :
    (∃ e, resolve base ref = .error e) ↔ ∃ host, namedHost? ref = some host ∧ Refused host := by
  by_cases href : ref = []
  · subst href
    have hnone : namedHost? [] = none := rfl
    simp [resolve, hne, hnone]
  · rw [← parse_error_iff b.scheme]
    unfold resolve
    rw [if_neg (by simpa using hne), if_neg (by simpa using href), hbase]
    refine bind_error_iff (x := parse b.scheme ref) fun u => ?_
    -- Once the reference is parsed, each way of joining it to the base succeeds.
    split
    · exact ⟨_, rfl⟩
    · split
      · exact ⟨_, rfl⟩
      · dsimp only
        split <;> split <;> exact ⟨_, rfl⟩

end FeedPage.Url
