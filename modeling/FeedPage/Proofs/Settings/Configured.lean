-- SUMMARY: What an environment configures: which ports are accepted and as which integers, the host, and the debug mode.
import FeedPage.Proofs.Text.Numeral
import FeedPage.Settings

/-!
# Configured servers

An environment configures a server unless its port is set and no numeral. The port is the integer
that the numeral denotes, however it is spelled; the host is taken as it is given, and the debug
mode is on for the word `true` only (`ofEnvironment_configured`). What is configured is announced,
and a refused port is the one error of the log.
-/

namespace FeedPage

/-- A character that is a letter in lower case is that letter or its capital. -/
theorem Text.eq_or_eq_toUpper {c l : Char} (h : c.toLower = l) : c = l ∨ c = l.toUpper := by
  have hall : ∀ n < 128, (Char.ofNat n).toLower = Char.ofNat n ∨
      (Char.ofNat n).toLower.toUpper = Char.ofNat n := by decide
  subst h
  by_cases hascii : c.toNat < 128
  · have hc := hall c.toNat hascii
    rw [Char.ofNat_toNat] at hc
    exact hc.imp Eq.symm Eq.symm
  · exact .inl (toLower_outside (Nat.not_lt.1 hascii)).symm

/-- The word `true` in any case of its letters. -/
def Text.IsTrue (s : Text) : Prop :=
  ∃ t ∈ ['t', 'T'], ∃ r ∈ ['r', 'R'], ∃ u ∈ ['u', 'U'], ∃ e ∈ ['e', 'E'], s = [t, r, u, e]

/-- No letters but these have that word as their small letters, in any script. -/
theorem Text.isTrue_iff {s : Text} : s.IsTrue ↔ lower s = "true".toList := by
  rw [lower_eq_iff (by decide)]
  constructor
  · rintro ⟨t, ht, r, hr, u, hu, e, he, rfl⟩
    simp only [List.mem_cons, List.not_mem_nil, or_false] at ht hr hu he
    rcases ht with rfl | rfl <;> rcases hr with rfl | rfl <;> rcases hu with rfl | rfl <;>
      rcases he with rfl | rfl <;> rfl
  · intro h
    obtain ⟨t, s, rfl, ht, h⟩ := List.map_eq_cons_iff.1 h
    obtain ⟨r, s, rfl, hr, h⟩ := List.map_eq_cons_iff.1 h
    obtain ⟨u, s, rfl, hu, h⟩ := List.map_eq_cons_iff.1 h
    obtain ⟨e, s, rfl, he, h⟩ := List.map_eq_cons_iff.1 h
    obtain rfl := List.map_eq_nil_iff.1 h
    have hmem {c l : Char} (h : c.toLower = l) : c ∈ [l, l.toUpper] := by
      simpa using eq_or_eq_toUpper h
    exact ⟨t, hmem ht, r, hmem hr, u, hmem hu, e, hmem he, rfl⟩

namespace Settings

/-- The port that its variable tells: 8080 when it is unset, and otherwise what it denotes as a
numeral of at most 4300 digits. -/
def PortIs (n : Int) : Option Text → Prop
  | none => n = 8080
  | some s => ∃ w : Text.Numeral, w.text = s ∧ w.digits.length ≤ 4300 ∧ w.value = n

theorem portIs_iff {value : Option Text} {n : Int} :
    PortIs n value ↔ Text.integer? (value.getD defaultPort) = some n := by
  cases value with
  | none =>
    have hdefault : Text.integer? defaultPort = some 8080 := by decide
    rw [Option.getD_none, hdefault, Option.some.injEq]
    exact eq_comm
  | some s => exact Text.integer?_eq_some_iff.symm

/-- What an environment configures. -/
structure Configured (env : Environment) : Prop where
  /-- The page is served with the host as it is given, the port that its variable tells, and the
  debug mode that its variable asks for; it is not served when no port is told. -/
  served (s : Settings) :
    (ofEnvironment env).1 = some s ↔
      s.host = env.host.getD "127.0.0.1".toList ∧ PortIs s.port env.port ∧
        (s.debug = true ↔ ∃ d ∈ env.debug, d.IsTrue)
  /-- Serving is announced, and nothing else is logged. -/
  announced (s : Settings) :
    (ofEnvironment env).1 = some s → (ofEnvironment env).2 = [.serving s.host s.port]
  /-- A port that is no numeral is the one entry of the log, an error. -/
  refused : (∀ n, ¬ PortIs n env.port) →
    (ofEnvironment env).1 = none ∧
      ∃ p ∈ env.port, (ofEnvironment env).2 = [.badPort p] ∧ (LogEntry.badPort p).level = .error
  /-- The decimal numeral of an integer of at most 4300 digits is that port. -/
  numeral (n : Int) : n.natAbs < 10 ^ 4300 → env.port = some (Text.ofInt n) →
    ∃ s, (ofEnvironment env).1 = some s ∧ s.port = n
  /-- White space around, a plus sign, underscores and digits of other scripts make no difference. -/
  respelled (v w : Text.Numeral) : v.Respells w → env.port = some v.text →
    (ofEnvironment { env with port := some w.text }).1 = (ofEnvironment env).1

theorem ofEnvironment_of_none {env : Environment}
    (h : Text.integer? (env.port.getD defaultPort) = none) :
    ofEnvironment env = (none, [.badPort (env.port.getD defaultPort)]) := by
  simp only [ofEnvironment, h]

theorem ofEnvironment_of_some {env : Environment} {n : Int}
    (h : Text.integer? (env.port.getD defaultPort) = some n) :
    ofEnvironment env =
      (some ⟨env.host.getD defaultHost, n,
        Text.lower (env.debug.getD "false".toList) = "true".toList⟩,
        [.serving (env.host.getD defaultHost) n]) := by
  simp only [ofEnvironment, h]

theorem isTrue_setting (debug : Option Text) :
    Text.lower (debug.getD "false".toList) = "true".toList ↔ ∃ d ∈ debug, d.IsTrue := by
  cases debug with
  | none =>
    have hdefault : ¬ Text.lower "false".toList = "true".toList := by decide
    rw [Option.getD_none, iff_false_left hdefault]
    simp
  | some d => simp [Text.isTrue_iff]

theorem ofEnvironment_eq_some_iff {env : Environment} {s : Settings} :
    (ofEnvironment env).1 = some s ↔
      s.host = env.host.getD defaultHost ∧ PortIs s.port env.port ∧
        (s.debug = true ↔ ∃ d ∈ env.debug, d.IsTrue) := by
  rw [portIs_iff, ← isTrue_setting]
  cases hport : Text.integer? (env.port.getD defaultPort) with
  | none => simp [ofEnvironment_of_none hport]
  | some n =>
    obtain ⟨host, port, debug⟩ := s
    simp only [ofEnvironment_of_some hport, Option.some.injEq, Settings.mk.injEq]
    constructor
    · rintro ⟨rfl, rfl, rfl⟩
      exact ⟨rfl, rfl, decide_eq_true_iff⟩
    · rintro ⟨rfl, rfl, hdebug⟩
      exact ⟨rfl, rfl, Bool.eq_iff_iff.2 (decide_eq_true_iff.trans hdebug.symm)⟩

/-- An environment configures a server exactly when its port is unset or a numeral of an integer. -/
theorem ofEnvironment_configured (env : Environment) : Configured env := by
  constructor
  case served =>
    intro s
    exact ofEnvironment_eq_some_iff
  case announced =>
    intro s hs
    obtain ⟨hhost, hport, -⟩ := ofEnvironment_eq_some_iff.1 hs
    rw [ofEnvironment_of_some (portIs_iff.1 hport), hhost]
  case refused =>
    intro hnone
    have hport : Text.integer? (env.port.getD defaultPort) = none :=
      Option.eq_none_iff_forall_ne_some.2 fun n hn => hnone n (portIs_iff.2 hn)
    rw [ofEnvironment_of_none hport]
    cases hvalue : env.port with
    | none => exact absurd rfl (hvalue ▸ hnone 8080)
    | some p => exact ⟨rfl, p, rfl, rfl, rfl⟩
  case numeral =>
    intro n hn hvalue
    have hdigits : 4300 = Text.maxDigits := rfl
    rw [hdigits] at hn
    have hport : Text.integer? (env.port.getD defaultPort) = some n := by
      rw [hvalue]
      exact Text.integer?_ofInt hn
    rw [ofEnvironment_of_some hport]
    exact ⟨_, rfl, rfl⟩
  case respelled =>
    intro v w h hvalue
    have hsame : Text.integer? ((some w.text).getD defaultPort) =
        Text.integer? (env.port.getD defaultPort) := by
      rw [hvalue]
      exact h.integer?_eq.symm
    simp only [ofEnvironment, hsame]
    cases Text.integer? (env.port.getD defaultPort) <;> rfl

end Settings
end FeedPage
