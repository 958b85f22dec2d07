-- SUMMARY: The named feeds of a session are apart: each is what the successful writes to its name alone make, and no other step changes it.
import Mathlib.Data.List.Forall2
import FeedPage.Proofs.Rows.Apart
import FeedPage.Proofs.Web.Queue

/-!
# Named feeds apart from each other

A step of a session writes to one name or to none, and only when it succeeds. What it writes depends
on the feed of that name alone (`State.step_writing`), so after a run each feed is what the
successful writes to its name make, taken out of the run and made in a session of their own
(`State.writes`). All other steps leave the feed as it was (`run_isolated`).
-/

namespace FeedPage

/-! ## Comparing feeds -/

/-- Two items that agree field by field. -/
structure Item.Agrees (a b : Item) : Prop where
  title : a.title = b.title
  link : a.link = b.link
  published : a.published = b.published
  description : a.description = b.description

/-- Two feeds that agree in URL and title, and in their items one by one. -/
structure Feed.Agrees (f g : Feed) : Prop where
  url : f.url = g.url
  title : f.title = g.title
  items : List.Forall₂ Item.Agrees f.items g.items

theorem Item.agrees_iff {a b : Item} : a.Agrees b ↔ a = b := by
  constructor
  · rintro ⟨ht, hl, hp, hd⟩
    cases a
    cases b
    simp_all
  · rintro rfl
    exact ⟨rfl, rfl, rfl, rfl⟩

theorem Feed.agrees_iff {f g : Feed} : f.Agrees g ↔ f = g := by
  have hitems : Item.Agrees = Eq := by
    funext a b
    exact propext Item.agrees_iff
  constructor
  · rintro ⟨hu, ht, hi⟩
    rw [hitems, List.forall₂_eq_eq_eq] at hi
    cases f
    cases g
    simp_all
  · rintro rfl
    refine ⟨rfl, rfl, ?_⟩
    rw [hitems, List.forall₂_eq_eq_eq]

namespace Session

/-! ## Runs -/

/-- The session after steps that are taken one after the other. -/
def State.after (q : State) : List Step → State
  | [] => q
  | s :: ss => (q.step s).state.after ss

/-- The results of steps that are taken one after the other. -/
def State.results (q : State) : List Step → List Result
  | [] => []
  | s :: ss => q.step s :: (q.step s).state.results ss

/-- Whether a step came to what it is for; a load that obtained no feed did not. -/
def Result.succeeds (r : Result) : Bool :=
  match r.reply with
  | .error _ | .ok (.loaded none) => false
  | .ok _ => true

/-- The name that a step writes to when it succeeds. -/
def Step.target? : Step → Option Text
  | .new name _ | .load name _ | .add name _ _ | .remove name _ | .edit name _ _ => some name
  | .put _ _ | .drop _ | .rows _ | .equal _ _ => none

/-- What a step writes, as a step by itself: a load writes the feed that it obtains. -/
def State.writing (q : State) (s : Step) : Step :=
  match s with
  | .load name url =>
    match (fetchFeed url q.web).result with
    | .ok (some feed) => .new name feed
    | _ => s
  | s => s

/-- The successful writes of a run to a name, each as a step by itself. -/
def State.writes (q : State) (name : Text) : List Step → List Step
  | [] => []
  | s :: ss =>
    let later := (q.step s).state.writes name ss
    if (q.step s).succeeds ∧ s.target? = some name then q.writing s :: later else later

/-! ## Failures -/

/-- The names that must be known for a step to succeed. -/
def Step.needs : Step → List Text
  | .add name _ _ | .remove name _ | .edit name _ _ | .rows name => [name]
  | .equal a b => [a, b]
  | .put _ _ | .drop _ | .new _ _ | .load _ _ => []

/-- The ways in which a step fails. -/
inductive Step.Fails (q : State) : Step → Prop where
  | unknown {s : Step} {name : Text} (needed : name ∈ s.needs) (unknown : q.feed? name = none) :
    Fails q s
  /-- No item is at the place, whether it counts from the front or from the end. -/
  | nothingToRemove {name : Text} {feed : Feed} {place : Int} (known : q.feed? name = some feed)
    (outside : place < -feed.items.length ∨ feed.items.length ≤ place) :
    Fails q (.remove name place)
  | nothingToEdit {name : Text} {feed : Feed} {place : Int} {change : Change}
    (known : q.feed? name = some feed)
    (outside : place < -feed.items.length ∨ feed.items.length ≤ place) :
    Fails q (.edit name place change)
  | raised {name url : Text} {why : Fault} (fetched : (fetchFeed url q.web).result = .error why) :
    Fails q (.load name url)
  | notFound {name url : Text} (fetched : (fetchFeed url q.web).result = .ok none) :
    Fails q (.load name url)

theorem placeOf?_eq_none_iff {length : Nat} {place : Int} :
    placeOf? length place = none ↔ place < -length ∨ (length : Int) ≤ place := by
  unfold placeOf? fromFront
  dsimp only
  split <;> simp <;> omega

variable {q p : State} {s : Step} {name other : Text} {feed : Feed}

/-- A failing step leaves the feeds as they were. -/
theorem State.step_of_fails (h : s.Fails q) :
    (q.step s).succeeds = false ∧ (q.step s).state.feeds = q.feeds := by
  cases h with
  | @unknown s name needed unknown =>
    cases s with
    | put | drop | new | load => simp [Step.needs] at needed
    | add | remove | edit | rows =>
      obtain rfl := List.mem_singleton.1 needed
      simp [step, withFeed, unknown, Result.succeeds]
    | equal a b =>
      rcases ha : q.feed? a with _ | feedA
      · simp [step, withFeed, ha, Result.succeeds]
      -- The first name is known, so the unknown one is the second.
      have hb : q.feed? b = none := by
        rcases List.mem_cons.1 needed with rfl | hname
        · rw [ha] at unknown
          cases unknown
        · rwa [List.mem_singleton.1 hname] at unknown
      simp [step, withFeed, ha, hb, Result.succeeds]
  | nothingToRemove known outside | nothingToEdit known outside =>
    simp [step, withFeed, known, placeOf?_eq_none_iff.2 outside, Result.succeeds]
  | raised fetched | notFound fetched => simp [step, fetched, Result.succeeds]

/-- A step that does not fail succeeds; it stores a feed under the name that it writes to, and
leaves all feeds as they were when it writes to none. -/
theorem State.step_of_not_fails (h : ¬ s.Fails q) :
    (q.step s).succeeds = true ∧
      match s.target? with
      | none => (q.step s).state.feeds = q.feeds
      | some name => ∃ feed, (q.step s).state.feeds = (q.store name feed).feeds := by
  have hknown {name : Text} (needed : name ∈ s.needs) : ∃ feed, q.feed? name = some feed :=
    Option.ne_none_iff_exists'.1 fun unknown => h (.unknown needed unknown)
  cases s with
  | put url answers | drop url => exact ⟨rfl, rfl⟩
  | new name feed => exact ⟨rfl, feed, rfl⟩
  | load name url =>
    rcases hfetched : (fetchFeed url q.web).result with why | _ | feed
    · exact (h (.raised hfetched)).elim
    · exact (h (.notFound hfetched)).elim
    · exact ⟨by simp [step, hfetched, Result.succeeds], feed, by simp [step, hfetched, store]⟩
  | add name item place =>
    obtain ⟨feed, hfeed⟩ := hknown (List.mem_singleton.2 rfl)
    simp only [step, withFeed, hfeed]
    exact ⟨rfl, _, rfl⟩
  | remove name place =>
    obtain ⟨feed, hfeed⟩ := hknown (List.mem_singleton.2 rfl)
    rcases hplace : placeOf? feed.items.length place with _ | k
    · exact (h (.nothingToRemove hfeed (placeOf?_eq_none_iff.1 hplace))).elim
    · simp only [step, withFeed, hfeed, hplace]
      exact ⟨rfl, _, rfl⟩
  | edit name place change =>
    obtain ⟨feed, hfeed⟩ := hknown (List.mem_singleton.2 rfl)
    rcases hplace : placeOf? feed.items.length place with _ | k
    · exact (h (.nothingToEdit hfeed (placeOf?_eq_none_iff.1 hplace))).elim
    · simp only [step, withFeed, hfeed, hplace]
      exact ⟨rfl, _, rfl⟩
  | rows name =>
    obtain ⟨feed, hfeed⟩ := hknown (List.mem_singleton.2 rfl)
    simp [step, withFeed, hfeed, Result.succeeds, Step.target?]
  | equal a b =>
    obtain ⟨feedA, ha⟩ := @hknown a (by simp [Step.needs])
    obtain ⟨feedB, hb⟩ := @hknown b (by simp [Step.needs])
    simp [step, withFeed, ha, hb, Result.succeeds, Step.target?]

theorem State.fails_iff : s.Fails q ↔ (q.step s).succeeds = false := by
  refine ⟨fun h => (step_of_fails h).1, fun h => Classical.byContradiction fun hs => ?_⟩
  rw [(step_of_not_fails hs).1] at h
  cases h

/-! ## One step -/

theorem State.feed?_store_eq (q : State) (name other : Text) (feed : Feed) :
    (q.store name feed).feed? other = if other = name then some feed else q.feed? other := by
  simp only [store, feed?, List.lookup_cons, Web.lookup_filter_ne]
  by_cases h : other = name
  · simp [h]
  · simp [h, beq_eq_false_iff_ne.2 h]

/-- A feed keeps still in a step that fails or writes to another name. -/
theorem State.feed?_step (h : ¬ ((q.step s).succeeds ∧ s.target? = some name)) :
    (q.step s).state.feed? name = q.feed? name := by
  by_cases hs : s.Fails q
  · simp only [feed?, (step_of_fails hs).2]
  obtain ⟨hsucceeds, hfeeds⟩ := step_of_not_fails hs
  rcases htarget : s.target? with _ | other
  · rw [htarget] at hfeeds
    simp only [feed?, hfeeds]
  · rw [htarget] at hfeeds
    obtain ⟨feed, hfeed⟩ := hfeeds
    have hother : name ≠ other := by
      rintro rfl
      exact h ⟨hsucceeds, htarget⟩
    have hstored := q.feed?_store_eq other name feed
    rw [if_neg hother] at hstored
    rw [← hstored]
    simp only [feed?, hfeed]

/-- A successful write makes the same of the feed of its name wherever it is made. -/
theorem State.step_writing (hfeed : q.feed? name = p.feed? name) (hsucceeds : (q.step s).succeeds)
    (htarget : s.target? = some name) :
    (p.step (q.writing s)).succeeds ∧
      (p.step (q.writing s)).state.feed? name = (q.step s).state.feed? name := by
  have hnot : ¬ s.Fails q := fun h => by simp [fails_iff.1 h] at hsucceeds
  have hknown (needed : name ∈ s.needs) : ∃ feed, q.feed? name = some feed :=
    Option.ne_none_iff_exists'.1 fun unknown => hnot (.unknown needed unknown)
  cases s with
  | put | drop | rows | equal => cases htarget
  | new name feed =>
    cases htarget
    exact ⟨rfl, by simp [writing, step, feed?_store_eq]⟩
  | load name url =>
    cases htarget
    rcases hfetched : (fetchFeed url q.web).result with why | _ | feed
    · exact (hnot (.raised hfetched)).elim
    · exact (hnot (.notFound hfetched)).elim
    · exact ⟨by simp [writing, hfetched, step, Result.succeeds],
        by simp [writing, hfetched, step, feed?_store_eq]⟩
  | add name item place =>
    cases htarget
    obtain ⟨feed, hq⟩ := hknown (List.mem_singleton.2 rfl)
    have hp := hfeed ▸ hq
    exact ⟨by simp [writing, step, withFeed, hp, Result.succeeds],
      by simp [writing, step, withFeed, hp, hq, feed?_store_eq]⟩
  | remove name place | edit name place =>
    cases htarget
    obtain ⟨feed, hq⟩ := hknown (List.mem_singleton.2 rfl)
    have hp := hfeed ▸ hq
    rcases hplace : placeOf? feed.items.length place with _ | k
    · simp [step, withFeed, hq, hplace, Result.succeeds] at hsucceeds
    · exact ⟨by simp [writing, step, withFeed, hp, hplace, Result.succeeds],
        by simp [writing, step, withFeed, hp, hq, hplace, feed?_store_eq]⟩

/-! ## Runs apart -/

/-- In a session whose feed of the name is the same, the successful writes of a run to the name make
the same of it as the run. -/
theorem State.after_writes (steps : List Step) (hfeed : q.feed? name = p.feed? name) :
    (p.after (q.writes name steps)).feed? name = (q.after steps).feed? name ∧
      ∀ r ∈ p.results (q.writes name steps), r.succeeds := by
  induction steps generalizing q p with
  | nil => exact ⟨hfeed.symm, by simp [writes, results]⟩
  | cons s steps ih =>
    by_cases h : (q.step s).succeeds ∧ s.target? = some name
    · obtain ⟨hsucceeds, hsame⟩ := step_writing hfeed h.1 h.2
      obtain ⟨hafter, hresults⟩ := ih hsame.symm
      simp only [writes, if_pos h, after, results]
      exact ⟨hafter, List.forall_mem_cons.2 ⟨hsucceeds, hresults⟩⟩
    · obtain ⟨hafter, hresults⟩ := ih ((feed?_step h).trans hfeed)
      simp only [writes, if_neg h, after]
      exact ⟨hafter, hresults⟩

theorem State.writes_of_target_ne {steps : List Step} (h : ∀ s ∈ steps, s.target? ≠ some name) :
    q.writes name steps = [] := by
  induction steps generalizing q with
  | nil => rfl
  | cons s steps ih =>
    obtain ⟨hs, hsteps⟩ := List.forall_mem_cons.1 h
    simp only [writes, hs, and_false, if_false]
    exact ih hsteps

/-- Names whose feeds compare equal have the same feed. -/
theorem State.feed?_of_equal {a b : Text} (h : (q.step (.equal a b)).reply = .ok (.equal true)) :
    ∃ feed, q.feed? a = some feed ∧ q.feed? b = some feed := by
  rcases ha : q.feed? a with _ | f
  · simp [step, withFeed, ha] at h
  rcases hb : q.feed? b with _ | g
  · simp [step, withFeed, ha, hb] at h
  · simp only [step, withFeed, ha, hb, Except.ok.injEq, Reply.equal.injEq, decide_eq_true_eq] at h
    exact ⟨f, rfl, h ▸ rfl⟩

/-- How a session treats its feeds that began with the given web and is at `q` after these steps. -/
structure Isolated (w : Web) (steps : List Step) (q : State) : Prop where
  /-- The feed of a name is what the successful writes to this name make, when nothing else is
  done. -/
  alone (name : Text) :
    q.feed? name = (State.after {} (State.writes { web := w } name steps)).feed? name
  /-- By themselves these writes succeed as well. -/
  alone_succeeds (name : Text) :
    ∀ r ∈ State.results {} (State.writes { web := w } name steps), r.succeeds = true
  /-- A feed that is built without items is empty, and stays so as long as no step writes to its
  name, whatever is inserted elsewhere before and after. -/
  built (name url title : Text) (later : List Step) (elsewhere : ∀ s ∈ later, s.target? ≠ some name) :
    ((q.step (.new name { url, title })).state.after later).feed? name =
      some { url, title, items := [] }
  /-- A step fails on an unknown name, at a place without an item, or when a load ends in a fault or
  without a feed, and only then. -/
  fails_iff (s : Step) : (q.step s).succeeds = false ↔ s.Fails q
  /-- A step that fails leaves every feed as it was. -/
  failed (s : Step) (fails : s.Fails q) : (q.step s).state.feeds = q.feeds
  /-- A rendering changes nothing. -/
  rendered (name : Text) : (q.step (.rows name)).state = q
  /-- A comparison changes nothing. -/
  compared (a b : Text) : (q.step (.equal a b)).state = q
  /-- Two feeds compare equal when they agree in URL and title, and in their items field by field. -/
  equal_iff (a b : Text) (f g : Feed) (first : q.feed? a = some f) (second : q.feed? b = some g) :
    ∃ same, (q.step (.equal a b)).reply = .ok (.equal same) ∧ (same = true ↔ f.Agrees g)
  /-- Feeds that compare equal are rendered to the same rows, with the same log. -/
  equal_rows (a b : Text) (equal : (q.step (.equal a b)).reply = .ok (.equal true)) :
    (q.step (.rows a)).reply = (q.step (.rows b)).reply ∧
      (q.step (.rows a)).log = (q.step (.rows b)).log

/-- In every run of a session its feeds are apart. -/
theorem run_isolated (w : Web) (steps : List Step) :
    Isolated w steps (State.after { web := w } steps) := by
  have hempty (name : Text) : State.feed? { web := w } name = State.feed? {} name := rfl
  constructor
  case alone => exact fun name => (State.after_writes steps (hempty name)).1.symm
  case alone_succeeds => exact fun name => (State.after_writes steps (hempty name)).2
  case built =>
    intro name url title later elsewhere
    generalize State.after { web := w } steps = q
    have hkept := (State.after_writes later
      (rfl : (q.step (.new name { url, title })).state.feed? name = _)).1
    rw [State.writes_of_target_ne elsewhere] at hkept
    rw [← hkept]
    exact State.feed?_store ..
  case fails_iff => exact fun s => State.fails_iff.symm
  case failed => exact fun s fails => (State.step_of_fails fails).2
  case rendered =>
    intro name
    simp only [State.step, State.withFeed]
    split <;> rfl
  case compared =>
    intro a b
    simp only [State.step, State.withFeed]
    split
    · rfl
    · split <;> rfl
  case equal_iff =>
    intro a b f g first second
    refine ⟨decide (f = g), ?_, by rw [decide_eq_true_iff, Feed.agrees_iff]⟩
    simp only [State.step, State.withFeed, first, second]
  case equal_rows =>
    intro a b equal
    generalize State.after { web := w } steps = q at equal ⊢
    obtain ⟨feed, ha, hb⟩ := State.feed?_of_equal equal
    rw [State.step_rows ha, State.step_rows hb]
    exact ⟨rfl, rfl⟩

end Session
end FeedPage
