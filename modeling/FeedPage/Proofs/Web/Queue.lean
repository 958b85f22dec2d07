-- SUMMARY: The queues of the web: which answer a request gets, and what the requests of a run get.
import FeedPage.Web

/-!
# Queues

The web is told by the answers that each URL has in store. A request takes one answer from its own
queue and leaves all other queues alone (`Web.answerAt_ask`), so the answer to a request depends only
on how many requests for the same URL came before it.
-/

namespace FeedPage.Web

/-! ## The table -/

theorem lookup_filter_ne {α : Type} (table : List (Text × α)) (name other : Text) :
    (table.filter (·.1 ≠ name)).lookup other = if other = name then none else table.lookup other := by
  induction table with
  | nil => simp
  | cons entry table ih =>
    obtain ⟨first, a⟩ := entry
    by_cases hfirst : first = name
    · subst hfirst
      rw [List.filter_cons_of_neg (by simp), ih]
      by_cases hother : other = first
      · simp [hother]
      · simp [hother, List.lookup_cons, beq_eq_false_iff_ne.2 hother]
    · rw [List.filter_cons_of_pos (by simpa using hfirst), List.lookup_cons, List.lookup_cons, ih]
      by_cases hother : other = first
      · subst hother
        simp [hfirst]
      · simp [beq_eq_false_iff_ne.2 hother]

theorem queue?_put (w : Web) (url : Text) (answers : List Answer) (other : Text) :
    (w.put url answers).queue? other = if other = url then some answers else w.queue? other := by
  simp only [put, queue?, drop, List.lookup_cons, lookup_filter_ne]
  by_cases h : other = url
  · simp [h]
  · simp [h, beq_eq_false_iff_ne.2 h]

/-! ## The answers in store -/

/-- The answer to the request for a URL that `n` others for it come before: the queue's last answer
is given again and again, and a URL without answers answers that nothing is there. -/
def answerAt (w : Web) (url : Text) (n : Nat) : Answer :=
  match w.queue? url with
  | some (a :: rest) => (a :: rest).getD (min n rest.length) a
  | _ => .response 404 []

theorem ask_answer (w : Web) (url : Text) : (w.ask url).1 = w.answerAt url 0 := by
  unfold ask answerAt
  rcases w.queue? url with _ | _ | ⟨a, _ | ⟨b, rest⟩⟩ <;> rfl

/-- A request moves its own queue on by one answer and leaves the others as they are. -/
theorem answerAt_ask (w : Web) (url other : Text) (n : Nat) :
    (w.ask url).2.answerAt other n = w.answerAt other (if other = url then n + 1 else n) := by
  by_cases h : other = url
  · subst h
    rw [if_pos rfl]
    unfold ask
    -- Only a queue with two answers or more moves on; a last answer stays for all later requests.
    rcases hq : w.queue? other with _ | _ | ⟨a, _ | ⟨b, rest⟩⟩
    · simp [answerAt, hq]
    · simp [answerAt, hq]
    · simp [answerAt, hq]
    · have hput : (w.put other (b :: rest)).queue? other = some (b :: rest) := by
        simp [queue?_put]
      have hn : min (n + 1) (rest.length + 1) = min n rest.length + 1 := by omega
      simp only [answerAt, hput, hq, List.length_cons, hn, List.getD_cons_succ]
      have hlt : min n rest.length < (b :: rest).length := by
        rw [List.length_cons]
        omega
      rw [List.getD_eq_getElem?_getD, List.getD_eq_getElem?_getD, List.getElem?_eq_getElem hlt,
        Option.getD_some, Option.getD_some]
  · rw [if_neg h]
    unfold ask
    rcases hq : w.queue? url with _ | _ | ⟨a, _ | ⟨b, rest⟩⟩
    · rfl
    · rfl
    · rfl
    · simp only [answerAt, queue?_put, if_neg h]

/-! ## Runs of requests -/

/-- A request's URL with the answer to it, for each of a run of requests. -/
def exchanges (w : Web) : List Request → List (Text × Answer)
  | [] => []
  | r :: rs => (r.url, (w.ask r.url).1) :: (w.ask r.url).2.exchanges rs

/-- The web after a run of requests. -/
def after (w : Web) (rs : List Request) : Web := rs.foldl (fun w r => (w.ask r.url).2) w

theorem exchanges_one (w : Web) (url : Text) :
    w.exchanges [{ url }] = [(url, (w.ask url).1)] := rfl

theorem exchanges_two (w : Web) (url next : Text) :
    w.exchanges [{ url }, { url := next }] =
      [(url, (w.ask url).1), (next, ((w.ask url).2.ask next).1)] := rfl

/-- Each request of a run gets the answer that is due after the requests for its URL before it. -/
theorem exchanges_eq (w : Web) (rs : List Request) :
    w.exchanges rs = rs.mapIdx fun i r =>
      (r.url, w.answerAt r.url ((rs.take i).countP (·.url = r.url))) := by
  induction rs generalizing w with
  | nil => rfl
  | cons r rs ih =>
    rw [exchanges, ih, List.mapIdx_cons, ask_answer]
    congr 1
    refine List.mapIdx_eq_mapIdx_iff.2 fun i hi => ?_
    rw [answerAt_ask, List.take_succ_cons, List.countP_cons]
    by_cases h : rs[i].url = r.url
    · simp [h]
    · simp [h, Ne.symm h]

end FeedPage.Web
