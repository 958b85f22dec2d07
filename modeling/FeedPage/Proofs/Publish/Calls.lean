-- SUMMARY: Programs that are given a publisher: what it is to call it once, with one URL, and what it is never to call it.
import FeedPage.Publish

/-!
# Calls of a publisher

A publisher is given to a program from outside, and whatever it does, it does only when it is
called. A program that calls it once has the requests of that call and no others, and leaves the web
as that call leaves it (`Publisher.CalledOnce`); one that never calls it does the same with every
publisher and leaves the web as it is (`Publisher.NeverCalled`). With which URLs a program calls its
publisher is told by one that only keeps a record of its calls (`Publisher.calls`).
-/

namespace FeedPage

variable {α : Type}

/-- The outcome of a program that goes on from the result of `o`: with a result of its own, and with
what it logs about it. -/
def Outcome.used (o : Outcome Text) (use : Except Fault Text → Except Fault α × List LogEntry) :
    Outcome α :=
  { result := (use o.result).1
    requests := o.requests
    log := o.log ++ (use o.result).2
    web := o.web }

namespace Publisher

/-- The program calls its publisher once, with `url`, and goes on from what the publisher gave. -/
def CalledOnce (program : Publisher → Act α) (url : Text) : Prop :=
  ∃ use, ∀ p w, program p w = (p url w).used use

/-- A publisher that ends as told, and leaves a request for the URL of each call. -/
def recorder (ending : Except Fault Text) : Publisher := fun url w =>
  { result := ending, requests := [{ url }], web := w }

/-- The URLs that a program calls its publisher with, in order, when every call ends as told. -/
def calls (program : Publisher → Act α) (ending : Except Fault Text) (w : Web) : List Text :=
  (program (recorder ending) w).requests.map (·.url)

theorem CalledOnce.calls_eq {program : Publisher → Act α} {url : Text} (h : CalledOnce program url)
    (ending : Except Fault Text) (w : Web) : calls program ending w = [url] := by
  obtain ⟨use, huse⟩ := h
  rw [calls, huse]
  rfl

end Publisher
end FeedPage
