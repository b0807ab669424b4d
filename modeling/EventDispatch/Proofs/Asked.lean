import EventDispatch.Proofs.Runs

namespace EventDispatch

variable {h : Host} {α : Type} {may : Request h → Prop}

/-- All that the script asks for may be asked for, and what it returns is as `Q` says. -/
def Script.AsksOnly (may : Request h → Prop) (Q : α → Prop) : Script h α → Prop
  | .done a => Q a
  | .panic _ => True
  | .request r next => may r ∧ ∀ a, (next a).AsksOnly may Q

def Verdict.AsksOnly (may : Request h → Prop) : Verdict h → Prop
  | .finish _ => True
  | .proceed _ _ after => ∀ r, (after r).AsksOnly may fun _ => True

structure Application.AsksOnly (may : Request h → Prop) (app : Application h) : Prop where
  listen : ∀ code ctx event, (app.listen code ctx event).AsksOnly may fun _ => True
  intercept : ∀ code ctx event, (app.intercept code ctx event).AsksOnly may (Verdict.AsksOnly may)

theorem Script.AsksOnly.mono {Q R : α → Prop} {p : Script h α} (asks : p.AsksOnly may Q)
    (hQ : ∀ a, Q a → R a) : p.AsksOnly may R := by
  induction p with
  | done a => exact hQ a asks
  | panic e => trivial
  | request r next ih => exact ⟨asks.1, fun a => ih a (asks.2 a)⟩

/-- What is asked for is answered somehow, and the script returns such a value in every run. -/
theorem Script.AsksOnly.returns {Q : α → Prop} {app : Application h}
    {meanwhile : World h → World h → Prop} {t : Thread} {p : Script h α} {w w' : World h}
    {path : List (Footstep h)} {a : α} (asks : p.AsksOnly may Q)
    (ran : p.program.Runs app meanwhile t w path w' a) : Q a := by
  induction p generalizing w path with
  | done b =>
    obtain ⟨-, -, rfl⟩ := Program.runs_done_iff.1 ran
    exact asks
  | panic e => exact absurd ran Program.not_runs_panic
  | request r next ih =>
    obtain ⟨first, w₁, answer, rest, rfl, -, after⟩ := Program.runs_bind_iff.1 ran
    exact ih answer (asks.2 answer) after

namespace Application.AsksOnly

variable {app : Application h}

theorem runListener (asks : app.AsksOnly may) (handler : Handler h) (ctx : Context) (event : Event) :
    (app.runListener handler ctx event).AsksOnly may fun _ => True := by
  unfold Application.runListener
  split
  · exact asks.listen _ ctx event
  · split
    · exact asks.listen _ ctx _
    · trivial

theorem verdict (asks : app.AsksOnly may) (logs : ∀ n, may (.host (.log n)))
    (marks : ∀ m, may (.host (.mark m))) (i : Interceptor h) (ctx : Context) (event : Event) :
    (app.verdict i ctx event).AsksOnly may (Verdict.AsksOnly may) := by
  cases i with
  | logging =>
    refine ⟨logs _, fun _ r => ?_⟩
    simp only []
    split <;> exact ⟨logs _, fun _ => trivial⟩
  | metrics mark => exact fun r => ⟨marks _, fun _ => trivial⟩
  | filter keeps =>
    unfold Application.verdict Verdict.filter
    simp only []
    split
    · exact fun r => trivial
    · exact ⟨logs _, fun _ => trivial⟩
  | custom code => exact asks.intercept code ctx event

end Application.AsksOnly
end EventDispatch
