import EventDispatch.Proofs.Delivery.Reference
import EventDispatch.Proofs.Delivery.Shown

namespace EventDispatch.Delivery

open Program

variable {h : Host}

/-- The first entry is passed by, or handed to the pool, or its listener is called, whose failure ends
the walk. -/
inductive WalkStep (app : Application h) (meanwhile : World h → World h → Prop) (t : Thread)
    (dispatched : Event) (ctx : Context) (event : Event) (e : Entry h) (es : List (Entry h))
    (w : World h) : List (Sight h) → World h → ListenerResult → Prop where
  | skip {w₁ w' : World h} {path : List (Sight h)} {r : ListenerResult}
      (spent : w.registry.isSpent e = true) (others : meanwhile (w.answer t (.claim e)).2 w₁)
      (rest : (callListeners dispatched ctx event es).Shows app meanwhile t w₁ path w' r) :
      WalkStep app meanwhile t dispatched ctx event e es w (.performed w (.claim e) :: path) w' r
  | spawn {w₁ w₂ w' : World h} {steps path : List (Sight h)} {r : ListenerResult}
      (unspent : w.registry.isSpent e = false) (asynchronous : e.options.asynchronous = true)
      (others : meanwhile (w.answer t (.claim e)).2 w₁)
      (spawned : (spawnListener ctx e dispatched).Shows app meanwhile t w₁ steps w₂ ())
      (rest : (callListeners dispatched ctx event es).Shows app meanwhile t w₂ path w' r) :
      WalkStep app meanwhile t dispatched ctx event e es w
        (.performed w (.claim e) :: (steps ++ path)) w' r
  | pass {w₁ w₂ w' : World h} {inner : List (Footstep h)} {path : List (Sight h)}
      {r : ListenerResult} (unspent : w.registry.isSpent e = false)
      (inline : e.options.asynchronous = false) (others : meanwhile (w.answer t (.claim e)).2 w₁)
      (body : (app.body (.listener e ctx event)).Runs app meanwhile t w₁ inner w₂ (.ok ()))
      (rest : (callListeners dispatched ctx event es).Shows app meanwhile t w₂ path w' r) :
      WalkStep app meanwhile t dispatched ctx event e es w
        (.performed w (.claim e) :: .heard e ctx event (.ok ()) :: path) w' r
  | stop {w₁ w' : World h} {inner : List (Footstep h)} {error : ListenerError}
      (unspent : w.registry.isSpent e = false) (inline : e.options.asynchronous = false)
      (others : meanwhile (w.answer t (.claim e)).2 w₁)
      (body : (app.body (.listener e ctx event)).Runs app meanwhile t w₁ inner w' (.error error)) :
      WalkStep app meanwhile t dispatched ctx event e es w
        [.performed w (.claim e), .heard e ctx event (.error error)] w' (.error error)

variable {app : Application h} {meanwhile : World h → World h → Prop} {t : Thread} {ctx : Context}
  {event dispatched : Event} {e : Entry h} {es : List (Entry h)} {w w' : World h}
  {path : List (Sight h)} {r : ListenerResult}

theorem walkStep_of_shows
    (ran : (callListeners dispatched ctx event (e :: es)).Shows app meanwhile t w path w' r) :
    WalkStep app meanwhile t dispatched ctx event e es w path w' r := by
  obtain ⟨-, w₁, rest, others, rfl, ran₁⟩ := shows_op_bind_iff.1 ran
  have granted : (w.answer t (.claim e)).1 = (w.registry.claim e).1 := rfl
  rw [granted] at ran₁
  cases spent : w.registry.isSpent e with
  | true =>
    rw [Registry.claim_of_spent spent] at ran₁
    exact .skip spent others ran₁
  | false =>
    rw [Registry.claim_of_unspent spent] at ran₁
    cases asynchronous : e.options.asynchronous with
    | true =>
      rw [asynchronous] at ran₁
      obtain ⟨steps, w₂, u, rest, rfl, spawned, ran₂⟩ := ran₁.of_bind
      exact .spawn spent asynchronous others spawned ran₂
    | false =>
      rw [asynchronous] at ran₁
      obtain ⟨inner, w₂, answer, rest, body, rfl, ran₂⟩ := shows_listener_iff.1 ran₁
      cases answer with
      | ok u => exact .pass spent asynchronous others body ran₂
      | error error =>
        obtain ⟨rfl, rfl, rfl⟩ := shows_done_iff.1 ran₂
        exact .stop spent asynchronous others body

end EventDispatch.Delivery
