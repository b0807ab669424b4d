import EventDispatch.Proofs.Asked
import EventDispatch.Proofs.Broker.Reading
import EventDispatch.Proofs.Inner

namespace EventDispatch

variable {h : Host} {α β : Type} {i : Nat}

/-- The log has only grown, and subscriber `i` is as it was. -/
structure World.Undisturbed (i : Nat) (w w' : World h) : Prop where
  log : w.bus.log <+: w'.bus.log
  subscriber : ∀ x, w.bus.subscribers[i]? = some x → w'.bus.subscribers[i]? = some x

theorem World.Undisturbed.refl (w : World h) : w.Undisturbed i w := ⟨List.prefix_rfl, fun _ hx => hx⟩

theorem World.Undisturbed.trans {w w₁ w₂ : World h} (first : w.Undisturbed i w₁)
    (second : w₁.Undisturbed i w₂) : w.Undisturbed i w₂ :=
  ⟨first.log.trans second.log, fun x hx => second.subscriber x (first.subscriber x hx)⟩

def BusCall.KeepsOff (i : Nat) (c : BusCall) : Prop := c.subscriber? ≠ some i ∧ ∀ j, c ≠ .clear j

def Op.KeepsOff (i : Nat) : Op h → Prop
  | .host (.bus c) => c.KeepsOff i
  | _ => True

def Request.KeepsOff (i : Nat) : Request h → Prop
  | .host (.bus c) => c.KeepsOff i
  | _ => True

/-- All that the script asks for keeps off the subscriber, and so does what it returns. -/
def Script.KeepsOff (i : Nat) (Q : α → Prop) : Script h α → Prop
  | .done a => Q a
  | .panic _ => True
  | .request r next => r.KeepsOff i ∧ ∀ a, (next a).KeepsOff i Q

def Verdict.KeepsOff (i : Nat) : Verdict h → Prop
  | .finish _ => True
  | .proceed _ _ after => ∀ r, (after r).KeepsOff i fun _ => True

structure Application.KeepsOff (i : Nat) (app : Application h) : Prop where
  listen : ∀ code ctx event, (app.listen code ctx event).KeepsOff i fun _ => True
  intercept : ∀ code ctx event, (app.intercept code ctx event).KeepsOff i (Verdict.KeepsOff i)

/-- Programs that keep off the subscriber, apart from what they call. -/
def Program.KeepsOff (i : Nat) (p : Program h α) : Prop :=
  p.Keeps (.only (Op.KeepsOff i) fun _ => True) () fun _ _ => True

theorem Op.IsInner.keepsOff {o : Op h} (inner : o.IsInner) : o.KeepsOff i := by
  unfold Op.KeepsOff
  split
  · exact inner.elim
  · trivial

theorem Program.KeepsOff.bind {p : Program h α} {f : α → Program h β} (hp : p.KeepsOff i)
    (hf : ∀ a, (f a).KeepsOff i) : (p.bind f).KeepsOff i :=
  keeps_bind.2 (keeps_mono hp fun _ a _ => hf a)

theorem Program.IsInner.keepsOff {p : Program h α} (inner : p.IsInner) : p.KeepsOff i :=
  inner.keeps fun _ ho => ho.keepsOff

theorem Request.KeepsOff.program {r : Request h} (off : r.KeepsOff i) : r.program.KeepsOff i := by
  rcases r.host_or_isInner with ⟨o, rfl⟩ | inner
  · have same : Op.KeepsOff i (.host o) := by
      cases o with
      | bus c => exact off
      | _ => trivial
    exact ⟨same, fun _ _ => trivial⟩
  · exact inner.keepsOff

theorem Script.KeepsOff.bind_program {Q : α → Prop} {p : Script h α} (off : p.KeepsOff i Q)
    {f : α → Program h β} (hf : ∀ a, Q a → (f a).KeepsOff i) : (p.program.bind f).KeepsOff i := by
  induction p with
  | done a => exact hf a off
  | panic e => trivial
  | request r next ih =>
    rw [Script.program, Program.bind_assoc]
    exact off.1.program.bind fun a => ih a (off.2 a)

theorem Script.KeepsOff.program {Q : α → Prop} {p : Script h α} (off : p.KeepsOff i Q) :
    p.program.KeepsOff i := by
  rw [← Program.bind_done p.program]
  exact off.bind_program fun _ _ => trivial

theorem Script.keepsOff_iff {Q : α → Prop} {p : Script h α} :
    p.KeepsOff i Q ↔ p.AsksOnly (Request.KeepsOff i) Q := by
  induction p with
  | done a => rfl
  | panic e => rfl
  | request r next ih => exact and_congr_right fun _ => forall_congr' ih

theorem Verdict.keepsOff_iff {v : Verdict h} :
    v.KeepsOff i ↔ v.AsksOnly (Request.KeepsOff i) := by
  cases v with
  | finish r => rfl
  | proceed ctx event after => exact forall_congr' fun r => Script.keepsOff_iff

namespace Application.KeepsOff

variable {app : Application h}

theorem asksOnly (off : app.KeepsOff i) : app.AsksOnly (Request.KeepsOff i) := by
  constructor
  · exact fun code ctx event => Script.keepsOff_iff.1 (off.listen code ctx event)
  · intro code ctx event
    have asks := Script.keepsOff_iff.1 (off.intercept code ctx event)
    exact asks.mono fun v => Verdict.keepsOff_iff.1

/-- Whatever is called keeps off the subscriber, when the application's code does. -/
theorem body (off : app.KeepsOff i) (c : Call h) : (app.body c).KeepsOff i := by
  cases c with
  | listener e ctx event =>
    exact (Script.keepsOff_iff.2 (off.asksOnly.runListener e.handler ctx event)).program
  | interceptor c next ctx event =>
    have asks := off.asksOnly.verdict (fun _ => trivial) (fun _ => trivial) c ctx event
    apply (Script.keepsOff_iff.2 asks).bind_program
    intro v hv
    cases v with
    | finish r => trivial
    | proceed ctx event after =>
      have looks := fun r => Script.keepsOff_iff.2 (hv r)
      exact (Delivery.isInner_proceed next ctx event).keepsOff.bind fun r => (looks r).program

end Application.KeepsOff

namespace World

theorem Undisturbed.of_bus {w w' : World h} (same : w'.bus = w.bus) : w.Undisturbed i w' := by
  constructor
  · have log : w'.bus.log = w.bus.log := congrArg Bus.log same
    exact log ▸ List.prefix_rfl
  · intro x hx
    rw [same]
    exact hx

theorem undisturbed_call (w : World h) {c : BusCall} (off : c.KeepsOff i) :
    w.Undisturbed i { w with bus := (w.bus.answer c).2 } := by
  constructor
  · rw [Correspondence.log_answer w.bus c off.2]
    exact List.prefix_append ..
  · intro x hx
    have there : i < w.bus.subscribers.length := (List.getElem?_eq_some_iff.1 hx).1
    exact (w.bus.answer_other c there off.1).trans hx

theorem undisturbed_publish (w : World h) (t : Thread) (ctx : Context) (m : Message) :
    w.Undisturbed i (w.publish t ctx m).2 := by
  unfold publish
  split
  · exact .refl w
  · exact .refl w
  · split
    · next bus published =>
      have called : w.Undisturbed i { w with bus := (w.bus.answer (.publish m)).2 } :=
        w.undisturbed_call ⟨nofun, nofun⟩
      have accepted : (w.bus.answer (.publish m)).2 = bus := by
        simp only [Bus.answer, published]
      rwa [accepted] at called
    · exact .refl w
  · exact .of_bus rfl
  · exact .of_bus rfl

/-- A step that keeps off a subscriber does not disturb it, and publishing only adds to the log. -/
theorem undisturbed_answer (w : World h) (t : Thread) {o : Op h} (off : o.KeepsOff i) :
    w.Undisturbed i (w.answer t o).2 := by
  cases o with
  | host o =>
    cases o with
    | bus c => exact w.undisturbed_call off
    | register type =>
      obtain ⟨types, after⟩ := w.register_concerns t type
      exact .of_bus (congrArg (·.bus) after)
    | _ => exact .of_bus rfl
  | publish ctx m => exact w.undisturbed_publish t ctx m
  | _ => exact .of_bus rfl

end World

/-- Neither does a run of a program that keeps off, whatever it calls and whatever others do. -/
theorem Program.Runs.undisturbed {app : Application h} {t : Thread} {p : Program h α}
    {w w' : World h} {path : List (Footstep h)} {a : α} (off : app.KeepsOff i) (hp : p.KeepsOff i)
    (ran : p.Runs app (World.Undisturbed i) t w path w' a) : w.Undisturbed i w' := by
  induction ran with
  | done a w => exact .refl w
  | perform ready others rest ih =>
    exact ((World.undisturbed_answer _ t hp.1).trans others).trans (ih (hp.2 _ trivial))
  | call body rest inner ih => exact (inner (off.body _)).trans (ih (hp.2 _ trivial _))

end EventDispatch
