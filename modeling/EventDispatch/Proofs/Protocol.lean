import EventDispatch.Dispatch.Application

namespace EventDispatch

/-- What a thread does in one turn. -/
inductive Occurrence (h : Host) where
  | performed (o : Op h) (a : o.Answer)
  | called (c : Call h)
  | took (job : Job h)
  | ended

/-- Where a thread stands after everything it does, and what it may do from there. -/
structure Protocol (h : Host) (σ : Type) where
  /-- Where a thread stands that has nothing to do. -/
  rest : σ
  after : σ → Occurrence h → σ
  /-- Where application code may run, and panic. -/
  Calm : σ → Prop
  MayPerform : σ → Op h → Prop
  MayCall : σ → Call h → Prop
  /-- The answers that the shared state gives. -/
  Answers : (o : Op h) → o.Answer → Prop
  /-- Where application code may leave a thread that it found at the first. -/
  Leads : σ → σ → Prop
  after_ended : ∀ s, after s .ended = rest
  leads_refl : ∀ s, Leads s s
  leads_trans : ∀ {s t u}, Leads s t → Leads t u → Leads s u
  calm_of_leads : ∀ {s t}, Calm s → Leads s t → Calm t
  calm_of_mayCall : ∀ {s c}, MayCall s c → Calm (after s (.called c))

variable {h : Host} {σ : Type}

def Protocol.Returns (P : Protocol h σ) {α : Type} (s : σ) : σ → α → Prop := fun t _ => P.Leads s t

namespace Program

variable {α β : Type}

/-- From `s` on the program keeps the protocol, whatever it is answered, and it ends as `Q` says. A call
into application code is one step, which leads wherever the protocol says that it may. -/
def Keeps (P : Protocol h σ) : Program h α → σ → (σ → α → Prop) → Prop
  | .done a, s, Q => Q s a
  | .panic _, s, _ => P.Calm s
  | .perform o next, s, Q =>
    P.MayPerform s o ∧ ∀ a, P.Answers o a → (next a).Keeps P (P.after s (.performed o a)) Q
  | .call c next, s, Q =>
    P.MayCall s c ∧ ∀ t, P.Leads (P.after s (.called c)) t → ∀ r, (next r).Keeps P t Q

variable {P : Protocol h σ} {s : σ}

theorem keeps_mono {p : Program h α} {Q R : σ → α → Prop} (hp : p.Keeps P s Q)
    (hQ : ∀ t a, Q t a → R t a) : p.Keeps P s R := by
  induction p generalizing s with
  | done a => exact hQ s a hp
  | panic e => exact hp
  | perform o next ih => exact ⟨hp.1, fun a ha => ih a (hp.2 a ha)⟩
  | call c next ih => exact ⟨hp.1, fun t ht r => ih r (hp.2 t ht r)⟩

theorem keeps_bind {p : Program h α} {f : α → Program h β} {Q : σ → β → Prop} :
    (p.bind f).Keeps P s Q ↔ p.Keeps P s fun t a => (f a).Keeps P t Q := by
  induction p generalizing s with
  | done a => rfl
  | panic e => rfl
  | perform o next ih =>
    exact and_congr_right fun _ => forall_congr' fun a => imp_congr_right fun _ => ih a
  | call c next ih =>
    exact and_congr_right fun _ => forall_congr' fun t => imp_congr_right fun _ =>
      forall_congr' fun r => ih r

end Program

/-- Everything that an application can ask for keeps the protocol. -/
def Protocol.Serves (P : Protocol h σ) : Prop :=
  ∀ (r : Request h) s, P.Calm s → r.program.Keeps P s (P.Returns s)

/-- Scripts keep a protocol that all requests keep. -/
theorem Script.program_keeps {α : Type} {P : Protocol h σ} (hP : P.Serves) (p : Script h α) {s : σ}
    (hs : P.Calm s) : p.program.Keeps P s (P.Returns s) := by
  induction p generalizing s with
  | done a => exact P.leads_refl s
  | panic e => exact hs
  | request r next ih =>
    -- The rest begins wherever the request leads, which is calm because `s` is.
    apply Program.keeps_bind.2
    apply Program.keeps_mono (hP r s hs)
    intro t a ht
    exact Program.keeps_mono (ih a (P.calm_of_leads hs ht)) fun u _ hu => P.leads_trans ht hu

end EventDispatch
