import EventDispatch.Proofs.Once.Standing

namespace EventDispatch

variable {h : Host} {α β : Type}

def Op.IsPlain : Op h → Prop
  | .takeId => False
  | .insert .. => False
  | .removeAll .. => False
  | .retire _ => False
  | .snapshot _ => False
  | .claim _ => False
  | .release _ => False
  | .spent _ => False
  | .enqueue (.listener _ _ _) => False
  | _ => True

def Program.IsPlain : Program h α → Prop
  | .done _ => True
  | .panic _ => False
  | .perform o next => o.IsPlain ∧ ∀ a, (next a).IsPlain
  | .call _ _ => False

namespace Program

theorem isPlain_bind {p : Program h α} {f : α → Program h β} (hp : p.IsPlain)
    (hf : ∀ a, (f a).IsPlain) : (p.bind f).IsPlain := by
  induction p with
  | done a => exact hf a
  | panic e => exact hp.elim
  | perform o next ih => exact ⟨hp.1, fun a => ih a (hp.2 a)⟩
  | call c next => exact hp.elim

theorem isPlain_op {o : Op h} (ho : o.IsPlain) : (op o).IsPlain := ⟨ho, fun _ => trivial⟩

end Program

namespace Standing

theorem after_plain (s : Standing h) {o : Op h} (ho : o.IsPlain) (a : o.Answer) :
    s.after (.performed o a) = s := by
  cases o with
  | enqueue job => cases job <;> first | exact ho.elim | rfl
  | _ => first | exact ho.elim | rfl

theorem mayPerform_plain (s : Standing h) {o : Op h} (ho : o.IsPlain) : s.MayPerform o := by
  cases o with
  | enqueue job => cases job <;> first | exact ho.elim | trivial
  | _ => first | exact ho.elim | trivial

theorem keeps_plain {p : Program h α} {s : Standing h} {Q : Standing h → α → Prop}
    (hp : p.IsPlain) (hQ : ∀ a, Q s a) : p.Keeps claiming s Q := by
  induction p with
  | done a => exact hQ a
  | panic e => exact hp.elim
  | perform o next ih =>
    refine ⟨s.mayPerform_plain hp.1, fun a _ => ?_⟩
    show (next a).Keeps claiming (s.after _) Q
    rw [s.after_plain hp.1]
    exact ih a (hp.2 a)
  | call c next => exact hp.elim

/-- A plain program in front of another. -/
theorem keeps_plain_bind {p : Program h α} {f : α → Program h β} {s : Standing h}
    {Q : Standing h → β → Prop} (hp : p.IsPlain) (hf : ∀ a, (f a).Keeps claiming s Q) :
    (p.bind f).Keeps claiming s Q :=
  Program.keeps_bind.2 (keeps_plain hp hf)

end Standing

namespace Control

open Program

theorem isPlain_isActive (s : Subscription) : (isActive s : Program h Bool).IsPlain := by
  unfold isActive
  split
  · trivial
  · refine ⟨trivial, fun retired => ?_⟩
    cases retired with
    | true => trivial
    | false => exact isPlain_op trivial

theorem isPlain_logSkipped (ps : List String) : (logSkipped ps : Program h Unit).IsPlain := by
  induction ps with
  | nil => trivial
  | cons p rest ih => exact ⟨trivial, fun _ => ih⟩

theorem isPlain_loadRoutes (es : List (String × Route)) :
    (loadRoutes es : Program h Unit).IsPlain :=
  isPlain_bind (isPlain_logSkipped _) fun _ => ⟨trivial, fun _ => isPlain_op trivial⟩

theorem isPlain_applyConfig (c : Config) :
    (applyConfig c : Program h (Except ConfigError Unit)).IsPlain := by
  unfold applyConfig
  split
  · trivial
  · have loads : (loadRoutes c.routes.entries >>= fun _ =>
        pure (.ok ()) : Program h (Except ConfigError Unit)).IsPlain :=
      isPlain_bind (isPlain_loadRoutes _) fun _ => trivial
    refine ⟨trivial, fun settings => ?_⟩
    simp only [done_bind]
    split
    · exact ⟨trivial, fun _ => loads⟩
    · exact loads

theorem isPlain_stats : (stats : Program h PoolStats).IsPlain :=
  ⟨trivial, fun _ => ⟨trivial, fun _ => ⟨trivial, fun _ => ⟨trivial, fun _ => trivial⟩⟩⟩⟩

theorem isPlain_shutdown : (shutdown : Program h Unit).IsPlain := by
  refine ⟨trivial, fun _ => ⟨trivial, fun _ => ⟨trivial, fun joins => ?_⟩⟩⟩
  cases joins with
  | true => exact ⟨trivial, fun _ => isPlain_op trivial⟩
  | false => exact isPlain_op trivial

open Standing

variable {s : Standing h}

theorem keeps_subscribe (name : String) (handler : Handler h) (options : ListenOptions)
    (hs : s.phase = .free) :
    (subscribe name handler options).Keeps claiming s (claiming.Returns s) := by
  unfold subscribe
  split
  · exact ⟨trivial, fun _ _ => claiming.leads_refl s⟩
  · exact ⟨hs, fun _ _ => ⟨rfl, fun _ _ => ⟨trivial, fun _ _ => ⟨hs.symm, rfl, List.Subset.refl _⟩⟩⟩⟩

theorem keeps_unsubscribe (b : Subscription) (hs : s.phase = .free) :
    (unsubscribe b).Keeps claiming s (claiming.Returns s) := by
  unfold unsubscribe
  split
  · exact claiming.leads_refl s
  · refine ⟨hs, fun granted _ => ?_⟩
    cases granted with
    | true => exact ⟨.inr ⟨b.id, rfl, rfl⟩, fun _ _ => ⟨hs.symm, rfl, List.Subset.refl _⟩⟩
    | false => exact claiming.leads_refl s

end Control
end EventDispatch
