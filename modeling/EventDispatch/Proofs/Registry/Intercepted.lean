import EventDispatch.Proofs.Once.Deeds
import EventDispatch.Proofs.Registry

namespace EventDispatch

variable {h : Host} {α : Type}

def Occurrence.intercepted : Occurrence h → List (Interceptor h)
  | .performed (.host (.intercept i)) _ => [i]
  | _ => []

theorem World.interceptors_answer (w : World h) (t : Thread) (o : Op h) :
    (w.answer t o).2.registry.interceptors =
      w.registry.interceptors ++ (Occurrence.performed o (w.answer t o).1).intercepted := by
  have stays : ∀ is : List (Interceptor h), is = is ++ [] := fun is => (List.append_nil is).symm
  cases o with
  | host o =>
    cases o with
    | intercept i => rfl
    | register type =>
      obtain ⟨types, after⟩ := w.register_concerns t type
      exact (congrArg (·.registry.interceptors) after).trans (stays _)
    | _ => exact stays _
  | claim e => exact (w.registry.interceptors_claim e).trans (stays _)
  | release e => exact (w.registry.interceptors_release e).trans (stays _)
  | publish ctx m =>
    obtain ⟨bus, buffer, trail, after⟩ := w.publish_concerns t ctx m
    exact (congrArg (·.registry.interceptors) after).trans (stays _)
  | _ => exact stays _

namespace Course

/-- All interceptors that were ever registered, the earliest first. -/
def intercepted (s : Course h α) : List (Interceptor h) :=
  s.history.reverse.flatMap fun turn => turn.2.intercepted

/-- Interceptors stay registered, in the order in which they were. -/
theorem Reachable.interceptors {app : Application h} {s : Course h α} (reached : s.Reachable app) :
    s.world.registry.interceptors = s.intercepted := by
  refine (reached.orderly_induct (I := fun s => s.world.registry.interceptors = s.intercepted)
    (fun c publisher host scripts => rfl) ?_ fun s pool same => same).2
  intro s a m o _ turned same
  have later : intercepted ⟨m, (a, o) :: s.history⟩ = s.intercepted ++ o.intercepted := by
    rw [intercepted, List.reverse_cons, List.flatMap_append, List.flatMap_singleton]
    rfl
  rw [later, ← same]
  cases turned with
  | performed before after world =>
    rw [Course.world, world, World.interceptors_answer]
    rfl
  | called before after world =>
    rw [Course.world, world]
    exact (List.append_nil _).symm
  | took actor before take after world =>
    rw [Course.world, world]
    exact (List.append_nil _).symm
  | ended before finished after world =>
    obtain ⟨pool, trail, returned, after⟩ := Machine.ended_concerns world
    rw [Course.world, after]
    exact (List.append_nil _).symm

end Course

end EventDispatch
