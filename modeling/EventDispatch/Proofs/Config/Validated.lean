import EventDispatch.Config.File
import EventDispatch.Proofs.Config.Overlay
import EventDispatch.Proofs.Config.Written
import EventDispatch.Proofs.Route.Reload

namespace EventDispatch

namespace RouteTable

variable {entries : List (String × Route)}

end RouteTable

namespace Config

variable {c c' : Config}

/-- What any of the loaders returned. -/
inductive Loaded (c : Config) : Prop where
  | json {text : String} (read : ofJsonText text = .ok c)
  | toml {text : String} (read : ofTomlText text = .ok c)
  | file {path : String} {content : Option Bytes} (read : ofFile path content = .ok c)
  | environment {before : Config} {env : Environment} (read : applyEnvironment before env = .ok c)

theorem valid_of_validate (read : c'.validate = .ok c) : c.validate = .ok c := by
  obtain ⟨-, rfl⟩ := validate_eq_ok_iff.1 read
  exact read

theorem valid_of_ofTomlText {text : String} (read : ofTomlText text = .ok c) : c.validate = .ok c := by
  unfold ofTomlText at read
  split at read
  · exact valid_of_validate read
  · cases read

theorem valid_of_ofFile {path : String} {content : Option Bytes} (read : ofFile path content = .ok c) :
    c.validate = .ok c := by
  unfold ofFile at read
  split at read
  · cases read
  · split at read
    · cases read
    · split at read
      · exact (writable_of_ofJsonText read).1
      · exact valid_of_ofTomlText read
      · cases read

theorem Loaded.valid (loaded : Loaded c) : c.validate = .ok c := by
  cases loaded with
  | json read => exact (writable_of_ofJsonText read).1
  | toml read => exact valid_of_ofTomlText read
  | file read => exact valid_of_ofFile read
  | environment read => exact (applyEnvironment_eq_ok_iff.1 read).2

end Config

namespace Control

open Program

variable {h : Host} {app : Application h} {meanwhile : World h → World h → Prop} {t : Thread}
  {w w' : World h} {path : List (Footstep h)} {c : Config} {entries : List (String × Route)}

/-- After these steps the table has one row for each pattern, and none of them was skipped. -/
structure Served (c : Config) (path : List (Footstep h)) (table : RouteTable) : Prop where
  loaded : table = .load c.routes.entries
  routes : table.routes.Perm (c.routes.entries.map fun e => (Text.trim e.1, e.2))
  size : table.size = c.routes.size
  unskipped : ∀ found pattern, .performed found (.host (.log (.patternSkipped pattern))) ∉ path

/-- Another step before them that skips no pattern. -/
theorem Served.after {table : RouteTable} (served : Served c path table) {o : Op h}
    (other : ∀ pattern, o ≠ .host (.log (.patternSkipped pattern))) :
    Served c (.performed w o :: path) table := by
  refine { served with unskipped := fun found pattern skipped => ?_ }
  rcases List.mem_cons.1 skipped with first | later
  · cases first
    exact other pattern rfl
  · exact served.unskipped found pattern later

end Control
end EventDispatch
