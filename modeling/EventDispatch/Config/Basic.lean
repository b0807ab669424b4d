import EventDispatch.Route.Table
import EventDispatch.Text.Quoted

namespace EventDispatch

inductive ConfigFormat where
  | json
  | toml
deriving DecidableEq

inductive ReadFailure where
  | notFound
  | notText
deriving DecidableEq

inductive ConfigError where
  | unreadable (path : String) (why : ReadFailure)
  | unparsable (format : ConfigFormat)
  | zeroPoolSize
  | zeroQueueCapacity
  | blankPattern (pattern : String)
  | notInteger (name : String) (value : String)
  | notBoolean (name : String) (value : String)
  | unknownExtension (extension : String) (path : String)
deriving DecidableEq

/-- The wording of settings that can be read and are wrong. -/
def ConfigError.detail? : ConfigError → Option String
  | .unreadable .. => none
  | .unparsable _ => none
  | .zeroPoolSize => some "pool_size must be positive"
  | .zeroQueueCapacity => some "queue_capacity must be positive"
  | .blankPattern pattern => some ("empty route pattern " ++ Text.quoted pattern)
  | .notInteger name value =>
    some (name ++ ": expected integer, got " ++ Text.quoted value)
  | .notBoolean name value =>
    some (name ++ ": expected bool, got " ++ Text.quoted value)
  | .unknownExtension extension path =>
    some ("unsupported config extension " ++ Text.quoted extension ++ " for " ++ path)

structure Config where
  poolSize : Nat
  queueCapacity : Nat
  forceSync : Bool
  routes : RouteMap
deriving DecidableEq

namespace Config

def default : Config := ⟨100, 1024, false, .empty⟩

instance : Inhabited Config := ⟨default⟩

def blankPattern? (routes : RouteMap) : Option String :=
  routes.keys.find? fun pattern => Text.trim pattern == ""

def fault? (c : Config) : Option ConfigError :=
  if c.poolSize = 0 then some .zeroPoolSize
  else if c.queueCapacity = 0 then some .zeroQueueCapacity
  else (blankPattern? c.routes).map .blankPattern

def validate (c : Config) : Except ConfigError Config :=
  match c.fault? with
  | some e => .error e
  | none => .ok c

theorem validate_eq_ok_iff {c c' : Config} : c.validate = .ok c' ↔ c.fault? = none ∧ c = c' := by
  unfold validate
  cases c.fault? <;> simp

theorem validate_eq_error_iff {c : Config} {e : ConfigError} :
    c.validate = .error e ↔ c.fault? = some e := by
  unfold validate
  cases c.fault? <;> simp

end Config
end EventDispatch
