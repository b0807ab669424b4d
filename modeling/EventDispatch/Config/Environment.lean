import EventDispatch.Config.Basic
import EventDispatch.Text.Digits

namespace EventDispatch

abbrev Environment := Keyed String

namespace Config

def poolSizeVariable : String := "ROUTED_EVENTS_POOL_SIZE"

def queueCapacityVariable : String := "ROUTED_EVENTS_QUEUE_CAPACITY"

def forceSyncVariable : String := "ROUTED_EVENTS_FORCE_SYNC"

def unsignedDigits : List Char → List Char
  | '+' :: ds => ds
  | ds => ds

/-- Digits with an optional plus sign, of a value that fits 64 bits. -/
def sizeOfText? (value : String) : Option Nat :=
  let ds := unsignedDigits (Text.trimChars value.toList)
  if ds.isEmpty || !ds.all Char.isDigit then none
  else if Text.numberIn 10 ds < UInt64.size then some (Text.numberIn 10 ds) else none

def boolOfText? (value : String) : Option Bool :=
  let word := String.ofList ((Text.trimChars value.toList).map Char.toLower)
  if word ∈ ["1", "true", "yes", "on"] then some true
  else if word ∈ ["0", "false", "no", "off"] then some false
  else none

/-- The value of a variable, or `current` where it is not set. -/
def overlay {α : Type} (env : Environment) (name : String) (read : String → Option α)
    (fault : String → String → ConfigError) (current : α) : Except ConfigError α :=
  match env.find? name with
  | none => .ok current
  | some value =>
    match read value with
    | some v => .ok v
    | none => .error (fault name value)

/-- Each variable that is set replaces one setting; the result has to be valid. -/
def applyEnvironment (c : Config) (env : Environment) : Except ConfigError Config := do
  let poolSize ← overlay env poolSizeVariable sizeOfText? .notInteger c.poolSize
  let queueCapacity ← overlay env queueCapacityVariable sizeOfText? .notInteger c.queueCapacity
  let forceSync ← overlay env forceSyncVariable boolOfText? .notBoolean c.forceSync
  validate ⟨poolSize, queueCapacity, forceSync, c.routes⟩

end Config
end EventDispatch
