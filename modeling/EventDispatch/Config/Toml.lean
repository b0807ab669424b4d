import EventDispatch.Config.Json
import EventDispatch.Toml.Document

namespace EventDispatch

namespace Route

/-- A driver is its name, or a table whose one key has that name and nothing in it. -/
def driverOfToml? : Toml.Value → Option Driver
  | .text name => Driver.ofName? name
  | .table _ [(name, v)] => if v.isEmpty then Driver.ofName? name else none
  | _ => none

def topicOfToml? : Toml.Value → Option (Option String)
  | .text topic => some (some topic)
  | _ => none

def ofEntries? (entries : Toml.Entries) : Option Route := do
  let driver ← match Toml.Entries.find? "driver" entries with
    | some v => driverOfToml? v
    | none => some .memory
  let topic ← match entries.filter fun e => e.1 == "topic" || e.1 == "destination" with
    | [] => some none
    | [e] => topicOfToml? e.2
    | _ => none
  some ⟨driver, topic⟩

/-- The route in an array that begins with its driver and its topic. -/
def ofItems? : List Toml.Value → Option Route
  | [] => some inMemory
  | [driver] => (driverOfToml? driver).map (⟨·, none⟩)
  | driver :: topic :: _ => do some ⟨← driverOfToml? driver, ← topicOfToml? topic⟩

/-- A route is a table or an array. A date gives none of its parts. -/
def ofToml? (value : Toml.Value) : Option Route :=
  match value with
  | .date => some inMemory
  | value =>
    match value.items? with
    | some items => ofItems? items
    | none => value.entries?.bind ofEntries?

end Route

namespace Config

def sizeOfToml? : Toml.Value → Option Nat
  | .integer n => if 0 ≤ n then some n.toNat else none
  | _ => none

def boolOfToml? : Toml.Value → Option Bool
  | .boolean b => some b
  | _ => none

def routesOfToml? (value : Toml.Value) : Option RouteMap := do
  let entries ← value.entries?
  let routes ← entries.mapM fun e => (Route.ofToml? e.2).map fun route => (e.1, route)
  some (.ofList routes)

def entryOfToml? {α : Type} (entries : Toml.Entries) (key : String)
    (read : Toml.Value → Option α) (default : α) : Option α :=
  match entries.find? key with
  | some v => read v
  | none => some default

def ofToml? (entries : Toml.Entries) : Option Config := do
  if !entries.all fun e => fieldNames.contains e.1 then none
  let poolSize ← entryOfToml? entries "pool_size" sizeOfToml? default.poolSize
  let queueCapacity ← entryOfToml? entries "queue_capacity" sizeOfToml? default.queueCapacity
  let forceSync ← entryOfToml? entries "force_sync" boolOfToml? default.forceSync
  let routes ← entryOfToml? entries "routes" routesOfToml? default.routes
  some ⟨poolSize, queueCapacity, forceSync, routes⟩

def ofTomlText (text : String) : Except ConfigError Config :=
  match (Toml.document? text).bind ofToml? with
  | some c => c.validate
  | none => .error (.unparsable .toml)

end Config
end EventDispatch
