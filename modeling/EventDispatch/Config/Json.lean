import EventDispatch.Config.Basic
import EventDispatch.Json.Reader

namespace EventDispatch

def Driver.ofName? (name : String) : Option Driver :=
  if name = "memory" then some .memory
  else if name = "external" ∨ name = "kafka" ∨ name = "broker" then some .external
  else none

namespace Route

/-- A driver is its name, or an object whose one member has that name and no value. -/
def driverOfJson? (value : Bytes) : Option Driver :=
  match Json.members? value with
  | some [(name, v)] => if Json.isNull v then Driver.ofName? name else none
  | some _ => none
  | none => (Json.string? value).bind Driver.ofName?

def ofJson? (value : Bytes) : Option Route := do
  let r ← Json.Record.ofValue? 2 value
  let driver ← r.withDefault? 0 ["driver"] driverOfJson? .memory
  let topic ← r.withDefault? 1 ["topic", "destination"] (Json.optional? Json.string?) none
  some ⟨driver, topic⟩

def toJson (r : Route) : String :=
  "\x7b\"driver\":" ++ Json.quote r.driver.name ++
    (match r.topic with
      | some topic => ",\"topic\":" ++ Json.quote topic
      | none => "") ++ "\x7d"

def ofJsonText? (text : Bytes) : Option Route := (Json.document text).bind ofJson?

end Route

namespace Config

def fieldNames : List String := ["pool_size", "queue_capacity", "force_sync", "routes"]

def routesOfJson? (value : Bytes) : Option RouteMap := do
  let members ← Json.members? value
  let entries ← members.mapM fun m => (Route.ofJson? m.2).map fun route => (m.1, route)
  some (.ofList entries)

def ofJson? (value : Bytes) : Option Config := do
  let r ← Json.Record.ofValue? 4 value
  if !r.onlyKnown fieldNames then none
  let poolSize ← r.withDefault? 0 ["pool_size"] Json.natural? default.poolSize
  let queueCapacity ← r.withDefault? 1 ["queue_capacity"] Json.natural? default.queueCapacity
  let forceSync ← r.withDefault? 2 ["force_sync"] Json.bool? default.forceSync
  let routes ← r.withDefault? 3 ["routes"] routesOfJson? default.routes
  some ⟨poolSize, queueCapacity, forceSync, routes⟩

def ofJsonText (text : String) : Except ConfigError Config :=
  match (Json.document (Text.utf8 text)).bind ofJson? with
  | some c => c.validate
  | none => .error (.unparsable .json)

def routesToJson (entries : List (String × Route)) : String :=
  "\x7b" ++ ",".intercalate (entries.map fun e => Json.quote e.1 ++ ":" ++ e.2.toJson) ++ "\x7d"

/-- The settings, with their routes in the order in which they are listed. -/
def toJsonListing (c : Config) (entries : List (String × Route)) : String :=
  "\x7b\"pool_size\":" ++ Nat.repr c.poolSize ++
    ",\"queue_capacity\":" ++ Nat.repr c.queueCapacity ++
    ",\"force_sync\":" ++ (if c.forceSync then "true" else "false") ++
    ",\"routes\":" ++ routesToJson entries ++ "\x7d"

def toJson (c : Config) : String := c.toJsonListing c.routes.entries

end Config
end EventDispatch
