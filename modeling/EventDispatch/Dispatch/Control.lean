import EventDispatch.Dispatch.Program

namespace EventDispatch

/-- The handle of one subscription. Number 0 was never registered. -/
structure Subscription where
  name : String
  id : Nat
deriving DecidableEq

namespace Subscription

def inert : Subscription := ⟨"", 0⟩

end Subscription

namespace Control

variable {h : Host}

open Program

/-- An empty name registers nothing. -/
def subscribe (name : String) (handler : Handler h) (options : ListenOptions) :
    Program h Subscription := do
  if name = "" then
    log .nameIgnored
    return .inert
  let id ← op .takeId
  op (.insert name ⟨id, handler, options⟩)
  log (.subscribed name id options.priority)
  return ⟨name, id⟩

/-- Takes out exactly this subscription; a second time does nothing. -/
def unsubscribe (s : Subscription) : Program h Unit := do
  if s.id = 0 then return
  if ← op (.retire s.id) then op (.removeAll s.name [s.id])

def isActive (s : Subscription) : Program h Bool := do
  if s.id = 0 then return false
  if ← op (.isRetired s.id) then return false
  op (.contains s.name s.id)

def logSkipped : List String → Program h Unit
  | [] => return
  | pattern :: rest => do
    log (.patternSkipped pattern)
    logSkipped rest

def loadRoutes (entries : List (String × Route)) : Program h Unit := do
  logSkipped (RouteTable.skipped entries)
  let table := RouteTable.load entries
  log (.tableLoaded table.size)
  op (.loadTable table)

/-- Only the routes can change after a dispatcher is made. -/
def applyConfig (c : Config) : Program h (Except ConfigError Unit) := do
  match c.fault? with
  | some e => return .error e
  | none =>
    let settings ← op (.host .settings)
    if c.poolSize ≠ settings.poolSize ∨ c.forceSync ≠ settings.forceSync then
      log (.settingsFixed settings.poolSize c.poolSize c.forceSync)
    loadRoutes c.routes.entries
    return .ok ()

def stats : Program h PoolStats := do
  let submitted ← op (.readTally .submitted)
  let completed ← op (.readTally .completed)
  let panicked ← op (.readTally .panicked)
  let rejected ← op (.readTally .rejected)
  return ⟨submitted, completed, panicked, rejected⟩

/-- Refuses new jobs, and the first time waits until the accepted ones are done. -/
def shutdown : Program h Unit := do
  op .close
  op .sealQueue
  if ← op .join then op .awaitDrained
  log .shutDown

end Control
end EventDispatch
