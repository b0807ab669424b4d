import EventDispatch.Dispatch.Control
import EventDispatch.Dispatch.World

namespace EventDispatch

namespace World

variable {h : Host}

/-- A new dispatcher with these settings, before any route is loaded. There is room for a queue of any
capacity and for any number of workers. -/
def start (c : Config) (publisher : Option Publisher) (host : h.State) : World h where
  settings := ⟨c.poolSize, c.forceSync, publisher⟩
  registry := .empty
  lastId := 0
  retired := []
  table := .empty
  types := .empty
  pool := .start c.poolSize c.queueCapacity
  bus := .empty
  buffer := []
  scopes := 0
  cancelled := []
  elapsed := 0
  now := .epoch
  messages := 0
  host := host
  errands := []
  returned := []
  trail := []

end World

namespace Control

variable {h : Host}

/-- What a dispatcher that is made from settings does first. -/
def begin (c : Config) (publisher : Option Publisher) : Program h Unit := do
  Program.log (.started c.poolSize c.forceSync c.routes.size publisher.isSome)
  loadRoutes c.routes.entries

/-- A dispatcher is only made from valid settings. -/
def build (c : Config) (publisher : Option Publisher) (host : h.State) :
    Except ConfigError (World h × Program h Unit) :=
  match c.fault? with
  | some e => .error e
  | none => .ok (.start c publisher host, begin c publisher)

end Control
end EventDispatch
