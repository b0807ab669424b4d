import EventDispatch.Keyed
import EventDispatch.Route.Pattern

namespace EventDispatch

inductive Driver where
  | memory
  | external
deriving DecidableEq

def Driver.name : Driver → String
  | .memory => "memory"
  | .external => "external"

structure Route where
  driver : Driver
  topic : Option String
deriving DecidableEq

namespace Route

def inMemory : Route := ⟨.memory, none⟩

end Route

abbrev RouteMap := Keyed Route

/-- Compiled routes in order of precedence. -/
structure RouteTable where
  rows : List (Pattern × Route)
deriving DecidableEq

namespace RouteTable

def empty : RouteTable := ⟨[]⟩

def compileEntry (entry : String × Route) : Option (Pattern × Route) :=
  (Pattern.compile entry.1).map (·, entry.2)

/-- The table of these entries, in whatever order they are listed. -/
def load (entries : List (String × Route)) : RouteTable :=
  ⟨(entries.filterMap compileEntry).mergeSort fun a b => a.1.precedes b.1⟩

/-- The configured patterns that `load` leaves out. -/
def skipped (entries : List (String × Route)) : List String :=
  (entries.map (·.1)).filter fun source => (Pattern.compile source).isNone

def routes (t : RouteTable) : List (String × Route) := t.rows.map fun r => (r.1.source, r.2)

def size (t : RouteTable) : Nat := t.rows.length

/-- The first route that matches the name, in order of precedence. -/
def route? (t : RouteTable) (name : String) : Option Route :=
  (t.rows.find? fun r => r.1.accepts (Name.normalize name)).map (·.2)

end RouteTable
end EventDispatch
