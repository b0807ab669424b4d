import EventDispatch.Config.Json
import EventDispatch.Proofs.Json.Numbers
import EventDispatch.Proofs.Json.Records
import EventDispatch.Proofs.Keyed

namespace EventDispatch

open Json

namespace Route

variable {r : Route}

def written (r : Route) : List (String × Bytes) :=
  ("driver", Text.utf8 (quote r.driver.name)) ::
    r.topic.toList.map fun topic => ("topic", Text.utf8 (quote topic))

theorem isValue_written (r : Route) : ∀ m ∈ r.written, isValue m.2 := by
  have topic : ∀ topic ∈ r.topic.toList, isValue (Text.utf8 (quote topic)) :=
    fun topic _ => isValue_quote topic
  simp only [written, List.forall_mem_cons, List.forall_mem_map]
  exact ⟨isValue_quote _, topic⟩

theorem utf8_toJson (r : Route) : Text.utf8 r.toJson = object r.written := by
  have opening : Text.utf8 "\x7b\"driver\":" =
      byte '{' :: (Text.utf8 (quote "driver") ++ [byte ':']) := by decide +kernel
  have second : Text.utf8 ",\"topic\":" =
      byte ',' :: (Text.utf8 (quote "topic") ++ [byte ':']) := by decide +kernel
  have closing : Text.utf8 "\x7d" = [byte '}'] := by decide +kernel
  obtain ⟨driver, topic⟩ := r
  unfold toJson
  cases topic <;> simp [written, object, closedBy, member, opening, second, closing]

theorem driverOfJson?_quote (d : Driver) : driverOfJson? (Text.utf8 (quote d.name)) = some d := by
  have text : members? (Text.utf8 (quote d.name)) = none := by
    rw [utf8_quote]
    rfl
  rw [driverOfJson?, text, string?_quote]
  cases d <;> rfl

theorem ofJson?_written (r : Route) : ofJson? (object r.written) = some r := by
  obtain ⟨driver, topic⟩ := r
  rw [ofJson?, Record.ofValue?_object (isValue_written _)]
  cases topic <;>
    simp [written, Record.withDefault?, Record.field?, driverOfJson?_quote, optional?_quote]

end Route

namespace Config

variable {c : Config} {listing : List (String × Route)}

def writtenRoutes (listing : List (String × Route)) : List (String × Bytes) :=
  listing.map fun e => (e.1, object e.2.written)

def written (c : Config) (listing : List (String × Route)) : List (String × Bytes) :=
  [("pool_size", digits c.poolSize), ("queue_capacity", digits c.queueCapacity),
    ("force_sync", Text.utf8 (if c.forceSync then "true" else "false")),
    ("routes", object (writtenRoutes listing))]

theorem isValue_writtenRoutes (listing : List (String × Route)) :
    ∀ m ∈ writtenRoutes listing, isValue m.2 := by
  simp only [writtenRoutes, List.forall_mem_map]
  exact fun e _ => isValue_object e.2.isValue_written

theorem isValue_written (c : Config) (listing : List (String × Route)) :
    ∀ m ∈ c.written listing, isValue m.2 := by
  have sync : isValue (Text.utf8 (if c.forceSync then "true" else "false")) := by
    cases c.forceSync <;> decide +kernel
  simpa [written, isValue_digits, isValue_object (isValue_writtenRoutes listing)] using sync

theorem utf8_routesToJson (listing : List (String × Route)) :
    Text.utf8 (routesToJson listing) = object (writtenRoutes listing) := by
  have colon : Text.utf8 ":" = [byte ':'] := by decide +kernel
  have routes : (listing.map fun e => quote e.1 ++ ":" ++ e.2.toJson).map Text.utf8 =
      (writtenRoutes listing).map member := by
    simp [writtenRoutes, member, colon, Route.utf8_toJson]
  rw [routesToJson, utf8_braces, routes, object]

theorem utf8_toJsonListing (c : Config) (listing : List (String × Route)) :
    Text.utf8 (c.toJsonListing listing) = object (c.written listing) := by
  have opening : Text.utf8 "\x7b\"pool_size\":" =
      byte '{' :: (Text.utf8 (quote "pool_size") ++ [byte ':']) := by decide +kernel
  have second : Text.utf8 ",\"queue_capacity\":" =
      byte ',' :: (Text.utf8 (quote "queue_capacity") ++ [byte ':']) := by decide +kernel
  have third : Text.utf8 ",\"force_sync\":" =
      byte ',' :: (Text.utf8 (quote "force_sync") ++ [byte ':']) := by decide +kernel
  have fourth : Text.utf8 ",\"routes\":" =
      byte ',' :: (Text.utf8 (quote "routes") ++ [byte ':']) := by decide +kernel
  have closing : Text.utf8 "\x7d" = [byte '}'] := by decide +kernel
  unfold toJsonListing
  simp [written, object, closedBy, member, opening, second, third, fourth, closing, utf8_repr,
    utf8_routesToJson]

theorem mapM_writtenRoutes (listing : List (String × Route)) :
    (writtenRoutes listing).mapM (fun m => (Route.ofJson? m.2).map fun route => (m.1, route)) =
      some listing := by
  induction listing with
  | nil => rfl
  | cons e rest ih =>
    rw [writtenRoutes] at ih
    simp [writtenRoutes, Route.ofJson?_written, ih]

theorem routesOfJson?_written {routes : RouteMap} (perm : listing.Perm routes.entries) :
    routesOfJson? (object (writtenRoutes listing)) = some routes := by
  rw [routesOfJson?, members?_object (isValue_writtenRoutes listing)]
  simp [mapM_writtenRoutes, Keyed.ofList_perm perm]

theorem ofJson?_written (poolSize : c.poolSize < UInt64.size)
    (queueCapacity : c.queueCapacity < UInt64.size) (perm : listing.Perm c.routes.entries) :
    ofJson? (object (c.written listing)) = some c := by
  have sync : bool? (Text.utf8 (if c.forceSync then "true" else "false")) = some c.forceSync := by
    cases c.forceSync <;> decide +kernel
  rw [ofJson?, Record.ofValue?_object (isValue_written c listing)]
  simp [written, Record.onlyKnown, fieldNames, Record.withDefault?, Record.field?,
    natural?_digits poolSize, natural?_digits queueCapacity, sync, routesOfJson?_written perm]

theorem ofJsonText_written (valid : c.validate = .ok c) (poolSize : c.poolSize < UInt64.size)
    (queueCapacity : c.queueCapacity < UInt64.size) (perm : listing.Perm c.routes.entries) :
    ofJsonText (c.toJsonListing listing) = .ok c := by
  have whole : document (object (c.written listing)) = some (object (c.written listing)) :=
    document_value (isValue_object (isValue_written c listing))
  rw [ofJsonText, utf8_toJsonListing, whole, Option.bind_some,
    ofJson?_written poolSize queueCapacity perm]
  exact valid

theorem lt_of_withDefault?_natural? {r : Record} {index n default : Nat} {names : List String}
    (small : default < UInt64.size) (read : r.withDefault? index names natural? default = some n) :
    n < UInt64.size := by
  rw [Record.withDefault?, Option.bind_eq_bind, Option.bind_eq_some_iff] at read
  obtain ⟨field, -, read⟩ := read
  cases field with
  | none =>
    cases read
    exact small
  | some value => simpa using (Option.filter_eq_some_iff.1 read).2

theorem writable_of_ofJsonText {text : String} (read : ofJsonText text = .ok c) :
    c.validate = .ok c ∧ c.poolSize < UInt64.size ∧ c.queueCapacity < UInt64.size := by
  unfold ofJsonText at read
  split at read
  · next c' given =>
    obtain ⟨valid, rfl⟩ := validate_eq_ok_iff.1 read
    obtain ⟨value, -, made⟩ := Option.bind_eq_some_iff.1 given
    refine ⟨read, ?_⟩
    unfold ofJson? at made
    simp only [Option.bind_eq_bind, Option.bind_eq_some_iff] at made
    obtain ⟨r, -, made⟩ := made
    split at made
    · cases made
    · simp only [Option.bind_eq_some_iff] at made
      obtain ⟨poolSize, pool, queueCapacity, queue, forceSync, -, routes, -, made⟩ := made
      cases made
      exact ⟨lt_of_withDefault?_natural? (by decide) pool,
        lt_of_withDefault?_natural? (by decide) queue⟩
  · cases read

/-- Settings are written as an object of their four fields. Valid ones are read back as they were,
whatever texts their patterns and topics are and in whatever order the routes are written. So what was
read from any text stays the same from then on. -/
theorem ofJsonText_toJsonListing :
    (∀ (c : Config) listing,
      SpellsObject (c.written listing) (Text.utf8 (c.toJsonListing listing))) ∧
    (∀ c : Config, c.validate = .ok c → c.poolSize < UInt64.size → c.queueCapacity < UInt64.size →
      ∀ listing, listing.Perm c.routes.entries → ofJsonText (c.toJsonListing listing) = .ok c) ∧
    ∀ text c, ofJsonText text = .ok c →
      ∀ listing, listing.Perm c.routes.entries → ofJsonText (c.toJsonListing listing) = .ok c := by
  refine ⟨fun c listing => ?_, fun c valid poolSize queueCapacity listing perm =>
    ofJsonText_written valid poolSize queueCapacity perm, fun text c read listing perm => ?_⟩
  · rw [utf8_toJsonListing]
    exact spells_object (isValue_written c listing)
  · obtain ⟨valid, poolSize, queueCapacity⟩ := writable_of_ofJsonText read
    exact ofJsonText_written valid poolSize queueCapacity perm

def wide : Config where
  poolSize := UInt64.size - 1
  queueCapacity := 1
  forceSync := true
  routes := .ofList [(" \"é\n*", ⟨.external, some ""⟩), ("*", .inMemory)]

/-- Other names for a driver and a topic, a topic that is null, and settings that are left out. -/
def loose : String :=
  "\x7b\"routes\": \x7b\"a.*\": \x7b\"destination\": null, \"driver\": \x7b\"kafka\": null\x7d\x7d," ++
    " \"b\": [\"broker\", \"t\"], \"c\": \x7b\x7d\x7d\x7d"

def strict : Config :=
  { default with
    routes := .ofList [("a.*", ⟨.external, none⟩), ("b", ⟨.external, some "t"⟩), ("c", .inMemory)] }

theorem wide_and_loose_read_again :
    ofJsonText (wide.toJsonListing wide.routes.entries.reverse) = .ok wide ∧
      ofJsonText loose = .ok strict ∧ ofJsonText strict.toJson = .ok strict := by
  have read : ofJsonText loose = .ok strict := by decide +kernel
  obtain ⟨-, valid, again⟩ := ofJsonText_toJsonListing
  exact ⟨valid wide (by decide +kernel) (by decide) (by decide) _ (List.reverse_perm _), read,
    again loose strict read _ (.refl _)⟩

end Config
end EventDispatch
