import EventDispatch.Dispatch.Start
import EventDispatch.Proofs.Delivery.Chained
import EventDispatch.Proofs.Registry.Order

namespace EventDispatch

variable {h : Host}

namespace Roster

inductive Change (h : Host) where
  | entered (name : String) (e : Entry h)
  | left (name : String) (ids : List Nat)

namespace Change

/-- The subscriptions under a name after a change to those before it. -/
def apply (name : String) (es : List (Entry h)) : Change h → List (Entry h)
  | .entered n e => if n = name then es ++ [e] else es
  | .left n ids => if n = name then es.filter fun e => !ids.contains e.id else es

def entry? : Change h → Option (String × Entry h)
  | .entered name e => some (name, e)
  | .left _ _ => none

end Change

def entered (past : List (Change h)) : List (String × Entry h) := past.filterMap Change.entry?

/-- The subscriptions under a name that are still alive, as they were made. -/
def live (name : String) (past : List (Change h)) : List (Entry h) :=
  past.foldl (Change.apply name) []

section Past

variable {name n : String} {e : Entry h} {ids : List Nat} {past : List (Change h)}

theorem live_append_entered : live n (past ++ [.entered name e]) =
    if name = n then live n past ++ [e] else live n past := by
  simp only [live, List.foldl_append, List.foldl_cons, List.foldl_nil, Change.apply]

theorem live_append_left : live n (past ++ [.left name ids]) =
    if name = n then (live n past).filter fun e => !ids.contains e.id else live n past := by
  simp only [live, List.foldl_append, List.foldl_cons, List.foldl_nil, Change.apply]

theorem entered_append_entered :
    entered (past ++ [.entered name e]) = entered past ++ [(name, e)] := by
  simp [entered, Change.entry?]

theorem entered_append_left : entered (past ++ [.left name ids]) = entered past := by
  simp [entered, Change.entry?]

/-- Nothing leaves that is not there. -/
theorem live_append_left_of_absent (absent : ∀ e ∈ live name past, e.id ∉ ids) :
    live n (past ++ [.left name ids]) = live n past := by
  rw [live_append_left]
  split
  · next same =>
    subst same
    apply List.filter_eq_self.2
    intro e he
    simpa using absent e he
  · rfl

/-- The subscriptions that are alive are some of those that were made, in the same order. -/
theorem live_sublist (name : String) (past : List (Change h)) :
    ((live name past).map fun e => (name, e)).Sublist (entered past) := by
  suffices grows : ∀ (es : List (Entry h)) (made : List (String × Entry h)),
      (es.map fun e => (name, e)).Sublist made →
      ((past.foldl (Change.apply name) es).map fun e => (name, e)).Sublist
        (made ++ entered past) from
    grows [] [] (List.nil_sublist _)
  intro es made some
  induction past generalizing es made with
  | nil => simpa [entered] using some
  | cons c rest ih =>
    cases c with
    | entered n e =>
      have split : made ++ entered (.entered n e :: rest) = made ++ [(n, e)] ++ entered rest := by
        simp [entered, Change.entry?]
      rw [split, List.foldl_cons]
      apply ih
      simp only [Change.apply]
      split
      · next same =>
        subst same
        simpa using some.append (List.Sublist.refl [(n, e)])
      · exact some.trans (List.sublist_append_left ..)
    | left n ids =>
      rw [List.foldl_cons]
      apply ih
      simp only [Change.apply]
      split
      · exact (List.filter_sublist.map _).trans some
      · exact some

theorem entered_of_live (he : e ∈ live name past) : (name, e) ∈ entered past :=
  (live_sublist name past).subset (List.mem_map_of_mem he)

end Past

inductive Use (h : Host) where
  | subscribe (name : String) (handler : Handler h) (options : ListenOptions)
  /-- Gives up a handle, by its place among those that were given out. -/
  | unsubscribe (place : Nat)
  | claim (e : Entry h)
  | release (e : Entry h)
  /-- Takes the spent ones among some entries out, as a delivery does at its end. -/
  | sweep (event : Event) (es : List (Entry h)) (r : ListenerResult)

end Roster

structure Roster (h : Host) where
  world : World h
  handles : List Subscription
  /-- What came and what left, the earliest first. -/
  past : List (Roster.Change h)

namespace Roster

def handle (r : Roster h) (place : Nat) : Subscription := (r.handles[place]?).getD .inert

def use (t : Thread) (r : Roster h) : Use h → Option (Roster h)
  | .subscribe name handler options =>
    ((Control.subscribe name handler options).alone t r.world).map fun d => {
      world := d.2
      handles := r.handles ++ [d.1]
      past := r.past ++ if name = "" then [] else [.entered name ⟨d.1.id, handler, options⟩] }
  | .unsubscribe place =>
    ((Control.unsubscribe (r.handle place)).alone t r.world).map fun d => {
      r with
      world := d.2
      past := r.past ++ [.left (r.handle place).name [(r.handle place).id]] }
  | .claim e => ((Program.op (.claim e)).alone t r.world).map fun d => { r with world := d.2 }
  | .release e => ((Program.op (.release e)).alone t r.world).map fun d => { r with world := d.2 }
  | .sweep event es result =>
    ((Delivery.sweep event es result).alone t r.world).map fun d => {
      r with
      world := d.2
      past := r.past ++ [.left event.name (r.world.registry.spent es)] }

def start (c : Config) (publisher : Option Publisher) (host : h.State) : Roster h :=
  ⟨.start c publisher host, [], []⟩

def uses (t : Thread) (r : Roster h) (us : List (Use h)) : Option (Roster h) := us.foldlM (use t) r

/-- What a registry is to hold, and to answer, after a sequence of uses. -/
structure Sound (t : Thread) (r : Roster h) : Prop where
  entries : ∀ name, r.world.registry.entries name =
    (live name r.past).mergeSort Registry.byPriority
  /-- Of all entries, under whatever name. -/
  ids_nodup : ((r.world.registry.listeners.entries.flatMap (·.2)).map (·.id)).Nodup
  /-- Of all entries that there ever were. -/
  ids_fresh : ((entered r.past).map (·.2.id)).Nodup
  stored : ∀ p ∈ r.world.registry.listeners.entries, p.2 ≠ []
  names_sorted : r.world.registry.names.Pairwise (· < ·)
  mem_names : ∀ name, name ∈ r.world.registry.names ↔ live name r.past ≠ []
  count : ∀ name, r.world.registry.count name = (live name r.past).length
  /-- Of any handle, whether it was given up before or not. -/
  unsubscribe : ∀ s ∈ r.handles, ∃ w', (Control.unsubscribe s).alone t r.world = some ((), w') ∧
    (∀ name, w'.registry.entries name =
      (r.world.registry.entries name).filter fun e => !(name == s.name && e.id == s.id)) ∧
    w'.registry.interceptors = r.world.registry.interceptors ∧
    w'.registry.claimed = r.world.registry.claimed
  nameless : ∀ handler options, ∃ w',
    (Control.subscribe "" handler options).alone t r.world = some (.inert, w') ∧
    w'.registry = r.world.registry
  isActive : ∀ s ∈ r.handles, ∃ active,
    (Control.isActive s).alone t r.world = some (active, r.world) ∧
    (active = true ↔ ∃ e ∈ r.world.registry.entries s.name, e.id = s.id)

/-- What a registry has in common with what came to it and left it. -/
structure Kept (w : World h) (past : List (Change h)) : Prop where
  entries : ∀ name, w.registry.entries name = (live name past).mergeSort Registry.byPriority
  stored : ∀ p ∈ w.registry.listeners.entries, p.2 ≠ []
  issued : ∀ p ∈ entered past, 0 < p.2.id ∧ p.2.id ≤ w.lastId
  fresh : ((entered past).map (·.2.id)).Nodup
  named : ∀ p ∈ entered past, p.1 ≠ ""

/-- Handles stand for subscriptions, and a handle that is used up for one that is not alive. -/
structure Held (retired : List Nat) (handles : List Subscription) (past : List (Change h)) :
    Prop where
  given : ∀ s ∈ handles, s = .inert ∨ ∃ e, (s.name, e) ∈ entered past ∧ e.id = s.id
  gone : ∀ i ∈ retired, i ∈ (entered past).map (·.2.id) ∧ ∀ name, ∀ e ∈ live name past, e.id ≠ i

namespace Kept

variable {w w' : World h} {past : List (Change h)} {name : String}

theorem mem_entries (kept : Kept w past) {e : Entry h} :
    e ∈ w.registry.entries name ↔ e ∈ live name past := by
  rw [kept.entries, List.mem_mergeSort]

theorem congr (kept : Kept w past) {past' : List (Change h)}
    (listeners : w'.registry.listeners = w.registry.listeners) (lastId : w'.lastId = w.lastId)
    (alive : ∀ name, live name past' = live name past) (made : entered past' = entered past) :
    Kept w' past' where
  entries name := by rw [alive, Registry.entries_congr listeners, kept.entries]
  stored := by
    rw [listeners]
    exact kept.stored
  issued := by
    rw [made, lastId]
    exact kept.issued
  fresh := by
    rw [made]
    exact kept.fresh
  named := by
    rw [made]
    exact kept.named

theorem stored_put (kept : Kept w past) (name : String) (es : List (Entry h)) :
    ∀ p ∈ (w.registry.put name es).listeners.entries, p.2 ≠ [] := by
  intro p hp
  simp only [Registry.put] at hp
  split at hp
  · exact kept.stored p (List.mem_of_mem_filter hp)
  · next some =>
    rcases Keyed.mem_insertEntry hp with rfl | there
    · simpa using some
    · exact kept.stored p there

theorem insert (kept : Kept w past) (named : name ≠ "") {e : Entry h} (issued : e.id = w.lastId + 1)
    (listeners : w'.registry.listeners = (w.registry.insert name e).listeners)
    (lastId : w'.lastId = w.lastId + 1) : Kept w' (past ++ [.entered name e]) where
  entries n := by
    rw [Registry.entries_congr listeners, Registry.insert, Registry.entries_put,
      live_append_entered, kept.entries, kept.entries]
    split
    · next same =>
      subst same
      exact Registry.mergeSort_append_singleton _ e
    · rfl
  stored := by
    rw [listeners]
    exact kept.stored_put name _
  issued p hp := by
    rw [entered_append_entered, List.mem_append, List.mem_singleton] at hp
    rcases hp with before | rfl
    · have := kept.issued p before
      omega
    · simp only [issued]
      omega
  fresh := by
    rw [entered_append_entered, List.map_append, List.nodup_append]
    refine ⟨kept.fresh, List.nodup_singleton _, ?_⟩
    intro i hi j hj
    obtain ⟨p, hp, rfl⟩ := List.mem_map.1 hi
    have old := (kept.issued p hp).2
    have new : j = w.lastId + 1 := (List.mem_singleton.1 hj).trans issued
    omega
  named p hp := by
    rw [entered_append_entered, List.mem_append, List.mem_singleton] at hp
    rcases hp with before | rfl
    · exact kept.named p before
    · exact named

theorem remove (kept : Kept w past) {ids : List Nat}
    (listeners : w'.registry.listeners = (w.registry.removeAll name ids).listeners)
    (lastId : w'.lastId = w.lastId) : Kept w' (past ++ [.left name ids]) where
  entries n := by
    rw [Registry.entries_congr listeners, Registry.removeAll, Registry.entries_put,
      live_append_left, kept.entries, kept.entries]
    split
    · next same =>
      subst same
      exact Registry.filter_mergeSort _ _
    · rfl
  stored := by
    rw [listeners]
    exact kept.stored_put name _
  issued := by
    rw [entered_append_left, lastId]
    exact kept.issued
  fresh := by
    rw [entered_append_left]
    exact kept.fresh
  named := by
    rw [entered_append_left]
    exact kept.named

/-- Nothing of it was alive. -/
theorem remove_absent (kept : Kept w past) {ids : List Nat}
    (absent : ∀ e ∈ live name past, e.id ∉ ids)
    (listeners : w'.registry.listeners = w.registry.listeners)
    (lastId : w'.lastId = w.lastId) : Kept w' (past ++ [.left name ids]) :=
  kept.congr listeners lastId (fun _ => live_append_left_of_absent absent) entered_append_left

end Kept

namespace Held

variable {retired : List Nat} {handles : List Subscription} {past : List (Change h)} {w : World h}
  {s : Subscription}

theorem handle (held : Held retired handles past) (place : Nat) :
    (handles[place]?).getD .inert = .inert ∨
      ∃ e, (((handles[place]?).getD .inert).name, e) ∈ entered past ∧
        e.id = ((handles[place]?).getD .inert).id := by
  cases at_place : handles[place]? with
  | none => exact .inl rfl
  | some s => exact held.given s (List.mem_of_getElem? at_place)

theorem refuse (held : Held retired handles past) : Held retired (handles ++ [.inert]) past where
  given s hs := by
    rcases List.mem_append.1 hs with before | new
    · exact held.given s before
    · exact .inl (List.mem_singleton.1 new)
  gone := held.gone

theorem enter (held : Held retired handles past) (kept : Kept w past) (name : String) (e : Entry h)
    (issued : e.id = w.lastId + 1) :
    Held retired (handles ++ [⟨name, e.id⟩]) (past ++ [.entered name e]) where
  given s hs := by
    rw [entered_append_entered]
    rcases List.mem_append.1 hs with before | new
    · apply (held.given s before).imp_right
      rintro ⟨e', made, same⟩
      exact ⟨e', List.mem_append_left _ made, same⟩
    · rw [List.mem_singleton.1 new]
      exact .inr ⟨e, List.mem_append_right _ (List.mem_singleton_self _), rfl⟩
  gone i hi := by
    obtain ⟨made, gone⟩ := held.gone i hi
    rw [entered_append_entered, List.map_append]
    refine ⟨List.mem_append_left _ made, ?_⟩
    intro n x hx
    rw [live_append_entered] at hx
    split at hx
    · rcases List.mem_append.1 hx with before | new
      · exact gone n x before
      · -- The new id is one that no handle had.
        obtain ⟨p, hp, rfl⟩ := List.mem_map.1 made
        have old := (kept.issued p hp).2
        rw [List.mem_singleton.1 new]
        omega
    · exact gone n x hx

theorem leave (held : Held retired handles past) (name : String) (ids : List Nat) :
    Held retired handles (past ++ [.left name ids]) where
  given := by
    rw [entered_append_left]
    exact held.given
  gone i hi := by
    obtain ⟨made, gone⟩ := held.gone i hi
    rw [entered_append_left]
    refine ⟨made, ?_⟩
    intro n x hx
    rw [live_append_left] at hx
    split at hx
    · exact gone n x (List.mem_of_mem_filter hx)
    · exact gone n x hx

theorem retire (held : Held retired handles past) (kept : Kept w past) {e : Entry h}
    (made : (s.name, e) ∈ entered past) (own : e.id = s.id) :
    Held (s.id :: retired) handles (past ++ [.left s.name [s.id]]) where
  given := (held.leave s.name [s.id]).given
  gone i hi := by
    rcases List.mem_cons.1 hi with rfl | before
    · rw [entered_append_left]
      refine ⟨List.mem_map.2 ⟨_, made, own⟩, ?_⟩
      intro n x hx same
      rw [live_append_left] at hx
      -- An entry of this id under any name is the one that just left.
      split at hx
      · simp [same] at hx
      · next other =>
        have equal := List.inj_on_of_nodup_map kept.fresh (entered_of_live hx) made
          (same.trans own.symm)
        exact other (congrArg Prod.fst equal).symm
    · exact (held.leave s.name [s.id]).gone i before

end Held

section Alone

variable (t : Thread) (w : World h)

theorem alone_subscribe {name : String} (named : name ≠ "") (handler : Handler h)
    (options : ListenOptions) :
    (Control.subscribe name handler options).alone t w = some (⟨name, w.lastId + 1⟩,
      World.notice { w with
        lastId := w.lastId + 1
        registry := w.registry.insert name ⟨w.lastId + 1, handler, options⟩ }
        t (.subscribed name (w.lastId + 1) options.priority)) := by
  rw [Control.subscribe, if_neg named]
  rfl

theorem alone_subscribe_nameless (handler : Handler h) (options : ListenOptions) :
    (Control.subscribe "" handler options).alone t w = some (.inert, w.notice t .nameIgnored) := by
  rw [Control.subscribe, if_pos rfl]
  rfl

theorem alone_unsubscribe (s : Subscription) :
    (Control.unsubscribe s).alone t w = some ((),
      if s.id = 0 then w
      else if w.retired.contains s.id then { w with retired := s.id :: w.retired }
      else { w with
        retired := s.id :: w.retired
        registry := w.registry.removeAll s.name [s.id] }) := by
  rw [Control.unsubscribe]
  split
  · rfl
  · change (if !w.retired.contains s.id then Program.op (.removeAll s.name [s.id])
      else pure () : Program h Unit).alone t { w with retired := s.id :: w.retired } = _
    cases used : w.retired.contains s.id with
    | true => rfl
    | false => rfl

theorem alone_isActive (s : Subscription) :
    (Control.isActive s).alone t w = some
      (s.id != 0 && !w.retired.contains s.id && w.registry.contains s.name s.id, w) := by
  rw [Control.isActive]
  by_cases inert : s.id = 0
  · rw [if_pos inert]
    simp [inert, Program.alone, pure]
  · have registered : (s.id != 0) = true := by simpa using inert
    rw [if_neg inert, registered]
    change (if w.retired.contains s.id then pure false
      else Program.op (.contains s.name s.id) : Program h Bool).alone t w = _
    cases used : w.retired.contains s.id with
    | true => rfl
    | false => rfl

theorem alone_sweep (event : Event) (es : List (Entry h)) (r : ListenerResult) :
    (Delivery.sweep event es r).alone t w = some (Delivery.outcome event.name r,
      if (w.registry.spent es).isEmpty then w
      else { w with registry := w.registry.removeAll event.name (w.registry.spent es) }) := by
  change (if !(w.registry.spent es).isEmpty then
      (Program.op (.removeAll event.name (w.registry.spent es))).bind fun _ =>
        .done (Delivery.outcome event.name r)
    else .done (Delivery.outcome event.name r) : Program h DispatchResult).alone t w = _
  cases none : (w.registry.spent es).isEmpty with
  | true => rfl
  | false => rfl

end Alone

section Uses

variable {r : Roster h}

/-- A handle that was given up has taken its entry with it, and one that was never registered has
none. -/
theorem absent_of_used (kept : Kept r.world r.past) (held : Held r.world.retired r.handles r.past)
    {s : Subscription} (used : s.id = 0 ∨ s.id ∈ r.world.retired) :
    ∀ e ∈ live s.name r.past, e.id ∉ [s.id] := by
  intro e he same
  have own : e.id = s.id := List.mem_singleton.1 same
  rcases used with unregistered | retired
  · have positive : 0 < e.id := (kept.issued _ (entered_of_live he)).1
    exact Nat.ne_of_gt positive (own.trans unregistered)
  · exact (held.gone s.id retired).2 s.name e he own

theorem Kept.unsubscribe (kept : Kept r.world r.past)
    (held : Held r.world.retired r.handles r.past) (t : Thread) {s : Subscription}
    (given : s = .inert ∨ ∃ e, (s.name, e) ∈ entered r.past ∧ e.id = s.id) :
    ∃ w', (Control.unsubscribe s).alone t r.world = some ((), w') ∧
      Kept w' (r.past ++ [.left s.name [s.id]]) ∧
      Held w'.retired r.handles (r.past ++ [.left s.name [s.id]]) ∧
      w'.registry.interceptors = r.world.registry.interceptors ∧
      w'.registry.claimed = r.world.registry.claimed := by
  refine ⟨_, alone_unsubscribe t r.world s, ?_⟩
  split
  · next inert =>
    have absent := absent_of_used kept held (.inl inert)
    exact ⟨kept.remove_absent absent rfl rfl, held.leave s.name [s.id], rfl, rfl⟩
  · next registered =>
    have made : ∃ e, (s.name, e) ∈ entered r.past ∧ e.id = s.id := by
      apply given.resolve_left
      rintro rfl
      exact registered rfl
    obtain ⟨e, made, own⟩ := made
    have retires := held.retire kept made own
    split
    · next used =>
      have absent := absent_of_used kept held (.inr (List.contains_iff_mem.1 used))
      exact ⟨kept.remove_absent absent rfl rfl, retires, rfl, rfl⟩
    · exact ⟨kept.remove rfl rfl, retires, rfl, rfl⟩

theorem Kept.use (kept : Kept r.world r.past) (held : Held r.world.retired r.handles r.past)
    (t : Thread) (u : Use h) :
    ∃ r', r.use t u = some r' ∧ Kept r'.world r'.past ∧
      Held r'.world.retired r'.handles r'.past := by
  cases u with
  | subscribe name handler options =>
    by_cases nameless : name = ""
    · subst nameless
      simp only [Roster.use, alone_subscribe_nameless, Option.map_some, if_pos, List.append_nil]
      -- The caller gets a handle all the same, which stands for no subscription.
      exact ⟨_, rfl, kept.congr rfl rfl (fun _ => rfl) rfl, held.refuse⟩
    · have entered := held.enter kept name ⟨r.world.lastId + 1, handler, options⟩ rfl
      simp only [Roster.use, alone_subscribe t r.world nameless, Option.map_some, if_neg nameless]
      exact ⟨_, rfl, kept.insert nameless rfl rfl rfl, entered⟩
  | unsubscribe place =>
    obtain ⟨w', ran, kept', held', -⟩ := kept.unsubscribe held t (held.handle place)
    refine ⟨⟨w', r.handles, _⟩, ?_, kept', held'⟩
    exact congrArg (Option.map _) ran
  | claim e =>
    -- Claims change neither who is subscribed nor which handles are used up.
    have listeners := r.world.registry.listeners_claim e
    exact ⟨_, rfl, kept.congr listeners rfl (fun _ => rfl) rfl, held⟩
  | release e =>
    have listeners := r.world.registry.listeners_release e
    exact ⟨_, rfl, kept.congr listeners rfl (fun _ => rfl) rfl, held⟩
  | sweep event es result =>
    simp only [Roster.use, alone_sweep, Option.map_some]
    refine ⟨_, rfl, ?_, ?_⟩
    · split
      · next none =>
        apply kept.remove_absent
        · intro e _
          rw [List.isEmpty_iff.1 none]
          exact List.not_mem_nil
        · rfl
        · rfl
      · exact kept.remove rfl rfl
    · split
      · exact held.leave event.name _
      · exact held.leave event.name _

/-- Whatever was done before, the registry stands as it should. -/
theorem uses_kept (t : Thread) (us : List (Use h)) (kept : Kept r.world r.past)
    (held : Held r.world.retired r.handles r.past) :
    ∃ r', r.uses t us = some r' ∧ Kept r'.world r'.past ∧
      Held r'.world.retired r'.handles r'.past := by
  induction us generalizing r with
  | nil => exact ⟨r, rfl, kept, held⟩
  | cons u rest ih =>
    obtain ⟨r₁, used, kept₁, held₁⟩ := kept.use held t u
    obtain ⟨r', others, after⟩ := ih kept₁ held₁
    refine ⟨r', ?_, after⟩
    rw [uses, List.foldlM_cons, used]
    exact others

end Uses

namespace Kept

variable {w : World h} {past : List (Change h)}

theorem mem_stored (kept : Kept w past) {p : String × List (Entry h)}
    (stored : p ∈ w.registry.listeners.entries) {e : Entry h} : e ∈ p.2 ↔ e ∈ live p.1 past := by
  rw [← kept.mem_entries, Registry.entries, Keyed.find?_eq_some_iff.2 stored, Option.getD_some]

theorem live_ids_nodup (kept : Kept w past) (name : String) :
    ((live name past).map (·.id)).Nodup := by
  have alive := (live_sublist name past).map (·.2.id)
  rw [List.map_map] at alive
  exact kept.fresh.sublist alive

/-- No id stands twice, under one name or under two. -/
theorem ids_nodup (kept : Kept w past) :
    ((w.registry.listeners.entries.flatMap (·.2)).map (·.id)).Nodup := by
  rw [List.map_flatMap, List.nodup_flatMap]
  constructor
  · intro p hp
    have sorted : p.2 = (live p.1 past).mergeSort Registry.byPriority := by
      rw [← kept.entries, Registry.entries, Keyed.find?_eq_some_iff.2 hp, Option.getD_some]
    have perm := (List.mergeSort_perm (live p.1 past) Registry.byPriority).map (·.id)
    rw [sorted, perm.nodup_iff]
    exact kept.live_ids_nodup p.1
  · apply w.registry.listeners.sorted.imp_of_mem
    intro p q hp hq before i hi hj
    obtain ⟨x, hx, rfl⟩ := List.mem_map.1 hi
    obtain ⟨y, hy, same⟩ := List.mem_map.1 hj
    have made := entered_of_live ((kept.mem_stored hp).1 hx)
    have made' := entered_of_live ((kept.mem_stored hq).1 hy)
    have equal := congrArg Prod.fst (List.inj_on_of_nodup_map kept.fresh made' made same)
    exact String.ne_of_lt before equal.symm

theorem mem_names (kept : Kept w past) (name : String) :
    name ∈ w.registry.names ↔ live name past ≠ [] := by
  have alive : live name past = [] ↔ w.registry.entries name = [] := by
    simp only [List.eq_nil_iff_forall_not_mem, kept.mem_entries]
  rw [Registry.names, Keyed.mem_keys_iff, Ne, alive, Registry.entries]
  cases found : w.registry.listeners.find? name with
  | none => simp
  | some es =>
    have some := kept.stored (name, es) (Keyed.find?_eq_some_iff.1 found)
    simpa using some

theorem sound {r : Roster h} (kept : Kept r.world r.past)
    (held : Held r.world.retired r.handles r.past) (t : Thread) : r.Sound t where
  entries := kept.entries
  ids_nodup := kept.ids_nodup
  ids_fresh := kept.fresh
  stored := kept.stored
  names_sorted := r.world.registry.listeners.keys_pairwise
  mem_names := kept.mem_names
  count name := by rw [Registry.count, kept.entries, List.length_mergeSort]
  unsubscribe s hs := by
    obtain ⟨w', ran, kept', -, frame⟩ := kept.unsubscribe held t (held.given s hs)
    refine ⟨w', ran, ?_, frame⟩
    intro name
    rw [kept'.entries, live_append_left, kept.entries, Registry.filter_mergeSort]
    split
    · next same =>
      subst same
      simp [List.contains_eq_mem, beq_eq_decide]
    · next other =>
      rw [List.filter_eq_self.2]
      intro e _
      simp [Ne.symm other]
  nameless handler options := ⟨_, alone_subscribe_nameless t r.world handler options, rfl⟩
  isActive s hs := by
    refine ⟨_, alone_isActive t r.world s, ?_⟩
    simp only [Bool.and_eq_true, bne_iff_ne, Bool.not_eq_true', List.contains_eq_mem,
      decide_eq_false_iff_not, Registry.contains, List.any_eq_true, beq_iff_eq]
    constructor
    · rintro ⟨-, stored⟩
      exact stored
    · rintro ⟨e, he, own⟩
      have unused : ¬(s.id = 0 ∨ s.id ∈ r.world.retired) := by
        intro used
        exact absent_of_used kept held used e (kept.mem_entries.1 he) (List.mem_singleton.2 own)
      exact ⟨not_or.1 unused, e, he, own⟩

end Kept

/-- A registry is, after any sequence of uses, the roster of the subscriptions that are alive. -/
theorem uses_sound (t : Thread) (c : Config) (publisher : Option Publisher) (host : h.State)
    (us : List (Use h)) : ∃ r, (start c publisher host).uses t us = some r ∧ r.Sound t := by
  have kept : Kept (start c publisher host).world (start c publisher host).past :=
    ⟨fun _ => List.mergeSort_nil.symm, nofun, nofun, List.nodup_nil, nofun⟩
  have held : Held (start c publisher host).world.retired (start c publisher host).handles
      (start c publisher host).past := ⟨nofun, nofun⟩
  obtain ⟨r, used, kept', held'⟩ := uses_kept t us kept held
  exact ⟨r, used, kept'.sound held' t⟩

/-- Two entries of one priority keep their order although a third left from between them. -/
example : ((start default none () : Roster ⟨Unit, Empty, Empty, Unit, Unit, Empty⟩).uses .main
    [.subscribe "n" (.plain ()) ⟨5, false, false⟩, .subscribe "n" (.plain ()) ⟨-1, false, false⟩,
      .subscribe "" (.plain ()) ⟨0, false, false⟩, .subscribe "n" (.plain ()) ⟨0, false, false⟩,
      .subscribe "n" (.plain ()) ⟨-1, false, false⟩, .unsubscribe 0, .unsubscribe 0]).map
    (fun r => (r.world.registry.entries "n").map (·.id)) = some [2, 4, 3] := by
  cbv

end Roster
end EventDispatch
