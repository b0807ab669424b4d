import EventDispatch.Dispatch.Start
import EventDispatch.Proofs.Route.Before
import EventDispatch.Proofs.Route.Choice
import EventDispatch.Proofs.Runs
import Mathlib.Data.List.Nodup
import Mathlib.Tactic.FinCases

namespace EventDispatch

namespace RouteTable

variable {entries : List (String × Route)} {name : String} {p : Pattern} {r : Route}

/-- The map gives this pattern, which is the text between the blanks of a key, this route. -/
def Gives (entries : List (String × Route)) (p : Pattern) (r : Route) : Prop :=
  ∃ e ∈ entries, Text.trim e.1 = p.source ∧ e.2 = r

/-- No two keys have the same text between their blanks, unless there is none. -/
def Distinct (entries : List (String × Route)) : Prop :=
  ((entries.map fun e => Text.trim e.1).filter (· ≠ "")).Nodup

theorem compiled_routes (entries : List (String × Route)) :
    (entries.filterMap compileEntry).map (fun r => (r.1.source, r.2)) =
      (entries.map fun e => (Text.trim e.1, e.2)).filter (·.1 ≠ "") := by
  induction entries with
  | nil => rfl
  | cons e rest ih =>
    by_cases blank : Text.trim e.1 = ""
    · have skipped : compileEntry e = none := by simp [compileEntry, Pattern.compile, blank]
      rw [List.filterMap_cons_none skipped, ih, List.map_cons, List.filter_cons_of_neg (by simp [blank])]
    · have kept : compileEntry e = some (⟨Text.trim e.1, blank⟩, e.2) :=
        compileEntry_eq_some.2 ⟨rfl, rfl⟩
      rw [List.filterMap_cons_some kept, List.map_cons, ih, List.map_cons,
        List.filter_cons_of_pos (by simp [blank])]

theorem compiled_sources (entries : List (String × Route)) :
    (entries.filterMap compileEntry).map (·.1.source) =
      (entries.map fun e => Text.trim e.1).filter (· ≠ "") := by
  have sources := congrArg (List.map (·.1)) (compiled_routes entries)
  rw [List.map_map, List.filter_map, List.map_map] at sources
  rw [List.filter_map]
  exact sources

/-- No text is that of two rows. -/
theorem rows_nodup (distinct : Distinct entries) : ((load entries).rows.map (·.1.source)).Nodup := by
  rw [((rows_perm entries).map _).nodup_iff, compiled_sources]
  exact distinct

theorem rows_before (distinct : Distinct entries) :
    (load entries).rows.Pairwise fun x y => x.1.Before y.1 := by
  have differ := List.pairwise_map.1 (rows_nodup distinct)
  apply (List.pairwise_and_iff.2 ⟨rows_sorted entries, differ⟩).imp
  rintro x y ⟨first, other⟩
  exact Pattern.before_iff.2 ⟨first, fun same => other (congrArg Pattern.source same)⟩

theorem gives_unique (distinct : Distinct entries) {s : Route} (hr : Gives entries p r)
    (hs : Gives entries p s) : r = s := by
  have same : (p, r) = (p, s) :=
    List.inj_on_of_nodup_map (rows_nodup distinct) (mem_rows.2 hr) (mem_rows.2 hs) rfl
  exact congrArg Prod.snd same

theorem gives_of_row? {row : Pattern × Route} (found : (load entries).row? name = some row) :
    Gives entries row.1 row.2 ∧ row.1.accepts (Name.normalize name) :=
  ⟨mem_rows.1 (List.mem_of_find?_eq_some found), by simpa using List.find?_some found⟩

theorem route?_load_eq_none_iff :
    (load entries).route? name = none ↔
      ∀ p r, Gives entries p r → ¬p.accepts (Name.normalize name) := by
  rw [route?_eq, Option.map_eq_none_iff, row?, List.find?_eq_none]
  constructor
  · intro none p r given
    exact none (p, r) (mem_rows.2 given)
  · intro none x hx
    exact none x.1 x.2 (mem_rows.1 hx)

/-- A name gets the route of the pattern that comes first of those that match it. -/
theorem route?_load_eq_some_iff (distinct : Distinct entries) :
    (load entries).route? name = some r ↔
      ∃ p, Gives entries p r ∧ p.accepts (Name.normalize name) ∧
        ∀ q s, Gives entries q s → q.accepts (Name.normalize name) → q = p ∨ p.Before q := by
  constructor
  · intro found
    rw [route?_eq, Option.map_eq_some_iff] at found
    obtain ⟨row, found, rfl⟩ := found
    obtain ⟨given, accepts⟩ := gives_of_row? found
    refine ⟨row.1, given, accepts, fun q s given' accepts' => ?_⟩
    obtain ⟨row', found', first⟩ := exists_row_of_mem (mem_rows.2 given') accepts'
    rw [found] at found'
    cases found'
    by_cases same : q = row.1
    · exact .inl same
    · exact .inr (Pattern.before_iff.2 ⟨first, Ne.symm same⟩)
  · rintro ⟨p, given, accepts, least⟩
    obtain ⟨row, found, first⟩ := exists_row_of_mem (mem_rows.2 given) accepts
    obtain ⟨listed, matched⟩ := gives_of_row? found
    rcases least row.1 row.2 listed matched with same | before
    · rw [route?_eq, found, Option.map_some, gives_unique distinct given (same ▸ listed)]
    · exact absurd first (Pattern.not_precedes_of_before before)

end RouteTable

namespace Control

open Program

variable {h : Host} {app : Application h} {meanwhile : World h → World h → Prop} {t : Thread}
  {w w' : World h} {path : List (Footstep h)} {entries : List (String × Route)}

theorem runs_loadRoutes (undisturbed : ∀ w w' : World h, meanwhile w w' → w'.table = w.table)
    (ran : (loadRoutes entries).Runs app meanwhile t w path w' ()) :
    w'.table = RouteTable.load entries := by
  obtain ⟨first, w₁, _, rest, rfl, -, ran₁⟩ := runs_bind_iff.1 ran
  obtain ⟨-, w₂, rest, -, rfl, ran₂⟩ := runs_op_bind_iff.1 ran₁
  obtain ⟨-, w₃, rest, others, rfl, ran₃⟩ := runs_perform_iff.1 ran₂
  obtain ⟨rfl, rfl, -⟩ := runs_done_iff.1 ran₃
  exact undisturbed _ _ others

def loadEach : List (List (String × Route)) → Program h Unit
  | [] => return
  | entries :: rest => do
    loadRoutes entries
    loadEach rest

theorem runs_loadEach (undisturbed : ∀ w w' : World h, meanwhile w w' → w'.table = w.table)
    {earlier : List (List (String × Route))}
    (ran : (loadEach (earlier ++ [entries])).Runs app meanwhile t w path w' ()) :
    w'.table = RouteTable.load entries := by
  induction earlier generalizing w path with
  | nil =>
    obtain ⟨first, w₁, _, rest, rfl, loaded, ran₁⟩ := runs_bind_iff.1 ran
    obtain ⟨rfl, rfl, -⟩ := runs_done_iff.1 ran₁
    exact runs_loadRoutes undisturbed loaded
  | cons other earlier ih =>
    obtain ⟨first, w₁, _, rest, rfl, -, ran₁⟩ := runs_bind_iff.1 ran
    exact ih ran₁

/-- Loading never waits and never fails. -/
theorem exists_run_logSkipped (still : ∀ w : World h, meanwhile w w) (ps : List String)
    (w : World h) : ∃ path w', (logSkipped ps).Runs app meanwhile t w path w' () := by
  induction ps generalizing w with
  | nil => exact ⟨[], w, .done () w⟩
  | cons p rest ih =>
    obtain ⟨path, w', ran⟩ := ih (w.answer t (.host (.log (.patternSkipped p)))).2
    exact ⟨_, w', .perform rfl (still _) ran⟩

theorem exists_run_loadEach (still : ∀ w : World h, meanwhile w w)
    (maps : List (List (String × Route))) (w : World h) :
    ∃ path w', (loadEach maps).Runs app meanwhile t w path w' () := by
  induction maps generalizing w with
  | nil => exact ⟨[], w, .done () w⟩
  | cons entries rest ih =>
    obtain ⟨first, w₁, skipped⟩ : ∃ first w₁,
        (logSkipped (RouteTable.skipped entries)).Runs app meanwhile t w first w₁ () :=
      exists_run_logSkipped still _ w
    let logged := (w₁.answer t (.host (.log (.tableLoaded (RouteTable.load entries).size)))).2
    let loaded := (logged.answer t (.loadTable (RouteTable.load entries))).2
    have loading : (loadRoutes entries).Runs app meanwhile t w _ loaded () :=
      runs_bind_iff.2 ⟨first, w₁, (), _, rfl, skipped,
        .perform rfl (still _) (.perform rfl (still _) (.done () loaded))⟩
    obtain ⟨path, w', ran⟩ := ih loaded
    exact ⟨_, w', runs_bind_iff.2 ⟨_, loaded, (), path, rfl, loading, ran⟩⟩

/-- However many maps were loaded, the last one decides. A name has no route exactly when none of its
patterns matches, and else that of the first pattern that does. The routes are listed with each
pattern once, in the documented order. -/
theorem last_map_decides (undisturbed : ∀ w w' : World h, meanwhile w w' → w'.table = w.table)
    {earlier : List (List (String × Route))} (distinct : RouteTable.Distinct entries)
    (ran : (loadEach (earlier ++ [entries])).Runs app meanwhile t w path w' ()) :
    (∀ name, w'.table.route? name = none ↔
        ∀ p r, RouteTable.Gives entries p r → ¬p.accepts (Name.normalize name)) ∧
      (∀ name route, w'.table.route? name = some route ↔
        ∃ p, RouteTable.Gives entries p route ∧ p.accepts (Name.normalize name) ∧
          ∀ q s, RouteTable.Gives entries q s → q.accepts (Name.normalize name) →
            q = p ∨ p.Before q) ∧
      (∃ rows : List (Pattern × Route), w'.table.routes = rows.map (fun r => (r.1.source, r.2)) ∧
        rows.Pairwise (fun x y => x.1.Before y.1) ∧
        ∀ p r, (p, r) ∈ rows ↔ RouteTable.Gives entries p r) ∧
      (w'.table.routes.map (·.1)).Nodup := by
  rw [runs_loadEach undisturbed ran]
  refine ⟨fun name => RouteTable.route?_load_eq_none_iff,
    fun name route => RouteTable.route?_load_eq_some_iff distinct,
    ⟨_, rfl, RouteTable.rows_before distinct, fun p r => RouteTable.mem_rows⟩, ?_⟩
  rw [RouteTable.routes, List.map_map]
  exact RouteTable.rows_nodup distinct

def former : List (String × Route) := [("order.paid", .inMemory), ("*", .inMemory)]

def shop : List (String × Route) :=
  [("*", .inMemory), (" order.* ", ⟨.external, some "orders"⟩), ("  ", .inMemory),
    ("order.*.added", ⟨.external, some "items"⟩)]

theorem paid_decided_by_shop : ∃ path w',
    (loadEach [former, shop]).Runs bare Eq .main (.start default none ()) path w' () ∧
      w'.table.route? "order.paid" = some ⟨.external, some "orders"⟩ := by
  obtain ⟨path, w', ran⟩ : ∃ path w',
      (loadEach ([former] ++ [shop])).Runs bare Eq .main (.start default none ()) path w' () :=
    exists_run_loadEach (fun _ => rfl) _ _
  have distinct : RouteTable.Distinct shop := by
    unfold RouteTable.Distinct
    decide
  obtain ⟨-, decided, -⟩ :=
    last_map_decides (fun _ _ same => congrArg World.table same.symm) distinct ran
  refine ⟨path, w', ran, (decided _ _).2 ⟨⟨"order.*", by decide⟩, ?_, by decide, ?_⟩⟩
  · exact ⟨(" order.* ", _), by decide, by decide, rfl⟩
  · rintro ⟨source, ne⟩ s ⟨e, listed, rfl, rfl⟩ accepts
    -- Of the three patterns the third asks for one segment more.
    fin_cases listed
    · have before : Pattern.cmp ⟨"order.*", by decide⟩ ⟨"*", by decide⟩ = .lt := by decide
      exact .inr (Pattern.cmp_eq_lt_iff_before.1 before)
    · exact .inl rfl
    · exact absurd rfl ne
    · have rejects : ¬Pattern.accepts ⟨"order.*.added", by decide⟩ (Name.normalize "order.paid") := by
        decide
      exact absurd accepts rejects

end Control
end EventDispatch
