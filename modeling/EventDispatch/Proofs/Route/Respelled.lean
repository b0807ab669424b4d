import EventDispatch.Proofs.Route.Enumeration
import EventDispatch.Proofs.Route.Reload
import Mathlib.Data.List.Forall2

namespace EventDispatch

namespace Name

open Pattern (toList_normalize)

def separators : List Char := ['.', ':']

def Interchanged (c d : Char) : Prop := d = c ∨ c ∈ separators ∧ d ∈ separators

def Respelled (s t : String) : Prop := List.Forall₂ Interchanged s.toList t.toList

variable {c d : Char} {s t : String}

theorem separator_eq_colon_iff : separator c = ':' ↔ c ∈ separators := by
  unfold separator separators
  by_cases dot : c = '.' <;> simp [dot]

theorem separator_of_not_mem (letter : c ∉ separators) : separator c = c := by
  apply if_neg
  rintro rfl
  exact letter (by decide)

theorem interchanged_iff : Interchanged c d ↔ separator c = separator d := by
  by_cases mark : c ∈ separators
  · rw [separator_eq_colon_iff.2 mark, eq_comm, separator_eq_colon_iff, Interchanged]
    constructor
    · rintro (rfl | ⟨-, mark'⟩)
      · exact mark
      · exact mark'
    · exact fun mark' => .inr ⟨mark, mark'⟩
  · rw [separator_of_not_mem mark, Interchanged]
    constructor
    · rintro (rfl | ⟨mark', -⟩)
      · exact (separator_of_not_mem mark).symm
      · exact absurd mark' mark
    · intro same
      -- Only separators become a colon, and `c` is none of them.
      have letter : d ∉ separators := by
        intro mark'
        rw [separator_eq_colon_iff.2 mark'] at same
        exact mark (same ▸ by decide)
      exact .inl ((separator_of_not_mem letter).symm.trans same.symm)

/-- Two texts are spellings of each other when they normalize to the same. -/
theorem respelled_iff : Respelled s t ↔ normalize s = normalize t := by
  have each : Interchanged = fun c d => separator c = separator d :=
    funext fun c => funext fun d => propext interchanged_iff
  rw [← String.toList_inj, toList_normalize, toList_normalize, Respelled, each, normalizeChars,
    normalizeChars, ← List.forall₂_eq_eq_eq, List.forall₂_map_left_iff, List.forall₂_map_right_iff]

theorem separator_separator (c : Char) : separator (separator c) = separator c := by
  by_cases mark : c ∈ separators
  · rw [separator_eq_colon_iff.2 mark]
    rfl
  · rw [separator_of_not_mem mark, separator_of_not_mem mark]

theorem normalizeChars_normalizeChars (cs : List Char) :
    normalizeChars (normalizeChars cs) = normalizeChars cs := by
  have again : separator ∘ separator = separator := funext separator_separator
  rw [normalizeChars, normalizeChars, List.map_map, again]

theorem normalize_eq_empty_iff : normalize s = "" ↔ s = "" := by
  rw [← String.toList_eq_nil_iff, toList_normalize, ← String.toList_eq_nil_iff, normalizeChars]
  exact List.map_eq_nil_iff

theorem isBlank_separator (c : Char) : Text.isBlank (separator c) = Text.isBlank c := by
  by_cases dot : c = '.'
  · rw [dot]
    rfl
  · rw [separator, if_neg dot]

theorem dropBlanks_normalizeChars (cs : List Char) :
    Text.dropBlanks (normalizeChars cs) = normalizeChars (Text.dropBlanks cs) := by
  have printed : Text.isBlank ∘ separator = Text.isBlank := funext isBlank_separator
  rw [Text.dropBlanks, normalizeChars, List.dropWhile_map, printed]
  rfl

theorem normalizeChars_reverse (cs : List Char) :
    normalizeChars cs.reverse = (normalizeChars cs).reverse := List.map_reverse

/-- Blanks are no separators, so it does not matter when they are taken off. -/
theorem trim_normalize (s : String) : Text.trim (normalize s) = normalize (Text.trim s) := by
  rw [← String.toList_inj, toList_normalize, Text.trim, Text.trim, String.toList_ofList,
    String.toList_ofList, toList_normalize, Text.trimChars, Text.trimChars, dropBlanks_normalizeChars,
    ← normalizeChars_reverse, dropBlanks_normalizeChars, ← normalizeChars_reverse]

end Name

namespace Pattern

variable {p q p' q' : Pattern}

def canonical (p : Pattern) : Pattern :=
  ⟨p.normalized, fun empty => p.source_ne (Name.normalize_eq_empty_iff.1 empty)⟩

theorem canonical_chars (p : Pattern) : p.canonical.chars = p.chars := by
  have text : p.canonical.source.toList = p.chars := toList_normalize p.source
  rw [chars, text]
  exact Name.normalizeChars_normalizeChars p.source.toList

theorem canonical_inj : p.canonical = q.canonical ↔ p.normalized = q.normalized :=
  ⟨fun same => congrArg source same, fun same => eq_of_source same⟩

theorem normalized_congr (same : p.chars = q.chars) : p.normalized = q.normalized :=
  congrArg String.ofList same

theorem literalPrefixLength_congr (same : p.chars = q.chars) :
    p.literalPrefixLength = q.literalPrefixLength := by
  rw [literalPrefixLength, literalPrefix, same, literalPrefixLength, literalPrefix]

/-- Of patterns with different normalized texts, these texts alone tell which comes first. -/
theorem Before.congr (hp : p.chars = p'.chars) (hq : q.chars = q'.chars)
    (other : p.normalized ≠ q.normalized) (before : p.Before q) : p'.Before q' := by
  have alike : Alike p q → Alike p' q' := by
    rw [Alike, Alike, hp, hq]
    exact id
  have prefixes := literalPrefixLength_congr hp
  have prefixes' := literalPrefixLength_congr hq
  have texts := normalized_congr hp
  have texts' := normalized_congr hq
  cases before with
  | exact exact star => exact .exact (hp ▸ exact) (hq ▸ star)
  | lone other lone => exact .lone (hp ▸ other) (hq ▸ lone)
  | literal both more =>
    rw [prefixes, prefixes'] at more
    exact .literal (alike both) more
  | length both literal more =>
    rw [prefixes, prefixes'] at literal
    rw [texts, texts'] at more
    exact .length (alike both) literal more
  | text both literal length smaller =>
    rw [prefixes, prefixes'] at literal
    rw [texts, texts'] at length smaller
    exact .text (alike both) literal length smaller
  | source same smaller => exact absurd same other

theorem canonical_before_iff (other : p.normalized ≠ q.normalized) :
    p.canonical.Before q.canonical ↔ p.Before q := by
  have other' : p.canonical.normalized ≠ q.canonical.normalized := by
    rw [normalized_congr p.canonical_chars, normalized_congr q.canonical_chars]
    exact other
  constructor
  · exact Before.congr p.canonical_chars q.canonical_chars other'
  · exact Before.congr p.canonical_chars.symm q.canonical_chars.symm other

end Pattern

namespace RouteTable

variable {entries entries' : List (String × Route)} {name name' : String} {p q : Pattern}
  {r s : Route}

def normalized (entries : List (String × Route)) : List (String × Route) :=
  entries.map fun e => (Name.normalize e.1, e.2)

/-- No two keys have the same text between their blanks when it is normalized, unless there is none. -/
def Apart (entries : List (String × Route)) : Prop :=
  ((entries.map fun e => Name.normalize (Text.trim e.1)).filter (· ≠ "")).Nodup

/-- A map with the same routes for the same patterns, in which any separators are replaced. It may be
listed in another order. -/
def Respelled (entries entries' : List (String × Route)) : Prop :=
  ∃ listed, List.Forall₂ (fun e e' => Name.Respelled e.1 e'.1 ∧ e.2 = e'.2) entries listed ∧
    listed.Perm entries'

theorem apart_iff : Apart entries ↔ Distinct (normalized entries) := by
  rw [Apart, Distinct, normalized, List.map_map]
  simp only [Function.comp_def, Name.trim_normalize]

theorem normalized_perm (respelled : Respelled entries entries') :
    (normalized entries).Perm (normalized entries') := by
  obtain ⟨listed, each, perm⟩ := respelled
  have same : normalized entries = normalized listed := by
    rw [normalized, normalized, ← List.forall₂_eq_eq_eq, List.forall₂_map_left_iff,
      List.forall₂_map_right_iff]
    apply each.imp
    rintro e e' ⟨text, route⟩
    exact Prod.ext (Name.respelled_iff.1 text) route
  rw [same]
  exact perm.map _

theorem Apart.respelled (apart : Apart entries) (respelled : Respelled entries entries') :
    Apart entries' := by
  have perm := ((normalized_perm respelled).map fun e => Text.trim e.1).filter (· ≠ "")
  rw [apart_iff] at apart ⊢
  exact perm.nodup_iff.1 apart

theorem filter_normalized (texts : List String) :
    (texts.map Name.normalize).filter (· ≠ "") = (texts.filter (· ≠ "")).map Name.normalize := by
  rw [List.filter_map]
  simp [Function.comp_def, Name.normalize_eq_empty_iff]

theorem rows_apart (apart : Apart entries) :
    ((load entries).rows.map (·.1.normalized)).Nodup := by
  have texts := congrArg (List.map Name.normalize) (compiled_sources entries)
  rw [List.map_map, ← filter_normalized, List.map_map] at texts
  rw [((rows_perm entries).map _).nodup_iff]
  exact texts ▸ apart

theorem Apart.distinct (apart : Apart entries) : Distinct entries := by
  have texts : (load entries).rows.map (·.1.normalized) =
      ((load entries).rows.map (·.1.source)).map Name.normalize := List.map_map.symm
  have sources := List.Nodup.of_map _ (texts ▸ rows_apart apart)
  rw [((rows_perm entries).map _).nodup_iff, compiled_sources] at sources
  exact sources

theorem Apart.eq_of_normalized (apart : Apart entries) (hr : Gives entries p r)
    (hs : Gives entries q s) (same : p.normalized = q.normalized) : p = q := by
  have rows : (p, r) = (q, s) :=
    List.inj_on_of_nodup_map (rows_apart apart) (mem_rows.2 hr) (mem_rows.2 hs) same
  exact congrArg Prod.fst rows

theorem gives_normalized_iff :
    Gives (normalized entries) p r ↔ ∃ q, Gives entries q r ∧ q.canonical = p := by
  constructor
  · rintro ⟨_, listed, source, route⟩
    obtain ⟨e, he, rfl⟩ := List.mem_map.1 listed
    rw [Name.trim_normalize] at source
    have some : Text.trim e.1 ≠ "" := by
      intro blank
      rw [blank] at source
      exact p.source_ne source.symm
    exact ⟨⟨Text.trim e.1, some⟩, ⟨e, he, rfl, route⟩, Pattern.eq_of_source source⟩
  · rintro ⟨q, ⟨e, he, source, route⟩, rfl⟩
    refine ⟨_, List.mem_map_of_mem he, ?_, route⟩
    rw [Name.trim_normalize, source]
    rfl

/-- The normalized map decides as the map does. -/
theorem route?_normalized (apart : Apart entries) (name : String) :
    (load (normalized entries)).route? name = (load entries).route? name := by
  have accepts : ∀ p : Pattern,
      p.canonical.accepts (Name.normalize name) ↔ p.accepts (Name.normalize name) := by
    intro p
    rw [Pattern.accepts_congr p.canonical_chars]
  -- Different patterns have different normalized texts, so these tell the order.
  have first : ∀ {p q r s}, Gives entries p r → Gives entries q s →
      (q.canonical = p.canonical ∨ p.canonical.Before q.canonical ↔ q = p ∨ p.Before q) := by
    intro p q r s given given'
    by_cases same : p.normalized = q.normalized
    · obtain rfl := apart.eq_of_normalized given given' same
      simp
    · rw [Pattern.canonical_before_iff same, Pattern.canonical_inj]
      have other : q ≠ p := by
        rintro rfl
        exact same rfl
      simp [other, Ne.symm same]
  ext route
  rw [route?_load_eq_some_iff (apart_iff.1 apart), route?_load_eq_some_iff apart.distinct]
  simp only [gives_normalized_iff]
  constructor
  · rintro ⟨_, ⟨p, given, rfl⟩, matched, least⟩
    refine ⟨p, given, (accepts p).1 matched, fun q s given' matched' => ?_⟩
    exact (first given given').1 (least _ s ⟨q, given', rfl⟩ ((accepts q).2 matched'))
  · rintro ⟨p, given, matched, least⟩
    refine ⟨_, ⟨p, given, rfl⟩, (accepts p).2 matched, ?_⟩
    rintro _ s ⟨q, given', rfl⟩ matched'
    exact (first given given').2 (least q s given' ((accepts q).1 matched'))

/-- When no two patterns normalize to the same text, any separators may be replaced by others, in the
patterns and in the name, and the route stays. -/
theorem route?_respelled (apart : Apart entries) (respelled : Respelled entries entries')
    (same : Name.normalize name = Name.normalize name') :
    (load entries').route? name' = (load entries).route? name := by
  have tables : load (normalized entries') = load (normalized entries) := by
    refine load_perm ?_ (normalized_perm respelled).symm
    intro x hx y hy text some
    exact gives_unique (p := ⟨Text.trim x.1, some⟩) (apart_iff.1 apart) ⟨x, hx, rfl, rfl⟩
      ⟨y, hy, text.symm, rfl⟩
  calc (load entries').route? name'
      = (load (normalized entries')).route? name' :=
        (route?_normalized (apart.respelled respelled) name').symm
    _ = (load entries).route? name' := by rw [tables, route?_normalized apart]
    _ = (load entries).route? name := by rw [route?, route?, same]

def orders : List (String × Route) :=
  [(" order.paid:late", ⟨.external, some "late"⟩), ("order.*", .inMemory), ("  ", .inMemory)]

def respelledOrders : List (String × Route) :=
  [("  ", .inMemory), ("order:*", .inMemory), (" order:paid.late", ⟨.external, some "late"⟩)]

theorem late_found_in_respelledOrders :
    Apart orders ∧ Respelled orders respelledOrders ∧
      Name.normalize "order.paid.late" = Name.normalize "order:paid:late" ∧
      (load respelledOrders).route? "order:paid:late" = some ⟨.external, some "late"⟩ := by
  have apart : Apart orders := by
    unfold Apart
    decide
  have late : Name.Respelled " order.paid:late" " order:paid.late" := Name.respelled_iff.2 (by decide)
  have others : Name.Respelled "order.*" "order:*" := Name.respelled_iff.2 (by decide)
  have none : Name.Respelled "  " "  " := Name.respelled_iff.2 rfl
  have respelled : Respelled orders respelledOrders :=
    ⟨respelledOrders.reverse, .cons ⟨late, rfl⟩ (.cons ⟨others, rfl⟩ (.cons ⟨none, rfl⟩ .nil)),
      List.reverse_perm _⟩
  have same : Name.normalize "order.paid.late" = Name.normalize "order:paid:late" := by decide
  refine ⟨apart, respelled, same, ?_⟩
  have listed : load orders = ⟨orders.filterMap compileEntry⟩ := load_of_sorted (by decide)
  rw [route?_respelled apart respelled same, listed]
  decide

end RouteTable
end EventDispatch
