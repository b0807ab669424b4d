import EventDispatch.Config.Environment
import EventDispatch.Proofs.Keyed
import EventDispatch.Proofs.Text.Trim

namespace EventDispatch

def ConfigError.item? : ConfigError → Option String
  | .zeroPoolSize => some "pool_size"
  | .zeroQueueCapacity => some "queue_capacity"
  | .blankPattern pattern => some ("empty route pattern " ++ Text.quoted pattern)
  | .notInteger name _ => some name
  | .notBoolean name _ => some name
  | _ => none

theorem ConfigError.exists_detail {e : ConfigError} {item : String} (about : e.item? = some item) :
    ∃ rest, e.detail? = some (item ++ rest) := by
  cases e with
  | unreadable => cases about
  | unparsable => cases about
  | unknownExtension => cases about
  | zeroPoolSize =>
    cases about
    exact ⟨" must be positive", rfl⟩
  | zeroQueueCapacity =>
    cases about
    exact ⟨" must be positive", rfl⟩
  | blankPattern pattern =>
    cases about
    exact ⟨"", by rw [String.append_empty, detail?]⟩
  | notInteger name value =>
    cases about
    exact ⟨": expected integer, got " ++ Text.quoted value, by rw [← String.append_assoc, detail?]⟩
  | notBoolean name value =>
    cases about
    exact ⟨": expected bool, got " ++ Text.quoted value, by rw [← String.append_assoc, detail?]⟩

namespace Config

variable {c c' c₁ c₂ : Config} {env e₁ e₂ : Environment} {value name : String} {n : Nat} {b : Bool}

structure SizeDigits (ds : List Char) (n : Nat) : Prop where
  some : ds ≠ []
  digits : ∀ c ∈ ds, c.isDigit
  value : Nat.ofDigitChars 10 ds 0 = n
  fits : n < UInt64.size

/-- Between blanks an optional plus sign and then the digits. -/
def SpellsSize (value : String) (n : Nat) : Prop :=
  ∃ sign ds, Text.Surrounded (sign ++ ds) value.toList ∧ (sign = [] ∨ sign = ['+']) ∧ SizeDigits ds n

def words : Bool → List String
  | true => ["1", "true", "yes", "on"]
  | false => ["0", "false", "no", "off"]

/-- Between blanks one of the words, in whatever case. -/
def SpellsBool (value : String) (b : Bool) : Prop :=
  ∃ word, Text.Surrounded word value.toList ∧ String.ofList (word.map Char.toLower) ∈ words b

theorem exists_sign (cs : List Char) :
    ∃ sign, cs = sign ++ unsignedDigits cs ∧ (sign = [] ∨ sign = ['+']) := by
  unfold unsignedDigits
  split
  · exact ⟨['+'], rfl, .inr rfl⟩
  · exact ⟨[], rfl, .inl rfl⟩

theorem unsignedDigits_append {sign ds : List Char} (signed : sign = [] ∨ sign = ['+'])
    (digits : ∀ c ∈ ds, c.isDigit) : unsignedDigits (sign ++ ds) = ds := by
  rcases signed with rfl | rfl
  · unfold unsignedDigits
    split
    · next plus =>
      have listed : '+' ∈ ds := by
        rw [← List.nil_append ds, plus]
        exact List.mem_cons_self
      exact absurd (digits '+' listed) (by decide)
    · rfl
  · rfl

theorem sizeOfText?_iff_digits :
    sizeOfText? value = some n ↔ SizeDigits (unsignedDigits (Text.trimChars value.toList)) n := by
  simp only [sizeOfText?]
  generalize unsignedDigits (Text.trimChars value.toList) = ds
  constructor
  · intro read
    split at read
    · cases read
    · next wellFormed =>
      simp only [Bool.or_eq_true, List.isEmpty_iff, Bool.not_eq_true', not_or, Bool.not_eq_false,
        List.all_eq_true] at wellFormed
      obtain ⟨some, digits⟩ := wellFormed
      rw [Text.numberIn_eq_ofDigitChars digits] at read
      split at read
      · next fits =>
        cases read
        exact ⟨some, digits, rfl, fits⟩
      · cases read
  · rintro ⟨some, digits, rfl, fits⟩
    have wellFormed : (ds.isEmpty || !ds.all Char.isDigit) = false := by
      simpa [some] using digits
    rw [wellFormed, Text.numberIn_eq_ofDigitChars digits, if_neg Bool.false_ne_true, if_pos fits]

theorem sizeOfText?_eq_some_iff : sizeOfText? value = some n ↔ SpellsSize value n := by
  rw [sizeOfText?_iff_digits]
  constructor
  · intro read
    obtain ⟨sign, text, signed⟩ := exists_sign (Text.trimChars value.toList)
    exact ⟨sign, _, text ▸ Text.surrounded_trimChars value.toList, signed, read⟩
  · rintro ⟨sign, ds, surrounded, signed, read⟩
    have printed : ∀ c ∈ sign ++ ds, Text.isBlank c = false := by
      intro c hc
      rcases List.mem_append.1 hc with mark | digit
      · rcases signed with rfl | rfl
        · cases mark
        · rw [List.mem_singleton.1 mark]
          rfl
      · exact Text.not_blank_of_isDigit (read.digits c digit)
    rwa [(Text.trimChars_eq_iff printed).2 surrounded, unsignedDigits_append signed read.digits]

theorem isBlank_of_toLower {c : Char} (printed : Text.isBlank c.toLower = false) :
    Text.isBlank c = false := by
  unfold Char.toLower at printed
  split at printed
  · next upper =>
    have low : 65 ≤ c.toNat := by simpa [UInt32.le_iff_toNat_le] using upper.1
    have high : c.toNat ≤ 90 := by simpa [UInt32.le_iff_toNat_le] using upper.2
    simp [Text.isBlank]
    omega
  · exact printed

/-- No word has blanks in it. -/
theorem printed_of_mem_words {word : List Char}
    (listed : String.ofList (word.map Char.toLower) ∈ words b) :
    ∀ c ∈ word, Text.isBlank c = false := by
  have printed : (words b).all fun w => w.toList.all (!Text.isBlank ·) := by
    cases b <;> rfl
  simp only [List.all_eq_true, Bool.not_eq_true'] at printed
  intro c hc
  apply isBlank_of_toLower
  apply printed _ listed
  rw [String.toList_ofList]
  exact List.mem_map_of_mem hc

theorem boolOfText?_eq_some_iff : boolOfText? value = some b ↔ SpellsBool value b := by
  have apart : ∀ w ∈ words false, w ∉ words true := by decide
  constructor
  · intro read
    refine ⟨_, Text.surrounded_trimChars value.toList, ?_⟩
    simp only [boolOfText?] at read
    split at read
    · next listed =>
      cases read
      exact listed
    · split at read
      · next listed =>
        cases read
        exact listed
      · cases read
  · rintro ⟨word, surrounded, listed⟩
    simp only [boolOfText?]
    rw [(Text.trimChars_eq_iff (printed_of_mem_words listed)).2 surrounded]
    cases b with
    | true => exact if_pos listed
    | false => exact (if_neg (apart _ listed)).trans (if_pos listed)

section Outcomes

variable {α β : Type} {x : Except ConfigError α} {f : α → Except ConfigError β}

theorem bind_eq_ok_iff {y : β} : (x >>= f) = .ok y ↔ ∃ v, x = .ok v ∧ f v = .ok y := by
  cases x with
  | error e => simp [bind, Except.bind]
  | ok v => simp [bind, Except.bind]

theorem bind_eq_error_iff {e : ConfigError} :
    (x >>= f) = .error e ↔ x = .error e ∨ ∃ v, x = .ok v ∧ f v = .error e := by
  cases x with
  | error e => simp [bind, Except.bind]
  | ok v => simp [bind, Except.bind]

end Outcomes

/-- The setting is what the variable spells where it is set, and else what it was. -/
inductive Sets {α : Type} (env : Environment) (name : String) (Spells : String → α → Prop)
    (current : α) : α → Prop where
  | replaced {value : String} {v : α} (set : env.find? name = some value) (spelled : Spells value v) :
      Sets env name Spells current v
  | kept (unset : env.find? name = none) : Sets env name Spells current current

structure Misspells {α : Type} (env : Environment) (name : String) (Spells : String → α → Prop)
    (value : String) : Prop where
  set : env.find? name = some value
  wrong : ∀ v, ¬Spells value v

section Overlay

variable {α : Type} {Spells : String → α → Prop} {read : String → Option α}
  {fault : String → String → ConfigError} {current v : α} {e : ConfigError}

theorem overlay_eq_ok_iff (reads : ∀ {value v}, read value = some v ↔ Spells value v) :
    overlay env name read fault current = .ok v ↔ Sets env name Spells current v := by
  unfold overlay
  constructor
  · intro laid
    split at laid
    · next unset =>
      cases laid
      exact .kept unset
    · next value set =>
      split at laid
      · next v' spelled =>
        cases laid
        exact .replaced set (reads.1 spelled)
      · cases laid
  · intro sets
    cases sets with
    | replaced set spelled => simp only [set, reads.2 spelled]
    | kept unset => simp only [unset]

theorem overlay_eq_error_iff (reads : ∀ {value v}, read value = some v ↔ Spells value v) :
    overlay env name read fault current = .error e ↔
      ∃ value, Misspells env name Spells value ∧ fault name value = e := by
  unfold overlay
  constructor
  · intro laid
    split at laid
    · cases laid
    · next value set =>
      split at laid
      · cases laid
      · next none =>
        cases laid
        refine ⟨value, ⟨set, fun v spelled => ?_⟩, rfl⟩
        rw [reads.2 spelled] at none
        cases none
  · rintro ⟨value, ⟨set, wrong⟩, rfl⟩
    have none : read value = none :=
      Option.eq_none_iff_forall_ne_some.2 fun v given => wrong v (reads.1 given)
    simp only [set, none]

end Overlay

/-- The first settings with what the environment sets, and the same routes. -/
structure Overlaid (c : Config) (env : Environment) (c' : Config) : Prop where
  poolSize : Sets env poolSizeVariable SpellsSize c.poolSize c'.poolSize
  queueCapacity : Sets env queueCapacityVariable SpellsSize c.queueCapacity c'.queueCapacity
  forceSync : Sets env forceSyncVariable SpellsBool c.forceSync c'.forceSync
  routes : c'.routes = c.routes

/-- What is wrong first, in the order of the variables. The settings are validated after them. -/
inductive Refused (c : Config) (env : Environment) : ConfigError → Prop where
  | poolSize {value : String} (wrong : Misspells env poolSizeVariable SpellsSize value) :
      Refused c env (.notInteger poolSizeVariable value)
  | queueCapacity {n : Nat} {value : String}
      (poolSize : Sets env poolSizeVariable SpellsSize c.poolSize n)
      (wrong : Misspells env queueCapacityVariable SpellsSize value) :
      Refused c env (.notInteger queueCapacityVariable value)
  | forceSync {n m : Nat} {value : String}
      (poolSize : Sets env poolSizeVariable SpellsSize c.poolSize n)
      (queueCapacity : Sets env queueCapacityVariable SpellsSize c.queueCapacity m)
      (wrong : Misspells env forceSyncVariable SpellsBool value) :
      Refused c env (.notBoolean forceSyncVariable value)
  | invalid {c' : Config} {e : ConfigError} (read : Overlaid c env c')
      (wrong : c'.validate = .error e) : Refused c env e

theorem applyEnvironment_eq_ok_iff :
    applyEnvironment c env = .ok c' ↔ Overlaid c env c' ∧ c'.validate = .ok c' := by
  simp only [applyEnvironment, bind_eq_ok_iff, overlay_eq_ok_iff sizeOfText?_eq_some_iff,
    overlay_eq_ok_iff boolOfText?_eq_some_iff]
  constructor
  · rintro ⟨poolSize, pool, queueCapacity, queue, forceSync, sync, valid⟩
    obtain ⟨-, rfl⟩ := validate_eq_ok_iff.1 valid
    exact ⟨⟨pool, queue, sync, rfl⟩, valid⟩
  · obtain ⟨poolSize, queueCapacity, forceSync, routes⟩ := c'
    rintro ⟨⟨pool, queue, sync, rfl⟩, valid⟩
    exact ⟨poolSize, pool, queueCapacity, queue, forceSync, sync, valid⟩

theorem applyEnvironment_eq_error_iff {e : ConfigError} :
    applyEnvironment c env = .error e ↔ Refused c env e := by
  simp only [applyEnvironment, bind_eq_error_iff, overlay_eq_ok_iff sizeOfText?_eq_some_iff,
    overlay_eq_ok_iff boolOfText?_eq_some_iff, overlay_eq_error_iff sizeOfText?_eq_some_iff,
    overlay_eq_error_iff boolOfText?_eq_some_iff]
  constructor
  · rintro (⟨value, wrong, rfl⟩ | ⟨poolSize, pool, ⟨value, wrong, rfl⟩ | ⟨queueCapacity, queue,
      ⟨value, wrong, rfl⟩ | ⟨forceSync, sync, invalid⟩⟩⟩)
    · exact .poolSize wrong
    · exact .queueCapacity pool wrong
    · exact .forceSync pool queue wrong
    · have laid : Overlaid c env ⟨poolSize, queueCapacity, forceSync, c.routes⟩ :=
        ⟨pool, queue, sync, rfl⟩
      exact .invalid laid invalid
  · rintro (wrong | ⟨pool, wrong⟩ | ⟨pool, queue, wrong⟩ | ⟨⟨pool, queue, sync, routes⟩, invalid⟩)
    · exact .inl ⟨_, wrong, rfl⟩
    · exact .inr ⟨_, pool, .inl ⟨_, wrong, rfl⟩⟩
    · exact .inr ⟨_, pool, .inr ⟨_, queue, .inl ⟨_, wrong, rfl⟩⟩⟩
    · exact .inr ⟨_, pool, .inr ⟨_, queue, .inr ⟨_, sync, routes ▸ invalid⟩⟩⟩

theorem exists_item_of_fault? {e : ConfigError} (fault : c.fault? = some e) :
    ∃ item, e.item? = some item := by
  unfold fault? at fault
  split at fault
  · cases fault
    exact ⟨_, rfl⟩
  · split at fault
    · cases fault
      exact ⟨_, rfl⟩
    · obtain ⟨pattern, -, rfl⟩ := Option.map_eq_some_iff.1 fault
      exact ⟨_, rfl⟩

theorem Refused.exists_item {e : ConfigError} (refused : Refused c env e) :
    ∃ item, e.item? = some item := by
  cases refused with
  | poolSize => exact ⟨_, rfl⟩
  | queueCapacity => exact ⟨_, rfl⟩
  | forceSync => exact ⟨_, rfl⟩
  | invalid read wrong => exact exists_item_of_fault? (validate_eq_error_iff.1 wrong)

/-- Every refusal is worded, and its wording begins with what it is for. -/
theorem Refused.exists_named {e : ConfigError} (refused : Refused c env e) :
    ∃ item rest, e.item? = some item ∧ e.detail? = some (item ++ rest) := by
  obtain ⟨item, about⟩ := refused.exists_item
  obtain ⟨rest, detail⟩ := ConfigError.exists_detail about
  exact ⟨item, rest, about, detail⟩

section Layers

variable {α : Type} {Spells : String → α → Prop} {v v₁ v₂ : α}

theorem Sets.overlaid (lower : Sets e₁ name Spells v v₁) (upper : Sets e₂ name Spells v₁ v₂) :
    Sets (e₁.overlaid e₂) name Spells v v₂ := by
  cases upper with
  | replaced set spelled =>
    refine .replaced ?_ spelled
    rw [Keyed.find?_overlaid, set, Option.some_or]
  | kept unset =>
    have same : (e₁.overlaid e₂).find? name = e₁.find? name := by
      rw [Keyed.find?_overlaid, unset, Option.none_or]
    cases lower with
    | replaced set spelled => exact .replaced (same.trans set) spelled
    | kept unset' => exact .kept (same.trans unset')

theorem Sets.again (sets : Sets env name Spells v v₁) : Sets env name Spells v₁ v₁ := by
  cases sets with
  | replaced set spelled => exact .replaced set spelled
  | kept unset => exact .kept unset

end Layers

theorem Overlaid.overlaid (lower : Overlaid c e₁ c₁) (upper : Overlaid c₁ e₂ c₂) :
    Overlaid c (e₁.overlaid e₂) c₂ where
  poolSize := lower.poolSize.overlaid upper.poolSize
  queueCapacity := lower.queueCapacity.overlaid upper.queueCapacity
  forceSync := lower.forceSync.overlaid upper.forceSync
  routes := upper.routes.trans lower.routes

theorem Overlaid.again (overlaid : Overlaid c env c') : Overlaid c' env c' where
  poolSize := overlaid.poolSize.again
  queueCapacity := overlaid.queueCapacity.again
  forceSync := overlaid.forceSync.again
  routes := rfl

/-- Settings take an environment exactly when each variable that is set spells a value and the outcome
is valid; else they are refused for the first that is wrong, which the wording names. An environment
laid over another comes to what both come to one after the other, so a second time makes no
difference. -/
theorem applyEnvironment_layers (c : Config) :
    (∀ env c', applyEnvironment c env = .ok c' ↔ Overlaid c env c' ∧ c'.validate = .ok c') ∧
      (∀ env e, applyEnvironment c env = .error e ↔ Refused c env e) ∧
      (∀ env e, Refused c env e →
        ∃ item rest, e.item? = some item ∧ e.detail? = some (item ++ rest)) ∧
      (∀ e₁ e₂ c₁ c₂, applyEnvironment c e₁ = .ok c₁ → applyEnvironment c₁ e₂ = .ok c₂ →
        applyEnvironment c (e₁.overlaid e₂) = .ok c₂) ∧
      ∀ env, (applyEnvironment c env).bind (applyEnvironment · env) = applyEnvironment c env := by
  refine ⟨fun _ _ => applyEnvironment_eq_ok_iff, fun _ _ => applyEnvironment_eq_error_iff,
    fun _ _ => Refused.exists_named, fun e₁ e₂ c₁ c₂ lower upper => ?_, fun env => ?_⟩
  · obtain ⟨laid₁, -⟩ := applyEnvironment_eq_ok_iff.1 lower
    obtain ⟨laid₂, valid⟩ := applyEnvironment_eq_ok_iff.1 upper
    exact applyEnvironment_eq_ok_iff.2 ⟨laid₁.overlaid laid₂, valid⟩
  · cases applied : applyEnvironment c env with
    | error e => rfl
    | ok c' =>
      obtain ⟨laid, valid⟩ := applyEnvironment_eq_ok_iff.1 applied
      exact applyEnvironment_eq_ok_iff.2 ⟨laid.again, valid⟩

def base : Environment :=
  .ofList [(poolSizeVariable, "\t+0012 "), (forceSyncVariable, "no")]

def nightly : Environment := .ofList [(forceSyncVariable, " YeS\n")]

def excessive : Environment :=
  .ofList [(queueCapacityVariable, "18446744073709551616"), (forceSyncVariable, "maybe")]

theorem nightly_over_base :
    applyEnvironment default base = .ok ⟨12, 1024, false, .empty⟩ ∧
      applyEnvironment ⟨12, 1024, false, .empty⟩ nightly = .ok ⟨12, 1024, true, .empty⟩ ∧
      applyEnvironment default (base.overlaid nightly) = .ok ⟨12, 1024, true, .empty⟩ ∧
      Refused default excessive (.notInteger queueCapacityVariable "18446744073709551616") ∧
      ∃ rest, (ConfigError.notInteger queueCapacityVariable "18446744073709551616").detail? =
        some (queueCapacityVariable ++ rest) := by
  have lower : applyEnvironment default base = .ok ⟨12, 1024, false, .empty⟩ := by decide +kernel
  have upper : applyEnvironment ⟨12, 1024, false, .empty⟩ nightly = .ok ⟨12, 1024, true, .empty⟩ := by
    decide +kernel
  have failed : applyEnvironment default excessive =
      .error (.notInteger queueCapacityVariable "18446744073709551616") := by decide +kernel
  obtain ⟨-, refused, named, layers, -⟩ := applyEnvironment_layers default
  have wrong := (refused _ _).1 failed
  obtain ⟨item, rest, about, detail⟩ := named _ _ wrong
  cases about
  exact ⟨lower, upper, layers _ _ _ _ lower upper, wrong, rest, detail⟩

end Config
end EventDispatch
