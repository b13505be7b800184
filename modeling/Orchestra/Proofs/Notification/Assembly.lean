import Mathlib.Data.List.Induction
import Orchestra.Notification.Manager

/-!
How a manager is put together from the descriptions of its adapters.

Every description stands alone. It is built and takes the place of the adapter that had its name, or
it is left out without a trace. Nothing else can come of it, since whatever is wrong with its options
is a matter of their types or of their values.
-/

namespace Orchestra

theorem Value.same_str (s t : String) : (Value.str s).same (.str t) = (s == t) := rfl

namespace Notification

namespace Channel

variable {options : Fields} {failure : Failure}

theorem isMisfit_unknownOption {adapter : String} {known : List String}
    (unknown : unknownOption adapter known options = some failure) : isMisfit failure = true := by
  obtain ⟨name, -, rfl⟩ := Option.map_eq_some_iff.mp unknown
  rfl

theorem isMisfit_ofSlack (refuses : ofSlack options = .error failure) :
    isMisfit failure = true := by
  unfold ofSlack at refuses
  split at refuses
  next unknown =>
    cases refuses
    exact isMisfit_unknownOption unknown
  next =>
    split at refuses
    · cases refuses
      rfl
    · split at refuses <;> cases refuses
      rfl

theorem isMisfit_ofEmail (refuses : ofEmail options = .error failure) :
    isMisfit failure = true := by
  unfold ofEmail at refuses
  split at refuses
  next unknown =>
    cases refuses
    exact isMisfit_unknownOption unknown
  next =>
    split at refuses <;> cases refuses
    rfl

theorem isMisfit_ofWebhook {hasClient : Bool}
    (refuses : ofWebhook hasClient options = .error failure) : isMisfit failure = true := by
  unfold ofWebhook at refuses
  split at refuses <;> cases refuses
  rfl

/-- Whatever kind an adapter is of, its options are refused for their types or values alone. -/
theorem isMisfit_ofConfig? {kind : String} {hasClient : Bool}
    (refuses : ofConfig? kind options hasClient = some (.error failure)) :
    isMisfit failure = true := by
  unfold ofConfig? at refuses
  dsimp only at refuses
  split at refuses
  · cases refuses
  · split at refuses
    · cases refuses
      rfl
    · exact isMisfit_ofSlack (Option.some.inj refuses)
  · split at refuses
    · cases refuses
      rfl
    · exact isMisfit_ofEmail (Option.some.inj refuses)
  · exact isMisfit_ofWebhook (Option.some.inj refuses)
  · cases refuses

end Channel

/-- How the adapter of a description delivers; none for an unknown kind, and none where the options
do not fit the kind. -/
def AdapterConfig.channel? (hasClient : Bool) (entry : AdapterConfig) : Option Channel :=
  (Channel.ofConfig? entry.kind entry.options hasClient).bind Except.toOption

namespace Manager

variable {hasClient : Bool} {manager : Manager} {entry : AdapterConfig}
  {entries kept : List AdapterConfig}

section Table

variable {table : List (Value × Adapter)} {key : Value} {name : String} {adapter new : Adapter}

/-- A table in which every adapter has a text as its key, and no two of them have the same. -/
structure Keyed (table : List (Value × Adapter)) : Prop where
  texts : ∀ entry ∈ table, ∃ name, entry.1 = .str name
  distinct : (table.map Prod.fst).Nodup

theorem keyed_nil : Keyed [] :=
  ⟨by simp, by simp⟩

theorem keyed_cons_iff : Keyed ((key, adapter) :: table) ↔
    (∃ name, key = .str name) ∧ (∀ other, (key, other) ∉ table) ∧ Keyed table := by
  constructor
  · rintro ⟨texts, distinct⟩
    obtain ⟨fresh, rest⟩ := List.nodup_cons.mp distinct
    obtain ⟨text, others⟩ := List.forall_mem_cons.mp texts
    exact ⟨text, fun other member => fresh (List.mem_map.mpr ⟨_, member, rfl⟩), others, rest⟩
  · rintro ⟨text, fresh, others, rest⟩
    refine ⟨List.forall_mem_cons.mpr ⟨text, others⟩, List.nodup_cons.mpr ⟨fun member => ?_, rest⟩⟩
    obtain ⟨⟨_, other⟩, listed, rfl⟩ := List.mem_map.mp member
    exact fresh other listed

/-- Under its name stands the new adapter, and under every other name what stood there before. -/
theorem mem_putAdapter_iff (keyed : Keyed table) :
    (key, adapter) ∈ putAdapter (.str name) new table ↔
      key = .str name ∧ adapter = new ∨ key ≠ .str name ∧ (key, adapter) ∈ table := by
  induction table with
  | nil =>
      simp [putAdapter]
  | cons first rest ih =>
      obtain ⟨other, old⟩ := first
      obtain ⟨⟨text, rfl⟩, fresh, others⟩ := keyed_cons_iff.mp keyed
      simp only [putAdapter, Value.same_str, beq_iff_eq]
      split
      next same =>
        subst same
        simp only [List.mem_cons, Prod.mk.injEq]
        constructor
        · rintro (⟨rfl, rfl⟩ | member)
          · exact .inl ⟨rfl, rfl⟩
          · refine .inr ⟨?_, .inr member⟩
            rintro rfl
            exact fresh _ member
        · rintro (⟨rfl, rfl⟩ | ⟨different, ⟨rfl, -⟩ | member⟩)
          · exact .inl ⟨rfl, rfl⟩
          · exact absurd rfl different
          · exact .inr member
      next different =>
        have apart : Value.str text ≠ .str name := fun same => different (Value.str.inj same)
        rw [List.mem_cons, List.mem_cons, ih others, Prod.mk.injEq]
        constructor
        · rintro (⟨rfl, rfl⟩ | new | old)
          · exact .inr ⟨apart, .inl ⟨rfl, rfl⟩⟩
          · exact .inl new
          · exact .inr ⟨old.1, .inr old.2⟩
        · rintro (new | ⟨apart, same | old⟩)
          · exact .inr (.inl new)
          · exact .inl same
          · exact .inr (.inr ⟨apart, old⟩)

theorem Keyed.putAdapter (keyed : Keyed table) : Keyed (putAdapter (.str name) new table) := by
  induction table with
  | nil => exact keyed_cons_iff.mpr ⟨⟨name, rfl⟩, by simp, keyed_nil⟩
  | cons first rest ih =>
      obtain ⟨other, old⟩ := first
      obtain ⟨⟨text, rfl⟩, fresh, others⟩ := keyed_cons_iff.mp keyed
      simp only [Manager.putAdapter, Value.same_str, beq_iff_eq]
      split
      next => exact keyed_cons_iff.mpr ⟨⟨text, rfl⟩, fresh, others⟩
      next different =>
        refine keyed_cons_iff.mpr ⟨⟨text, rfl⟩, fun other member => ?_, ih others⟩
        rcases (mem_putAdapter_iff others).mp member with ⟨same, -⟩ | ⟨-, listed⟩
        · exact different (Value.str.inj same)
        · exact fresh other listed

/-- A name is looked up in the table. -/
theorem Keyed.find?_eq_some_iff (keyed : Keyed table) :
    (table.find? fun entry => entry.1.same (.str name)).map Prod.snd = some adapter ↔
      (.str name, adapter) ∈ table := by
  induction table with
  | nil => simp
  | cons first rest ih =>
      obtain ⟨other, old⟩ := first
      obtain ⟨⟨text, rfl⟩, fresh, others⟩ := keyed_cons_iff.mp keyed
      rw [List.find?_cons, List.mem_cons, Prod.mk.injEq]
      by_cases same : text = name
      · subst same
        have absent : (Value.str text, adapter) ∉ rest := fresh adapter
        simp [Value.same_str, absent, eq_comm]
      · have different : (Value.str text).same (.str name) = false := beq_false_of_ne same
        have apart : Value.str name ≠ .str text := fun equal => same (Value.str.inj equal).symm
        simp [different, apart, ih others]

end Table

/-- The manager after one more description. -/
def withEntry (hasClient : Bool) (manager : Manager) (entry : AdapterConfig) : Manager :=
  match entry.channel? hasClient with
  | some channel => manager.add (.str entry.name) (.str entry.name) channel
  | none => manager

theorem withEntry_built {channel : Channel} (built : entry.channel? hasClient = some channel) :
    withEntry hasClient manager entry =
      manager.add (.str entry.name) (.str entry.name) channel := by
  simp only [withEntry, built]

theorem withEntry_rejected (rejected : entry.channel? hasClient = none) :
    withEntry hasClient manager entry = manager := by
  simp only [withEntry, rejected]

/-- An adapter that has a name is registered under it. -/
theorem register_str (name : String) (channel : Channel) :
    manager.register (.str name) (.str name) channel =
      .ok (manager.add (.str name) (.str name) channel) := by
  have chosen : Adapter.either (.str name) (.str name) = .str name := ite_self _
  unfold register
  rw [chosen]
  rfl

/-- A description is built or left out, and never brings a failure. -/
theorem addConfigured_eq :
    addConfigured hasClient manager entry = .ok (withEntry hasClient manager entry) := by
  unfold addConfigured withEntry AdapterConfig.channel?
  split
  next unknown =>
    rw [unknown]
    rfl
  next channel built =>
    rw [built]
    exact register_str entry.name channel
  next failure refuses =>
    rw [refuses, if_pos (Channel.isMisfit_ofConfig? refuses)]
    rfl

theorem foldlM_addConfigured :
    entries.foldlM (addConfigured hasClient) manager =
      .ok (entries.foldl (withEntry hasClient) manager) := by
  induction entries generalizing manager with
  | nil => rfl
  | cons entry rest ih =>
      rw [List.foldlM_cons, addConfigured_eq]
      exact ih

theorem ofConfig_eq (config : ManagerConfig) :
    ofConfig hasClient config = .ok
      (config.adapters.foldl (withEntry hasClient) { default := .ofString? config.default }) :=
  foldlM_addConfigured

theorem default_foldl_withEntry :
    (entries.foldl (withEntry hasClient) manager).default = manager.default := by
  induction entries generalizing manager with
  | nil => rfl
  | cons entry rest ih =>
      rw [List.foldl_cons, ih]
      unfold withEntry
      split <;> rfl

/-- What is left of a list of descriptions when some of those that are not built are deleted. -/
inductive Spared (hasClient : Bool) : List AdapterConfig → List AdapterConfig → Prop where
  | nil : Spared hasClient [] []
  | keep {entries kept : List AdapterConfig} (entry : AdapterConfig)
      (rest : Spared hasClient entries kept) : Spared hasClient (entry :: entries) (entry :: kept)
  | delete {entries kept : List AdapterConfig} {entry : AdapterConfig}
      (rejected : entry.channel? hasClient = none) (rest : Spared hasClient entries kept) :
      Spared hasClient (entry :: entries) kept

theorem Spared.foldl_eq (spared : Spared hasClient entries kept) :
    kept.foldl (withEntry hasClient) manager = entries.foldl (withEntry hasClient) manager := by
  induction spared generalizing manager with
  | nil => rfl
  | keep entry _ ih => exact ih
  | delete rejected _ ih => rw [List.foldl_cons, withEntry_rejected rejected, ih]

/-- The last description of a name that is built, as the adapter that it is built into: the number
of those that were built before it, its name and its channel. -/
inductive LastBuilt (hasClient : Bool) (entries : List AdapterConfig) :
    Value → Adapter → Prop where
  | intro {before after : List AdapterConfig} {entry : AdapterConfig} {channel : Channel}
      (place : entries = before ++ entry :: after)
      (built : entry.channel? hasClient = some channel)
      (last : ∀ later ∈ after, later.name = entry.name → later.channel? hasClient = none) :
      LastBuilt hasClient entries (.str entry.name)
        ⟨(before.filterMap (·.channel? hasClient)).length, .str entry.name, channel⟩

/-- One more description is the last of its name if it is built, and changes nothing else. -/
theorem lastBuilt_concat_iff {key : Value} {adapter : Adapter} :
    LastBuilt hasClient (entries ++ [entry]) key adapter ↔
      (∃ channel, entry.channel? hasClient = some channel ∧ key = .str entry.name ∧
        adapter = ⟨(entries.filterMap (·.channel? hasClient)).length, .str entry.name, channel⟩) ∨
      (key = .str entry.name → entry.channel? hasClient = none) ∧
        LastBuilt hasClient entries key adapter := by
  constructor
  · rintro ⟨place, built, last⟩
    rename_i before after found channel
    obtain rfl | ⟨after, final, rfl⟩ := List.eq_nil_or_concat after
    · obtain ⟨rfl, same⟩ := List.append_inj' place rfl
      obtain rfl := List.singleton_inj.mp same
      exact .inl ⟨channel, built, rfl, rfl⟩
    · rw [List.concat_eq_append] at place last
      rw [← List.cons_append, ← List.append_assoc] at place
      obtain ⟨rfl, same⟩ := List.append_inj' place rfl
      obtain rfl := List.singleton_inj.mp same
      refine .inr ⟨fun own => ?_, .intro rfl built fun later member => ?_⟩
      · exact last entry (by simp) (Value.str.inj own).symm
      · exact last later (List.mem_append_left _ member)
  · rintro (⟨channel, built, rfl, rfl⟩ | ⟨unbuilt, ⟨rfl, built, last⟩⟩)
    · exact .intro rfl built (by simp)
    · refine .intro (List.append_assoc _ _ _) built fun later member own => ?_
      rcases List.mem_append.mp member with early | final
      · exact last later early own
      · obtain rfl := List.mem_singleton.mp final
        exact unbuilt (congrArg Value.str own.symm)

/-- The adapters of a manager are those of the last descriptions that are built. -/
structure Holds (hasClient : Bool) (entries : List AdapterConfig) (manager : Manager) : Prop where
  built : manager.built = (entries.filterMap (·.channel? hasClient)).length
  keyed : Keyed manager.adapters
  adapters : ∀ key adapter,
    (key, adapter) ∈ manager.adapters ↔ LastBuilt hasClient entries key adapter

theorem holds_nil (default : Value) : Holds hasClient [] { default } where
  built := rfl
  keyed := keyed_nil
  adapters key adapter := by
    refine iff_of_false List.not_mem_nil ?_
    rintro ⟨place, -, -⟩
    exact absurd place.symm (List.append_ne_nil_of_right_ne_nil _ (List.cons_ne_nil _ _))

theorem Holds.withEntry (holds : Holds hasClient entries manager) (entry : AdapterConfig) :
    Holds hasClient (entries ++ [entry]) (manager.withEntry hasClient entry) := by
  cases outcome : entry.channel? hasClient with
  | none =>
      rw [withEntry_rejected outcome]
      refine ⟨by simp [holds.built, outcome], holds.keyed, fun key adapter => ?_⟩
      simp [lastBuilt_concat_iff, outcome, holds.adapters]
  | some channel =>
      rw [withEntry_built outcome]
      refine ⟨by simp [add, holds.built, outcome], holds.keyed.putAdapter, fun key adapter => ?_⟩
      unfold add
      rw [mem_putAdapter_iff holds.keyed, lastBuilt_concat_iff, holds.adapters, holds.built]
      simp [outcome]

theorem holds_foldl (default : Value) :
    Holds hasClient entries (entries.foldl (withEntry hasClient) { default }) := by
  induction entries using List.reverseRecOn with
  | nil => exact holds_nil default
  | append_singleton front entry ih =>
      rw [List.foldl_append]
      exact ih.withEntry entry

/-- Data that pass all checks, and the description that they hold. -/
def Describes (data : Value) (config : ManagerConfig) : Prop :=
  ManagerConfig.reader (ManagerConfig.given data) = .valid config

theorem ofData_eq {data : Value} {config : ManagerConfig} (described : Describes data config) :
    ofData hasClient data =
      ofConfig hasClient (if config.adapters.isEmpty then ManagerConfig.consoleOnly else config) := by
  have read : ManagerConfig.ofValue data =
      .ok (if config.adapters.isEmpty then ManagerConfig.consoleOnly else config) := by
    unfold ManagerConfig.ofValue
    rw [described]
  rw [ofData, read]
  rfl

/-- A manager is made from all data that describe one. If any adapters are described, it has the
default that is given and, under each name, the adapter of the last description of this name that can
be built, and no other adapters. Data from which descriptions that cannot be built are deleted make
the same manager, as long as one description is left. -/
theorem descriptions_stand_alone (hasClient : Bool) {data : Value} {config : ManagerConfig}
    (described : Describes data config) :
    ∃ manager, ofData hasClient data = .ok manager ∧
      (config.adapters ≠ [] →
        manager.default = .ofString? config.default ∧
        (∀ key adapter, (key, adapter) ∈ manager.adapters ↔
          LastBuilt hasClient config.adapters key adapter) ∧
        (∀ name adapter, manager.adapter? (.str name) = some adapter ↔
          LastBuilt hasClient config.adapters (.str name) adapter) ∧
        ∀ fewer kept, Spared hasClient config.adapters kept → kept ≠ [] →
          Describes fewer { config with adapters := kept } →
            ofData hasClient fewer = .ok manager) := by
  rw [ofData_eq described, ofConfig_eq]
  refine ⟨_, rfl, fun given => ?_⟩
  rw [if_neg (by simpa using given)]
  have holds : Holds hasClient config.adapters
      (config.adapters.foldl (withEntry hasClient) { default := .ofString? config.default }) :=
    holds_foldl _
  refine ⟨default_foldl_withEntry, holds.adapters, fun name adapter => ?_, ?_⟩
  · rw [← holds.adapters]
    exact holds.keyed.find?_eq_some_iff
  · intro fewer kept spared left described
    rw [ofData_eq described, if_neg (by simpa using left), ofConfig_eq]
    exact congrArg Except.ok spared.foldl_eq

/-- A chat adapter, and three descriptions that cannot be built: one more of its name without a token,
one of an unknown kind, and one with an option that its kind does not have. -/
def mixedEntries : List Value :=
  [.obj [("name", .str "ops"), ("type", .str "slack"), ("config", .obj [("bot_token", .str "t")])],
    .obj [("name", .str "ops"), ("type", .str "slack"), ("config", .obj [("bot_token", .str "")])],
    .obj [("name", .str "pager"), ("type", .str "pigeon")],
    .obj [("name", .str "mail"), ("type", .str "email"), ("config", .obj [("smtp", .null)])]]

def mixedConfig : ManagerConfig where
  default := some "ops"
  adapters :=
    [⟨"ops", "slack", [("bot_token", .str "t")]⟩, ⟨"ops", "slack", [("bot_token", .str "")]⟩,
      ⟨"pager", "pigeon", []⟩, ⟨"mail", "email", [("smtp", .null)]⟩]

/-- The data of a manager with the default of the chat adapter. -/
def described (entries : List Value) : Value :=
  .obj [("default", .str "ops"), ("adapters", .list entries)]

/-- The chat adapter stays, whatever cannot be built; without the other descriptions the manager is
the same. -/
theorem ops_stands_alone :
    Describes (described mixedEntries) mixedConfig ∧ mixedConfig.adapters ≠ [] ∧
    Describes (described (mixedEntries.take 1))
      { mixedConfig with adapters := mixedConfig.adapters.take 1 } ∧
    ∃ manager, ofData false (described mixedEntries) = .ok manager ∧
      manager.adapter? (.str "ops") =
        some ⟨0, .str "ops", .slack (.str "t") .null (.str Channel.defaultEndpoint)⟩ ∧
      ofData false (described (mixedEntries.take 1)) = .ok manager := by
  have given : mixedConfig.adapters ≠ [] := List.cons_ne_nil _ _
  have whole : Describes (described mixedEntries) mixedConfig := rfl
  have short : Describes (described (mixedEntries.take 1))
      { mixedConfig with adapters := mixedConfig.adapters.take 1 } := rfl
  have spared : Spared false mixedConfig.adapters (mixedConfig.adapters.take 1) :=
    .keep _ (.delete rfl (.delete rfl (.delete rfl .nil)))
  obtain ⟨manager, made, assembled⟩ := descriptions_stand_alone false whole
  obtain ⟨-, -, found, same⟩ := assembled given
  have last : LastBuilt false mixedConfig.adapters (.str "ops")
      ⟨0, .str "ops", .slack (.str "t") .null (.str Channel.defaultEndpoint)⟩ :=
    @LastBuilt.intro false _ [] _ ⟨"ops", "slack", [("bot_token", .str "t")]⟩ _ rfl rfl (by decide)
  exact ⟨whole, given, short, manager, made, (found "ops" _).mpr last,
    same _ _ spared (List.cons_ne_nil _ _) short⟩

end Manager

end Notification

end Orchestra
