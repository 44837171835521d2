import InsertRouting.Config.Holder
import InsertRouting.Proofs.Config.Judgement
import InsertRouting.Proofs.Sharding.Lookup

namespace InsertRouting

/-!
# Checked configurations

The check of a configuration has two sides.  Its result is decided by what the entries
lack: a configuration is accepted if and only if it is complete (`Config.Complete`), and the
rules of a complete configuration never shard a table by a column without a name.  Its
events are passed on by everything that checks a configuration on its way, in front of
whatever this reports itself.
-/

namespace Logged

variable {ε α β : Type}

/-- A sequence succeeds if both of its parts do. -/
theorem result_bind_eq_ok_iff {first : Logged ε α} {next : α → Logged ε β} {final : β} :
    (first.bind next).result = .ok final ↔
      ∃ value, first.result = .ok value ∧ (next value).result = .ok final := by
  cases hfirst : first.result with
  | error error => simp [bind_of_error next hfirst]
  | ok value => simp [result_bind_of_ok next hfirst]

end Logged

namespace Config

/-- Every sharded table has a column and every encrypted table a name. -/
structure Complete (config : Config) : Prop where
  column_ne : ∀ entry ∈ config.shardedTables, entry.column ≠ ""
  name_ne : ∀ table ∈ config.encryptedTables, table.name ≠ ""

/-- A configuration is complete when no entry lacks what it needs. -/
theorem complete_iff {config : Config} :
    config.Complete ↔ config.shardedTables.findIdx? (·.column = "") = none ∧
      config.encryptedTables.findIdx? (·.name = "") = none := by
  simp only [List.findIdx?_eq_none_iff, decide_eq_false_iff_not]
  constructor
  · intro hcomplete
    exact ⟨hcomplete.column_ne, hcomplete.name_ne⟩
  · rintro ⟨hcolumns, hnames⟩
    exact ⟨hcolumns, hnames⟩

/-- The check accepts a configuration if and only if it is complete. -/
theorem result_check_eq_ok_iff {config : Config} :
    config.check.result = .ok () ↔ config.Complete := by
  rw [check_eq_judgement, complete_iff, judgement]
  cases config.shardedTables.findIdx? (·.column = "") with
  | some i => simp
  | none => cases config.encryptedTables.findIdx? (·.name = "") <;> simp

theorem level_of_mem_repeatEvents {entries : List ShardedTable} {event : Event}
    (hevent : event ∈ repeatEvents entries) : event.level = .warn := by
  obtain ⟨i, -, hentry⟩ := List.mem_filterMap.1 hevent
  obtain ⟨entry, -, rfl⟩ := Option.map_eq_some_iff.1 hentry
  rfl

theorem level_of_mem_columnlessEvents {tables : List TableDefinition} {event : Event}
    (hevent : event ∈ columnlessEvents tables) : event.level = .warn := by
  obtain ⟨table, -, rfl⟩ := List.mem_map.1 hevent
  rfl

/-- Everything that the check reports is a warning. -/
theorem level_of_mem_check {config : Config} {event : Event}
    (hevent : event ∈ config.check.events) : event.level = .warn := by
  rw [check_eq_judgement, judgement] at hevent
  split at hevent
  · exact level_of_mem_repeatEvents hevent
  · split at hevent
    · exact level_of_mem_repeatEvents hevent
    · rcases List.mem_append.1 hevent with hrepeated | hcolumnless
      · exact level_of_mem_repeatEvents hrepeated
      · exact level_of_mem_columnlessEvents hcolumnless

/-- The empty configuration is accepted without an event. -/
theorem check_default : check {} = .ok () :=
  rfl

/-- A column without a name is no other spelling of a column with one, so no table is sharded
by it. -/
theorem Complete.not_isShardingColumn_empty {config : Config} (hcomplete : config.Complete)
    (table : String) :
    (ShardingRules.ofConfig config).rule.isShardingColumn "" table = false := by
  rw [Bool.eq_false_iff]
  intro hsharding
  obtain ⟨entry, hentry, hspelling⟩ := isSome_shardingKey?_iff.1 hsharding
  have hmem : entry ∈ config.shardedTables := (mem_shardedEntries_iff.1 hentry).1
  have hempty : entry.column = "" := by
    have hlength := hspelling.length_eq
    simpa using hlength
  exact hcomplete.column_ne entry hmem hempty

section Passing

variable {config : Config} {error : ConfigError}

theorem checked_of_accepted (haccepted : config.check.result = .ok ()) :
    config.checked = ⟨config.check.events, .ok config⟩ := by
  simp [checked, Logged.bind, haccepted, Logged.ok]

theorem checked_of_refused (hrefused : config.check.result = .error error) :
    config.checked = ⟨config.check.events, .error error⟩ := by
  simp [checked, Logged.bind, hrefused]

end Passing

end Config
end InsertRouting
