import InsertRouting.Config.Check
import Mathlib.Data.Finset.Card

namespace InsertRouting
namespace Config

/-!
# What a check comes to

The check goes through three lists and stops at the first entry that lacks what it needs.
`judgement` says the same without a loop: it names the first entry with a fault, and the
warnings are those of the entries in front of it.  An entry is warned about when an earlier
one has the same name, or none like it, and the same column in lower case, so there are as
many warnings as there are entries beyond the distinct ones.
-/

/-- An entry in front of the position has the name of the entry at the position, or none like
it, and in lower case the same column. -/
def RepeatsEarlier (entries : List ShardedTable) (i : Nat) : Prop :=
  ∃ earlier ∈ entries.take i, ∃ entry ∈ entries[i]?,
    earlier.name = entry.name ∧ Text.lowercase earlier.column = Text.lowercase entry.column

instance (entries : List ShardedTable) (i : Nat) : Decidable (RepeatsEarlier entries i) :=
  inferInstanceAs (Decidable (∃ earlier ∈ entries.take i, ∃ entry ∈ entries[i]?,
    earlier.name = entry.name ∧ Text.lowercase earlier.column = Text.lowercase entry.column))

/-- The positions of the entries that repeat an earlier one, in order. -/
def repeatPositions (entries : List ShardedTable) : List Nat :=
  (List.range entries.length).filter fun i => RepeatsEarlier entries i

/-- The event about an entry that repeats an earlier one. -/
def repeatEvent (entry : ShardedTable) : Event :=
  ⟨.warn, "sharded table \"" ++ entry.name.getD "*" ++ "\" on column \"" ++ entry.column ++
    "\" is configured more than once"⟩

/-- One event for each entry that repeats an earlier one, in order. -/
def repeatEvents (entries : List ShardedTable) : List Event :=
  (repeatPositions entries).filterMap fun i => entries[i]?.map repeatEvent

/-- One event for each table that is declared without columns, in order. -/
def columnlessEvents (tables : List TableDefinition) : List Event :=
  (tables.filter (·.columns.isEmpty)).map fun table =>
    ⟨.warn, "table \"" ++ table.name ++ "\" is declared without columns"⟩

/-- What the check comes to: the fault of the first sharded table without a column, else of
the first encrypted table without a name, else nothing. -/
def judgement (config : Config) : Logged ConfigError Unit :=
  match config.shardedTables.findIdx? (·.column = "") with
  | some i => ⟨repeatEvents (config.shardedTables.take i), .error (.noShardingColumn i)⟩
  | none =>
      match config.encryptedTables.findIdx? (·.name = "") with
      | some j => ⟨repeatEvents config.shardedTables, .error (.noEncryptedTableName j)⟩
      | none =>
          ⟨repeatEvents config.shardedTables ++ columnlessEvents config.tables, .ok ()⟩

section Repeats

variable {entries : List ShardedTable} {entry : ShardedTable} {i : Nat}

/-- An entry behind the position is not looked at. -/
theorem repeatsEarlier_append_iff (rest : List ShardedTable) (hlt : i < entries.length) :
    RepeatsEarlier (entries ++ rest) i ↔ RepeatsEarlier entries i := by
  unfold RepeatsEarlier
  rw [List.take_append_of_le_length (Nat.le_of_lt hlt), List.getElem?_append_left hlt]

/-- The last entry repeats an earlier one when its identity has been there before. -/
theorem repeatsEarlier_concat_iff (entries : List ShardedTable) (entry : ShardedTable) :
    RepeatsEarlier (entries ++ [entry]) entries.length ↔
      shardingIdentity entry ∈ entries.map shardingIdentity := by
  have hlast : (entries ++ [entry])[entries.length]? = some entry := by simp
  unfold RepeatsEarlier
  rw [List.take_left, hlast, List.mem_map]
  simp [shardingIdentity]

theorem repeatPositions_concat (entries : List ShardedTable) (entry : ShardedTable) :
    repeatPositions (entries ++ [entry]) =
      repeatPositions entries ++
        if shardingIdentity entry ∈ entries.map shardingIdentity then [entries.length]
        else [] := by
  have hbefore : (List.range entries.length).filter
      (fun i => RepeatsEarlier (entries ++ [entry]) i) = repeatPositions entries := by
    apply List.filter_congr
    intro i hi
    exact decide_eq_decide.2 (repeatsEarlier_append_iff [entry] (List.mem_range.1 hi))
  rw [repeatPositions, List.length_append, List.length_singleton, List.range_succ,
    List.filter_append, hbefore, List.filter_singleton]
  simp only [repeatsEarlier_concat_iff, Bool.cond_decide]

theorem lt_length_of_mem_repeatPositions (hmem : i ∈ repeatPositions entries) :
    i < entries.length :=
  List.mem_range.1 (List.mem_of_mem_filter hmem)

/-- One more entry brings its own event or none. -/
theorem repeatEvents_concat (entries : List ShardedTable) (entry : ShardedTable) :
    repeatEvents (entries ++ [entry]) =
      repeatEvents entries ++
        if shardingIdentity entry ∈ entries.map shardingIdentity then [repeatEvent entry]
        else [] := by
  have hbefore : (repeatPositions entries).filterMap
      (fun i => (entries ++ [entry])[i]?.map repeatEvent) = repeatEvents entries := by
    apply List.filterMap_congr
    intro i hi
    rw [List.getElem?_append_left (lt_length_of_mem_repeatPositions hi)]
  rw [repeatEvents, repeatPositions_concat, List.filterMap_append, hbefore]
  split <;> simp

/-- The events and the distinct identities are as many as the entries. -/
theorem length_repeatEvents_add_card (entries : List ShardedTable) :
    (repeatEvents entries).length + (entries.map shardingIdentity).toFinset.card =
      entries.length := by
  induction entries using List.reverseRecOn with
  | nil => rfl
  | append_singleton entries entry ih =>
      have hset : ((entries ++ [entry]).map shardingIdentity).toFinset =
          insert (shardingIdentity entry) (entries.map shardingIdentity).toFinset := by
        ext identity
        simp
      rw [repeatEvents_concat, hset, List.length_append, List.length_append]
      -- An entry with a new identity adds to the set, any other to the events.
      by_cases hseen : shardingIdentity entry ∈ entries.map shardingIdentity
      · rw [if_pos hseen, Finset.insert_eq_of_mem (List.mem_toFinset.2 hseen)]
        simp only [List.length_singleton]
        omega
      · rw [if_neg hseen, Finset.card_insert_of_notMem (by rwa [List.mem_toFinset])]
        simp only [List.length_nil, List.length_singleton]
        omega

end Repeats

section Check

variable {before : List ShardedTable} {seen : List (Option String × String)}

/-- An entry with a column is compared with the identities seen so far. -/
theorem checkShardedTables_cons {entry : ShardedTable} (hcolumn : entry.column ≠ "")
    (index : Nat) (seen : List (Option String × String)) (rest : List ShardedTable) :
    checkShardedTables index seen (entry :: rest) =
      ⟨(if shardingIdentity entry ∈ seen then [repeatEvent entry] else []) ++
          (checkShardedTables (index + 1) (shardingIdentity entry :: seen) rest).events,
        (checkShardedTables (index + 1) (shardingIdentity entry :: seen) rest).result⟩ := by
  have hnonempty : entry.column.isEmpty = false := by simpa using hcolumn
  rw [checkShardedTables, hnonempty, if_neg Bool.false_ne_true]
  by_cases hseen : shardingIdentity entry ∈ seen
  · rw [if_pos (List.contains_iff_mem.2 hseen), if_pos hseen, Logged.bind_eq, Logged.emit_bind]
    rfl
  · rw [if_neg fun hcontains => hseen (List.contains_iff_mem.1 hcontains), if_neg hseen]
    rfl

/-- Behind a list of entries with their identities, the check goes on to the first entry
without a column. -/
theorem checkShardedTables_behind
    (hseen : ∀ identity, identity ∈ seen ↔ identity ∈ before.map shardingIdentity)
    (rest : List ShardedTable) :
    (⟨repeatEvents before ++ (checkShardedTables before.length seen rest).events,
        (checkShardedTables before.length seen rest).result⟩ : Logged ConfigError Unit) =
      match rest.findIdx? (·.column = "") with
      | some i =>
          ⟨repeatEvents (before ++ rest.take i), .error (.noShardingColumn (before.length + i))⟩
      | none => ⟨repeatEvents (before ++ rest), .ok ()⟩ := by
  -- An entry that has been checked joins the ones in front.
  induction rest generalizing before seen with
  | nil => simp [checkShardedTables, Logged.ok]
  | cons entry rest ih =>
      by_cases hcolumn : entry.column = ""
      · simp [checkShardedTables, List.findIdx?_cons, hcolumn, Logged.fail]
      · have hnext : ∀ identity, identity ∈ shardingIdentity entry :: seen ↔
            identity ∈ (before ++ [entry]).map shardingIdentity := by
          intro identity
          simp [hseen, or_comm]
        have hrest := ih hnext
        rw [repeatEvents_concat, List.length_append, List.length_singleton] at hrest
        simp only [← hseen] at hrest
        rw [checkShardedTables_cons hcolumn, ← List.append_assoc, hrest, List.findIdx?_cons,
          decide_eq_false hcolumn, if_neg Bool.false_ne_true]
        cases rest.findIdx? (·.column = "") with
        | none => simp
        | some i => simp [Nat.add_comm 1 i, Nat.add_assoc]

theorem checkShardedTables_eq (entries : List ShardedTable) :
    checkShardedTables 0 [] entries =
      match entries.findIdx? (·.column = "") with
      | some i => ⟨repeatEvents (entries.take i), .error (.noShardingColumn i)⟩
      | none => ⟨repeatEvents entries, .ok ()⟩ := by
  have hnothing : ∀ identity : Option String × String,
      identity ∈ [] ↔ identity ∈ ([] : List ShardedTable).map shardingIdentity :=
    fun _ => Iff.rfl
  have hall := checkShardedTables_behind hnothing entries
  simpa [repeatEvents, repeatPositions] using hall

theorem checkEncryptedTables_eq (index : Nat) (tables : List EncryptedTable) :
    checkEncryptedTables index tables =
      match tables.findIdx? (·.name = "") with
      | some j => .fail (.noEncryptedTableName (index + j))
      | none => .ok () := by
  induction tables generalizing index with
  | nil => rfl
  | cons table rest ih =>
      rw [checkEncryptedTables, List.findIdx?_cons]
      by_cases hname : table.name = ""
      · simp [hname]
      · have hnonempty : table.name.isEmpty = false := by simpa using hname
        rw [hnonempty, if_neg Bool.false_ne_true, ih, decide_eq_false hname,
          if_neg Bool.false_ne_true]
        cases rest.findIdx? (·.name = "") with
        | none => rfl
        | some j => simp [Nat.add_comm 1 j, Nat.add_assoc]

theorem checkTables_eq (tables : List TableDefinition) :
    checkTables tables = ⟨columnlessEvents tables, .ok ()⟩ := by
  induction tables with
  | nil => rfl
  | cons table rest ih =>
      rw [checkTables, ih]
      by_cases hcolumns : table.columns.isEmpty = true
      · rw [if_pos hcolumns, Logged.bind_eq, Logged.emit_bind]
        simp [columnlessEvents, hcolumns]
      · rw [if_neg hcolumns]
        simp [columnlessEvents, hcolumns]

/-- The check does what the judgement says. -/
theorem check_eq_judgement (config : Config) : config.check = config.judgement := by
  unfold check judgement
  rw [checkShardedTables_eq, checkEncryptedTables_eq, checkTables_eq]
  cases config.shardedTables.findIdx? (·.column = "") with
  | some i => rfl
  | none =>
      cases config.encryptedTables.findIdx? (·.name = "") with
      | some j => simp [Logged.bind, Logged.fail]
      | none => simp [Logged.bind, Logged.ok]

/-- The result and the events of a check are those of its judgement, and the entries that
are warned about are all but the first ones of their identities. -/
theorem check_judged (config : Config) :
    config.check = config.judgement ∧
      (repeatEvents config.shardedTables).length +
          (config.shardedTables.map shardingIdentity).toFinset.card =
        config.shardedTables.length :=
  ⟨check_eq_judgement config, length_repeatEvents_add_card config.shardedTables⟩

/-- Entries for one column, a table without columns behind them. -/
def repeatingConfig : Config where
  shardedTables := [⟨none, "ID", none⟩, ⟨some "*", "id", none⟩, ⟨none, "id", none⟩,
    ⟨none, "Id", none⟩]
  tables := [⟨"log", []⟩]

/-- A missing name differs from a name that is printed the same way, and every further
repeat is warned about. -/
theorem check_judged_sample :
    repeatingConfig.check =
        ⟨[⟨.warn, "sharded table \"*\" on column \"id\" is configured more than once"⟩,
          ⟨.warn, "sharded table \"*\" on column \"Id\" is configured more than once"⟩,
          ⟨.warn, "table \"log\" is declared without columns"⟩], .ok ()⟩ ∧
      (repeatingConfig.shardedTables.map shardingIdentity).toFinset.card = 2 := by
  have hevents : repeatingConfig.judgement.events =
      [⟨.warn, "sharded table \"*\" on column \"id\" is configured more than once"⟩,
        ⟨.warn, "sharded table \"*\" on column \"Id\" is configured more than once"⟩,
        ⟨.warn, "table \"log\" is declared without columns"⟩] := by decide +kernel
  have hrepeated : (repeatEvents repeatingConfig.shardedTables).length = 2 := by decide +kernel
  obtain ⟨hcheck, hcount⟩ := check_judged repeatingConfig
  constructor
  · rw [hcheck, ← hevents]
    rfl
  · rw [hrepeated] at hcount
    exact Nat.add_left_cancel hcount

end Check

end Config
end InsertRouting
