import InsertRouting.Proofs.Text.LetterCase
import InsertRouting.Sharding.Rules

namespace InsertRouting

/-!
# Look-ups among the sharded tables

Two rules of precedence meet in the look-ups.  The sharding columns of a table come from
the entries that name it, and only without such an entry from those that have no name.
The column of the key generator comes from a scan of the whole list that skips every
entry without a name.  Both see the same entries in the end: what the scan finds is
always set by an entry that applies to the table.

The order of the entries decides which entry is found, not whether one is found.  It
decides the column of the key generator only when the entries for the table set two
different ones.
-/

/-- The item is the first one in the list that passes the test. -/
def IsFirstSuchThat {α : Type} (test : α → Prop) (items : List α) (item : α) : Prop :=
  ∃ before after, items = before ++ item :: after ∧ test item ∧
    ∀ earlier ∈ before, ¬ test earlier

/-- No two entries for the table set different columns for the key generator. -/
def AgreeOnGenerateKey (entries : List ShardedTable) (table : String) : Prop :=
  ∀ first ∈ entries, ∀ second ∈ entries,
    first.name = some table → second.name = some table →
    ∀ column other, first.generateKeyColumn = some column →
      second.generateKeyColumn = some other → column = other

section Entries

variable {entries : List ShardedTable} {table : String}

theorem names_eq_true_iff {entry : ShardedTable} :
    entry.names table = true ↔ entry.name = some table := by
  unfold ShardedTable.names
  exact beq_iff_eq

/-- The entries that name the table, or the ones without a name if there are none. -/
theorem shardedEntries_eq (entries : List ShardedTable) (table : String) :
    shardedEntries entries table =
      if ∃ entry ∈ entries, entry.name = some table
      then entries.filter (·.name = some table)
      else entries.filter (·.name = none) := by
  have hnamed : entries.filter (·.names table) =
      entries.filter (·.name = some table) := by
    apply List.filter_congr
    intro entry _
    rw [Bool.eq_iff_iff, names_eq_true_iff, decide_eq_true_iff]
  have hunnamed : entries.filter (·.name.isNone) = entries.filter (·.name = none) := by
    apply List.filter_congr
    intro entry _
    rw [Bool.eq_iff_iff, Option.isNone_iff_eq_none, decide_eq_true_iff]
  unfold shardedEntries
  dsimp only
  rw [hnamed, hunnamed]
  by_cases hany : ∃ entry ∈ entries, entry.name = some table
  · have hfull : (entries.filter (·.name = some table)).isEmpty = false := by
      obtain ⟨entry, hmem, hname⟩ := hany
      have hkept : entry ∈ entries.filter (·.name = some table) := by simp [hmem, hname]
      exact List.isEmpty_eq_false_iff.2 (List.ne_nil_of_mem hkept)
    rw [hfull, if_pos hany]
    exact if_neg Bool.false_ne_true
  · have hempty : entries.filter (·.name = some table) = [] := by
      rw [List.filter_eq_nil_iff]
      intro entry hmem hname
      exact hany ⟨entry, hmem, of_decide_eq_true hname⟩
    rw [hempty, if_neg hany]
    exact if_pos rfl

theorem mem_shardedEntries_iff {entry : ShardedTable} :
    entry ∈ shardedEntries entries table ↔
      entry ∈ entries ∧
        (entry.name = some table ∨
          entry.name = none ∧ ∀ other ∈ entries, other.name ≠ some table) := by
  rw [shardedEntries_eq]
  by_cases hany : ∃ other ∈ entries, other.name = some table
  · rw [if_pos hany, List.mem_filter, decide_eq_true_iff]
    have hnot : ¬ ∀ other ∈ entries, other.name ≠ some table := by
      intro hnone
      obtain ⟨other, hmem, hname⟩ := hany
      exact hnone other hmem hname
    simp [hnot]
  · rw [if_neg hany, List.mem_filter, decide_eq_true_iff]
    have hnone : ∀ other ∈ entries, other.name ≠ some table :=
      fun other hmem hname => hany ⟨other, hmem, hname⟩
    constructor
    · rintro ⟨hmem, hunnamed⟩
      exact ⟨hmem, .inr ⟨hunnamed, hnone⟩⟩
    · rintro ⟨hmem, hnamed | ⟨hunnamed, -⟩⟩
      · exact absurd hnamed (hnone entry hmem)
      · exact ⟨hmem, hunnamed⟩

/-- The key is the first applicable entry whose column is a spelling of the given one. -/
theorem shardingKey?_eq_some_iff {column : String} {entry : ShardedTable} :
    shardingKey? entries table column = some entry ↔
      IsFirstSuchThat (fun other => Text.Respelled other.column column)
        (shardedEntries entries table) entry := by
  unfold shardingKey? IsFirstSuchThat ShardedTable.matchesColumn
  rw [List.find?_eq_some_iff_append]
  simp only [Bool.not_eq_true', ← Bool.not_eq_true,
    Text.sameExceptAsciiCase_iff_respelled]
  constructor
  · rintro ⟨hmatches, before, after, hsplit, hbefore⟩
    exact ⟨before, after, hsplit, hmatches, hbefore⟩
  · rintro ⟨before, after, hsplit, hmatches, hbefore⟩
    exact ⟨hmatches, before, after, hsplit, hbefore⟩

theorem isSome_shardingKey?_iff {column : String} :
    (shardingKey? entries table column).isSome = true ↔
      ∃ entry ∈ shardedEntries entries table, Text.Respelled entry.column column := by
  unfold shardingKey? ShardedTable.matchesColumn
  rw [List.isSome_find?, List.any_eq_true]
  simp only [Text.sameExceptAsciiCase_iff_respelled]

/-- The scan with two tests keeps the entries that name the table. -/
theorem generateKeyColumn?_eq_findSome? (entries : List ShardedTable) (table : String) :
    generateKeyColumn? entries table =
      (entries.filter (·.name = some table)).findSome? (·.generateKeyColumn) := by
  have hkept (entry : ShardedTable) :
      (entry.matchesTable table && entry.name.isSome) = decide (entry.name = some table) := by
    rw [matchesTable_and_isSome_eq_names, Bool.eq_iff_iff, names_eq_true_iff,
      decide_eq_true_iff]
  unfold generateKeyColumn?
  simp only [hkept]

/-- The column of the key generator is the first one that an entry for the table sets. -/
theorem generateKeyColumn?_eq_some_iff {column : String} :
    generateKeyColumn? entries table = some column ↔
      ∃ entry, IsFirstSuchThat (fun other => other.generateKeyColumn ≠ none)
          (entries.filter (·.name = some table)) entry ∧
        entry.generateKeyColumn = some column := by
  rw [generateKeyColumn?_eq_findSome?, List.findSome?_eq_some_iff]
  constructor
  · rintro ⟨before, entry, after, hsplit, hset, hbefore⟩
    have hfirst : IsFirstSuchThat (fun other : ShardedTable => other.generateKeyColumn ≠ none)
        (entries.filter (·.name = some table)) entry := by
      refine ⟨before, after, hsplit, by simp [hset], ?_⟩
      intro earlier hmem hearlier
      exact hearlier (hbefore earlier hmem)
    exact ⟨entry, hfirst, hset⟩
  · rintro ⟨entry, ⟨before, after, hsplit, -, hbefore⟩, hset⟩
    refine ⟨before, entry, after, hsplit, hset, ?_⟩
    intro earlier hmem
    exact not_not.1 (hbefore earlier hmem)

theorem exists_of_generateKeyColumn?_eq_some {column : String}
    (hset : generateKeyColumn? entries table = some column) :
    ∃ entry ∈ entries, entry.name = some table ∧ entry.generateKeyColumn = some column := by
  rw [generateKeyColumn?_eq_findSome?] at hset
  obtain ⟨entry, hmem, hcolumn⟩ := List.exists_of_findSome?_eq_some hset
  have hentry := List.mem_filter.1 hmem
  exact ⟨entry, hentry.1, of_decide_eq_true hentry.2, hcolumn⟩

theorem generateKeyColumn?_eq_none_iff :
    generateKeyColumn? entries table = none ↔
      ∀ entry ∈ entries, entry.name = some table → entry.generateKeyColumn = none := by
  rw [generateKeyColumn?_eq_findSome?, List.findSome?_eq_none_iff]
  simp only [List.mem_filter, decide_eq_true_eq, and_imp]

/-- When the entries for the table agree, any of them gives the column. -/
theorem AgreeOnGenerateKey.eq_some_iff (hagree : AgreeOnGenerateKey entries table)
    {column : String} :
    generateKeyColumn? entries table = some column ↔
      ∃ entry ∈ entries, entry.name = some table ∧ entry.generateKeyColumn = some column := by
  constructor
  · exact exists_of_generateKeyColumn?_eq_some
  · rintro ⟨entry, hmem, hname, hset⟩
    cases hfound : generateKeyColumn? entries table with
    | none =>
        have hunset := generateKeyColumn?_eq_none_iff.1 hfound entry hmem hname
        rw [hunset] at hset
        cases hset
    | some other =>
        obtain ⟨found, hfoundMem, hfoundName, hfoundSet⟩ :=
          exists_of_generateKeyColumn?_eq_some hfound
        rw [hagree found hfoundMem entry hmem hfoundName hname other column hfoundSet hset]

end Entries

section Order

variable {entries other : List ShardedTable}

/-- The order of the entries does not change which of them apply to a table. -/
theorem mem_shardedEntries_of_perm (hperm : entries.Perm other) (table : String)
    {entry : ShardedTable} :
    entry ∈ shardedEntries entries table ↔ entry ∈ shardedEntries other table := by
  rw [mem_shardedEntries_iff, mem_shardedEntries_iff]
  simp only [hperm.mem_iff]

theorem isSome_shardingKey?_of_perm (hperm : entries.Perm other) (table column : String) :
    (shardingKey? entries table column).isSome =
      (shardingKey? other table column).isSome := by
  rw [Bool.eq_iff_iff, isSome_shardingKey?_iff, isSome_shardingKey?_iff]
  simp only [mem_shardedEntries_of_perm hperm table]

theorem AgreeOnGenerateKey.of_perm {table : String} (hperm : entries.Perm other)
    (hagree : AgreeOnGenerateKey entries table) : AgreeOnGenerateKey other table := by
  intro first hfirst second hsecond
  exact hagree first (hperm.mem_iff.2 hfirst) second (hperm.mem_iff.2 hsecond)

theorem generateKeyColumn?_of_perm {table : String} (hperm : entries.Perm other)
    (hagree : AgreeOnGenerateKey entries table) :
    generateKeyColumn? entries table = generateKeyColumn? other table := by
  apply Option.ext
  intro column
  rw [hagree.eq_some_iff, (hagree.of_perm hperm).eq_some_iff]
  simp only [hperm.mem_iff]

end Order

/-- What the look-ups among the entries answer about a table, as rules that are built on
the entries see it. -/
structure LookupsCohere (entries : List ShardedTable) (encryptor : Encryptor)
    (table : String) : Prop where
  /-- The applicable entries, in the order of the list. -/
  sharded : shardedEntries entries table =
    if ∃ entry ∈ entries, entry.name = some table
    then entries.filter (·.name = some table)
    else entries.filter (·.name = none)
  matchesTable : ∀ entry ∈ shardedEntries entries table, entry.matchesTable table = true
  /-- The key of a column is the first applicable entry for it, if there is one. -/
  key : ∀ column entry, shardingKey? entries table column = some entry ↔
    IsFirstSuchThat (fun candidate => Text.Respelled candidate.column column)
      (shardedEntries entries table) entry
  key_none : ∀ column, shardingKey? entries table column = none ↔
    ∀ entry ∈ shardedEntries entries table, ¬ Text.Respelled entry.column column
  /-- A column is a sharding column when it has a key. -/
  isShardingColumn : ∀ column,
    (ShardingRules.mk entries encryptor).rule.isShardingColumn column table = true ↔
      ∃ entry, shardingKey? entries table column = some entry
  /-- The column of the key generator is the first one set for the table. -/
  generateKey : ∀ column,
    (ShardingRules.mk entries encryptor).rule.generateKeyColumn? table = some column ↔
      ∃ entry, IsFirstSuchThat (fun candidate => candidate.generateKeyColumn ≠ none)
          (entries.filter (·.name = some table)) entry ∧
        entry.generateKeyColumn = some column
  /-- It is set by an entry that applies to the table. -/
  generateKey_applies : ∀ column,
    (ShardingRules.mk entries encryptor).rule.generateKeyColumn? table = some column →
      ∃ entry ∈ shardedEntries entries table, entry.generateKeyColumn = some column
  generateKey_unnamed : (∀ entry ∈ entries, entry.name ≠ some table) →
    (ShardingRules.mk entries encryptor).rule.generateKeyColumn? table = none
  /-- In another order the same columns are sharding columns. -/
  isShardingColumn_order : ∀ other, entries.Perm other → ∀ column,
    (ShardingRules.mk other encryptor).rule.isShardingColumn column table =
      (ShardingRules.mk entries encryptor).rule.isShardingColumn column table
  /-- In another order the key generator fills the same column, unless two entries for
  the table disagree. -/
  generateKey_order : ∀ other, entries.Perm other → AgreeOnGenerateKey entries table →
    (ShardingRules.mk other encryptor).rule.generateKeyColumn? table =
      (ShardingRules.mk entries encryptor).rule.generateKeyColumn? table

/-- The look-ups never disagree about which entries apply to a table, and up to the
choice among conflicting entries they do not depend on the order. -/
theorem lookups_cohere (entries : List ShardedTable) (encryptor : Encryptor)
    (table : String) : LookupsCohere entries encryptor table where
  sharded := shardedEntries_eq entries table
  matchesTable _ := matchesTable_of_mem_shardedEntries
  key _ _ := shardingKey?_eq_some_iff
  key_none column := by
    rw [← Option.not_isSome_iff_eq_none, isSome_shardingKey?_iff]
    simp only [not_exists, not_and]
  isShardingColumn _ := Option.isSome_iff_exists
  generateKey _ := generateKeyColumn?_eq_some_iff
  generateKey_applies column hset := by
    obtain ⟨entry, hmem, hname, hcolumn⟩ := exists_of_generateKeyColumn?_eq_some hset
    exact ⟨entry, mem_shardedEntries_iff.2 ⟨hmem, .inl hname⟩, hcolumn⟩
  generateKey_unnamed hunnamed := by
    apply generateKeyColumn?_eq_none_iff.2
    intro entry hmem hname
    exact absurd hname (hunnamed entry hmem)
  isShardingColumn_order other hperm column :=
    (isSome_shardingKey?_of_perm hperm table column).symm
  generateKey_order other hperm hagree := (generateKeyColumn?_of_perm hperm hagree).symm

/-- Of two entries that set different columns the first one counts, so their order
shows. -/
example :
    let first : ShardedTable := ⟨some "user", "name", some "id"⟩
    let second : ShardedTable := ⟨some "user", "email", some "key"⟩
    generateKeyColumn? [first, second] "user" = some "id" ∧
      generateKeyColumn? [second, first] "user" = some "key" := by decide

end InsertRouting
