import InsertRouting.Catalog.Schema
import InsertRouting.Proofs.Insert.Effect
import InsertRouting.Sharding.Rules

namespace InsertRouting

/-!
# Tables do not interfere through the configuration

A clause is filled into a statement on one table, and it asks the rules and the
catalog about this table only.  Their answers are made of the entries for the table,
in their order, and of the entries without a name when no entry names the table.
Everything else in a configuration can change without a trace.
-/

/-- The rules give the same answers about the table. -/
structure ShardingRule.AgreeOn (left right : ShardingRule) (table : String) : Prop where
  isShardingColumn : ∀ column,
    left.isShardingColumn column table = right.isShardingColumn column table
  generateKeyColumn? : left.generateKeyColumn? table = right.generateKeyColumn? table
  assistedQueryColumns? :
    left.assistedQueryColumns? table = right.assistedQueryColumns? table

/-- The catalogs give the same answers about the table. -/
structure TableCatalog.AgreeOn (left right : TableCatalog) (table : String) : Prop where
  containsTable : left.containsTable table = right.containsTable table
  columnCount : left.columnCount table = right.columnCount table

section Consulted

variable {left right : ShardingRule} {table : String}

theorem bindValue_congr {column : Column}
    (hsharding : left.isShardingColumn column.name column.table =
      right.isShardingColumn column.name column.table)
    (keyColumn : Option String) (sql : String) (segment : ExpressionSegment) :
    bindValue left keyColumn sql column segment =
      bindValue right keyColumn sql column segment := by
  unfold bindValue routeCondition?
  rw [hsharding]

theorem bindRow_congr {pairs : List (Column × ExpressionSegment)}
    (hsharding : ∀ pair ∈ pairs, left.isShardingColumn pair.1.name pair.1.table =
      right.isShardingColumn pair.1.name pair.1.table)
    (keyColumn : Option String) (sql : String) :
    bindRow left keyColumn sql pairs = bindRow right keyColumn sql pairs := by
  induction pairs with
  | nil => rfl
  | cons pair rest ih =>
      rw [bindRow, bindRow, bindValue_congr (hsharding pair List.mem_cons_self),
        ih fun other hother => hsharding other (List.mem_cons_of_mem pair hother)]

/-- A contribution to a table depends on the answers about this table only. -/
theorem contribution_congr {leftCatalog rightCatalog : TableCatalog}
    (hrule : left.AgreeOn right table) (hcatalog : leftCatalog.AgreeOn rightCatalog table)
    (clause : SetClause) (sql : String) :
    contribution clause table sql left leftCatalog =
      contribution clause table sql right rightCatalog := by
  have hexpected (bound : Nat) : expectedValues table bound left leftCatalog =
      expectedValues table bound right rightCatalog := by
    unfold expectedValues
    rw [hcatalog.containsTable, hcatalog.columnCount, hrule.assistedQueryColumns?]
  have hrow : bindRow left (left.generateKeyColumn? table) sql
      ((clause.boundColumns table).zip clause.values) =
        bindRow right (right.generateKeyColumn? table) sql
          ((clause.boundColumns table).zip clause.values) := by
    rw [hrule.generateKeyColumn?]
    apply bindRow_congr
    intro pair hpair
    -- The columns of the clause are all bound to the table.
    obtain ⟨column, -, hbound⟩ := List.mem_map.1 (List.of_mem_zip hpair).1
    rw [← hbound]
    exact hrule.isShardingColumn column.name
  unfold contribution
  simp only [hexpected, hrow]

theorem fill_congr {leftCatalog rightCatalog : TableCatalog} {statement : InsertStatement}
    (htables : statement.tables = [table]) (hrule : left.AgreeOn right table)
    (hcatalog : leftCatalog.AgreeOn rightCatalog table) (clause : SetClause) (sql : String) :
    fill clause statement sql left leftCatalog =
      fill clause statement sql right rightCatalog := by
  unfold fill
  rw [InsertStatement.singleTable?_eq_some_iff.2 htables]
  dsimp only
  rw [contribution_congr hrule hcatalog]

end Consulted

/-- The configurations have the same entries for the table, in the same order.  Names are
compared exactly.  Entries without a name count only when no entry names the table. -/
structure Config.SameFor (left right : Config) (table : String) : Prop where
  named : left.shardedTables.filter (·.name == some table) =
    right.shardedTables.filter (·.name == some table)
  unnamed : (∀ entry ∈ left.shardedTables, entry.name ≠ some table) →
    left.shardedTables.filter (·.name == none) = right.shardedTables.filter (·.name == none)
  encrypted : left.encryptedTables.filter (·.name == table) =
    right.encryptedTables.filter (·.name == table)
  tables : left.tables.filter (·.name == table) = right.tables.filter (·.name == table)

section Isolation

variable {left right : Config} {table : String}

theorem Config.SameFor.shardedEntries (hsame : left.SameFor right table) :
    shardedEntries left.shardedTables table = shardedEntries right.shardedTables table := by
  have hnamed : left.shardedTables.filter (·.names table) =
      right.shardedTables.filter (·.names table) := hsame.named
  unfold InsertRouting.shardedEntries
  dsimp only
  rw [← hnamed]
  split
  · rename_i hempty
    have hnone : ∀ entry ∈ left.shardedTables, entry.name ≠ some table := by
      intro entry hentry hname
      have hkept := List.filter_eq_nil_iff.1 (List.isEmpty_iff.1 hempty) entry hentry
      simp [ShardedTable.names, hname] at hkept
    have hisNone : (fun entry : ShardedTable => entry.name.isNone) =
        fun entry => entry.name == none := by
      funext entry
      cases entry.name <;> rfl
    rw [hisNone]
    exact hsame.unnamed hnone
  · rfl

theorem Config.SameFor.rule_agreeOn (hsame : left.SameFor right table) :
    (ShardingRules.ofConfig left).rule.AgreeOn (ShardingRules.ofConfig right).rule table where
  isShardingColumn column := by
    change (shardingKey? left.shardedTables table column).isSome =
      (shardingKey? right.shardedTables table column).isSome
    unfold shardingKey?
    rw [hsame.shardedEntries]
  generateKeyColumn? := by
    change generateKeyColumn? left.shardedTables table =
      generateKeyColumn? right.shardedTables table
    unfold InsertRouting.generateKeyColumn?
    simp only [matchesTable_and_isSome_eq_names]
    exact congrArg (List.findSome? (·.generateKeyColumn)) hsame.named
  assistedQueryColumns? := by
    change (Encryptor.ofTables left.encryptedTables).assistedQueryColumns? table =
      (Encryptor.ofTables right.encryptedTables).assistedQueryColumns? table
    rw [Encryptor.assistedQueryColumns?_ofTables, Encryptor.assistedQueryColumns?_ofTables,
      ← Encryptor.total_filter, hsame.encrypted, Encryptor.total_filter]

theorem Config.SameFor.catalog_agreeOn (hsame : left.SameFor right table) :
    (Schema.ofConfig left).catalog.AgreeOn (Schema.ofConfig right).catalog table := by
  have htable : (Schema.ofConfig left).table? table = (Schema.ofConfig right).table? table := by
    unfold Schema.ofConfig
    rw [← Schema.table?_ofTables_filter, hsame.tables, Schema.table?_ofTables_filter]
  constructor
  · rw [Schema.catalog_containsTable, Schema.catalog_containsTable, htable]
  · unfold Schema.catalog
    dsimp only
    rw [htable]

/-- A clause for a statement on one table has the same verdict, the same log and the same
effect with every configuration that has the same entries for the table. -/
theorem fill_eq_of_sameFor (hsame : left.SameFor right table) {statement : InsertStatement}
    (htables : statement.tables = [table]) (clause : SetClause) (sql : String) :
    fill clause statement sql (ShardingRules.ofConfig left).rule
        (Schema.ofConfig left).catalog =
      fill clause statement sql (ShardingRules.ofConfig right).rule
        (Schema.ofConfig right).catalog :=
  fill_congr htables hsame.rule_agreeOn hsame.catalog_agreeOn clause sql

/-- A configuration for the table `user` and two others. -/
def sampleConfig : Config where
  shardedTables := [⟨none, "tenant", none⟩, ⟨some "user", "name", some "id"⟩,
    ⟨some "orders", "id", none⟩, ⟨some "user", "email", none⟩]
  encryptedTables := [⟨"user", [⟨"pwd", "pwd_cipher", some "pwd_assisted"⟩]⟩,
    ⟨"orders", [⟨"card", "card_cipher", none⟩]⟩]
  tables := [⟨"orders", ["id"]⟩, ⟨"user", ["id", "name", "age"]⟩]

/-- The configuration with the same entries for `user` and other ones for everything else,
a table `User` among them. -/
def foreignConfig : Config where
  shardedTables := [⟨some "User", "age", some "age"⟩, ⟨some "user", "name", some "id"⟩,
    ⟨some "user", "email", none⟩, ⟨none, "age", none⟩]
  encryptedTables := [⟨"User", [⟨"id", "id_cipher", some "id_assisted"⟩]⟩,
    ⟨"user", [⟨"pwd", "pwd_cipher", some "pwd_assisted"⟩]⟩]
  tables := [⟨"user", ["id", "name", "age"]⟩, ⟨"User", ["id"]⟩]

/-- The sample is filled in the same way with both configurations. -/
theorem fill_eq_of_sameFor_sample :
    sampleConfig.SameFor foreignConfig "user" ∧
    (InsertStatement.onTable "user").tables = ["user"] ∧
    fill sampleClause (.onTable "user") sampleText (ShardingRules.ofConfig sampleConfig).rule
        (Schema.ofConfig sampleConfig).catalog =
      fill sampleClause (.onTable "user") sampleText
        (ShardingRules.ofConfig foreignConfig).rule (Schema.ofConfig foreignConfig).catalog := by
  have hsame : sampleConfig.SameFor foreignConfig "user" := by
    refine ⟨by decide, fun hnone => ?_, by decide, by decide⟩
    exact absurd rfl (hnone ⟨some "user", "name", some "id"⟩ (by decide))
  exact ⟨hsame, rfl, fill_eq_of_sameFor hsame rfl sampleClause sampleText⟩

end Isolation

end InsertRouting
