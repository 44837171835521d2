import InsertRouting.Catalog.Schema
import InsertRouting.Insert.ValueCount
import InsertRouting.Sharding.Rules
import Mathlib.Data.List.Basic

namespace InsertRouting

/-!
# The expected number of values of a configuration

The catalog keeps the last definition of a table, and the encryptor adds up all entries
for a table.  So the number of values that a row supplies can be read off the lists of
the configuration: what counts is the last definition of the table, and the number of
look-up columns in all entries for the table together.
-/

namespace Config

/-- The encrypted columns of a table, from all entries for it. -/
def encryptedColumns (config : Config) (table : String) : List EncryptedColumn :=
  (config.encryptedTables.filter (·.name = table)).flatMap (·.columns)

/-- The number of columns that encryption adds to a table for look-ups. -/
def lookUpColumns (config : Config) (table : String) : Nat :=
  (config.encryptedColumns table).countP (·.assistedQueryColumn.isSome)

/-- The last definition of the table declares this many columns. -/
def Declares (config : Config) (table : String) (count : Nat) : Prop :=
  ∃ before definition after, config.tables = before ++ definition :: after ∧
    definition.name = table ∧ (∀ later ∈ after, later.name ≠ table) ∧
    definition.columns.length = count

/-- The number of values that a row with `bound` columns supplies under the configuration. -/
def expectedValues (config : Config) (table : String) (bound : Nat) : Nat :=
  InsertRouting.expectedValues table bound (ShardingRules.ofConfig config).rule
    (Schema.ofConfig config).catalog

end Config

section Raw

variable {config : Config} {table : String} {bound : Nat}

/-- What is summed up per entry is the count over all entries together. -/
theorem Encryptor.total_eq_countP (table : String) (entries : List EncryptedTable) :
    Encryptor.total table entries =
      ((entries.filter (·.name = table)).flatMap (·.columns)).countP
        (·.assistedQueryColumn.isSome) := by
  induction entries with
  | nil => rfl
  | cons entry rest ih =>
      rw [Encryptor.total, ih]
      by_cases hname : entry.name = table
      · rw [List.filter_cons_of_pos (by simp [hname]), List.flatMap_cons, List.countP_append,
          if_pos hname]
        rfl
      · rw [List.filter_cons_of_neg (by simp [hname]), if_neg hname, Nat.zero_add]

/-- The encryptor answers nothing about a table without look-up columns, which is taken
as zero again. -/
theorem getD_assistedQueryColumns?_ofConfig (config : Config) (table : String) :
    ((ShardingRules.ofConfig config).rule.assistedQueryColumns? table).getD 0 =
      config.lookUpColumns table := by
  have htotal : Encryptor.total table config.encryptedTables = config.lookUpColumns table :=
    Encryptor.total_eq_countP table config.encryptedTables
  change ((Encryptor.ofTables config.encryptedTables).assistedQueryColumns? table).getD 0 = _
  rw [Encryptor.assistedQueryColumns?_ofTables, htotal]
  by_cases hzero : config.lookUpColumns table = 0
  · rw [if_pos hzero, hzero]
    rfl
  · rw [if_neg hzero]
    rfl

/-- The last definition from the front is the first one from behind. -/
theorem Config.declares_iff :
    config.Declares table bound ↔
      (config.tables.reverse.find? (·.name == table)).any (·.columns.length == bound) = true := by
  rw [Option.any_eq_true]
  simp only [List.find?_eq_some_iff_append, beq_iff_eq, Bool.not_eq_true',
    beq_eq_false_iff_ne]
  constructor
  · rintro ⟨before, definition, after, hsplit, hname, hafter, hcount⟩
    refine ⟨definition, ⟨hname, after.reverse, before.reverse, by simp [hsplit], ?_⟩, hcount⟩
    intro later hlater
    exact hafter later (List.mem_reverse.1 hlater)
  · rintro ⟨definition, ⟨hname, behind, front, hreversed, hbehind⟩, hcount⟩
    have hsplit : config.tables = front.reverse ++ definition :: behind.reverse := by
      rw [← List.reverse_reverse config.tables, hreversed]
      simp
    refine ⟨front.reverse, definition, behind.reverse, hsplit, hname, ?_, hcount⟩
    intro later hlater
    exact hbehind later (List.mem_reverse.1 hlater)

instance (config : Config) (table : String) (count : Nat) :
    Decidable (config.Declares table count) :=
  decidable_of_iff _ Config.declares_iff.symm

/-- The catalog knows the table with this many columns when its last definition declares
them. -/
theorem catalog_ofConfig_iff_declares :
    ((Schema.ofConfig config).catalog.containsTable table &&
        (Schema.ofConfig config).catalog.columnCount table == bound) = true ↔
      config.Declares table bound := by
  have htable : (Schema.ofConfig config).table? table =
      config.tables.reverse.find? (·.name == table) :=
    Schema.table?_ofTables config.tables table
  rw [Config.declares_iff, Schema.catalog_containsTable, Schema.catalog]
  dsimp only
  rw [htable]
  cases config.tables.reverse.find? (·.name == table) <;> simp

/-- The number of values in terms of the lists of the configuration. -/
theorem Config.expectedValues_eq (config : Config) (table : String) (bound : Nat) :
    config.expectedValues table bound =
      if config.Declares table bound then bound else bound - config.lookUpColumns table := by
  have hadded := getD_assistedQueryColumns?_ofConfig config table
  unfold Config.expectedValues InsertRouting.expectedValues
  by_cases hdeclares : config.Declares table bound
  · rw [if_pos (catalog_ofConfig_iff_declares.2 hdeclares), if_pos hdeclares]
  · rw [if_neg fun hknown => hdeclares (catalog_ofConfig_iff_declares.1 hknown),
      if_neg hdeclares, ← hadded]
    cases (ShardingRules.ofConfig config).rule.assistedQueryColumns? table <;> rfl

/-- Only the definitions of tables and the number of look-up columns count. -/
theorem Config.expectedValues_congr {other : Config} (htables : other.tables = config.tables)
    (hcount : other.lookUpColumns table = config.lookUpColumns table) :
    other.expectedValues table bound = config.expectedValues table bound := by
  have hdeclares : other.Declares table bound ↔ config.Declares table bound := by
    unfold Config.Declares
    rw [htables]
  rw [expectedValues_eq, expectedValues_eq, hcount]
  simp only [hdeclares]

theorem Config.encryptedColumns_of_perm {other : Config}
    (hperm : other.encryptedTables.Perm config.encryptedTables) (table : String) :
    (other.encryptedColumns table).Perm (config.encryptedColumns table) :=
  (hperm.filter _).flatMap_right _

theorem Config.lookUpColumns_of_perm {other : Config}
    (hperm : (other.encryptedColumns table).Perm (config.encryptedColumns table)) :
    other.lookUpColumns table = config.lookUpColumns table :=
  hperm.countP_eq _

/-- A row supplies a value for every column if the last definition of the table declares
as many columns, and otherwise leaves out the look-up columns of all entries for the
table.  The order of these entries and the distribution of the columns over them make no
difference. -/
theorem expectedValues_of_raw_config (config : Config) (table : String) (bound : Nat) :
    config.expectedValues table bound =
      (if config.Declares table bound then bound
        else bound - config.lookUpColumns table) ∧
    config.expectedValues table bound ≤ bound ∧
    (∀ other : Config, other.tables = config.tables →
      other.encryptedTables.Perm config.encryptedTables →
      other.expectedValues table bound = config.expectedValues table bound) ∧
    (∀ other : Config, other.tables = config.tables →
      (other.encryptedColumns table).Perm (config.encryptedColumns table) →
      other.expectedValues table bound = config.expectedValues table bound) := by
  refine ⟨config.expectedValues_eq table bound, ?_, ?_, ?_⟩
  · exact expectedValues_le table bound _ _
  · intro other htables hperm
    have hcolumns := Config.encryptedColumns_of_perm hperm table
    exact Config.expectedValues_congr htables (Config.lookUpColumns_of_perm hcolumns)
  · intro other htables hcolumns
    exact Config.expectedValues_congr htables (Config.lookUpColumns_of_perm hcolumns)

/-- Two entries for `user` around one for `orders`, and two definitions of `user`. -/
def scatteredConfig : Config where
  encryptedTables :=
    [⟨"user", [⟨"pwd", "pwd_cipher", some "pwd_assisted"⟩, ⟨"email", "email_cipher", none⟩]⟩,
      ⟨"orders", [⟨"card", "card_cipher", some "card_assisted"⟩]⟩,
      ⟨"user", [⟨"phone", "phone_cipher", some "phone_assisted"⟩]⟩]
  tables := [⟨"user", ["id", "name"]⟩, ⟨"orders", ["id"]⟩, ⟨"user", ["id", "name", "age"]⟩]

/-- The same tables with one entry for `user`, behind the one for `orders`. -/
def gatheredConfig : Config where
  encryptedTables :=
    [⟨"orders", [⟨"card", "card_cipher", some "card_assisted"⟩]⟩,
      ⟨"user", [⟨"email", "email_cipher", none⟩, ⟨"phone", "phone_cipher", some "phone_assisted"⟩,
        ⟨"pwd", "pwd_cipher", some "pwd_assisted"⟩]⟩]
  tables := scatteredConfig.tables

/-- The last definition of `user` has three columns, so five of them leave out the two
look-up columns, however these are listed. -/
theorem expectedValues_of_raw_config_sample :
    ¬ scatteredConfig.Declares "user" 5 ∧ scatteredConfig.lookUpColumns "user" = 2 ∧
    scatteredConfig.expectedValues "user" 5 = 3 ∧
    { scatteredConfig with encryptedTables := scatteredConfig.encryptedTables.reverse
      }.expectedValues "user" 5 = scatteredConfig.expectedValues "user" 5 ∧
    gatheredConfig.tables = scatteredConfig.tables ∧
    (gatheredConfig.encryptedColumns "user").Perm (scatteredConfig.encryptedColumns "user") ∧
    gatheredConfig.expectedValues "user" 5 = scatteredConfig.expectedValues "user" 5 := by
  have hperm : (gatheredConfig.encryptedColumns "user").Perm
      (scatteredConfig.encryptedColumns "user") := by decide
  obtain ⟨hvalue, -, hordered, hgathered⟩ :=
    expectedValues_of_raw_config scatteredConfig "user" 5
  refine ⟨by decide, by decide, hvalue, hordered _ rfl (List.reverse_perm _), rfl, hperm, ?_⟩
  exact hgathered gatheredConfig rfl hperm

end Raw

end InsertRouting
