import InsertRouting.Proofs.Data.Related
import InsertRouting.Proofs.Insert.Session

namespace InsertRouting

/-!
# Alignment of the rows

The lists of a statement are kept apart, yet each row keeps its place: it lies in
a block of the columns of its own, its conditions and its generated keys name a
column and the value at the same position of that block, and its keyword has one
token.  The first table of the statement is the table of everything.
-/

/-- The token marks the keyword in front of a row. -/
def Token.isInsertValues : Token → Bool
  | .insertValues _ _ => true
  | .table _ _ _ => false

/-- The entries stand for pairs of a column and a value at the same position, and the
positions increase. -/
def PairedInOrder {β : Type} (make : Column → Expression → β) (block : Contribution)
    (made : List β) : Prop :=
  ∃ positions, positions.Pairwise (· < ·) ∧
    MadeAt make block.columns block.row.values positions made

/-- Every row of the statement stands with its conditions, its generated keys and its
token in the block of columns of the request that it came from. -/
structure RowsAligned (statement : InsertStatement) (requests : List FillRequest)
    (blocks : List Contribution) : Prop where
  /-- The blocks divide the columns, one for each accepted request. -/
  columns : statement.columns = blocks.flatMap (·.columns)
  effects : List.Forall₂ (IsBlockOf statement.tables) requests blocks
  rows : statement.rows = blocks.map (·.row)
  routeConditions : statement.routeConditions = blocks.map (·.conditions)
  generatedKeys : statement.generatedKeys = blocks.flatMap (·.generatedKeys)
  keywordTokens : statement.tokens.filter Token.isInsertValues =
    requests.map fun request => .insertValues request.clause.start .set
  /-- A row may leave columns without a value, but no value without a column. -/
  values_le : ∀ block ∈ blocks, block.row.values.length ≤ block.columns.length
  conditions_paired : ∀ block ∈ blocks, PairedInOrder Condition.mk block block.conditions
  /-- No row is routed by a value that cannot be evaluated. -/
  conditions_evaluable : ∀ block ∈ blocks, ∀ condition ∈ block.conditions, ∀ source,
    condition.expression ≠ .ignored source
  keys_paired : ∀ block ∈ blocks,
    PairedInOrder (fun column value => ⟨column, .ofExpression value⟩) block
      block.generatedKeys
  columns_table : ∀ column ∈ statement.columns,
    statement.tables.head? = some column.table
  conditions_table : ∀ conditions ∈ statement.routeConditions, ∀ condition ∈ conditions,
    statement.tables.head? = some condition.column.table
  keys_table : ∀ key ∈ statement.generatedKeys,
    statement.tables.head? = some key.column.table
  tokens_table : ∀ start name quote, Token.table start name quote ∈ statement.tokens →
    statement.tables.head? = some name

section Effect

variable {clause : SetClause} {table sql : String} {rule : ShardingRule}
  {added : Contribution}

theorem Effect.values_le_columns (heffect : Effect clause table sql rule added) :
    added.row.values.length ≤ added.columns.length := by
  rw [← heffect.values.length_eq, heffect.columns, List.length_map]
  exact heffect.values_le

theorem Effect.table_of_mem_columns (heffect : Effect clause table sql rule added)
    {column : Column} (hmem : column ∈ added.columns) : column.table = table := by
  rw [heffect.columns] at hmem
  obtain ⟨segment, -, rfl⟩ := List.mem_map.1 hmem
  rfl

theorem Effect.table_of_mem_conditions (heffect : Effect clause table sql rule added)
    {condition : Condition} (hmem : condition ∈ added.conditions) :
    condition.column.table = table := by
  obtain ⟨i, -, column, value, hcolumn, -, rfl⟩ := heffect.conditions.mem_iff.1 hmem
  exact heffect.table_of_mem_columns (List.mem_of_getElem? hcolumn)

theorem Effect.table_of_mem_generatedKeys (heffect : Effect clause table sql rule added)
    {key : GeneratedKey} (hmem : key ∈ added.generatedKeys) :
    key.column.table = table := by
  obtain ⟨i, -, column, value, hcolumn, -, rfl⟩ := heffect.generatedKeys.mem_iff.1 hmem
  exact heffect.table_of_mem_columns (List.mem_of_getElem? hcolumn)

/-- The tokens of the qualifiers are tokens of the table. -/
theorem eq_table_of_mem_qualifierTokens {columns : List ColumnSegment}
    {tokens : List Token} (htokens : List.Forall₂ (IsQualifierToken table sql) columns tokens)
    {token : Token} (hmem : token ∈ tokens) :
    ∃ start quote, token = .table start table quote := by
  induction htokens with
  | nil => cases hmem
  | cons htoken hrest ih =>
      rcases List.mem_cons.1 hmem with rfl | hlater
      · obtain ⟨before, first, rest, -, -, rfl⟩ := htoken
        exact ⟨_, _, rfl⟩
      · exact ih hlater

theorem Effect.table_of_mem_tokens (heffect : Effect clause table sql rule added)
    {start : Nat} {name : String} {quote : QuoteStyle}
    (hmem : Token.table start name quote ∈ added.tokens) : name = table := by
  obtain ⟨tableTokens, hall, htokens⟩ := heffect.tokens
  rw [htokens, List.mem_append] at hmem
  rcases hmem with htable | hkeyword
  · obtain ⟨start', quote', hsame⟩ := eq_table_of_mem_qualifierTokens hall htable
    cases hsame
    rfl
  · simp at hkeyword

/-- A block has one token for its keyword. -/
theorem Effect.filter_isInsertValues (heffect : Effect clause table sql rule added) :
    added.tokens.filter Token.isInsertValues = [.insertValues clause.start .set] := by
  obtain ⟨tableTokens, hall, htokens⟩ := heffect.tokens
  -- The tokens of the qualifiers are of the other kind.
  have hnone : tableTokens.filter Token.isInsertValues = [] := by
    rw [List.filter_eq_nil_iff]
    intro token hmem
    obtain ⟨start, quote, rfl⟩ := eq_table_of_mem_qualifierTokens hall hmem
    simp [Token.isInsertValues]
  rw [htokens, List.filter_append, hnone]
  rfl

end Effect

section Alignment

variable {statement : InsertStatement} {requests : List FillRequest}
  {blocks : List Contribution}

/-- Every block is the block of a request on the first table. -/
theorem exists_effect_of_mem {tables : List String}
    (hblocks : List.Forall₂ (IsBlockOf tables) requests blocks) {block : Contribution}
    (hmem : block ∈ blocks) :
    ∃ (request : FillRequest) (table : String), tables.head? = some table ∧
      Effect request.clause table request.sql request.rule block := by
  obtain ⟨request, -, table, hhead, heffect⟩ := exists_mem_of_forall₂_right hblocks hmem
  exact ⟨request, table, hhead, heffect⟩

theorem filter_isInsertValues_flatMap {tables : List String}
    (hblocks : List.Forall₂ (IsBlockOf tables) requests blocks) :
    (blocks.flatMap (·.tokens)).filter Token.isInsertValues =
      requests.map fun request => .insertValues request.clause.start .set := by
  induction hblocks with
  | nil => rfl
  | cons hblock hrest ih =>
      obtain ⟨table, -, heffect⟩ := hblock
      rw [List.flatMap_cons, List.filter_append, heffect.filter_isInsertValues, ih]
      rfl

/-- A statement that consists of blocks is aligned. -/
theorem RowsAligned.of_division
    (hdivision : Division .empty statement requests blocks) :
    RowsAligned statement requests blocks where
  columns := hdivision.columns
  effects := hdivision.effects
  rows := hdivision.rows
  routeConditions := hdivision.routeConditions
  generatedKeys := hdivision.generatedKeys
  keywordTokens := by
    rw [hdivision.tokens]
    exact filter_isInsertValues_flatMap hdivision.effects
  values_le := by
    intro block hmem
    obtain ⟨request, table, -, heffect⟩ := exists_effect_of_mem hdivision.effects hmem
    exact heffect.values_le_columns
  conditions_paired := by
    intro block hmem
    obtain ⟨request, table, -, heffect⟩ := exists_effect_of_mem hdivision.effects hmem
    exact ⟨_, positionsOf_pairwise_lt _ _ _, heffect.conditions⟩
  conditions_evaluable := by
    intro block hmem
    obtain ⟨request, table, -, heffect⟩ := exists_effect_of_mem hdivision.effects hmem
    exact heffect.evaluable
  keys_paired := by
    intro block hmem
    obtain ⟨request, table, -, heffect⟩ := exists_effect_of_mem hdivision.effects hmem
    exact ⟨_, positionsOf_pairwise_lt _ _ _, heffect.generatedKeys⟩
  columns_table := by
    intro column hmem
    rw [hdivision.columns] at hmem
    obtain ⟨block, hblock, hcolumn⟩ := List.mem_flatMap.1 hmem
    obtain ⟨request, table, hhead, heffect⟩ := exists_effect_of_mem hdivision.effects hblock
    rw [hhead, heffect.table_of_mem_columns hcolumn]
  conditions_table := by
    intro conditions hmem condition hcondition
    rw [hdivision.routeConditions] at hmem
    obtain ⟨block, hblock, rfl⟩ := List.mem_map.1 hmem
    obtain ⟨request, table, hhead, heffect⟩ := exists_effect_of_mem hdivision.effects hblock
    rw [hhead, heffect.table_of_mem_conditions hcondition]
  keys_table := by
    intro key hmem
    rw [hdivision.generatedKeys] at hmem
    obtain ⟨block, hblock, hkey⟩ := List.mem_flatMap.1 hmem
    obtain ⟨request, table, hhead, heffect⟩ := exists_effect_of_mem hdivision.effects hblock
    rw [hhead, heffect.table_of_mem_generatedKeys hkey]
  tokens_table := by
    intro start name quote hmem
    rw [hdivision.tokens] at hmem
    obtain ⟨block, hblock, htoken⟩ := List.mem_flatMap.1 hmem
    obtain ⟨request, table, hhead, heffect⟩ := exists_effect_of_mem hdivision.effects hblock
    rw [hhead, heffect.table_of_mem_tokens htoken]

/-- The rows of every statement that is built from a new one are aligned. -/
theorem run_rowsAligned (table? : Option String) (operations : List Operation) :
    ∃ blocks, RowsAligned ((InsertStatement.fresh table?).run operations)
      ((InsertStatement.fresh table?).accepted operations) blocks := by
  obtain ⟨blocks, hdivision⟩ := exists_division_of_run table? operations
  exact ⟨blocks, .of_division hdivision⟩

end Alignment

end InsertRouting
