import InsertRouting.Proofs.Data.Counter
import InsertRouting.Proofs.Insert.Contribution

namespace InsertRouting

/-!
# The effect of an accepted clause

An accepted clause extends every list of the statement at its end.  The columns
and the values of the clause are all there, each value converted, and the
conditions and the generated keys are found by position: the column at a position
goes with the value at the same position.
-/

/-- The positions in front of `count` at which an item passes the test, in order. -/
def positionsOf {α : Type} (test : α → Bool) (items : List α) (count : Nat) : List Nat :=
  (List.range count).filter fun i => items[i]?.any test

/-- The list has one entry for each of the positions, in order, and the entry is
made of the column and the value at that position. -/
def MadeAt {β : Type} (make : Column → Expression → β) (columns : List Column)
    (values : List Expression) (positions : List Nat) (made : List β) : Prop :=
  List.Forall₂
    (fun i entry => ∃ column value, columns[i]? = some column ∧ values[i]? = some value ∧
      entry = make column value)
    positions made

section Positions

variable {α β : Type}

/-- Positions are found from left to right. -/
theorem positionsOf_pairwise_lt (test : α → Bool) (items : List α) (count : Nat) :
    (positionsOf test items count).Pairwise (· < ·) := by
  unfold positionsOf
  exact List.pairwise_lt_range.filter _

theorem mem_positionsOf_iff {test : α → Bool} {items : List α} {count i : Nat} :
    i ∈ positionsOf test items count ↔
      i < count ∧ ∃ item, items[i]? = some item ∧ test item = true := by
  simp only [positionsOf, List.mem_filter, List.mem_range, Option.any_eq_true]

theorem positionsOf_map (test : β → Bool) (f : α → β) (items : List α) (count : Nat) :
    positionsOf test (items.map f) count =
      positionsOf (fun item => test (f item)) items count := by
  unfold positionsOf
  congr 1
  funext i
  rw [List.getElem?_map]
  cases items[i]? <;> rfl

theorem positionsOf_cons (test : α → Bool) (first : α) (rest : List α) (count : Nat) :
    positionsOf test (first :: rest) (count + 1) =
      (if test first then [0] else []) ++ (positionsOf test rest count).map (· + 1) := by
  have hshift : ((List.range count).map Nat.succ).filter
      (fun i => ((first :: rest)[i]?).any test) =
        (positionsOf test rest count).map (· + 1) := by
    rw [List.filter_map]
    rfl
  unfold positionsOf
  rw [List.range_succ_eq_map, List.filter_cons, hshift]
  by_cases hpasses : test first = true <;> simp [hpasses, positionsOf]

theorem MadeAt.cons {make : Column → Expression → β} {columns : List Column}
    {values : List Expression} {positions : List Nat} {made : List β}
    (hmade : MadeAt make columns values positions made) (column : Column)
    (value : Expression) :
    MadeAt make (column :: columns) (value :: values) (positions.map (· + 1)) made := by
  unfold MadeAt
  rw [List.forall₂_map_left_iff]
  exact hmade

/-- Going through the pairs in order and making an entry for each column that
passes a test gives the entries at the positions of these columns. -/
theorem madeAt_filterMap_zip (test : Column → Bool) (make : Column → Expression → β)
    {columns : List Column} {values : List Expression}
    (hle : values.length ≤ columns.length) :
    MadeAt make columns values (positionsOf test columns values.length)
      ((columns.zip values).filterMap fun pair =>
        if test pair.1 then some (make pair.1 pair.2) else none) := by
  induction columns generalizing values with
  | nil =>
      obtain rfl := List.eq_nil_of_length_eq_zero (Nat.le_zero.1 hle)
      exact .nil
  | cons column columns ih =>
      cases values with
      | nil => exact .nil
      | cons value values =>
          have hrest := (ih (Nat.le_of_succ_le_succ hle)).cons column value
          rw [List.length_cons, positionsOf_cons, List.zip_cons_cons, List.filterMap_cons]
          by_cases hpasses : test column = true
          · simp only [hpasses, if_true, List.cons_append, List.nil_append]
            exact List.Forall₂.cons ⟨column, value, rfl, rfl, rfl⟩ hrest
          · simpa only [hpasses, Bool.false_eq_true, if_false, List.nil_append] using hrest

theorem MadeAt.mem_iff {make : Column → Expression → β} {columns : List Column}
    {values : List Expression} {positions : List Nat} {made : List β}
    (hmade : MadeAt make columns values positions made) {entry : β} :
    entry ∈ made ↔ ∃ i ∈ positions, ∃ column value, columns[i]? = some column ∧
      values[i]? = some value ∧ entry = make column value := by
  unfold MadeAt at hmade
  induction hmade with
  | nil => simp
  | @cons position first positions made hfirst hrest ih =>
      rw [List.mem_cons, ih]
      obtain ⟨column, value, hcolumn, hvalue, rfl⟩ := hfirst
      constructor
      · rintro (rfl | ⟨i, hi, hmade⟩)
        · exact ⟨position, List.mem_cons_self, column, value, hcolumn, hvalue, rfl⟩
        · exact ⟨i, List.mem_cons_of_mem position hi, hmade⟩
      · rintro ⟨i, hi, other, otherValue, hother, hotherValue, rfl⟩
        rcases List.mem_cons.1 hi with rfl | hi
        · -- The column and the value at a position are unique.
          left
          rw [hcolumn] at hother
          rw [hvalue] at hotherValue
          cases hother
          cases hotherValue
          rfl
        · right
          exact ⟨i, hi, other, otherValue, hother, hotherValue, rfl⟩

end Positions

/-- What an accepted clause adds to a statement on a table. -/
structure Effect (clause : SetClause) (table sql : String) (rule : ShardingRule)
    (added : Contribution) : Prop where
  /-- Every column of the clause is bound to the table, whatever its qualifier. -/
  columns : added.columns = clause.columns.map fun column => ⟨column.name, table⟩
  keyword : added.row.keyword = .set
  parametersCount : added.row.parametersCount = clause.parametersCount
  /-- Every value of the clause is converted, in order. -/
  values : List.Forall₂ (fun segment value => segment.toExpression sql = .ok value)
    clause.values added.row.values
  /-- There is a column for every value. -/
  values_le : clause.values.length ≤ clause.columns.length
  /-- One condition for each sharding column that has a value. -/
  conditions : MadeAt Condition.mk added.columns added.row.values
    (positionsOf (fun column => rule.isShardingColumn column.name table) clause.columns
      clause.values.length)
    added.conditions
  /-- The values of the conditions can be evaluated. -/
  evaluable : ∀ condition ∈ added.conditions, ∀ source,
    condition.expression ≠ .ignored source
  /-- One generated key for each column with a value that is named like the column of
  the key generator. -/
  generatedKeys : MadeAt (fun column value => ⟨column, .ofExpression value⟩)
    added.columns added.row.values
    (positionsOf (fun column => (rule.generateKeyColumn? table).any
      (Text.sameExceptAsciiCase · column.name)) clause.columns clause.values.length)
    added.generatedKeys
  /-- One token for each qualifier that names the table, and one for the keyword. -/
  tokens : ∃ tableTokens,
    List.Forall₂ (IsQualifierToken table sql)
      (clause.columns.filter fun column => column.owner = some table) tableTokens ∧
    added.tokens = tableTokens ++ [.insertValues clause.start .set]

section Effect

variable {clause : SetClause} {table sql : String} {rule : ShardingRule}
  {catalog : TableCatalog}

/-- The pairs of a bound row are all pairs of a column and a converted value. -/
theorem exists_expressions_of_bindRow_zip {keyColumn : Option String}
    {columns : List Column} {segments : List ExpressionSegment} {values : List BoundValue}
    (hle : segments.length ≤ columns.length)
    (hrow : bindRow rule keyColumn sql (columns.zip segments) = .ok values) :
    ∃ expressions,
      List.Forall₂ (fun segment value => segment.toExpression sql = .ok value)
        segments expressions ∧
      values = (columns.zip expressions).map fun pair =>
        boundValue rule keyColumn pair.1 pair.2 := by
  rw [bindRow_eq_ok_iff] at hrow
  induction columns generalizing segments values with
  | nil =>
      obtain rfl := List.eq_nil_of_length_eq_zero (Nat.le_zero.1 hle)
      obtain rfl := List.forall₂_nil_left_iff.1 hrow
      exact ⟨[], .nil, rfl⟩
  | cons column columns ih =>
      cases segments with
      | nil =>
          obtain rfl := List.forall₂_nil_left_iff.1 hrow
          exact ⟨[], .nil, rfl⟩
      | cons segment segments =>
          rw [List.zip_cons_cons, List.forall₂_cons_left_iff] at hrow
          obtain ⟨value, rest, hvalue, hrest, rfl⟩ := hrow
          obtain ⟨expression, hconverted, -, rfl⟩ := bindValue_eq_ok_iff.1 hvalue
          obtain ⟨expressions, hall, rfl⟩ := ih (Nat.le_of_succ_le_succ hle) hrest
          exact ⟨expression :: expressions, .cons hconverted hall, rfl⟩

theorem evaluable_of_bindRow {keyColumn : Option String}
    {pairs : List (Column × ExpressionSegment)} {values : List BoundValue}
    (hrow : bindRow rule keyColumn sql pairs = .ok values) {condition : Condition}
    (hmem : condition ∈ values.filterMap (·.condition)) (source : String) :
    condition.expression ≠ .ignored source := by
  rw [bindRow_eq_ok_iff] at hrow
  induction hrow with
  | nil => cases hmem
  | @cons pair value pairs values hvalue hrest ih =>
      obtain ⟨expression, hconverted, hroutable, rfl⟩ := bindValue_eq_ok_iff.1 hvalue
      rw [List.filterMap_cons] at hmem
      unfold boundValue at hmem
      by_cases hsharding : rule.isShardingColumn pair.1.name pair.1.table = true
      · simp only [hsharding, if_true, List.mem_cons] at hmem
        -- Only the condition of a sharding column is new, and its value was judged.
        rcases hmem with rfl | hlater
        · exact ExpressionSegment.ne_ignored_of_isRoutable (hroutable hsharding)
            hconverted source
        · exact ih hlater
      · simp only [hsharding, Bool.false_eq_true, if_false] at hmem
        exact ih hmem

theorem effect_of_contribution {events : List Event} {added : Contribution}
    (haccepted : contribution clause table sql rule catalog = ⟨events, .ok added⟩) :
    Effect clause table sql rule added := by
  obtain ⟨-, hcount, tokens, values, htokens, hrow, rfl⟩ :=
    contribution_eq_ok_iff.1 haccepted
  have hle : clause.values.length ≤ clause.columns.length := by
    rw [hcount]
    exact expectedValues_le_length clause table rule catalog
  -- There is a column for every value, so pairing them drops no value.
  have hbound : clause.values.length ≤ (clause.boundColumns table).length := by
    rw [length_boundColumns]
    exact hle
  obtain ⟨expressions, hall, hvalues⟩ := exists_expressions_of_bindRow_zip hbound hrow
  have hlength : expressions.length = clause.values.length := hall.length_eq.symm
  have hexpressions : values.map (·.expression) = expressions := by
    rw [hvalues, List.map_map]
    exact List.map_snd_zip (by omega)
  have hpaired : expressions.length ≤ (clause.boundColumns table).length := by
    rw [hlength]
    exact hbound
  refine ⟨rfl, rfl, rfl, ?_, hle, ?_, ?_, ?_, tokens, forall₂_of_qualifierTokens htokens, rfl⟩
  · change List.Forall₂ _ clause.values (values.map (·.expression))
    rw [hexpressions]
    exact hall
  · change MadeAt Condition.mk (clause.boundColumns table) (values.map (·.expression)) _
      (values.filterMap (·.condition))
    rw [hexpressions, hvalues, List.filterMap_map, ← hlength]
    have hconditions := madeAt_filterMap_zip
      (fun column => rule.isShardingColumn column.name column.table) Condition.mk hpaired
    rw [SetClause.boundColumns, positionsOf_map] at hconditions
    exact hconditions
  · intro condition hmem
    exact evaluable_of_bindRow hrow hmem
  · change MadeAt _ (clause.boundColumns table) (values.map (·.expression)) _
      (values.filterMap (·.generatedKey))
    rw [hexpressions, hvalues, List.filterMap_map, ← hlength]
    have hkeys := madeAt_filterMap_zip (fillsKey (rule.generateKeyColumn? table))
      (fun column value => (⟨column, .ofExpression value⟩ : GeneratedKey)) hpaired
    rw [SetClause.boundColumns, positionsOf_map] at hkeys
    exact hkeys

/-- The parameters of an accepted clause are counted on top of those of the statement. -/
theorem countsTo_parametersIndex_fill {statement : InsertStatement}
    (hok : (fill clause statement sql rule catalog).verdict = .ok ()) :
    CountsTo (fill clause statement sql rule catalog).statement.parametersIndex
      (statement.parametersIndex.toNat + clause.parametersCount.toNat) := by
  obtain ⟨table, events, added, -, hcontribution, hfill⟩ := exists_contribution_of_fill hok
  have heffect := effect_of_contribution hcontribution
  rw [hfill, InsertStatement.append, heffect.parametersCount]
  exact (countsTo_toNat _).add (countsTo_toNat _)

/-- An accepted clause changes a statement by its effect, at the end of every list, and
in no other way.  The counter of the statement goes up by the count of the clause: modulo
the size of a word, and by exactly that as long as the sum fits a word. -/
theorem fill_extends {statement : InsertStatement}
    (hok : (fill clause statement sql rule catalog).verdict = .ok ()) :
    ∃ table added, statement.tables = [table] ∧ Effect clause table sql rule added ∧
      (fill clause statement sql rule catalog).statement =
        { tables := statement.tables
          columns := statement.columns ++ added.columns
          rows := statement.rows ++ [added.row]
          routeConditions := statement.routeConditions ++ [added.conditions]
          generatedKeys := statement.generatedKeys ++ added.generatedKeys
          tokens := statement.tokens ++ added.tokens
          parametersIndex := statement.parametersIndex + clause.parametersCount } ∧
      CountsTo (fill clause statement sql rule catalog).statement.parametersIndex
        (statement.parametersIndex.toNat + clause.parametersCount.toNat) := by
  obtain ⟨table, events, added, htables, hcontribution, hfill⟩ :=
    exists_contribution_of_fill hok
  have heffect := effect_of_contribution hcontribution
  refine ⟨table, added, htables, heffect, ?_, countsTo_parametersIndex_fill hok⟩
  rw [hfill, InsertStatement.append, heffect.parametersCount]

theorem Effect.exists_expression {added : Contribution}
    (heffect : Effect clause table sql rule added) {i : Nat} {segment : ExpressionSegment}
    (hsegment : clause.values[i]? = some segment) :
    ∃ expression, segment.toExpression sql = .ok expression := by
  obtain ⟨hlt, rfl⟩ := List.getElem?_eq_some_iff.1 hsegment
  have hvalues := List.forall₂_iff_get.1 heffect.values
  exact ⟨_, hvalues.2 i hlt (by rw [← hvalues.1]; exact hlt)⟩

/-- The conditions of an accepted clause are the pairs of a sharding column and the
value at the same position. -/
theorem Effect.mem_conditions_iff {added : Contribution}
    (heffect : Effect clause table sql rule added) {condition : Condition} :
    condition ∈ added.conditions ↔
      ∃ (i : Nat) (column : ColumnSegment) (segment : ExpressionSegment)
          (expression : Expression),
        clause.columns[i]? = some column ∧ clause.values[i]? = some segment ∧
        rule.isShardingColumn column.name table = true ∧
        segment.toExpression sql = .ok expression ∧
        condition = ⟨⟨column.name, table⟩, expression⟩ := by
  have hvalues := List.forall₂_iff_get.1 heffect.values
  rw [heffect.conditions.mem_iff, heffect.columns]
  constructor
  · intro hmade
    obtain ⟨i, hi, bound, expression, hbound, hexpression, rfl⟩ := hmade
    obtain ⟨hlt, column, hcolumn, hsharding⟩ := mem_positionsOf_iff.1 hi
    rw [List.getElem?_map, hcolumn, Option.map_some, Option.some_inj] at hbound
    obtain ⟨hi', hat⟩ := List.getElem?_eq_some_iff.1 hexpression
    have hconverted := hvalues.2 i hlt hi'
    rw [List.get_eq_getElem, List.get_eq_getElem, hat] at hconverted
    exact ⟨i, column, clause.values[i], expression, hcolumn, List.getElem?_eq_getElem hlt,
      hsharding, hconverted, by rw [← hbound]⟩
  · intro hpaired
    obtain ⟨i, column, segment, expression, hcolumn, hsegment, hsharding, hconverted, rfl⟩ :=
      hpaired
    obtain ⟨hlt, hat⟩ := List.getElem?_eq_some_iff.1 hsegment
    have hi' : i < added.row.values.length := by
      rw [← hvalues.1]
      exact hlt
    have hother := hvalues.2 i hlt hi'
    rw [List.get_eq_getElem, List.get_eq_getElem, hat, hconverted] at hother
    refine ⟨i, mem_positionsOf_iff.2 ⟨hlt, column, hcolumn, hsharding⟩, ⟨column.name, table⟩,
      expression, ?_, ?_, rfl⟩
    · rw [List.getElem?_map, hcolumn]
      rfl
    · rw [List.getElem?_eq_getElem hi', ← Except.ok.inj hother]

end Effect

/-- Rows of the table `user` are stored by `name`, and `id` is filled by the key
generator.  Encryption adds one column. -/
def sampleRule : ShardingRule where
  isShardingColumn column table := column == "name" && table == "user"
  generateKeyColumn? _ := some "id"
  assistedQueryColumns? _ := some 1

/-- A catalog that knows no table. -/
def sampleCatalog : TableCatalog where
  containsTable _ := false
  columnCount _ := 0

def sampleText : String :=
  "INSERT INTO `user` SET `user`.ID = ?, name = 'bob', orders.age = 1 + 2, pwd_assisted"

/-- The clause of `sampleText`; its last column has no value. -/
def sampleClause : SetClause where
  columns := [⟨"ID", some "user", 23⟩, ⟨"name", none, 38⟩, ⟨"age", some "orders", 52⟩,
    ⟨"pwd_assisted", none, 72⟩]
  values := [⟨.placeholder 0, 35, 35⟩, ⟨.text, 45, 49⟩, ⟨.complex, 65, 69⟩]
  parametersCount := 1
  start := 19

/-- The clause of the sample is accepted, so the statement grows by its effect. -/
theorem fill_extends_sample :
    (fill sampleClause (.onTable "user") sampleText sampleRule sampleCatalog).verdict =
      .ok () ∧
    ∃ table added, (InsertStatement.onTable "user").tables = [table] ∧
      Effect sampleClause table sampleText sampleRule added ∧
      (fill sampleClause (.onTable "user") sampleText sampleRule sampleCatalog).statement =
        { tables := ["user"]
          columns := [] ++ added.columns
          rows := [] ++ [added.row]
          routeConditions := [] ++ [added.conditions]
          generatedKeys := [] ++ added.generatedKeys
          tokens := [] ++ added.tokens
          parametersIndex := 0 + 1 } ∧
      CountsTo (fill sampleClause (.onTable "user") sampleText sampleRule
        sampleCatalog).statement.parametersIndex (0 + 1) := by
  have hok : (fill sampleClause (.onTable "user") sampleText sampleRule
      sampleCatalog).verdict = .ok () := by rfl
  exact ⟨hok, fill_extends hok⟩

/-- A sum that does not fit a word wraps around. -/
example :
    let statement : InsertStatement :=
      { InsertStatement.onTable "user" with parametersIndex := 18446744073709551615 }
    (fill (sampleClause.withParametersCount 18446744073709551615) statement sampleText
      sampleRule sampleCatalog).statement.parametersIndex = 18446744073709551614 := by rfl

end InsertRouting
