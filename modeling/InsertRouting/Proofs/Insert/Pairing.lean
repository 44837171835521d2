import InsertRouting.Proofs.Insert.Effect

namespace InsertRouting

/-!
# Columns without a value

The grammar reports a clause entry by entry: a column with its value, or a column
alone.  The clause keeps the columns and the values apart, and the row pairs them
by position again.  A value stays with its column when every entry in front of it
has a value; behind a column without one it goes to a column further to the left.
-/

namespace SetClause

/-- A column of a clause, with the value that is assigned to it if there is one. -/
structure Entry where
  column : ColumnSegment
  value : Option ExpressionSegment

/-- How the grammar reports an entry. -/
def Entry.step (entry : Entry) : Step :=
  match entry.value with
  | some value => .assignment entry.column value
  | none => .column entry.column

/-- The clause that is reported entry by entry. -/
def ofEntries (start : Nat) (entries : List Entry) : SetClause :=
  build start (entries.map Entry.step)

/-- Number of values that are written in front of a position. -/
def valuesBefore (entries : List Entry) (i : Nat) : Nat :=
  (entries.take i).countP (·.value.isSome)

theorem lists_foldl_apply (clause : SetClause) (entries : List Entry) :
    ((entries.map Entry.step).foldl apply clause).columns =
      clause.columns ++ entries.map (·.column) ∧
    ((entries.map Entry.step).foldl apply clause).values =
      clause.values ++ entries.filterMap (·.value) := by
  induction entries generalizing clause with
  | nil => simp
  | cons entry entries ih =>
      rw [List.map_cons, List.foldl_cons]
      obtain ⟨hcolumns, hvalues⟩ := ih (clause.apply entry.step)
      rw [hcolumns, hvalues]
      obtain ⟨column, value⟩ := entry
      cases value with
      | none => simp [Entry.step, apply, addColumn]
      | some value => simp [Entry.step, apply, assign, addColumn, addValue]

theorem columns_ofEntries (start : Nat) (entries : List Entry) :
    (ofEntries start entries).columns = entries.map (·.column) := by
  rw [ofEntries, build, (lists_foldl_apply (empty start) entries).1]
  rfl

theorem values_ofEntries (start : Nat) (entries : List Entry) :
    (ofEntries start entries).values = entries.filterMap (·.value) := by
  rw [ofEntries, build, (lists_foldl_apply (empty start) entries).2]
  rfl

theorem valuesBefore_cons_succ (entry : Entry) (entries : List Entry) (i : Nat) :
    valuesBefore (entry :: entries) (i + 1) =
      valuesBefore entries i + if entry.value.isSome then 1 else 0 := by
  rw [valuesBefore, List.take_succ_cons, List.countP_cons]
  rfl

/-- In front of the position every entry has a value. -/
def AssignedBefore (entries : List Entry) (i : Nat) : Prop :=
  ∀ earlier ∈ entries.take i, earlier.value.isSome = true

/-- No column without a value stands in front of a column with one. -/
def BareColumnsLast (entries : List Entry) : Prop :=
  entries.Pairwise fun earlier later =>
    later.value.isSome = true → earlier.value.isSome = true

/-- Behind entries that all have a value there are as many values as entries. -/
theorem valuesBefore_eq_self {entries : List Entry} {i : Nat} {entry : Entry}
    (hat : entries[i]? = some entry) (hassigned : AssignedBefore entries i) :
    valuesBefore entries i = i := by
  have hi := (List.getElem?_eq_some_iff.1 hat).1
  rw [valuesBefore, List.countP_eq_length.2 hassigned, List.length_take,
    Nat.min_eq_left (Nat.le_of_lt hi)]

theorem BareColumnsLast.assignedBefore {entries : List Entry} (hlast : BareColumnsLast entries)
    {i : Nat} {column : ColumnSegment} {value : ExpressionSegment}
    (hat : entries[i]? = some ⟨column, some value⟩) : AssignedBefore entries i := by
  intro earlier hmem
  obtain ⟨k, hk, rfl⟩ := List.mem_take_iff_getElem.1 hmem
  obtain ⟨hi, hentry⟩ := List.getElem?_eq_some_iff.1 hat
  have hlt : k < i := by omega
  apply List.pairwise_iff_getElem.1 hlast k i (by omega) hi hlt
  rw [hentry]
  rfl

/-- The value of an entry stands behind the values that are written in front of it, and
every value belongs to an entry. -/
theorem getElem?_filterMap_value_iff {entries : List Entry} {j : Nat}
    {value : ExpressionSegment} :
    (entries.filterMap (·.value))[j]? = some value ↔
      ∃ i column, entries[i]? = some ⟨column, some value⟩ ∧ valuesBefore entries i = j := by
  induction entries generalizing j with
  | nil => simp
  | cons entry entries ih =>
      obtain ⟨column, assigned⟩ := entry
      cases assigned with
      | none =>
          -- The head adds no value, so every value keeps its place.
          have hstep (i : Nat) : valuesBefore (⟨column, none⟩ :: entries) (i + 1) =
              valuesBefore entries i := valuesBefore_cons_succ _ entries i
          change (entries.filterMap (·.value))[j]? = some value ↔ _
          rw [ih]
          constructor
          · rintro ⟨i, other, hat, rfl⟩
            exact ⟨i + 1, other, hat, hstep i⟩
          · rintro ⟨i, other, hat, rfl⟩
            cases i with
            | zero => cases hat
            | succ i => exact ⟨i, other, hat, (hstep i).symm⟩
      | some first =>
          change (first :: entries.filterMap (·.value))[j]? = some value ↔ _
          -- The head adds one value, so every other value moves by one.
          have hstep (i : Nat) : valuesBefore (⟨column, some first⟩ :: entries) (i + 1) =
              valuesBefore entries i + 1 := valuesBefore_cons_succ _ entries i
          cases j with
          | zero =>
              constructor
              · intro hfirst
                cases hfirst
                exact ⟨0, column, rfl, rfl⟩
              · rintro ⟨i, other, hat, hcount⟩
                cases i with
                | zero =>
                    cases hat
                    rfl
                | succ i =>
                    rw [hstep] at hcount
                    omega
          | succ j =>
              rw [List.getElem?_cons_succ, ih]
              constructor
              · rintro ⟨i, other, hat, rfl⟩
                exact ⟨i + 1, other, hat, hstep i⟩
              · rintro ⟨i, other, hat, hcount⟩
                cases i with
                | zero => cases hcount
                | succ i =>
                    rw [hstep] at hcount
                    exact ⟨i, other, hat, Nat.succ.inj hcount⟩

end SetClause

open SetClause

/-- Every assignment to a sharding column has its own condition, and every condition
is the own one of some assignment. -/
structure KeepsPairs (entries : List Entry) (table sql : String) (rule : ShardingRule)
    (conditions : List Condition) : Prop where
  own : ∀ column value, ⟨column, some value⟩ ∈ entries →
    rule.isShardingColumn column.name table = true →
    ∃ expression, value.toExpression sql = .ok expression ∧
      ⟨⟨column.name, table⟩, expression⟩ ∈ conditions
  only : ∀ condition ∈ conditions, ∃ column value, ⟨column, some value⟩ ∈ entries ∧
    rule.isShardingColumn column.name table = true ∧
    value.toExpression sql = .ok condition.expression ∧
    condition.column = ⟨column.name, table⟩

/-- How conditions come from the entries of a clause. -/
structure PairedByPosition (entries : List Entry) (table sql : String)
    (rule : ShardingRule) (conditions : List Condition) : Prop where
  /-- A value goes with the column that stands as many columns from the left as there are
  values in front of the value. -/
  mem_iff : ∀ condition, condition ∈ conditions ↔
    ∃ i column value target expression, entries[i]? = some ⟨column, some value⟩ ∧
      entries[valuesBefore entries i]? = some target ∧
      rule.isShardingColumn target.column.name table = true ∧
      value.toExpression sql = .ok expression ∧
      condition = ⟨⟨target.column.name, table⟩, expression⟩
  /-- Behind entries that all have a value, an assignment is kept. -/
  own : ∀ i column value, entries[i]? = some ⟨column, some value⟩ →
    AssignedBefore entries i →
    rule.isShardingColumn column.name table = true →
    ∃ expression, value.toExpression sql = .ok expression ∧
      ⟨⟨column.name, table⟩, expression⟩ ∈ conditions
  /-- When the columns without a value come last, all assignments are kept. -/
  keepsPairs : BareColumnsLast entries → KeepsPairs entries table sql rule conditions

section Pairing

variable {entries : List Entry} {table sql : String} {rule : ShardingRule} {start : Nat}
  {added : Contribution}

theorem mem_conditions_ofEntries_iff
    (heffect : Effect (ofEntries start entries) table sql rule added)
    (condition : Condition) :
    condition ∈ added.conditions ↔
      ∃ i column value target expression, entries[i]? = some ⟨column, some value⟩ ∧
        entries[valuesBefore entries i]? = some target ∧
        rule.isShardingColumn target.column.name table = true ∧
        value.toExpression sql = .ok expression ∧
        condition = ⟨⟨target.column.name, table⟩, expression⟩ := by
  rw [heffect.mem_conditions_iff, columns_ofEntries, values_ofEntries]
  constructor
  · intro hposition
    obtain ⟨j, column, value, expression, hcolumn, hvalue, hsharding, hconverted, rfl⟩ :=
      hposition
    rw [List.getElem?_map, Option.map_eq_some_iff] at hcolumn
    obtain ⟨target, htarget, rfl⟩ := hcolumn
    obtain ⟨i, own, hat, rfl⟩ := getElem?_filterMap_value_iff.1 hvalue
    exact ⟨i, own, value, target, expression, hat, htarget, hsharding, hconverted, rfl⟩
  · intro hentry
    obtain ⟨i, own, value, target, expression, hat, htarget, hsharding, hconverted, rfl⟩ :=
      hentry
    refine ⟨valuesBefore entries i, target.column, value, expression, ?_,
      getElem?_filterMap_value_iff.2 ⟨i, own, hat, rfl⟩, hsharding, hconverted, rfl⟩
    rw [List.getElem?_map, htarget]
    rfl

theorem exists_own_condition
    (heffect : Effect (ofEntries start entries) table sql rule added) {i : Nat}
    {column : ColumnSegment} {value : ExpressionSegment}
    (hat : entries[i]? = some ⟨column, some value⟩)
    (hassigned : AssignedBefore entries i)
    (hsharding : rule.isShardingColumn column.name table = true) :
    ∃ expression, value.toExpression sql = .ok expression ∧
      ⟨⟨column.name, table⟩, expression⟩ ∈ added.conditions := by
  have hvalue : (ofEntries start entries).values[valuesBefore entries i]? = some value := by
    rw [values_ofEntries]
    exact getElem?_filterMap_value_iff.2 ⟨i, column, hat, rfl⟩
  obtain ⟨expression, hconverted⟩ := heffect.exists_expression hvalue
  -- The value is counted by the position of the entry, so the entry is its own target.
  have htarget : entries[valuesBefore entries i]? = some ⟨column, some value⟩ := by
    rw [valuesBefore_eq_self hat hassigned]
    exact hat
  refine ⟨expression, hconverted, (mem_conditions_ofEntries_iff heffect _).2 ?_⟩
  exact ⟨i, column, value, ⟨column, some value⟩, expression, hat, htarget, hsharding,
    hconverted, rfl⟩

theorem keepsPairs_of_bareColumnsLast
    (heffect : Effect (ofEntries start entries) table sql rule added)
    (hlast : BareColumnsLast entries) :
    KeepsPairs entries table sql rule added.conditions := by
  constructor
  · intro column value hentry hsharding
    obtain ⟨i, hi, hget⟩ := List.getElem_of_mem hentry
    have hat : entries[i]? = some ⟨column, some value⟩ := by
      rw [List.getElem?_eq_getElem hi, hget]
    exact exists_own_condition heffect hat (hlast.assignedBefore hat) hsharding
  · intro condition hcondition
    obtain ⟨i, column, value, target, expression, hat, htarget, hsharding, hconverted, rfl⟩ :=
      (mem_conditions_ofEntries_iff heffect condition).1 hcondition
    rw [valuesBefore_eq_self hat (hlast.assignedBefore hat), hat] at htarget
    cases htarget
    exact ⟨column, value, List.mem_of_getElem? hat, hsharding, hconverted, rfl⟩

/-- An accepted clause adds one conjunction of conditions, and they are paired by
position. -/
theorem fill_pairs_by_position {statement : InsertStatement} {catalog : TableCatalog}
    (hok : (fill (ofEntries start entries) statement sql rule catalog).verdict = .ok ()) :
    ∃ table conditions, statement.tables = [table] ∧
      (fill (ofEntries start entries) statement sql rule catalog).statement.routeConditions =
        statement.routeConditions ++ [conditions] ∧
      PairedByPosition entries table sql rule conditions := by
  obtain ⟨table, events, added, htables, hcontribution, hfill⟩ :=
    exists_contribution_of_fill hok
  have heffect := effect_of_contribution hcontribution
  refine ⟨table, added.conditions, htables, ?_, ?_⟩
  · rw [hfill]
    rfl
  · exact ⟨mem_conditions_ofEntries_iff heffect,
      fun _ _ _ => exists_own_condition heffect, keepsPairs_of_bareColumnsLast heffect⟩

end Pairing

/-- The entries of `sampleClause`. -/
def sampleEntries : List Entry :=
  [⟨⟨"ID", some "user", 23⟩, some ⟨.placeholder 0, 35, 35⟩⟩,
    ⟨⟨"name", none, 38⟩, some ⟨.text, 45, 49⟩⟩,
    ⟨⟨"age", some "orders", 52⟩, some ⟨.complex, 65, 69⟩⟩,
    ⟨⟨"pwd_assisted", none, 72⟩, none⟩]

/-- The entries of the sample are accepted, and its only column without a value comes
last. -/
theorem fill_pairs_by_position_sample :
    (fill (ofEntries 19 sampleEntries) (.onTable "user") sampleText sampleRule
      sampleCatalog).verdict = .ok () ∧
    ∃ table conditions, (InsertStatement.onTable "user").tables = [table] ∧
      (fill (ofEntries 19 sampleEntries) (.onTable "user") sampleText sampleRule
        sampleCatalog).statement.routeConditions = [] ++ [conditions] ∧
      PairedByPosition sampleEntries table sampleText sampleRule conditions := by
  have hok : (fill (ofEntries 19 sampleEntries) (.onTable "user") sampleText sampleRule
      sampleCatalog).verdict = .ok () := by rfl
  exact ⟨hok, fill_pairs_by_position hok⟩

def shiftedText : String :=
  "INSERT INTO user SET name_assisted, name = 'bob', id = 3"

/-- The entries of `shiftedText`; the column without a value comes first. -/
def shiftedEntries : List Entry :=
  [⟨⟨"name_assisted", none, 21⟩, none⟩,
    ⟨⟨"name", none, 36⟩, some ⟨.text, 43, 47⟩⟩,
    ⟨⟨"id", none, 50⟩, some ⟨.literal (.integer 3), 55, 55⟩⟩]

/-- Behind a column without a value the clause is accepted all the same, but it is
routed by `name = 3`. -/
theorem shifted_pairs_not_kept :
    (fill (ofEntries 17 shiftedEntries) (.onTable "user") shiftedText sampleRule
      sampleCatalog).verdict = .ok () ∧
    (fill (ofEntries 17 shiftedEntries) (.onTable "user") shiftedText sampleRule
      sampleCatalog).statement.routeConditions =
        [[⟨⟨"name", "user"⟩, .literal (.integer 3)⟩]] ∧
    ¬ KeepsPairs shiftedEntries "user" shiftedText sampleRule
      [⟨⟨"name", "user"⟩, .literal (.integer 3)⟩] := by
  refine ⟨by rfl, by rfl, ?_⟩
  intro hkeeps
  have hbob : (⟨.text, 43, 47⟩ : ExpressionSegment).toExpression shiftedText =
      .ok (.text "'bob'") := by rfl
  obtain ⟨expression, hconverted, hmem⟩ := hkeeps.own ⟨"name", none, 36⟩ ⟨.text, 43, 47⟩
    (by simp [shiftedEntries]) (by rfl)
  rw [hbob] at hconverted
  cases hconverted
  -- The only condition compares `name` with the value that was assigned to `id`.
  cases List.mem_singleton.1 hmem

end InsertRouting
