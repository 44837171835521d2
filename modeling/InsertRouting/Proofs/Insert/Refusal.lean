import InsertRouting.Proofs.Insert.Contribution

namespace InsertRouting

/-!
# Refused clauses

A clause can have several faults at once.  They are looked for in a fixed order:
the table of the statement, the qualifiers, the number of values, and then the
values from left to right, where reading a value comes before judging it.  The
first fault decides the error and the log, and the statement stays as it was.
-/

/-- Something is wrong with the value at a position. -/
def FaultAt (clause : SetClause) (table sql : String) (rule : ShardingRule) (i : Nat)
    (error : FillError) (events : List Event) : Prop :=
  ∃ column segment, clause.columns[i]? = some column ∧ clause.values[i]? = some segment ∧
    ValueFault rule sql ⟨column.name, table⟩ segment error events

/-- The cases in which a clause is refused, each with its error and its events.  A case
excludes the ones above it. -/
inductive Refusal (clause : SetClause) (statement : InsertStatement) (sql : String)
    (rule : ShardingRule) (catalog : TableCatalog) : FillError → List Event → Prop
  /-- The statement does not have exactly one table. -/
  | noSingleTable (htables : ∀ table, statement.tables ≠ [table]) :
      Refusal clause statement sql rule catalog .noSingleTable []
  /-- The first qualifier that names the table without standing in the text. -/
  | qualifier (table : String) (i : Nat) (column : ColumnSegment)
      (htables : statement.tables = [table])
      (hfirst : IsFirst (QualifierFault table sql) clause.columns i column) :
      Refusal clause statement sql rule catalog
        (.expressionSpan column.start column.start) []
  /-- Too few or too many values. -/
  | valueCount (table : String) (htables : statement.tables = [table])
      (hqualifiers : ∀ column ∈ clause.columns, ¬ QualifierFault table sql column)
      (hcount : clause.values.length ≠ clause.expectedValues table rule catalog) :
      Refusal clause statement sql rule catalog
        (.valueCountMismatch (clause.expectedValues table rule catalog)
          clause.values.length)
        [boundColumnsEvent clause table,
          valueCountEvent table (clause.expectedValues table rule catalog)
            clause.values.length]
  /-- The first value with a fault. -/
  | value (table : String) (i : Nat) (error : FillError) (events : List Event)
      (htables : statement.tables = [table])
      (hqualifiers : ∀ column ∈ clause.columns, ¬ QualifierFault table sql column)
      (hcount : clause.values.length = clause.expectedValues table rule catalog)
      (hfault : FaultAt clause table sql rule i error events)
      (hleast : ∀ j < i, ∀ other otherEvents,
        ¬ FaultAt clause table sql rule j other otherEvents) :
      Refusal clause statement sql rule catalog error
        (boundColumnsEvent clause table :: events)

section Refusal

variable {clause : SetClause} {table sql : String} {rule : ShardingRule}
  {catalog : TableCatalog} {statement : InsertStatement}

/-- The pair at a position is the column and the value at that position. -/
theorem getElem?_zip_boundColumns {i : Nat} {pair : Column × ExpressionSegment} :
    ((clause.boundColumns table).zip clause.values)[i]? = some pair ↔
      ∃ column segment, clause.columns[i]? = some column ∧
        clause.values[i]? = some segment ∧ pair = (⟨column.name, table⟩, segment) := by
  rw [List.getElem?_zip_eq_some, SetClause.boundColumns, List.getElem?_map,
    Option.map_eq_some_iff]
  constructor
  · rintro ⟨⟨column, hcolumn, hbound⟩, hsegment⟩
    exact ⟨column, pair.2, hcolumn, hsegment, by rw [hbound]⟩
  · rintro ⟨column, segment, hcolumn, hsegment, rfl⟩
    exact ⟨⟨column, hcolumn, rfl⟩, hsegment⟩

/-- The first faulty pair is the pair at the least position with a fault. -/
theorem exists_isFirst_pair_iff {error : FillError} {events : List Event} :
    (∃ i pair, IsFirst (PairFault rule sql)
        ((clause.boundColumns table).zip clause.values) i pair ∧
        ValueFault rule sql pair.1 pair.2 error events) ↔
      ∃ i, FaultAt clause table sql rule i error events ∧
        ∀ j < i, ∀ other otherEvents,
          ¬ FaultAt clause table sql rule j other otherEvents := by
  constructor
  · intro hpairs
    obtain ⟨i, pair, ⟨hat, -, hbefore⟩, hfault⟩ := hpairs
    obtain ⟨column, segment, hcolumn, hsegment, rfl⟩ := getElem?_zip_boundColumns.1 hat
    refine ⟨i, ⟨column, segment, hcolumn, hsegment, hfault⟩, ?_⟩
    rintro j hlt other otherEvents ⟨column', segment', hcolumn', hsegment', hfault'⟩
    exact hbefore j _ hlt
      (getElem?_zip_boundColumns.2 ⟨column', segment', hcolumn', hsegment', rfl⟩)
      ⟨other, otherEvents, hfault'⟩
  · intro hposition
    obtain ⟨i, ⟨column, segment, hcolumn, hsegment, hfault⟩, hleast⟩ := hposition
    refine ⟨i, (⟨column.name, table⟩, segment),
      ⟨getElem?_zip_boundColumns.2 ⟨column, segment, hcolumn, hsegment, rfl⟩,
        ⟨error, events, hfault⟩, ?_⟩, hfault⟩
    rintro j earlier hlt hearlier ⟨other, otherEvents, hfault'⟩
    obtain ⟨column', segment', hcolumn', hsegment', rfl⟩ :=
      getElem?_zip_boundColumns.1 hearlier
    exact hleast j hlt other otherEvents
      ⟨column', segment', hcolumn', hsegment', hfault'⟩

/-- Without a fault among the qualifiers there is a token for each of them. -/
theorem exists_qualifierTokens
    (hqualifiers : ∀ column ∈ clause.columns, ¬ QualifierFault table sql column) :
    ∃ tokens, qualifierTokens table sql clause.columns = .ok tokens := by
  cases htokens : qualifierTokens table sql clause.columns with
  | ok tokens => exact ⟨tokens, rfl⟩
  | error error =>
      obtain ⟨i, column, ⟨hat, hfault, -⟩, -⟩ := qualifierTokens_eq_error_iff.1 htokens
      exact absurd hfault (hqualifiers column (List.mem_of_getElem? hat))

/-- Each case refuses the clause with its error and its events, and leaves the
statement alone. -/
theorem fill_of_refusal {error : FillError} {events : List Event}
    (hrefusal : Refusal clause statement sql rule catalog error events) :
    fill clause statement sql rule catalog = ⟨statement, .error error, events⟩ := by
  cases hrefusal with
  | noSingleTable htables => exact fill_of_no_single_table htables
  | qualifier table i column htables hfirst =>
      apply fill_of_refused htables
      exact contribution_of_qualifier_error
        (qualifierTokens_eq_error_iff.2 ⟨i, column, hfirst, rfl⟩)
  | valueCount table htables hqualifiers hcount =>
      obtain ⟨tokens, htokens⟩ := exists_qualifierTokens hqualifiers
      exact fill_of_refused htables (contribution_of_count_ne htokens hcount)
  | value table i error events htables hqualifiers hcount hfault hleast =>
      obtain ⟨tokens, htokens⟩ := exists_qualifierTokens hqualifiers
      have hrow : bindRow rule (rule.generateKeyColumn? table) sql
          ((clause.boundColumns table).zip clause.values) = ⟨events, .error error⟩ :=
        bindRow_eq_error_iff.2 (exists_isFirst_pair_iff.2 ⟨i, hfault, hleast⟩)
      apply fill_of_refused htables
      rw [contribution_of_count_eq htokens hcount, Logged.bind_ok_eq_error_iff.2 hrow]

/-- Apart from these cases the clause contributes to the table of the statement. -/
theorem exists_refusal_or_contribution (clause : SetClause) (statement : InsertStatement)
    (sql : String) (rule : ShardingRule) (catalog : TableCatalog) :
    (∃ error events, Refusal clause statement sql rule catalog error events) ∨
      ∃ table added, statement.tables = [table] ∧
        contribution clause table sql rule catalog =
          ⟨[boundColumnsEvent clause table], .ok added⟩ := by
  -- The stages are taken in the order in which their faults are looked for.
  by_cases htables : ∃ table, statement.tables = [table]
  · obtain ⟨table, htables⟩ := htables
    cases htokens : qualifierTokens table sql clause.columns with
    | error error =>
        obtain ⟨i, column, hfirst, -⟩ := qualifierTokens_eq_error_iff.1 htokens
        exact .inl ⟨_, _, .qualifier table i column htables hfirst⟩
    | ok tokens =>
        have hqualifiers : ∀ column ∈ clause.columns, ¬ QualifierFault table sql column :=
          fun column hmem => not_qualifierFault_of_qualifierTokens htokens hmem
        by_cases hcount : clause.values.length = clause.expectedValues table rule catalog
        · rcases bindRow_cases rule (rule.generateKeyColumn? table) sql
              ((clause.boundColumns table).zip clause.values) with
            ⟨values, hrow⟩ | ⟨error, events, hrow⟩
          · right
            exact ⟨table, _, htables, contribution_eq_ok_iff.2
              ⟨rfl, hcount, tokens, values, htokens, hrow, rfl⟩⟩
          · obtain ⟨i, hfault, hleast⟩ :=
              exists_isFirst_pair_iff.1 (bindRow_eq_error_iff.1 hrow)
            exact .inl ⟨_, _,
              .value table i error events htables hqualifiers hcount hfault hleast⟩
        · exact .inl ⟨_, _, .valueCount table htables hqualifiers hcount⟩
  · exact .inl ⟨_, _, .noSingleTable fun table htable => htables ⟨table, htable⟩⟩

/-- A clause is refused exactly in the listed cases, with the statement as it was and
the log of the case.  An accepted clause logs its columns and nothing else, and the
expected number of values never exceeds the number of columns. -/
theorem fill_refused_iff (clause : SetClause) (statement : InsertStatement) (sql : String)
    (rule : ShardingRule) (catalog : TableCatalog) :
    (∀ error, (fill clause statement sql rule catalog).verdict = .error error ↔
      ∃ events, Refusal clause statement sql rule catalog error events) ∧
    (∀ error events, Refusal clause statement sql rule catalog error events →
      fill clause statement sql rule catalog = ⟨statement, .error error, events⟩) ∧
    ((fill clause statement sql rule catalog).verdict = .ok () →
      ∃ table, statement.tables = [table] ∧
        (fill clause statement sql rule catalog).events =
          [boundColumnsEvent clause table]) ∧
    (∀ table, clause.expectedValues table rule catalog ≤ clause.columns.length) := by
  refine ⟨fun error => ⟨?_, ?_⟩, fun error events => fill_of_refusal, ?_,
    fun table => expectedValues_le_length clause table rule catalog⟩
  · intro hrefused
    rcases exists_refusal_or_contribution clause statement sql rule catalog with
      ⟨other, events, hrefusal⟩ | ⟨table, added, htables, haccepted⟩
    · rw [fill_of_refusal hrefusal] at hrefused
      cases hrefused
      exact ⟨events, hrefusal⟩
    · rw [fill_of_accepted htables haccepted] at hrefused
      cases hrefused
  · intro hlisted
    obtain ⟨events, hrefusal⟩ := hlisted
    rw [fill_of_refusal hrefusal]
  · intro hok
    rcases exists_refusal_or_contribution clause statement sql rule catalog with
      ⟨error, events, hrefusal⟩ | ⟨table, added, htables, haccepted⟩
    · rw [fill_of_refusal hrefusal] at hok
      cases hok
    · exact ⟨table, htables, by rw [fill_of_accepted htables haccepted]⟩

end Refusal

end InsertRouting
