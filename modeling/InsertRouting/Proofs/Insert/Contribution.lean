import InsertRouting.Proofs.Insert.BoundRow

namespace InsertRouting

/-!
# The stages of a contribution

What a clause adds is found in three stages: the qualifiers of the columns, the
number of values, the row.  The statements below give the outcome of each stage
in terms of the clause and the text alone, and put the stages together.
-/

/-- The qualifier of a column names the table, but no character of the text starts
where the qualifier is said to start. -/
def QualifierFault (table sql : String) (column : ColumnSegment) : Prop :=
  column.owner = some table ∧
    (sql.utf8ByteSize ≤ column.start ∨ ¬ Text.IsBoundary column.start sql.toList)

/-- The token of a column that is qualified with the table: it stands at the first
character of the qualifier, and that character tells how the name is quoted. -/
def IsQualifierToken (table sql : String) (column : ColumnSegment) (token : Token) : Prop :=
  ∃ before first rest, sql.toList = before ++ first :: rest ∧
    Text.byteLength before = column.start ∧
    token = .table column.start table (QuoteStyle.ofFirst first)

section Qualifiers

variable {table sql : String}

theorem IsQualifierToken.not_fault {column : ColumnSegment} {token : Token}
    (htoken : IsQualifierToken table sql column token) :
    ¬ QualifierFault table sql column := by
  obtain ⟨before, first, rest, htext, hbefore, -⟩ := htoken
  obtain ⟨hlt, hboundary⟩ :=
    Text.exists_first_iff.1 ⟨before, first, rest, htext, hbefore⟩
  rw [Text.byteLength_toList] at hlt
  rintro ⟨-, hout | hinside⟩
  · omega
  · exact hinside hboundary

theorem qualifierToken?_cases (table sql : String) (column : ColumnSegment) :
    (column.owner ≠ some table ∧ qualifierToken? table sql column = .ok none) ∨
    (column.owner = some table ∧ ∃ token, IsQualifierToken table sql column token ∧
      qualifierToken? table sql column = .ok (some token)) ∨
    (QualifierFault table sql column ∧
      qualifierToken? table sql column =
        .error (.expressionSpan column.start column.start)) := by
  by_cases howner : column.owner = some table
  · right
    by_cases hfirst : ∃ before first rest, sql.toList = before ++ first :: rest ∧
        Text.byteLength before = column.start
    · left
      obtain ⟨before, first, rest, htext, hbefore⟩ := hfirst
      refine ⟨howner, .table column.start table (QuoteStyle.ofFirst first),
        ⟨before, first, rest, htext, hbefore, rfl⟩, ?_⟩
      rw [qualifierToken?, if_pos howner,
        Text.splitAtByte?_eq_some_iff.2 ⟨htext, hbefore⟩]
      rfl
    · right
      refine ⟨⟨howner, ?_⟩, ?_⟩
      · rw [Text.exists_first_iff, Text.byteLength_toList] at hfirst
        by_cases hlt : column.start < sql.utf8ByteSize
        · exact .inr fun hboundary => hfirst ⟨hlt, hboundary⟩
        · exact .inl (Nat.le_of_not_lt hlt)
      · rw [qualifierToken?, if_pos howner]
        -- A cut that succeeds would show the character that is missing.
        split
        · rename_i before first rest hcut
          obtain ⟨htext, hbefore⟩ := Text.splitAtByte?_eq_some_iff.1 hcut
          exact absurd ⟨before, first, rest, htext, hbefore⟩ hfirst
        · rfl
  · left
    exact ⟨howner, by rw [qualifierToken?, if_neg howner]⟩

theorem qualifierTokens_cons_of_ok {column : ColumnSegment} {token : Option Token}
    (htoken : qualifierToken? table sql column = .ok token) (rest : List ColumnSegment) :
    qualifierTokens table sql (column :: rest) =
      (qualifierTokens table sql rest).map fun tokens => token.toList ++ tokens := by
  rw [qualifierTokens, htoken]
  dsimp only
  cases qualifierTokens table sql rest <;> rfl

theorem exists_qualifierTokens_rest {column : ColumnSegment} {token : Option Token}
    {rest : List ColumnSegment} {tokens : List Token}
    (htoken : qualifierToken? table sql column = .ok token)
    (htokens : qualifierTokens table sql (column :: rest) = .ok tokens) :
    ∃ others, qualifierTokens table sql rest = .ok others ∧
      tokens = token.toList ++ others := by
  rw [qualifierTokens_cons_of_ok htoken] at htokens
  cases hrest : qualifierTokens table sql rest with
  | error error =>
      rw [hrest] at htokens
      cases htokens
  | ok others =>
      rw [hrest] at htokens
      cases htokens
      exact ⟨others, rfl, rfl⟩

/-- Every qualifier of the table has its token. -/
theorem forall₂_of_qualifierTokens {columns : List ColumnSegment} {tokens : List Token}
    (htokens : qualifierTokens table sql columns = .ok tokens) :
    List.Forall₂ (IsQualifierToken table sql)
      (columns.filter fun column => column.owner = some table) tokens := by
  induction columns generalizing tokens with
  | nil =>
      cases htokens
      exact .nil
  | cons column rest ih =>
      rcases qualifierToken?_cases table sql column with
        ⟨howner, htoken⟩ | ⟨howner, token, hplace, htoken⟩ | ⟨-, herror⟩
      · obtain ⟨others, hrest, rfl⟩ := exists_qualifierTokens_rest htoken htokens
        -- The column is filtered out, and it has no token.
        simpa [howner] using ih hrest
      · obtain ⟨others, hrest, rfl⟩ := exists_qualifierTokens_rest htoken htokens
        simpa [howner] using List.Forall₂.cons hplace (ih hrest)
      · rw [qualifierTokens, herror] at htokens
        cases htokens

theorem not_qualifierFault_of_qualifierTokens {columns : List ColumnSegment}
    {tokens : List Token} (htokens : qualifierTokens table sql columns = .ok tokens)
    {column : ColumnSegment} (hmem : column ∈ columns) :
    ¬ QualifierFault table sql column := by
  intro hfault
  have hkept : column ∈ columns.filter fun column => column.owner = some table := by
    simp [hmem, hfault.1]
  obtain ⟨i, hi, hat⟩ := List.getElem_of_mem hkept
  have hall := List.forall₂_iff_get.1 (forall₂_of_qualifierTokens htokens)
  have htoken := hall.2 i hi (by rw [← hall.1]; exact hi)
  rw [List.get_eq_getElem, hat] at htoken
  exact htoken.not_fault hfault

theorem qualifierTokens_cons_eq_error_iff {column : ColumnSegment} {token : Option Token}
    {rest : List ColumnSegment} {error : FillError}
    (htoken : qualifierToken? table sql column = .ok token) :
    qualifierTokens table sql (column :: rest) = .error error ↔
      qualifierTokens table sql rest = .error error := by
  rw [qualifierTokens_cons_of_ok htoken]
  cases qualifierTokens table sql rest <;> simp [Except.map]

/-- The qualifiers are refused for the first one with a fault. -/
theorem qualifierTokens_eq_error_iff {columns : List ColumnSegment} {error : FillError} :
    qualifierTokens table sql columns = .error error ↔
      ∃ i column, IsFirst (QualifierFault table sql) columns i column ∧
        error = .expressionSpan column.start column.start := by
  induction columns with
  | nil =>
      rw [qualifierTokens]
      constructor
      · intro hrefused
        cases hrefused
      · rintro ⟨i, column, hfirst, -⟩
        exact absurd hfirst not_isFirst_nil
  | cons column rest ih =>
      rcases qualifierToken?_cases table sql column with
        ⟨howner, htoken⟩ | ⟨-, token, hplace, htoken⟩ | ⟨hfault, hrefused⟩
      · -- A qualifier that does not name the table is not looked at.
        have hclean : ¬ QualifierFault table sql column := fun hfault => howner hfault.1
        rw [qualifierTokens_cons_eq_error_iff htoken, ih,
          exists_isFirst_cons_of_not_fault hclean]
      · rw [qualifierTokens_cons_eq_error_iff htoken, ih,
          exists_isFirst_cons_of_not_fault hplace.not_fault]
      · rw [qualifierTokens, hrefused, exists_isFirst_cons_of_fault hfault]
        constructor
        · intro hsame
          cases hsame
          rfl
        · rintro rfl
          rfl

end Qualifiers

/-- The event about the columns that a clause binds. -/
def boundColumnsEvent (clause : SetClause) (table : String) : Event :=
  ⟨.trace, "bound columns: " ++ columnsDiagnostic (clause.boundColumns table)⟩

/-- The event about a row with the wrong number of values. -/
def valueCountEvent (table : String) (expected values : Nat) : Event :=
  ⟨.debug, "table \"" ++ table ++ "\" expects " ++ toString expected ++
    " values, SET has " ++ toString values⟩

/-- The number of values that a clause has to bring. -/
def SetClause.expectedValues (clause : SetClause) (table : String) (rule : ShardingRule)
    (catalog : TableCatalog) : Nat :=
  InsertRouting.expectedValues table clause.columns.length rule catalog

section Stages

variable {clause : SetClause} {table sql : String} {rule : ShardingRule}
  {catalog : TableCatalog} {tokens : List Token}

theorem length_boundColumns (clause : SetClause) (table : String) :
    (clause.boundColumns table).length = clause.columns.length := by
  rw [SetClause.boundColumns, List.length_map]

theorem expectedValues_le_length (clause : SetClause) (table : String)
    (rule : ShardingRule) (catalog : TableCatalog) :
    clause.expectedValues table rule catalog ≤ clause.columns.length :=
  expectedValues_le table clause.columns.length rule catalog

theorem contribution_of_qualifier_error {error : FillError}
    (hrefused : qualifierTokens table sql clause.columns = .error error) :
    contribution clause table sql rule catalog = ⟨[], .error error⟩ := by
  rw [contribution, hrefused]
  rfl

/-- A row with too few or too many values is refused.  The expected number never
exceeds the number of columns, so it is reported as it is. -/
theorem contribution_of_count_ne
    (htokens : qualifierTokens table sql clause.columns = .ok tokens)
    (hcount : clause.values.length ≠ clause.expectedValues table rule catalog) :
    contribution clause table sql rule catalog =
      ⟨[boundColumnsEvent clause table,
          valueCountEvent table (clause.expectedValues table rule catalog)
            clause.values.length],
        .error (.valueCountMismatch (clause.expectedValues table rule catalog)
          clause.values.length)⟩ := by
  have hle := expectedValues_le_length clause table rule catalog
  have hcheck : checkValueCount table clause.columns.length
      (clause.expectedValues table rule catalog) clause.values.length =
        ⟨[valueCountEvent table (clause.expectedValues table rule catalog)
            clause.values.length],
          .error (.valueCountMismatch (clause.expectedValues table rule catalog)
            clause.values.length)⟩ := by
    rw [checkValueCount, if_neg (fun hboth => hcount hboth.1), Nat.min_eq_left hle]
    rfl
  rw [contribution, htokens]
  simp only [Logged.ofExcept_ok, Logged.bind_eq, Logged.ok_bind, Logged.emit_bind,
    length_boundColumns]
  rw [show expectedValues table clause.columns.length rule catalog =
    clause.expectedValues table rule catalog from rfl, hcheck]
  rfl

/-- The contribution of a row that has been bound. -/
def contributionOf (clause : SetClause) (table : String) (tokens : List Token)
    (values : List BoundValue) : Contribution where
  columns := clause.boundColumns table
  row := ⟨.set, clause.parametersCount, values.map (·.expression)⟩
  conditions := values.filterMap (·.condition)
  generatedKeys := values.filterMap (·.generatedKey)
  tokens := tokens ++ [.insertValues clause.start .set]

/-- With the right number of values everything is left to the row. -/
theorem contribution_of_count_eq
    (htokens : qualifierTokens table sql clause.columns = .ok tokens)
    (hcount : clause.values.length = clause.expectedValues table rule catalog) :
    contribution clause table sql rule catalog =
      let row := (bindRow rule (rule.generateKeyColumn? table) sql
        ((clause.boundColumns table).zip clause.values)).bind fun values =>
          .ok (contributionOf clause table tokens values)
      ⟨boundColumnsEvent clause table :: row.events, row.result⟩ := by
  have hle := expectedValues_le_length clause table rule catalog
  have hcheck : checkValueCount table clause.columns.length
      (clause.expectedValues table rule catalog) clause.values.length = .ok () := by
    rw [checkValueCount, if_pos ⟨hcount, by omega⟩]
  rw [contribution, htokens]
  simp only [Logged.ofExcept_ok, Logged.bind_eq, Logged.ok_bind, Logged.emit_bind,
    length_boundColumns]
  rw [show expectedValues table clause.columns.length rule catalog =
    clause.expectedValues table rule catalog from rfl, hcheck]
  rfl

/-- A clause contributes exactly when all three stages succeed, and then the only
event is the one about its columns. -/
theorem contribution_eq_ok_iff {events : List Event} {added : Contribution} :
    contribution clause table sql rule catalog = ⟨events, .ok added⟩ ↔
      events = [boundColumnsEvent clause table] ∧
      clause.values.length = clause.expectedValues table rule catalog ∧
      ∃ tokens values, qualifierTokens table sql clause.columns = .ok tokens ∧
        bindRow rule (rule.generateKeyColumn? table) sql
          ((clause.boundColumns table).zip clause.values) = .ok values ∧
        added = contributionOf clause table tokens values := by
  constructor
  · intro haccepted
    cases htokens : qualifierTokens table sql clause.columns with
    | error error =>
        rw [contribution_of_qualifier_error htokens] at haccepted
        cases haccepted
    | ok tokens =>
        by_cases hcount : clause.values.length = clause.expectedValues table rule catalog
        · rw [contribution_of_count_eq htokens hcount] at haccepted
          rcases bindRow_cases rule (rule.generateKeyColumn? table) sql
              ((clause.boundColumns table).zip clause.values) with
            ⟨values, hrow⟩ | ⟨error, rowEvents, hrow⟩
          · rw [hrow] at haccepted
            cases haccepted
            exact ⟨rfl, hcount, tokens, values, rfl, hrow, rfl⟩
          · rw [hrow] at haccepted
            cases haccepted
        · rw [contribution_of_count_ne htokens hcount] at haccepted
          cases haccepted
  · intro hstages
    obtain ⟨rfl, hcount, tokens, values, htokens, hrow, rfl⟩ := hstages
    rw [contribution_of_count_eq htokens hcount, hrow]
    rfl

theorem fill_of_accepted {statement : InsertStatement} {events : List Event}
    {added : Contribution} (htables : statement.tables = [table])
    (haccepted : contribution clause table sql rule catalog = ⟨events, .ok added⟩) :
    fill clause statement sql rule catalog = ⟨statement.append added, .ok (), events⟩ := by
  rw [fill, InsertStatement.singleTable?_eq_some_iff.2 htables]
  dsimp only
  rw [haccepted]

theorem fill_of_refused {statement : InsertStatement} {events : List Event}
    {error : FillError} (htables : statement.tables = [table])
    (hrefused : contribution clause table sql rule catalog = ⟨events, .error error⟩) :
    fill clause statement sql rule catalog = ⟨statement, .error error, events⟩ := by
  rw [fill, InsertStatement.singleTable?_eq_some_iff.2 htables]
  dsimp only
  rw [hrefused]

theorem fill_of_no_single_table {statement : InsertStatement}
    (htables : ∀ table, statement.tables ≠ [table]) :
    fill clause statement sql rule catalog = ⟨statement, .error .noSingleTable, []⟩ := by
  have hnone : statement.singleTable? = none := by
    cases hsingle : statement.singleTable? with
    | none => rfl
    | some table =>
        exact absurd (InsertStatement.singleTable?_eq_some_iff.1 hsingle) (htables table)
  rw [fill, hnone]

/-- A clause is accepted through its contribution to a statement on one table. -/
theorem exists_contribution_of_fill {statement : InsertStatement}
    (hok : (fill clause statement sql rule catalog).verdict = .ok ()) :
    ∃ table events added, statement.tables = [table] ∧
      contribution clause table sql rule catalog = ⟨events, .ok added⟩ ∧
      fill clause statement sql rule catalog =
        ⟨statement.append added, .ok (), events⟩ := by
  by_cases htables : ∃ table, statement.tables = [table]
  · obtain ⟨table, htables⟩ := htables
    cases hcontribution : contribution clause table sql rule catalog with
    | mk events result =>
        cases result with
        | error error =>
            rw [fill_of_refused htables hcontribution] at hok
            cases hok
        | ok added =>
            exact ⟨table, events, added, htables, hcontribution,
              fill_of_accepted htables hcontribution⟩
  · rw [fill_of_no_single_table fun table htable => htables ⟨table, htable⟩] at hok
    cases hok

end Stages

end InsertRouting
