import InsertRouting.Proofs.Data.Related
import InsertRouting.Proofs.Insert.Effect
import InsertRouting.Proofs.Insert.Refusal
import InsertRouting.Proofs.Sharding.Lookup

namespace InsertRouting

/-!
# Spellings of column names

The columns of the configuration and of a clause may be spelled with capitals or small
letters in any mixture.  A clause and a respelled one are accepted together, under rules
and respelled rules, and then differ in the names of their columns only; or they are
refused together, for the same error at the same place.  Tables and qualifiers are
compared exactly, so they are the same on both sides.

The rules enter through their answers (`ShardingRule.SameUpToSpelling`), and each stage
of a fill is shown to carry the relation along.
-/

/-- The entry is for the same table, with its columns in another spelling. -/
structure ShardedTable.Respelled (entry variant : ShardedTable) : Prop where
  name : variant.name = entry.name
  column : Text.Respelled entry.column variant.column
  generateKeyColumn :
    Option.Rel Text.Respelled entry.generateKeyColumn variant.generateKeyColumn

/-- The column of a clause in another spelling; its qualifier is the same. -/
structure ColumnSegment.Respelled (column variant : ColumnSegment) : Prop where
  name : Text.Respelled column.name variant.name
  owner : variant.owner = column.owner
  start : variant.start = column.start

/-- The clause with its columns in another spelling. -/
structure SetClause.Respelled (clause variant : SetClause) : Prop where
  columns : List.Forall₂ ColumnSegment.Respelled clause.columns variant.columns
  values : variant.values = clause.values
  parametersCount : variant.parametersCount = clause.parametersCount
  start : variant.start = clause.start

/-- The bound column in another spelling. -/
structure Column.Respelled (column variant : Column) : Prop where
  name : Text.Respelled column.name variant.name
  table : variant.table = column.table

/-- The condition on the column in another spelling. -/
structure Condition.Respelled (condition variant : Condition) : Prop where
  column : condition.column.Respelled variant.column
  expression : variant.expression = condition.expression

/-- The generated key of the column in another spelling. -/
structure GeneratedKey.Respelled (key variant : GeneratedKey) : Prop where
  column : key.column.Respelled variant.column
  source : variant.source = key.source

/-- The statements are equal except for the spelling of their columns. -/
structure InsertStatement.Respelled (statement variant : InsertStatement) : Prop where
  tables : variant.tables = statement.tables
  columns : List.Forall₂ Column.Respelled statement.columns variant.columns
  rows : variant.rows = statement.rows
  routeConditions : List.Forall₂ (List.Forall₂ Condition.Respelled)
    statement.routeConditions variant.routeConditions
  generatedKeys : List.Forall₂ GeneratedKey.Respelled
    statement.generatedKeys variant.generatedKeys
  tokens : variant.tokens = statement.tokens
  parametersIndex : variant.parametersIndex = statement.parametersIndex

/-- The rules give the same answers about every column, however it is spelled, and the
columns that they name themselves differ in their spelling only. -/
structure ShardingRule.SameUpToSpelling (rule variant : ShardingRule) : Prop where
  isShardingColumn : ∀ table column respelled, Text.Respelled column respelled →
    variant.isShardingColumn respelled table = rule.isShardingColumn column table
  generateKeyColumn? : ∀ table,
    Option.Rel Text.Respelled (rule.generateKeyColumn? table)
      (variant.generateKeyColumn? table)
  assistedQueryColumns? : ∀ table,
    variant.assistedQueryColumns? table = rule.assistedQueryColumns? table

/-- The first item with a fault is at the same position when related items have their
faults together. -/
theorem IsFirst.of_forall₂ {α β : Type} {related : α → β → Prop} {items : List α}
    {others : List β} {fault : α → Prop} {otherFault : β → Prop}
    (hrelated : List.Forall₂ related items others)
    (hfaults : ∀ item other, related item other → (fault item ↔ otherFault other))
    {i : Nat} {item : α} (hfirst : IsFirst fault items i item) :
    ∃ other, IsFirst otherFault others i other ∧ related item other := by
  obtain ⟨hitem, hfault, hbefore⟩ := hfirst
  obtain ⟨other, hother, hpair⟩ := exists_getElem?_of_forall₂ hrelated hitem
  refine ⟨other, ⟨hother, (hfaults item other hpair).1 hfault, ?_⟩, hpair⟩
  intro j earlier hlt hearlier hfaulty
  obtain ⟨first, hat, hpair⟩ := exists_getElem?_of_forall₂_right hrelated hearlier
  exact hbefore j first hlt hat ((hfaults first earlier hpair).2 hfaulty)

theorem Column.Respelled.refl (column : Column) : column.Respelled column :=
  ⟨.refl column.name, rfl⟩

theorem Condition.Respelled.refl (condition : Condition) : condition.Respelled condition :=
  ⟨.refl condition.column, rfl⟩

theorem GeneratedKey.Respelled.refl (key : GeneratedKey) : key.Respelled key :=
  ⟨.refl key.column, rfl⟩

theorem ColumnSegment.Respelled.symm {column variant : ColumnSegment}
    (hcolumn : column.Respelled variant) : variant.Respelled column :=
  ⟨hcolumn.name.symm, hcolumn.owner.symm, hcolumn.start.symm⟩

theorem SetClause.Respelled.symm {clause variant : SetClause}
    (hclause : clause.Respelled variant) : variant.Respelled clause where
  columns := (hclause.columns.imp fun _ _ hcolumn => hcolumn.symm).flip
  values := hclause.values.symm
  parametersCount := hclause.parametersCount.symm
  start := hclause.start.symm

theorem ShardingRule.SameUpToSpelling.symm {rule variant : ShardingRule}
    (hrules : rule.SameUpToSpelling variant) : variant.SameUpToSpelling rule where
  isShardingColumn table column respelled hspelled :=
    (hrules.isShardingColumn table respelled column hspelled.symm).symm
  generateKeyColumn? table :=
    optionRel_flip (fun _ _ hspelled => hspelled.symm) (hrules.generateKeyColumn? table)
  assistedQueryColumns? table := (hrules.assistedQueryColumns? table).symm

section Rules

variable {entries variants : List ShardedTable}

/-- A choice by the names of tables makes the same choice on both sides. -/
theorem filter_respelled (hentries : List.Forall₂ ShardedTable.Respelled entries variants)
    (test : Option String → Bool) :
    List.Forall₂ ShardedTable.Respelled (entries.filter fun entry => test entry.name)
      (variants.filter fun entry => test entry.name) := by
  refine List.rel_filter ?_ hentries
  intro entry variant hentry
  show test entry.name = true ↔ test variant.name = true
  rw [hentry.name]

theorem shardedEntries_respelled
    (hentries : List.Forall₂ ShardedTable.Respelled entries variants) (table : String) :
    List.Forall₂ ShardedTable.Respelled (shardedEntries entries table)
      (shardedEntries variants table) := by
  have hnamed : List.Forall₂ ShardedTable.Respelled (entries.filter (·.names table))
      (variants.filter (·.names table)) :=
    filter_respelled hentries (· == some table)
  have hempty : (variants.filter (·.names table)).isEmpty =
      (entries.filter (·.names table)).isEmpty := by
    rw [Bool.eq_iff_iff, List.isEmpty_iff_length_eq_zero, List.isEmpty_iff_length_eq_zero,
      hnamed.length_eq]
  unfold shardedEntries
  dsimp only
  rw [hempty]
  split
  · exact filter_respelled hentries Option.isNone
  · exact hnamed

theorem isSome_shardingKey?_respelled
    (hentries : List.Forall₂ ShardedTable.Respelled entries variants) (table : String)
    {column respelled : String} (hspelled : Text.Respelled column respelled) :
    (shardingKey? variants table respelled).isSome =
      (shardingKey? entries table column).isSome := by
  have happlying := shardedEntries_respelled hentries table
  unfold shardingKey? ShardedTable.matchesColumn
  rw [List.isSome_find?, List.isSome_find?]
  generalize shardedEntries entries table = applying at happlying ⊢
  generalize shardedEntries variants table = others at happlying ⊢
  induction happlying with
  | nil => rfl
  | cons hentry _ ih =>
      rw [List.any_cons, List.any_cons, ih,
        hentry.column.sameExceptAsciiCase_eq hspelled]

theorem generateKeyColumn?_respelled
    (hentries : List.Forall₂ ShardedTable.Respelled entries variants) (table : String) :
    Option.Rel Text.Respelled (generateKeyColumn? entries table)
      (generateKeyColumn? variants table) := by
  have hnamed := filter_respelled hentries fun name => name = some table
  rw [generateKeyColumn?_eq_findSome?, generateKeyColumn?_eq_findSome?]
  generalize entries.filter (fun entry => decide (entry.name = some table)) = named
    at hnamed ⊢
  generalize variants.filter (fun entry => decide (entry.name = some table)) = others
    at hnamed ⊢
  induction hnamed with
  | nil => exact .none
  | @cons entry variant _ _ hentry _ ih =>
      have hkeys := hentry.generateKeyColumn
      rw [List.findSome?_cons, List.findSome?_cons]
      -- Both entries set a column, or the search goes on behind both.
      cases hfirst : entry.generateKeyColumn <;> cases hsecond : variant.generateKeyColumn <;>
        rw [hfirst, hsecond] at hkeys
      · exact ih
      · cases hkeys
      · cases hkeys
      · exact hkeys

/-- The answers of the rules are the same up to spelling when the entries are. -/
theorem sameUpToSpelling_of_entries
    (hentries : List.Forall₂ ShardedTable.Respelled entries variants)
    (encryptor : Encryptor) :
    (ShardingRules.mk entries encryptor).rule.SameUpToSpelling
      (ShardingRules.mk variants encryptor).rule where
  isShardingColumn table _ _ hspelled :=
    isSome_shardingKey?_respelled hentries table hspelled
  generateKeyColumn? table := generateKeyColumn?_respelled hentries table
  assistedQueryColumns? _ := rfl

end Rules

/-- What a pair adds, on the column in another spelling. -/
structure BoundValue.Respelled (value variant : BoundValue) : Prop where
  expression : variant.expression = value.expression
  condition : Option.Rel Condition.Respelled value.condition variant.condition
  generatedKey : Option.Rel GeneratedKey.Respelled value.generatedKey variant.generatedKey

/-- What a clause adds, on columns in another spelling. -/
structure Contribution.Respelled (added variant : Contribution) : Prop where
  columns : List.Forall₂ Column.Respelled added.columns variant.columns
  row : variant.row = added.row
  conditions : List.Forall₂ Condition.Respelled added.conditions variant.conditions
  generatedKeys : List.Forall₂ GeneratedKey.Respelled added.generatedKeys variant.generatedKeys
  tokens : variant.tokens = added.tokens

section Accepted

variable {rule variant : ShardingRule} {clause respelled : SetClause} {table sql : String}
  {catalog : TableCatalog}

/-- The column of the key generator is recognised in every spelling. -/
theorem fillsKey_respelled {keyColumn keyVariant : Option String} {column other : Column}
    (hkeys : Option.Rel Text.Respelled keyColumn keyVariant)
    (hcolumn : column.Respelled other) :
    fillsKey keyVariant other = fillsKey keyColumn column := by
  unfold fillsKey
  cases hkeys with
  | none => rfl
  | some hspelled => exact (hspelled.sameExceptAsciiCase_eq hcolumn.name).symm

theorem boundValue_respelled (hrules : rule.SameUpToSpelling variant)
    {keyColumn keyVariant : Option String}
    (hkeys : Option.Rel Text.Respelled keyColumn keyVariant) {column other : Column}
    (hcolumn : column.Respelled other) (expression : Expression) :
    (boundValue rule keyColumn column expression).Respelled
      (boundValue variant keyVariant other expression) := by
  have hsharding : variant.isShardingColumn other.name other.table =
      rule.isShardingColumn column.name column.table := by
    rw [hcolumn.table]
    exact hrules.isShardingColumn column.table column.name other.name hcolumn.name
  have hfills := fillsKey_respelled hkeys hcolumn
  refine ⟨rfl, ?_, ?_⟩
  · unfold boundValue
    dsimp only
    rw [hsharding]
    split
    · exact .some ⟨hcolumn, rfl⟩
    · exact .none
  · unfold boundValue
    dsimp only
    rw [hfills]
    split
    · exact .some ⟨hcolumn, rfl⟩
    · exact .none

/-- A row is bound in both spellings, to the same values. -/
theorem bindRow_respelled (hrules : rule.SameUpToSpelling variant)
    {keyColumn keyVariant : Option String}
    (hkeys : Option.Rel Text.Respelled keyColumn keyVariant) {columns others : List Column}
    (hcolumns : List.Forall₂ Column.Respelled columns others)
    {segments : List ExpressionSegment} {values : List BoundValue}
    (hrow : bindRow rule keyColumn sql (columns.zip segments) = .ok values) :
    ∃ variants, bindRow variant keyVariant sql (others.zip segments) = .ok variants ∧
      List.Forall₂ BoundValue.Respelled values variants := by
  simp only [bindRow_eq_ok_iff] at hrow ⊢
  induction hcolumns generalizing segments values with
  | nil =>
      obtain rfl := List.forall₂_nil_left_iff.1 hrow
      exact ⟨[], .nil, .nil⟩
  | @cons column other columns others hcolumn _ ih =>
      cases segments with
      | nil =>
          obtain rfl := List.forall₂_nil_left_iff.1 hrow
          exact ⟨[], .nil, .nil⟩
      | cons segment segments =>
          rw [List.zip_cons_cons, List.forall₂_cons_left_iff] at hrow
          obtain ⟨value, rest, hvalue, hrest, rfl⟩ := hrow
          obtain ⟨expression, hconverted, hroutable, rfl⟩ := bindValue_eq_ok_iff.1 hvalue
          have hsharding := hrules.isShardingColumn column.table column.name other.name
            hcolumn.name
          have hbound : bindValue variant keyVariant sql other segment =
              .ok (boundValue variant keyVariant other expression) := by
            apply bindValue_of_bound hconverted
            rw [hcolumn.table, hsharding]
            exact hroutable
          obtain ⟨variants, hvariants, hrelated⟩ := ih hrest
          exact ⟨_ :: variants, .cons hbound hvariants,
            .cons (boundValue_respelled hrules hkeys hcolumn expression) hrelated⟩

theorem boundColumns_respelled (hclause : clause.Respelled respelled) (table : String) :
    List.Forall₂ Column.Respelled (clause.boundColumns table)
      (respelled.boundColumns table) := by
  unfold SetClause.boundColumns
  rw [List.forall₂_map_left_iff, List.forall₂_map_right_iff]
  exact hclause.columns.imp fun _ _ hcolumn => ⟨hcolumn.name, rfl⟩

/-- Qualifiers and offsets are the same, so the tokens are. -/
theorem qualifierTokens_respelled {columns others : List ColumnSegment}
    (hcolumns : List.Forall₂ ColumnSegment.Respelled columns others) (table sql : String) :
    qualifierTokens table sql others = qualifierTokens table sql columns := by
  induction hcolumns with
  | nil => rfl
  | @cons column other columns others hcolumn _ ih =>
      have htoken : qualifierToken? table sql other = qualifierToken? table sql column := by
        unfold qualifierToken?
        rw [hcolumn.owner, hcolumn.start]
      rw [qualifierTokens, qualifierTokens, htoken, ih]

/-- Both clauses have to bring the same number of values. -/
theorem expectedValues_respelled (hrules : rule.SameUpToSpelling variant)
    (hclause : clause.Respelled respelled) (table : String) (catalog : TableCatalog) :
    respelled.expectedValues table variant catalog =
      clause.expectedValues table rule catalog := by
  unfold SetClause.expectedValues InsertRouting.expectedValues
  rw [hclause.columns.length_eq, hrules.assistedQueryColumns?]

/-- An accepted clause is accepted in every spelling, with the same contribution up to
the spelling of its columns. -/
theorem contribution_respelled (hrules : rule.SameUpToSpelling variant)
    (hclause : clause.Respelled respelled) {events : List Event} {added : Contribution}
    (haccepted : contribution clause table sql rule catalog = ⟨events, .ok added⟩) :
    ∃ others other, contribution respelled table sql variant catalog = ⟨others, .ok other⟩ ∧
      added.Respelled other := by
  obtain ⟨-, hcount, tokens, values, htokens, hrow, rfl⟩ :=
    contribution_eq_ok_iff.1 haccepted
  have hcolumns := boundColumns_respelled hclause table
  obtain ⟨variants, hvariants, hrelated⟩ :=
    bindRow_respelled hrules (hrules.generateKeyColumn? table) hcolumns hrow
  have hotherTokens : qualifierTokens table sql respelled.columns = .ok tokens := by
    rw [qualifierTokens_respelled hclause.columns, htokens]
  have hotherCount : respelled.values.length =
      respelled.expectedValues table variant catalog := by
    rw [hclause.values, hcount, expectedValues_respelled hrules hclause]
  have hotherRow : bindRow variant (variant.generateKeyColumn? table) sql
      ((respelled.boundColumns table).zip respelled.values) = .ok variants := by
    rw [hclause.values]
    exact hvariants
  refine ⟨_, _, contribution_eq_ok_iff.2
    ⟨rfl, hotherCount, tokens, variants, hotherTokens, hotherRow, rfl⟩, ?_⟩
  have hexpressions : variants.map (·.expression) = values.map (·.expression) := by
    rw [← List.forall₂_eq_eq_eq, List.forall₂_map_left_iff, List.forall₂_map_right_iff]
    exact (hrelated.imp fun _ _ hvalue => hvalue.expression).flip
  constructor
  · exact hcolumns
  · unfold contributionOf
    rw [hclause.parametersCount, hexpressions]
  · exact List.rel_filterMap (fun _ _ hvalue => hvalue.condition) hrelated
  · exact List.rel_filterMap (fun _ _ hvalue => hvalue.generatedKey) hrelated
  · unfold contributionOf
    rw [hclause.start]

/-- What is added to one statement keeps it the same up to the spelling of columns. -/
theorem append_respelled (statement : InsertStatement) {added other : Contribution}
    (hadded : added.Respelled other) :
    (statement.append added).Respelled (statement.append other) where
  tables := rfl
  columns := List.rel_append (forall₂_self Column.Respelled.refl _) hadded.columns
  rows := by
    unfold InsertStatement.append
    rw [hadded.row]
  routeConditions :=
    List.rel_append (forall₂_self (forall₂_self Condition.Respelled.refl) _)
      (.cons hadded.conditions .nil)
  generatedKeys :=
    List.rel_append (forall₂_self GeneratedKey.Respelled.refl _) hadded.generatedKeys
  tokens := by
    unfold InsertStatement.append
    rw [hadded.tokens]
  parametersIndex := by
    unfold InsertStatement.append
    rw [hadded.row]

end Accepted

/-- The first value with a fault stands at this position, and this is its error. -/
def FirstFault (clause : SetClause) (table sql : String) (rule : ShardingRule) (i : Nat)
    (error : FillError) : Prop :=
  (∃ events, FaultAt clause table sql rule i error events) ∧
    ∀ j < i, ∀ other events, ¬ FaultAt clause table sql rule j other events

/-- Errors for the same cause.  An error that names no column is the same on both sides,
with its span or its counts.  An error that names a column names, on each side, the column
at the position of the first value with a fault, which is the same position. -/
inductive SameRefusal (clause respelled : SetClause) (tables : List String) (sql : String)
    (rule variant : ShardingRule) : FillError → FillError → Prop
  | same (error : FillError)
      (hnameless : ∀ name, error ≠ .unsupportedShardingExpression name) :
      SameRefusal clause respelled tables sql rule variant error error
  | unsupported (table : String) (i : Nat) (column other : ColumnSegment)
      (htables : tables = [table]) (hcolumn : clause.columns[i]? = some column)
      (hother : respelled.columns[i]? = some other)
      (hfault : FirstFault clause table sql rule i
        (.unsupportedShardingExpression column.name))
      (hotherFault : FirstFault respelled table sql variant i
        (.unsupportedShardingExpression other.name)) :
      SameRefusal clause respelled tables sql rule variant
        (.unsupportedShardingExpression column.name)
        (.unsupportedShardingExpression other.name)

section Refused

variable {rule variant : ShardingRule} {clause respelled : SetClause} {table sql : String}
  {catalog : TableCatalog} {statement : InsertStatement}

theorem qualifierFault_respelled {column other : ColumnSegment}
    (hcolumn : column.Respelled other) :
    QualifierFault table sql column ↔ QualifierFault table sql other := by
  unfold QualifierFault
  rw [hcolumn.owner, hcolumn.start]

theorem not_qualifierFault_respelled (hclause : clause.Respelled respelled)
    (hqualifiers : ∀ column ∈ clause.columns, ¬ QualifierFault table sql column) :
    ∀ other ∈ respelled.columns, ¬ QualifierFault table sql other := by
  intro other hmem hfault
  obtain ⟨column, hcolumn, hpair⟩ := exists_mem_of_forall₂_right hclause.columns hmem
  exact hqualifiers column hcolumn ((qualifierFault_respelled hpair).2 hfault)

/-- A value has the same kind of fault on both sides. -/
theorem FaultAt.in_other_spelling (hrules : rule.SameUpToSpelling variant)
    (hclause : clause.Respelled respelled) {i : Nat} {error : FillError}
    {events : List Event} (hfault : FaultAt clause table sql rule i error events) :
    ∃ otherError otherEvents,
      FaultAt respelled table sql variant i otherError otherEvents ∧
      (otherError = error ∧ (∀ name, error ≠ .unsupportedShardingExpression name) ∨
        ∃ column other, clause.columns[i]? = some column ∧
          respelled.columns[i]? = some other ∧
          error = .unsupportedShardingExpression column.name ∧
          otherError = .unsupportedShardingExpression other.name) := by
  obtain ⟨column, segment, hcolumn, hsegment, hvalue⟩ := hfault
  obtain ⟨other, hother, hpair⟩ := exists_getElem?_of_forall₂ hclause.columns hcolumn
  have hotherSegment : respelled.values[i]? = some segment := by
    rw [hclause.values, hsegment]
  cases hvalue with
  | span hkind hspan =>
      exact ⟨_, _, ⟨other, segment, hother, hotherSegment, .span hkind hspan⟩,
        .inl ⟨rfl, fun _ hname => by cases hname⟩⟩
  | unsupported source hkind hsource hsharding =>
      have hotherSharding : variant.isShardingColumn other.name table = true := by
        rw [hrules.isShardingColumn table column.name other.name hpair.name]
        exact hsharding
      exact ⟨_, _, ⟨other, segment, hother, hotherSegment,
        .unsupported source hkind hsource hotherSharding⟩,
        .inr ⟨column, other, hcolumn, hother, rfl, rfl⟩⟩

theorem not_faultAt_respelled (hrules : rule.SameUpToSpelling variant)
    (hclause : clause.Respelled respelled) {i : Nat}
    (hleast : ∀ j < i, ∀ other events, ¬ FaultAt clause table sql rule j other events) :
    ∀ j < i, ∀ other events, ¬ FaultAt respelled table sql variant j other events := by
  intro j hlt other events hfault
  obtain ⟨error, otherEvents, horiginal, -⟩ := hfault.in_other_spelling hrules.symm hclause.symm
  exact hleast j hlt error otherEvents horiginal

/-- Each case in which a clause is refused is one for every spelling of it. -/
theorem Refusal.in_other_spelling (hrules : rule.SameUpToSpelling variant)
    (hclause : clause.Respelled respelled) {error : FillError} {events : List Event}
    (hrefusal : Refusal clause statement sql rule catalog error events) :
    ∃ otherError otherEvents,
      Refusal respelled statement sql variant catalog otherError otherEvents ∧
      SameRefusal clause respelled statement.tables sql rule variant error otherError := by
  have hexpected (table : String) := expectedValues_respelled hrules hclause table catalog
  cases hrefusal with
  | noSingleTable htables =>
      exact ⟨_, _, .noSingleTable htables, .same _ fun _ hname => by cases hname⟩
  | qualifier table i column htables hfirst =>
      obtain ⟨other, hotherFirst, hpair⟩ :=
        hfirst.of_forall₂ hclause.columns fun _ _ hpair => qualifierFault_respelled hpair
      have hrefused : Refusal respelled statement sql variant catalog
          (.expressionSpan other.start other.start) [] :=
        .qualifier table i other htables hotherFirst
      rw [hpair.start] at hrefused
      exact ⟨_, _, hrefused, .same _ fun _ hname => by cases hname⟩
  | valueCount table htables hqualifiers hcount =>
      have hotherCount : respelled.values.length ≠
          respelled.expectedValues table variant catalog := by
        rw [hclause.values, hexpected]
        exact hcount
      have hrefused := Refusal.valueCount table htables
        (not_qualifierFault_respelled hclause hqualifiers) hotherCount
      rw [hexpected, hclause.values] at hrefused
      exact ⟨_, _, hrefused, .same _ fun _ hname => by cases hname⟩
  | value table i error events htables hqualifiers hcount hfault hleast =>
      obtain ⟨otherError, otherEvents, hotherFault, hsame⟩ :=
        hfault.in_other_spelling hrules hclause
      have hotherLeast := not_faultAt_respelled hrules hclause hleast
      have hotherCount : respelled.values.length =
          respelled.expectedValues table variant catalog := by
        rw [hclause.values, hexpected]
        exact hcount
      refine ⟨otherError, _, .value table i otherError otherEvents htables
        (not_qualifierFault_respelled hclause hqualifiers) hotherCount hotherFault
        hotherLeast, ?_⟩
      rcases hsame with ⟨rfl, hnameless⟩ | ⟨column, other, hcolumn, hother, rfl, rfl⟩
      · exact .same _ hnameless
      · exact .unsupported table i column other htables hcolumn hother
          ⟨⟨_, hfault⟩, hleast⟩ ⟨⟨_, hotherFault⟩, hotherLeast⟩

end Refused

/-- The same fill in two spellings: both clauses are accepted, and the statements differ
in the spelling of their columns only, or both are refused for the same cause. -/
inductive RespelledOutcome (clause respelled : SetClause) (tables : List String) (sql : String)
    (rule variant : ShardingRule) : Filled → Filled → Prop
  | accepted {first second : Filled} (hfirst : first.verdict = .ok ())
      (hsecond : second.verdict = .ok ())
      (hstatement : first.statement.Respelled second.statement) :
      RespelledOutcome clause respelled tables sql rule variant first second
  | refused {first second : Filled} (error other : FillError)
      (hfirst : first.verdict = .error error) (hsecond : second.verdict = .error other)
      (hcause : SameRefusal clause respelled tables sql rule variant error other)
      (hstatement : second.statement = first.statement) :
      RespelledOutcome clause respelled tables sql rule variant first second

/-- A clause and the rules can be respelled together: the verdict is the same, an accepted
clause has the same effect up to the spelling of the columns, and a refused one has the
same error at the same place. -/
theorem fill_respelled {entries variants : List ShardedTable} {clause respelled : SetClause}
    (hentries : List.Forall₂ ShardedTable.Respelled entries variants)
    (hclause : clause.Respelled respelled) (encryptor : Encryptor)
    (statement : InsertStatement) (sql : String) (catalog : TableCatalog) :
    RespelledOutcome clause respelled statement.tables sql (ShardingRules.mk entries encryptor).rule
      (ShardingRules.mk variants encryptor).rule
      (fill clause statement sql (ShardingRules.mk entries encryptor).rule catalog)
      (fill respelled statement sql (ShardingRules.mk variants encryptor).rule catalog) := by
  have hrules := sameUpToSpelling_of_entries hentries encryptor
  rcases exists_refusal_or_contribution clause statement sql
      (ShardingRules.mk entries encryptor).rule catalog with
    ⟨error, events, hrefusal⟩ | ⟨table, added, htables, haccepted⟩
  · obtain ⟨other, otherEvents, hotherRefusal, hcause⟩ := hrefusal.in_other_spelling hrules hclause
    rw [fill_of_refusal hrefusal, fill_of_refusal hotherRefusal]
    exact .refused error other rfl rfl hcause rfl
  · obtain ⟨otherEvents, other, hother, hadded⟩ :=
      contribution_respelled hrules hclause haccepted
    rw [fill_of_accepted htables haccepted, fill_of_accepted htables hother]
    exact .accepted rfl rfl (append_respelled statement hadded)

/-- Rows of `user` are stored by `name`, and of other tables by `straße`. -/
def capitalEntries : List ShardedTable :=
  [⟨none, "STRAßE", none⟩, ⟨some "user", "Name", some "ID"⟩]

def smallEntries : List ShardedTable :=
  [⟨none, "straße", none⟩, ⟨some "user", "name", some "id"⟩]

/-- The clause of `sampleText` with its columns spelled in another way. -/
def respelledClause : SetClause :=
  { sampleClause with
    columns := [⟨"iD", some "user", 23⟩, ⟨"NAME", none, 38⟩, ⟨"Age", some "orders", 52⟩,
      ⟨"pwd_ASSISTED", none, 72⟩] }

theorem fill_respelled_sample :
    let encryptor := Encryptor.ofTables [⟨"user", [⟨"pwd", "pwd_cipher", some "pwd_assisted"⟩]⟩]
    let rule := (ShardingRules.mk capitalEntries encryptor).rule
    let variant := (ShardingRules.mk smallEntries encryptor).rule
    List.Forall₂ ShardedTable.Respelled capitalEntries smallEntries ∧
    sampleClause.Respelled respelledClause ∧
    RespelledOutcome sampleClause respelledClause ["user"] sampleText rule variant
      (fill sampleClause (.onTable "user") sampleText rule sampleCatalog)
      (fill respelledClause (.onTable "user") sampleText variant sampleCatalog) := by
  have hentries : List.Forall₂ ShardedTable.Respelled capitalEntries smallEntries :=
    .cons ⟨rfl, by decide, .none⟩ (.cons ⟨rfl, by decide, .some (by decide)⟩ .nil)
  have hclause : sampleClause.Respelled respelledClause := by
    refine ⟨?_, rfl, rfl, rfl⟩
    exact .cons ⟨by decide, rfl, rfl⟩ (.cons ⟨by decide, rfl, rfl⟩
      (.cons ⟨by decide, rfl, rfl⟩ (.cons ⟨by decide, rfl, rfl⟩ .nil)))
  exact ⟨hentries, hclause,
    fill_respelled hentries hclause _ (.onTable "user") sampleText sampleCatalog⟩

end InsertRouting
