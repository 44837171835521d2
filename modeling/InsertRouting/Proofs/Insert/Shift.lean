import InsertRouting.Proofs.Insert.Effect
import InsertRouting.Proofs.Text.Shift

namespace InsertRouting

/-!
# A clause in a longer text

A clause refers to its text by offsets only.  With another text in front, and all
offsets moved by its bytes, the clause has the same outcome, and only the offsets in
it move: those of the new tokens, and those of an error about a span.  With another
text behind, and all offsets as they are, every outcome stays except an error about a
span, which may disappear.

Both are one statement about two texts, of which the second gives back what is read
from the first at offsets that are larger by a distance (`Enlarges`).  It is carried
through the stages of a fill by one rule for sequences (`Repeats.bind`).
-/

/-- The column at an offset that is larger by the distance. -/
def ColumnSegment.shift (column : ColumnSegment) (distance : Nat) : ColumnSegment :=
  { column with start := column.start + distance }

/-- The value at offsets that are larger by the distance. -/
def ExpressionSegment.shift (segment : ExpressionSegment) (distance : Nat) :
    ExpressionSegment :=
  { segment with start := segment.start + distance, stop := segment.stop + distance }

/-- The clause at offsets that are larger by the distance. -/
def SetClause.shift (clause : SetClause) (distance : Nat) : SetClause where
  columns := clause.columns.map (·.shift distance)
  values := clause.values.map (·.shift distance)
  parametersCount := clause.parametersCount
  start := clause.start + distance

/-- The token at an offset that is larger by the distance. -/
def Token.shift (distance : Nat) : Token → Token
  | .table start name quote => .table (start + distance) name quote
  | .insertValues start keyword => .insertValues (start + distance) keyword

/-- The error about offsets that are larger by the distance. -/
def FillError.shift (distance : Nat) : FillError → FillError
  | .noSingleTable => .noSingleTable
  | .expressionSpan start stop => .expressionSpan (start + distance) (stop + distance)
  | .valueCountMismatch columns values => .valueCountMismatch columns values
  | .unsupportedShardingExpression column => .unsupportedShardingExpression column

/-- The error is about a span of the text. -/
def FillError.IsSpan (error : FillError) : Prop :=
  ∃ start stop, error = .expressionSpan start stop

/-- The contribution with its tokens at offsets that are larger by the distance. -/
def Contribution.shift (distance : Nat) (added : Contribution) : Contribution :=
  { added with tokens := added.tokens.map (Token.shift distance) }

/-- The second computation has the events and the outcome of the first, with the value
moved and the offsets of an error shifted.  It may do anything where the first one ends
with an error that need not be kept. -/
def Repeats {α β : Type} (lost : FillError → Prop) (distance : Nat) (move : α → β)
    (first : Logged FillError α) (second : Logged FillError β) : Prop :=
  (∃ error, first.result = .error error ∧ lost error) ∨
    second = ⟨first.events, (first.result.map move).mapError (FillError.shift distance)⟩

namespace Repeats

variable {α β γ δ : Type} {lost : FillError → Prop} {distance : Nat} {move : α → β}

theorem ok (value : α) : Repeats lost distance move (.ok value) (.ok (move value)) :=
  .inr rfl

/-- A sequence is repeated when its parts are. -/
theorem bind {moveNext : γ → δ} {first : Logged FillError α} {second : Logged FillError β}
    {next : α → Logged FillError γ} {nextSecond : β → Logged FillError δ}
    (hfirst : Repeats lost distance move first second)
    (hnext : ∀ value, Repeats lost distance moveNext (next value) (nextSecond (move value))) :
    Repeats lost distance moveNext (first.bind next) (second.bind nextSecond) := by
  rcases hfirst with ⟨error, hresult, hlost⟩ | rfl
  · left
    exact ⟨error, by rw [Logged.bind_of_error next hresult], hlost⟩
  · cases hresult : first.result with
    | error error =>
        right
        rw [Logged.bind_of_error next hresult]
        rfl
    | ok value =>
        rcases hnext value with ⟨error, hfails, hlost⟩ | hsame
        · left
          exact ⟨error, by rw [Logged.result_bind_of_ok next hresult, hfails], hlost⟩
        · right
          rw [Logged.result_bind_of_ok next hresult, Logged.events_bind_of_ok next hresult]
          change (⟨first.events ++ (nextSecond (move value)).events,
            (nextSecond (move value)).result⟩ : Logged FillError δ) = _
          rw [hsame]

/-- A change of the value that does not move is repeated with it. -/
theorem map {first second : Except FillError α} (f : α → γ)
    (hfirst : Repeats lost distance id (.ofExcept first) (.ofExcept second)) :
    Repeats lost distance id (.ofExcept (first.map f)) (.ofExcept (second.map f)) := by
  have hbind (outcome : Except FillError α) :
      Logged.ofExcept (outcome.map f) =
        (Logged.ofExcept outcome).bind fun value => .ok (f value) := by
    cases outcome <;> rfl
  rw [hbind, hbind]
  exact hfirst.bind fun value => .ok (f value)

theorem emit (level : Level) (message : String) :
    Repeats lost distance id (Logged.emit level message) (Logged.emit level message) :=
  .inr rfl

/-- Whether a value is supported does not depend on the text. -/
theorem routeCondition? (rule : ShardingRule) (column : Column)
    (segment : ExpressionSegment) (expression : Expression) :
    Repeats lost distance id (routeCondition? rule column segment expression)
      (InsertRouting.routeCondition? rule column (segment.shift distance) expression) := by
  right
  have hroutable : (segment.shift distance).isRoutable = segment.isRoutable := rfl
  unfold InsertRouting.routeCondition?
  rw [hroutable]
  split
  · split <;> rfl
  · rfl

theorem checkValueCount (table : String) (columns expected values : Nat) :
    Repeats lost distance id (checkValueCount table columns expected values)
      (InsertRouting.checkValueCount table columns expected values) := by
  right
  unfold InsertRouting.checkValueCount
  split <;> rfl

end Repeats

/-- The larger text gives back, at offsets that are larger by the distance, what is read
from the text. -/
structure Enlarges (lost : FillError → Prop) (distance : Nat) (sql larger : String) :
    Prop where
  source : ∀ segment : ExpressionSegment,
    Repeats lost distance id (.ofExcept (segment.source sql))
      (.ofExcept ((segment.shift distance).source larger))
  qualifier : ∀ (table : String) (column : ColumnSegment),
    Repeats lost distance (Option.map (Token.shift distance))
      (.ofExcept (qualifierToken? table sql column))
      (.ofExcept (qualifierToken? table larger (column.shift distance)))

namespace Enlarges

variable {lost : FillError → Prop} {distance : Nat} {sql larger : String}

section Stages

variable (hlarger : Enlarges lost distance sql larger)
include hlarger

theorem toExpression (segment : ExpressionSegment) :
    Repeats lost distance id (.ofExcept (segment.toExpression sql))
      (.ofExcept ((segment.shift distance).toExpression larger)) := by
  have hkind : (segment.shift distance).kind = segment.kind := rfl
  unfold ExpressionSegment.toExpression
  rw [hkind]
  cases segment.kind with
  | placeholder index => exact .ok (Expression.placeholder index)
  | literal value => exact .ok (Expression.literal value)
  | text => exact (hlarger.source segment).map Expression.text
  | complex => exact (hlarger.source segment).map Expression.ignored

theorem generatedKey? (keyColumn : Option String) (column : Column)
    (segment : ExpressionSegment) :
    Repeats lost distance id (.ofExcept (generatedKey? keyColumn sql column segment))
      (.ofExcept
        (InsertRouting.generatedKey? keyColumn larger column (segment.shift distance))) := by
  unfold InsertRouting.generatedKey?
  split
  · rw [suppliedKey_eq, suppliedKey_eq]
    exact ((hlarger.toExpression segment).map _).map some
  · exact .ok none

theorem bindValue (rule : ShardingRule) (keyColumn : Option String) (column : Column)
    (segment : ExpressionSegment) :
    Repeats lost distance id (bindValue rule keyColumn sql column segment)
      (InsertRouting.bindValue rule keyColumn larger column (segment.shift distance)) := by
  unfold InsertRouting.bindValue
  simp only [Logged.bind_eq, Logged.pure_eq]
  apply (hlarger.toExpression segment).bind
  intro expression
  apply (Repeats.routeCondition? rule column segment expression).bind
  intro condition
  apply (hlarger.generatedKey? keyColumn column segment).bind
  intro key
  exact .ok _

theorem bindRow (rule : ShardingRule) (keyColumn : Option String)
    (pairs : List (Column × ExpressionSegment)) :
    Repeats lost distance id (bindRow rule keyColumn sql pairs)
      (InsertRouting.bindRow rule keyColumn larger
        (pairs.map fun pair => (pair.1, pair.2.shift distance))) := by
  induction pairs with
  | nil => exact .ok []
  | cons pair rest ih =>
      rw [List.map_cons, InsertRouting.bindRow, InsertRouting.bindRow]
      simp only [Logged.bind_eq, Logged.pure_eq]
      apply (hlarger.bindValue rule keyColumn pair.1 pair.2).bind
      intro value
      apply ih.bind
      intro values
      exact .ok _

theorem qualifierTokens (table : String) (columns : List ColumnSegment) :
    Repeats lost distance (List.map (Token.shift distance))
      (.ofExcept (qualifierTokens table sql columns))
      (.ofExcept
        (InsertRouting.qualifierTokens table larger (columns.map (·.shift distance)))) := by
  have hcons (text : String) (column : ColumnSegment) (rest : List ColumnSegment) :
      Logged.ofExcept (InsertRouting.qualifierTokens table text (column :: rest)) =
        (Logged.ofExcept (qualifierToken? table text column)).bind fun token =>
          (Logged.ofExcept (InsertRouting.qualifierTokens table text rest)).bind fun tokens =>
            .ok (token.toList ++ tokens) := by
    rw [InsertRouting.qualifierTokens]
    cases qualifierToken? table text column with
    | error error => rfl
    | ok token => cases InsertRouting.qualifierTokens table text rest <;> rfl
  induction columns with
  | nil => exact .ok []
  | cons column rest ih =>
      rw [List.map_cons, hcons, hcons]
      apply (hlarger.qualifier table column).bind
      intro token
      apply ih.bind
      intro tokens
      have hmoved : (token.map (Token.shift distance)).toList ++
          tokens.map (Token.shift distance) =
            (token.toList ++ tokens).map (Token.shift distance) := by
        cases token <;> rfl
      rw [hmoved]
      exact .ok _

/-- What a clause contributes is the same, and its tokens move with the text. -/
theorem contribution (clause : SetClause) (table : String) (rule : ShardingRule)
    (catalog : TableCatalog) :
    Repeats lost distance (Contribution.shift distance)
      (contribution clause table sql rule catalog)
      (InsertRouting.contribution (clause.shift distance) table larger rule catalog) := by
  have hcolumns : (clause.shift distance).boundColumns table = clause.boundColumns table := by
    unfold SetClause.boundColumns SetClause.shift
    rw [List.map_map]
    rfl
  have hvalues : (clause.shift distance).values.length = clause.values.length :=
    List.length_map _
  have hpairs : (clause.boundColumns table).zip (clause.shift distance).values =
      ((clause.boundColumns table).zip clause.values).map
        fun pair => (pair.1, pair.2.shift distance) :=
    List.zip_map_right
  unfold InsertRouting.contribution
  simp only [Logged.bind_eq, Logged.pure_eq, hcolumns, hvalues, hpairs]
  apply (hlarger.qualifierTokens table clause.columns).bind
  intro tokens
  apply (Repeats.emit .trace _).bind
  intro _
  apply (Repeats.checkValueCount table _ _ _).bind
  intro _
  apply (hlarger.bindRow rule (rule.generateKeyColumn? table) _).bind
  intro values
  right
  simp [Contribution.shift, Logged.ok, SetClause.shift, Token.shift, Except.map,
    Except.mapError]

end Stages

/-- With a text in front nothing is lost. -/
theorem of_lead (lead sql : String) :
    Enlarges (fun _ => False) lead.utf8ByteSize sql (lead ++ sql) where
  source segment := by
    right
    have hslice := Text.slice?_shift lead.toList sql.toList segment.start segment.stop
    rw [Text.byteLength_toList] at hslice
    unfold ExpressionSegment.source ExpressionSegment.shift
    rw [String.toList_append, hslice]
    cases Text.slice? segment.start segment.stop sql.toList <;> rfl
  qualifier table column := by
    right
    have hcut := Text.splitAtByte?_shift lead.toList sql.toList column.start
    rw [Text.byteLength_toList] at hcut
    unfold qualifierToken? ColumnSegment.shift
    split
    · rw [String.toList_append, hcut]
      -- A qualifier needs a character behind the cut, which the text in front does not touch.
      rcases Text.splitAtByte? column.start sql.toList with _ | ⟨before, _ | ⟨first, rest⟩⟩ <;>
        rfl
    · rfl

/-- With a text behind, only errors about a span are lost. -/
theorem of_tail (sql tail : String) : Enlarges FillError.IsSpan 0 sql (sql ++ tail) where
  source segment := by
    unfold ExpressionSegment.source ExpressionSegment.shift
    cases hslice : Text.slice? segment.start segment.stop sql.toList with
    | none => exact .inl ⟨_, rfl, segment.start, segment.stop, rfl⟩
    | some middle =>
        right
        dsimp only
        rw [String.toList_append, Nat.add_zero, Nat.add_zero,
          Text.slice?_append_of_eq_some hslice]
        rfl
  qualifier table column := by
    unfold qualifierToken? ColumnSegment.shift
    dsimp only
    split
    · rw [String.toList_append, Nat.add_zero]
      cases hcut : Text.splitAtByte? column.start sql.toList with
      | none => exact .inl ⟨_, rfl, column.start, column.start, rfl⟩
      | some parts =>
          obtain ⟨before, after⟩ := parts
          cases after with
          | nil => exact .inl ⟨_, rfl, column.start, column.start, rfl⟩
          | cons first rest =>
              right
              rw [Text.splitAtByte?_append_of_eq_some hcut]
              rfl
    · exact .ok none

end Enlarges

/-- The second outcome is the first one at offsets that are larger by the distance: those
of the tokens that are not on the statement yet, and those of an error about a span. -/
structure MovedBy (distance : Nat) (statement : InsertStatement) (first second : Filled) :
    Prop where
  verdict : second.verdict = first.verdict.mapError (FillError.shift distance)
  events : second.events = first.events
  tokens : ∃ added, first.statement.tokens = statement.tokens ++ added ∧
    second.statement.tokens = statement.tokens ++ added.map (Token.shift distance)
  others : second.statement =
    { first.statement with tokens := second.statement.tokens }

section Shift

variable {lost : FillError → Prop} {distance : Nat} {sql larger : String}
  {statement : InsertStatement}

/-- A fill that refuses a clause is moved when its error is. -/
theorem MovedBy.of_refused (error : FillError) (events : List Event) :
    MovedBy distance statement ⟨statement, .error error, events⟩
      ⟨statement, .error (error.shift distance), events⟩ where
  verdict := rfl
  events := rfl
  tokens := ⟨[], by simp⟩
  others := rfl

theorem MovedBy.of_accepted (added : Contribution) (events : List Event) :
    MovedBy distance statement ⟨statement.append added, .ok (), events⟩
      ⟨statement.append (added.shift distance), .ok (), events⟩ where
  verdict := rfl
  events := rfl
  tokens := ⟨added.tokens, rfl, rfl⟩
  others := rfl

/-- The outcome in the larger text is the moved one, unless the outcome in the text is an
error that may be lost. -/
theorem Enlarges.fill (hlarger : Enlarges lost distance sql larger) (clause : SetClause)
    (statement : InsertStatement) (rule : ShardingRule) (catalog : TableCatalog) :
    (∃ error, (fill clause statement sql rule catalog).verdict = .error error ∧
      lost error) ∨
    MovedBy distance statement (fill clause statement sql rule catalog)
      (InsertRouting.fill (clause.shift distance) statement larger rule catalog) := by
  by_cases htables : ∃ table, statement.tables = [table]
  · obtain ⟨table, htables⟩ := htables
    rcases hlarger.contribution clause table rule catalog with
      ⟨error, hresult, hlost⟩ | hmoved
    · left
      have hrefused : InsertRouting.contribution clause table sql rule catalog =
          ⟨(InsertRouting.contribution clause table sql rule catalog).events,
            .error error⟩ := by rw [← hresult]
      exact ⟨error, by rw [fill_of_refused htables hrefused], hlost⟩
    · right
      cases hcontribution : InsertRouting.contribution clause table sql rule catalog with
      | mk events result =>
          rw [hcontribution] at hmoved
          cases result with
          | error error =>
              rw [fill_of_refused htables hcontribution, fill_of_refused htables hmoved]
              exact .of_refused error events
          | ok added =>
              rw [fill_of_accepted htables hcontribution, fill_of_accepted htables hmoved]
              exact .of_accepted added events
  · right
    have hnone : ∀ table, statement.tables ≠ [table] := fun table htable =>
      htables ⟨table, htable⟩
    rw [fill_of_no_single_table hnone, fill_of_no_single_table hnone]
    exact .of_refused .noSingleTable []

theorem SetClause.shift_zero (clause : SetClause) : clause.shift 0 = clause := by
  have hcolumns : clause.columns.map (·.shift 0) = clause.columns := List.map_id _
  have hvalues : clause.values.map (·.shift 0) = clause.values := List.map_id _
  unfold SetClause.shift
  rw [hcolumns, hvalues]
  rfl

theorem Token.shift_zero (token : Token) : token.shift 0 = token := by
  cases token <;> rfl

theorem FillError.shift_zero (error : FillError) : error.shift 0 = error := by
  cases error <;> rfl

/-- Nothing moves by the distance zero. -/
theorem MovedBy.eq {first second : Filled} (hmoved : MovedBy 0 statement first second) :
    second = first := by
  obtain ⟨added, hfirst, hsecond⟩ := hmoved.tokens
  have htokens : second.statement.tokens = first.statement.tokens := by
    rw [hfirst, hsecond, List.map_congr_left fun token _ => token.shift_zero, List.map_id']
  have hstatement : second.statement = first.statement := by
    rw [hmoved.others, htokens]
  have hverdict : second.verdict = first.verdict := by
    rw [hmoved.verdict]
    cases first.verdict with
    | error error => exact congrArg Except.error error.shift_zero
    | ok accepted => rfl
  cases first
  cases second
  cases hstatement
  cases hverdict
  cases hmoved.events
  rfl

/-- With a text in front, and every offset larger by its bytes, a clause has the same
outcome with its offsets moved.  With a text behind, every outcome but an error about a
span is the same. -/
theorem fill_in_longer_text (clause : SetClause) (statement : InsertStatement) (sql : String)
    (rule : ShardingRule) (catalog : TableCatalog) :
    (∀ lead : String, MovedBy lead.utf8ByteSize statement
      (fill clause statement sql rule catalog)
      (fill (clause.shift lead.utf8ByteSize) statement (lead ++ sql) rule catalog)) ∧
    ∀ tail : String,
      (∀ start stop, (fill clause statement sql rule catalog).verdict ≠
        .error (.expressionSpan start stop)) →
      fill clause statement (sql ++ tail) rule catalog =
        fill clause statement sql rule catalog := by
  constructor
  · intro lead
    rcases (Enlarges.of_lead lead sql).fill clause statement rule catalog with
      ⟨error, -, hlost⟩ | hmoved
    · exact hlost.elim
    · exact hmoved
  · intro tail hkept
    rcases (Enlarges.of_tail sql tail).fill clause statement rule catalog with
      ⟨error, hrefused, start, stop, rfl⟩ | hmoved
    · exact absurd hrefused (hkept start stop)
    · rw [SetClause.shift_zero] at hmoved
      exact hmoved.eq

/-- The sample behind a comment of eight characters and nine bytes, and in front of
another statement. -/
theorem fill_in_longer_text_sample :
    MovedBy 9 (.onTable "user")
      (fill sampleClause (.onTable "user") sampleText sampleRule sampleCatalog)
      (fill (sampleClause.shift 9) (.onTable "user") ("/* é */ " ++ sampleText) sampleRule
        sampleCatalog) ∧
    (∀ start stop, (fill sampleClause (.onTable "user") sampleText sampleRule
      sampleCatalog).verdict ≠ .error (.expressionSpan start stop)) ∧
    fill sampleClause (.onTable "user") (sampleText ++ "; SELECT 'é'") sampleRule
        sampleCatalog =
      fill sampleClause (.onTable "user") sampleText sampleRule sampleCatalog := by
  have hmoved := fill_in_longer_text sampleClause (.onTable "user") sampleText sampleRule
    sampleCatalog
  have hok : (fill sampleClause (.onTable "user") sampleText sampleRule
      sampleCatalog).verdict = .ok () := by rfl
  have hkept : ∀ start stop, (fill sampleClause (.onTable "user") sampleText sampleRule
      sampleCatalog).verdict ≠ .error (.expressionSpan start stop) := by
    intro start stop hrefused
    rw [hok] at hrefused
    cases hrefused
  exact ⟨hmoved.1 "/* é */ ", hkept, hmoved.2 "; SELECT 'é'" hkept⟩

end Shift

end InsertRouting
