import InsertRouting.Insert.Fill
import InsertRouting.Proofs.Text.Boundary
import Mathlib.Data.List.Forall2

namespace InsertRouting

/-!
# Binding a row

A pair of a column and a value is either bound, silently, or refused for one of
two faults.  A row is bound when all of its pairs are, and is refused for the
fault of the first pair that has one; the pairs behind it are not looked at.
-/

/-- The item at position `i` is the first one with a fault. -/
def IsFirst {α : Type} (fault : α → Prop) (items : List α) (i : Nat) (item : α) : Prop :=
  items[i]? = some item ∧ fault item ∧
    ∀ (j : Nat) (earlier : α), j < i → items[j]? = some earlier → ¬ fault earlier

section IsFirst

variable {α : Type} {fault : α → Prop} {first : α} {rest : List α}

theorem not_isFirst_nil {i : Nat} {item : α} : ¬ IsFirst fault [] i item := by
  intro hfirst
  have hat : ([] : List α)[i]? = some item := hfirst.1
  simp at hat

/-- A fault at the head is the first one. -/
theorem exists_isFirst_cons_of_fault (hfault : fault first) {report : α → Prop} :
    (∃ i item, IsFirst fault (first :: rest) i item ∧ report item) ↔ report first := by
  constructor
  · intro hexists
    obtain ⟨i, item, ⟨hat, -, hbefore⟩, hreport⟩ := hexists
    cases i with
    | zero =>
        obtain rfl := Option.some.inj hat
        exact hreport
    | succ i =>
        -- The head would be an earlier fault.
        exact absurd hfault (hbefore 0 first (by omega) rfl)
  · intro hreport
    refine ⟨0, first, ⟨rfl, hfault, ?_⟩, hreport⟩
    intro j earlier hlt
    exact absurd hlt (Nat.not_lt_zero j)

/-- Behind a head without a fault the first fault is looked for in the rest. -/
theorem exists_isFirst_cons_of_not_fault (hclean : ¬ fault first) {report : α → Prop} :
    (∃ i item, IsFirst fault (first :: rest) i item ∧ report item) ↔
      ∃ i item, IsFirst fault rest i item ∧ report item := by
  constructor
  · intro hwhole
    obtain ⟨i, item, ⟨hat, hfault, hbefore⟩, hreport⟩ := hwhole
    cases i with
    | zero =>
        obtain rfl := Option.some.inj hat
        exact absurd hfault hclean
    | succ k =>
        refine ⟨k, item, ⟨hat, hfault, ?_⟩, hreport⟩
        intro j earlier hlt hearlier
        exact hbefore (j + 1) earlier (by omega) hearlier
  · intro hbehind
    obtain ⟨k, item, ⟨hat, hfault, hbefore⟩, hreport⟩ := hbehind
    refine ⟨k + 1, item, ⟨hat, hfault, ?_⟩, hreport⟩
    intro j earlier hlt hearlier
    cases j with
    | zero =>
        obtain rfl := Option.some.inj hearlier
        exact hclean
    | succ j => exact hbefore j earlier (by omega) hearlier

end IsFirst

/-- The generated key that a bound value supplies. -/
def KeySource.ofExpression : Expression → KeySource
  | .placeholder index => .placeholder index
  | .literal scalar => .value scalar
  | .text source => .raw source
  | .ignored source => .raw source

/-- The value of a generated key is read exactly like the value of a row, so the
two conversions fail together. -/
theorem suppliedKey_eq (column : Column) (segment : ExpressionSegment) (sql : String) :
    suppliedKey column segment sql =
      (segment.toExpression sql).map fun expression =>
        ⟨column, .ofExpression expression⟩ := by
  unfold suppliedKey ExpressionSegment.toExpression
  cases segment.kind with
  | placeholder index => rfl
  | literal value => rfl
  | text => cases segment.source sql <;> rfl
  | complex => cases segment.source sql <;> rfl

namespace ExpressionSegment

theorem isRoutable_eq_false_iff {segment : ExpressionSegment} :
    segment.isRoutable = false ↔ segment.kind = .complex := by
  unfold isRoutable
  cases segment.kind <;> simp

/-- Only a value that is read from the text can fail to be converted. -/
theorem toExpression_eq_error_iff {segment : ExpressionSegment} {sql : String}
    {error : FillError} :
    segment.toExpression sql = .error error ↔
      (segment.kind = .text ∨ segment.kind = .complex) ∧
        ¬ Text.IsSpan segment.start segment.stop sql.toList ∧
        error = .expressionSpan segment.start segment.stop := by
  have hmap (wrap : String → Expression) :
      (segment.source sql).map wrap = .error error ↔ segment.source sql = .error error := by
    cases segment.source sql <;> simp [Except.map]
  rw [← Text.slice?_eq_none_iff, ← source_eq_error_iff]
  unfold toExpression
  cases segment.kind with
  | placeholder index => simp
  | literal value => simp
  | text => simp [hmap]
  | complex => simp [hmap]

/-- A value that can be evaluated is not bound as an ignored expression. -/
theorem ne_ignored_of_isRoutable {segment : ExpressionSegment} {sql : String}
    {expression : Expression} (hroutable : segment.isRoutable = true)
    (hconverted : segment.toExpression sql = .ok expression) (source : String) :
    expression ≠ .ignored source := by
  rintro rfl
  unfold isRoutable at hroutable
  unfold toExpression at hconverted
  cases hkind : segment.kind with
  | placeholder index => simp [hkind] at hconverted
  | literal value => simp [hkind] at hconverted
  | text =>
      rw [hkind] at hconverted
      cases hsource : segment.source sql <;> simp [hsource, Except.map] at hconverted
  | complex => simp [hkind] at hroutable

/-- A complex value is bound as the text that it was written with. -/
theorem toExpression_of_complex {segment : ExpressionSegment} {sql : String}
    (hkind : segment.kind = .complex) :
    segment.toExpression sql = (segment.source sql).map .ignored := by
  rw [toExpression, hkind]

end ExpressionSegment

/-- The event about a value that cannot be evaluated on a sharding column. -/
def complexValueEvent (column : Column) (source : String) : Event :=
  ⟨.debug, "complex expression on sharding column \"" ++ column.text ++ "\": " ++ source⟩

/-- What can be wrong with a value on a column, with the error and the events that
it leads to.  A value that cannot be read is not judged any further. -/
inductive ValueFault (rule : ShardingRule) (sql : String) (column : Column)
    (segment : ExpressionSegment) : FillError → List Event → Prop
  /-- The value has to be read from the text, and its offsets enclose no span. -/
  | span (hkind : segment.kind = .text ∨ segment.kind = .complex)
      (hspan : ¬ Text.IsSpan segment.start segment.stop sql.toList) :
      ValueFault rule sql column segment (.expressionSpan segment.start segment.stop) []
  /-- The statement is routed by this column, and the value cannot be evaluated. -/
  | unsupported (source : String) (hkind : segment.kind = .complex)
      (hsource : segment.source sql = .ok source)
      (hsharding : rule.isShardingColumn column.name column.table = true) :
      ValueFault rule sql column segment (.unsupportedShardingExpression column.name)
        [complexValueEvent column source]

/-- Something is wrong with a pair. -/
def PairFault (rule : ShardingRule) (sql : String) (pair : Column × ExpressionSegment) :
    Prop :=
  ∃ error events, ValueFault rule sql pair.1 pair.2 error events

/-- The column is the one that the key generator fills. -/
def fillsKey (keyColumn : Option String) (column : Column) : Bool :=
  keyColumn.any (Text.sameExceptAsciiCase · column.name)

/-- What a pair adds to a statement when nothing is wrong with it. -/
def boundValue (rule : ShardingRule) (keyColumn : Option String) (column : Column)
    (expression : Expression) : BoundValue where
  expression := expression
  condition :=
    if rule.isShardingColumn column.name column.table then some ⟨column, expression⟩ else none
  generatedKey :=
    if fillsKey keyColumn column then some ⟨column, .ofExpression expression⟩ else none

section BoundRow

variable {rule : ShardingRule} {keyColumn : Option String} {sql : String}

/-- A value that cannot be converted is refused before anything else is asked. -/
theorem bindValue_of_error {column : Column} {segment : ExpressionSegment}
    {error : FillError} (herror : segment.toExpression sql = .error error) :
    bindValue rule keyColumn sql column segment = ⟨[], .error error⟩ := by
  rw [bindValue, herror]
  rfl

theorem bindValue_of_unsupported {column : Column} {segment : ExpressionSegment}
    {source : String} (hkind : segment.kind = .complex)
    (hsource : segment.source sql = .ok source)
    (hsharding : rule.isShardingColumn column.name column.table = true) :
    bindValue rule keyColumn sql column segment =
      ⟨[complexValueEvent column source],
        .error (.unsupportedShardingExpression column.name)⟩ := by
  have hroutable := ExpressionSegment.isRoutable_eq_false_iff.2 hkind
  have hconverted : segment.toExpression sql = .ok (.ignored source) := by
    rw [ExpressionSegment.toExpression_of_complex hkind, hsource]
    rfl
  rw [bindValue, hconverted]
  simp only [Logged.ofExcept_ok, Logged.bind_eq, Logged.ok_bind, routeCondition?, hsharding,
    hroutable, if_true, Bool.false_eq_true, if_false]
  rfl

theorem bindValue_of_bound {column : Column} {segment : ExpressionSegment}
    {expression : Expression} (hconverted : segment.toExpression sql = .ok expression)
    (hroutable : rule.isShardingColumn column.name column.table = true →
      segment.isRoutable = true) :
    bindValue rule keyColumn sql column segment =
      .ok (boundValue rule keyColumn column expression) := by
  have hcondition : routeCondition? rule column segment expression =
      .ok (boundValue rule keyColumn column expression).condition := by
    unfold routeCondition? boundValue
    by_cases hsharding : rule.isShardingColumn column.name column.table = true
    · simp [hsharding, hroutable hsharding]
    · simp [hsharding]
  have hkey : generatedKey? keyColumn sql column segment =
      .ok (boundValue rule keyColumn column expression).generatedKey := by
    unfold generatedKey?
    rw [suppliedKey_eq, hconverted]
    by_cases hfills : fillsKey keyColumn column = true
    · have hany : keyColumn.any (Text.sameExceptAsciiCase · column.name) = true := hfills
      simp [hany, boundValue, hfills, Except.map]
    · have hany : ¬ keyColumn.any (Text.sameExceptAsciiCase · column.name) = true := hfills
      simp [hany, boundValue, hfills]
  rw [bindValue, hconverted]
  simp only [Logged.ofExcept_ok, Logged.bind_eq, Logged.ok_bind, Logged.pure_eq, hcondition,
    hkey]
  rfl

/-- A pair without a fault is bound silently. -/
theorem exists_bound_of_no_fault {column : Column} {segment : ExpressionSegment}
    (hclean : ∀ error events, ¬ ValueFault rule sql column segment error events) :
    ∃ expression, segment.toExpression sql = .ok expression ∧
      (rule.isShardingColumn column.name column.table = true →
        segment.isRoutable = true) := by
  cases hconverted : segment.toExpression sql with
  | error error =>
      obtain ⟨hkind, hspan, -⟩ := ExpressionSegment.toExpression_eq_error_iff.1 hconverted
      exact absurd (.span hkind hspan) (hclean _ _)
  | ok expression =>
      refine ⟨expression, rfl, fun hsharding => ?_⟩
      -- A value that cannot be evaluated would be the second kind of fault.
      by_contra hroutable
      have hkind : segment.kind = .complex :=
        ExpressionSegment.isRoutable_eq_false_iff.1 (eq_false_of_ne_true hroutable)
      rw [ExpressionSegment.toExpression_of_complex hkind] at hconverted
      cases hsource : segment.source sql with
      | error error =>
          rw [hsource] at hconverted
          cases hconverted
      | ok source => exact hclean _ _ (.unsupported source hkind hsource hsharding)

theorem bindValue_of_fault {column : Column} {segment : ExpressionSegment}
    {error : FillError} {events : List Event}
    (hfault : ValueFault rule sql column segment error events) :
    bindValue rule keyColumn sql column segment = ⟨events, .error error⟩ := by
  cases hfault with
  | span hkind hspan =>
      exact bindValue_of_error
        (ExpressionSegment.toExpression_eq_error_iff.2 ⟨hkind, hspan, rfl⟩)
  | unsupported source hkind hsource hsharding =>
      exact bindValue_of_unsupported hkind hsource hsharding

/-- A pair is bound exactly when its value can be converted and, on a sharding
column, evaluated. -/
theorem bindValue_eq_ok_iff {column : Column} {segment : ExpressionSegment}
    {value : BoundValue} :
    bindValue rule keyColumn sql column segment = .ok value ↔
      ∃ expression, segment.toExpression sql = .ok expression ∧
        (rule.isShardingColumn column.name column.table = true →
          segment.isRoutable = true) ∧
        value = boundValue rule keyColumn column expression := by
  constructor
  · intro hbound
    have hclean : ∀ error events, ¬ ValueFault rule sql column segment error events := by
      intro error events hfault
      rw [bindValue_of_fault hfault] at hbound
      cases hbound
    obtain ⟨expression, hconverted, hroutable⟩ := exists_bound_of_no_fault hclean
    rw [bindValue_of_bound hconverted hroutable] at hbound
    cases hbound
    exact ⟨expression, hconverted, hroutable, rfl⟩
  · intro hconvertible
    obtain ⟨expression, hconverted, hroutable, rfl⟩ := hconvertible
    exact bindValue_of_bound hconverted hroutable

/-- A pair is refused exactly for its fault, with the events of the fault. -/
theorem bindValue_eq_error_iff {column : Column} {segment : ExpressionSegment}
    {error : FillError} {events : List Event} :
    bindValue rule keyColumn sql column segment = ⟨events, .error error⟩ ↔
      ValueFault rule sql column segment error events := by
  constructor
  · intro hrefused
    by_contra hnone
    -- Another fault would refuse the pair with its own error and events.
    have hclean : ∀ other otherEvents,
        ¬ ValueFault rule sql column segment other otherEvents := by
      intro other otherEvents hfault
      have hsame := hrefused.symm.trans (bindValue_of_fault hfault)
      cases hsame
      exact hnone hfault
    obtain ⟨expression, hconverted, hroutable⟩ := exists_bound_of_no_fault hclean
    rw [bindValue_of_bound hconverted hroutable] at hrefused
    cases hrefused
  · exact bindValue_of_fault

/-- There is no third outcome: only a refused pair leaves events behind. -/
theorem bindValue_cases (rule : ShardingRule) (keyColumn : Option String) (sql : String)
    (column : Column) (segment : ExpressionSegment) :
    (∃ value, bindValue rule keyColumn sql column segment = .ok value) ∨
      ∃ error events,
        bindValue rule keyColumn sql column segment = ⟨events, .error error⟩ := by
  by_cases hfault : ∃ error events, ValueFault rule sql column segment error events
  · obtain ⟨error, events, hfault⟩ := hfault
    exact .inr ⟨error, events, bindValue_of_fault hfault⟩
  · have hclean : ∀ error events, ¬ ValueFault rule sql column segment error events := by
      intro error events hfound
      exact hfault ⟨error, events, hfound⟩
    obtain ⟨expression, hconverted, hroutable⟩ := exists_bound_of_no_fault hclean
    exact .inl ⟨_, bindValue_of_bound hconverted hroutable⟩

theorem bindRow_cons_of_ok {pair : Column × ExpressionSegment} {value : BoundValue}
    (hbound : bindValue rule keyColumn sql pair.1 pair.2 = .ok value)
    (rest : List (Column × ExpressionSegment)) :
    bindRow rule keyColumn sql (pair :: rest) =
      (bindRow rule keyColumn sql rest).bind fun values => .ok (value :: values) := by
  rw [bindRow, hbound]
  rfl

theorem bindRow_cons_of_error {pair : Column × ExpressionSegment} {error : FillError}
    {events : List Event}
    (hrefused : bindValue rule keyColumn sql pair.1 pair.2 = ⟨events, .error error⟩)
    (rest : List (Column × ExpressionSegment)) :
    bindRow rule keyColumn sql (pair :: rest) = ⟨events, .error error⟩ := by
  rw [bindRow, hrefused]
  rfl

/-- A row is bound silently or refused. -/
theorem bindRow_cases (rule : ShardingRule) (keyColumn : Option String) (sql : String)
    (pairs : List (Column × ExpressionSegment)) :
    (∃ values, bindRow rule keyColumn sql pairs = .ok values) ∨
      ∃ error events, bindRow rule keyColumn sql pairs = ⟨events, .error error⟩ := by
  induction pairs with
  | nil => exact .inl ⟨[], rfl⟩
  | cons pair rest ih =>
      rcases bindValue_cases rule keyColumn sql pair.1 pair.2 with
        ⟨value, hvalue⟩ | ⟨error, events, hrefused⟩
      · rw [bindRow_cons_of_ok hvalue]
        rcases ih with ⟨values, hrest⟩ | ⟨error, events, hrest⟩
        · left
          exact ⟨value :: values, by rw [hrest]; rfl⟩
        · right
          exact ⟨error, events, Logged.bind_ok_eq_error_iff.2 hrest⟩
      · exact .inr ⟨error, events, bindRow_cons_of_error hrefused rest⟩

/-- A row is bound exactly when every pair of it is. -/
theorem bindRow_eq_ok_iff {pairs : List (Column × ExpressionSegment)}
    {values : List BoundValue} :
    bindRow rule keyColumn sql pairs = .ok values ↔
      List.Forall₂ (fun pair value => bindValue rule keyColumn sql pair.1 pair.2 = .ok value)
        pairs values := by
  induction pairs generalizing values with
  | nil =>
      rw [List.forall₂_nil_left_iff, bindRow]
      constructor
      · intro hbound
        cases hbound
        rfl
      · rintro rfl
        rfl
  | cons pair rest ih =>
      rcases bindValue_cases rule keyColumn sql pair.1 pair.2 with
        ⟨value, hvalue⟩ | ⟨error, events, hrefused⟩
      · rw [bindRow_cons_of_ok hvalue, Logged.bind_ok_eq_ok_iff,
          List.forall₂_cons_left_iff, hvalue]
        constructor
        · rintro ⟨others, hrest, rfl⟩
          exact ⟨value, others, rfl, ih.1 hrest, rfl⟩
        · rintro ⟨first, others, hfirst, hrest, rfl⟩
          cases hfirst
          exact ⟨others, ih.2 hrest, rfl⟩
      · rw [bindRow_cons_of_error hrefused, List.forall₂_cons_left_iff, hrefused]
        constructor
        · intro hbound
          cases hbound
        · rintro ⟨value, values', hbound, -, -⟩
          cases hbound

/-- A row is refused for the first pair that has a fault. -/
theorem bindRow_eq_error_iff {pairs : List (Column × ExpressionSegment)}
    {error : FillError} {events : List Event} :
    bindRow rule keyColumn sql pairs = ⟨events, .error error⟩ ↔
      ∃ i pair, IsFirst (PairFault rule sql) pairs i pair ∧
        ValueFault rule sql pair.1 pair.2 error events := by
  induction pairs with
  | nil =>
      rw [bindRow]
      constructor
      · intro hrefused
        cases hrefused
      · rintro ⟨i, pair, hfirst, -⟩
        exact absurd hfirst not_isFirst_nil
  | cons first rest ih =>
      rcases bindValue_cases rule keyColumn sql first.1 first.2 with
        ⟨value, hvalue⟩ | ⟨firstError, firstEvents, hrefused⟩
      · -- The first pair is bound, so the fault lies behind it.
        have hclean : ¬ PairFault rule sql first := by
          rintro ⟨other, otherEvents, hfault⟩
          rw [bindValue_of_fault hfault] at hvalue
          cases hvalue
        rw [bindRow_cons_of_ok hvalue, Logged.bind_ok_eq_error_iff, ih,
          exists_isFirst_cons_of_not_fault hclean]
      · -- The first pair is refused, so its outcome is the outcome of the row.
        have hfault := bindValue_eq_error_iff.1 hrefused
        have hpair : PairFault rule sql first := ⟨firstError, firstEvents, hfault⟩
        rw [bindRow_cons_of_error hrefused, exists_isFirst_cons_of_fault hpair]
        constructor
        · intro hsame
          cases hsame
          exact hfault
        · intro hother
          have hsame := (bindValue_of_fault hother).symm.trans hrefused
          cases hsame
          rfl

end BoundRow

end InsertRouting
