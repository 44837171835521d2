import InsertRouting.Proofs.Data.Related
import InsertRouting.Proofs.Insert.Session
import Mathlib.Data.List.DropRight

namespace InsertRouting

/-!
# The count of the parameters

Parameters are counted in three places.  A clause counts the ones among its values as they
are reported, and the count can be corrected on the way; a row takes over the count of its
clause; a statement adds up the counts of its rows.  The three agree with the values that
are really there: a clause counts from its last correction on, and a statement whose clauses
were never corrected has counted exactly the parameters among the values of its rows.  The
counts are words, so each of them is what it stands for modulo the size of a word, and
exactly that as long as it fits.
-/

namespace SetClause

/-- The value that a report adds to the clause. -/
def Step.value? : Step → Option ExpressionSegment
  | .column _ => none
  | .value added => some added
  | .assignment _ added => some added
  | .parametersCount _ => none

/-- The count that a report puts in place of the one so far. -/
def Step.correction? : Step → Option UInt64
  | .column _ => none
  | .value _ => none
  | .assignment _ _ => none
  | .parametersCount count => some count

/-- The count of the last correction, zero without one. -/
def lastCorrection (steps : List Step) : UInt64 :=
  (steps.filterMap Step.correction?).getLast?.getD 0

/-- The reports behind the last correction, all of them without one. -/
def sinceCorrection (steps : List Step) : List Step :=
  steps.rtakeWhile (·.correction?.isNone)

/-- Number of parameters among the values that are reported. -/
def parametersIn (steps : List Step) : Nat :=
  (steps.filterMap Step.value?).countP (·.isPlaceholder)

/-- The clause was reported without a correction. -/
def Uncorrected (clause : SetClause) : Prop :=
  ∃ start steps, clause = build start steps ∧ ∀ step ∈ steps, step.correction? = none

section Build

variable {start : Nat} {steps : List Step} {step : Step}

theorem build_concat (start : Nat) (steps : List Step) (step : Step) :
    build start (steps ++ [step]) = (build start steps).apply step := by
  simp [build]

theorem parametersIn_concat (steps : List Step) (step : Step) :
    parametersIn (steps ++ [step]) = parametersIn steps + parametersIn [step] := by
  simp only [parametersIn, List.filterMap_append, List.countP_append]

/-- A value counts once if it is a parameter. -/
theorem countsTo_addValue {clause : SetClause} {total : Nat}
    (hclause : CountsTo clause.parametersCount total) (value : ExpressionSegment) :
    CountsTo (clause.addValue value).parametersCount
      (total + [value].countP (·.isPlaceholder)) := by
  apply hclause.add
  rw [List.countP_singleton]
  cases value.isPlaceholder with
  | true => exact countsTo_toNat 1
  | false => exact countsTo_zero

/-- A report that is no correction adds the parameters it brings, none for a column. -/
theorem countsTo_apply_of_none {clause : SetClause} {total : Nat}
    (hclause : CountsTo clause.parametersCount total) (hstep : step.correction? = none) :
    CountsTo (clause.apply step).parametersCount (total + parametersIn [step]) := by
  cases step with
  | column column => exact hclause
  | value value => exact countsTo_addValue hclause value
  | assignment column value => exact countsTo_addValue hclause value
  | parametersCount count => cases hstep

theorem parametersCount_apply_of_some (clause : SetClause) {count : UInt64}
    (hstep : step.correction? = some count) :
    (clause.apply step).parametersCount = count := by
  cases step with
  | parametersCount given => exact Option.some.inj hstep
  | column column => cases hstep
  | value value => cases hstep
  | assignment column value => cases hstep

/-- A clause counts the parameters from its last correction on. -/
theorem countsTo_build (start : Nat) (steps : List Step) :
    CountsTo (build start steps).parametersCount
      ((lastCorrection steps).toNat + parametersIn (sinceCorrection steps)) := by
  -- The last report decides whether the count goes on or starts again.
  induction steps using List.reverseRecOn with
  | nil => exact countsTo_zero
  | append_singleton steps step ih =>
      rw [build_concat]
      cases hstep : step.correction? with
      | none =>
          have hlast : lastCorrection (steps ++ [step]) = lastCorrection steps := by
            simp [lastCorrection, hstep]
          have hsince : sinceCorrection (steps ++ [step]) = sinceCorrection steps ++ [step] :=
            List.rtakeWhile_concat_pos _ _ _ (by rw [hstep]; rfl)
          rw [hlast, hsince, parametersIn_concat, ← Nat.add_assoc]
          exact countsTo_apply_of_none ih hstep
      | some count =>
          have hlast : lastCorrection (steps ++ [step]) = count := by
            simp [lastCorrection, hstep]
          have hsince : sinceCorrection (steps ++ [step]) = [] :=
            List.rtakeWhile_concat_neg _ _ _ (by rw [hstep]; simp)
          rw [parametersCount_apply_of_some _ hstep, hlast, hsince]
          exact countsTo_toNat count

theorem values_build (start : Nat) (steps : List Step) :
    (build start steps).values = steps.filterMap Step.value? := by
  induction steps using List.reverseRecOn with
  | nil => rfl
  | append_singleton steps step ih =>
      have hstep : ((build start steps).apply step).values =
          (build start steps).values ++ [step].filterMap Step.value? := by
        cases step <;> simp [apply, assign, addColumn, addValue, withParametersCount, Step.value?]
      rw [build_concat, hstep, ih, List.filterMap_append]

/-- Without a correction the count is right. -/
theorem Uncorrected.countsTo_values {clause : SetClause} (hclause : clause.Uncorrected) :
    CountsTo clause.parametersCount (clause.values.countP (·.isPlaceholder)) := by
  obtain ⟨start, steps, rfl, hsteps⟩ := hclause
  have hlast : lastCorrection steps = 0 := by
    rw [lastCorrection, List.filterMap_eq_nil_iff.2 hsteps]
    rfl
  have hsince : sinceCorrection steps = steps :=
    List.rtakeWhile_eq_self_iff.2 fun step hstep => by rw [hsteps step hstep]; rfl
  have hbuild := countsTo_build start steps
  rw [hlast, hsince] at hbuild
  rw [values_build]
  rwa [show (0 : UInt64).toNat = 0 from rfl, Nat.zero_add] at hbuild

end Build

end SetClause

/-- The value of a statement is a parameter. -/
def Expression.isPlaceholder : Expression → Bool
  | .placeholder _ => true
  | .literal _ => false
  | .text _ => false
  | .ignored _ => false

section Rows

variable {sql : String}

/-- A value is a parameter after its conversion if and only if it was one before. -/
theorem ExpressionSegment.isPlaceholder_of_toExpression {segment : ExpressionSegment}
    {value : Expression} (hconverted : segment.toExpression sql = .ok value) :
    value.isPlaceholder = segment.isPlaceholder := by
  unfold toExpression at hconverted
  unfold isPlaceholder
  split at hconverted
  case h_1 | h_2 =>
    cases hconverted
    simp [*, Expression.isPlaceholder]
  case h_3 | h_4 =>
    cases hsource : segment.source sql with
    | error error =>
        rw [hsource] at hconverted
        cases hconverted
    | ok source =>
        rw [hsource] at hconverted
        cases hconverted
        simp [*, Expression.isPlaceholder]

theorem countP_isPlaceholder_of_converted {segments : List ExpressionSegment}
    {values : List Expression}
    (hvalues : List.Forall₂ (fun segment value => segment.toExpression sql = .ok value)
      segments values) :
    values.countP (·.isPlaceholder) = segments.countP (·.isPlaceholder) := by
  induction hvalues with
  | nil => rfl
  | cons hconverted _ ih =>
      rw [List.countP_cons, List.countP_cons, ih,
        ExpressionSegment.isPlaceholder_of_toExpression hconverted]

/-- The row of an uncorrected clause has counted its own parameters, however many columns
of the clause are left without a value. -/
theorem Effect.countsTo_values {clause : SetClause} {table : String}
    {rule : ShardingRule} {added : Contribution} (heffect : Effect clause table sql rule added)
    (hclause : clause.Uncorrected) :
    CountsTo added.row.parametersCount (added.row.values.countP (·.isPlaceholder)) := by
  rw [heffect.parametersCount, countP_isPlaceholder_of_converted heffect.values]
  exact hclause.countsTo_values

end Rows

/-- What the count of a statement stands for. -/
structure ParametersCounted (statement : InsertStatement) (requests : List FillRequest) :
    Prop where
  rows : CountsTo statement.parametersIndex
    (statement.rows.map (·.parametersCount.toNat)).sum
  /-- Only accepted requests are counted. -/
  clauses : CountsTo statement.parametersIndex
    (requests.map (·.clause.parametersCount.toNat)).sum
  placeholders : (∀ request ∈ requests, request.clause.Uncorrected) →
    CountsTo statement.parametersIndex
      ((statement.rows.flatMap (·.values)).countP (·.isPlaceholder))

section Counted

variable {statement : InsertStatement} {requests : List FillRequest}
  {blocks : List Contribution}

theorem ParametersCounted.of_division (hdivision : Division .empty statement requests blocks) :
    ParametersCounted statement requests := by
  have hindex : CountsTo statement.parametersIndex
      (blocks.map (·.row.parametersCount.toNat)).sum := by
    rw [← Nat.zero_add (List.sum _)]
    exact hdivision.parametersIndex
  have hrows : statement.rows = blocks.map (·.row) := hdivision.rows
  refine ⟨?_, ?_, fun huncorrected => ?_⟩
  · rw [hrows, List.map_map]
    exact hindex
  · rw [← map_parametersCount_of_effects hdivision.effects]
    exact hindex
  · rw [hrows, List.flatMap_map, List.countP_flatMap]
    apply hindex.of_sum
    intro block hblock
    obtain ⟨request, hrequest, table, -, heffect⟩ :=
      exists_mem_of_forall₂_right hdivision.effects hblock
    exact heffect.countsTo_values (huncorrected request hrequest)

/-- A clause counts the parameters behind its last correction on top of that correction.  A
statement that is built from a new one has counted what its rows have counted, which are
those of the accepted requests, and it has counted right if no clause was corrected.  All of
these are exact as long as the sums fit a word.  A refused request changes nothing. -/
theorem parameters_counted (start : Nat) (steps : List SetClause.Step)
    (table? : Option String) (operations : List Operation) :
    CountsTo (SetClause.build start steps).parametersCount
      ((SetClause.lastCorrection steps).toNat +
        SetClause.parametersIn (SetClause.sinceCorrection steps)) ∧
    ParametersCounted ((InsertStatement.fresh table?).run operations)
      ((InsertStatement.fresh table?).accepted operations) ∧
    ∀ (statement : InsertStatement) (request : FillRequest) (error : FillError),
      (request.on statement).verdict = .error error →
        statement.perform (.fill request) = statement := by
  refine ⟨SetClause.countsTo_build start steps, ?_, ?_⟩
  · obtain ⟨blocks, hdivision⟩ := exists_division_of_run table? operations
    exact .of_division hdivision
  · intro statement request error hrefused
    exact statement_fill_of_error hrefused

end Counted

/-- The reports of `sampleClause`. -/
def sampleSteps : List SetClause.Step :=
  [.assignment ⟨"ID", some "user", 23⟩ ⟨.placeholder 0, 35, 35⟩,
    .assignment ⟨"name", none, 38⟩ ⟨.text, 45, 49⟩,
    .assignment ⟨"age", some "orders", 52⟩ ⟨.complex, 65, 69⟩,
    .column ⟨"pwd_assisted", none, 72⟩]

/-- A correction in front of the reports of the sample is counted on from.  Without one, the
two rows of the sample have counted their two parameters, and a request that is refused
because a second table has been named adds nothing. -/
theorem parameters_counted_sample :
    let operations : List Operation :=
      [.fill sampleRequest, .fill sampleRequest, .addTable "orders", .fill sampleRequest]
    let statement := (InsertStatement.onTable "user").run operations
    (SetClause.build 19 (.value ⟨.placeholder 4, 20, 20⟩ :: .parametersCount 7 ::
        sampleSteps)).parametersCount.toNat = 7 + 1 ∧
      (InsertStatement.onTable "user").accepted operations = [sampleRequest, sampleRequest] ∧
      sampleRequest.clause.Uncorrected ∧ statement.parametersIndex.toNat = 2 ∧
      statement.parametersIndex.toNat =
        (statement.rows.flatMap (·.values)).countP (·.isPlaceholder) := by
  intro operations statement
  obtain ⟨hclause, hcounted, -⟩ := parameters_counted 19
    (.value ⟨.placeholder 4, 20, 20⟩ :: .parametersCount 7 :: sampleSteps) (some "user")
    operations
  have haccepted : (InsertStatement.onTable "user").accepted operations =
      [sampleRequest, sampleRequest] := by rfl
  have huncorrected : sampleRequest.clause.Uncorrected := by
    refine ⟨19, sampleSteps, by rfl, ?_⟩
    decide
  have hplaceholders : (statement.rows.flatMap (·.values)).countP (·.isPlaceholder) = 2 := by
    rfl
  refine ⟨hclause.toNat_eq (by decide), haccepted, huncorrected, by rfl, ?_⟩
  apply CountsTo.toNat_eq
  · apply hcounted.placeholders
    intro request hrequest
    rw [show (InsertStatement.fresh (some "user")).accepted operations =
      [sampleRequest, sampleRequest] from haccepted] at hrequest
    obtain rfl : request = sampleRequest := by simpa using hrequest
    exact huncorrected
  · rw [hplaceholders]
    decide

end InsertRouting
