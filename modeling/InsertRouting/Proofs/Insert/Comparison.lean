import InsertRouting.Proofs.Insert.Alignment
import InsertRouting.Proofs.Number.Comparison

namespace InsertRouting

/-!
# Comparison of statements

Statements are compared part by part, down to their literals, and doubles among these are
compared as numbers.  What comes of it is said once for everything that is compared in this
way (`ComparedByNumbers`): two items are equal exactly if no NaN is among their literals and
they have the same normal form, in which the zeros have lost their sign.  So comparison is
symmetric and transitive, and an item differs from itself exactly if it has a NaN.

In a statement that is built from a new one, all literals are values of its rows: the
conditions and the generated keys only repeat them.
-/

/-- No literal of the list is a NaN. -/
def NaNFree (literals : List Scalar) : Prop :=
  ∀ literal ∈ literals, literal.isNaN = false

/-- Two items are equal exactly if none of their literals is a NaN and their normal forms are
the same. -/
def ComparedByNumbers {α : Type} [BEq α] (literals : α → List Scalar) (normal : α → α) :
    Prop :=
  ∀ left right : α, (left == right) = true ↔
    NaNFree (literals left) ∧ NaNFree (literals right) ∧ normal left = normal right

theorem nanFree_nil : NaNFree [] := by
  intro literal hmem
  cases hmem

theorem nanFree_append_iff {left right : List Scalar} :
    NaNFree (left ++ right) ↔ NaNFree left ∧ NaNFree right :=
  List.forall_mem_append

namespace ComparedByNumbers

variable {α : Type} [BEq α] {literals : α → List Scalar} {normal : α → α}

/-- Only an item with a NaN differs from itself. -/
theorem beq_self_iff (hcompared : ComparedByNumbers literals normal) (item : α) :
    (item == item) = true ↔ NaNFree (literals item) := by
  rw [hcompared item item]
  simp

theorem partialEquivBEq (hcompared : ComparedByNumbers literals normal) :
    PartialEquivBEq α where
  symm {left right} hequal := by
    obtain ⟨hleft, hright, hnormal⟩ := (hcompared left right).1 hequal
    exact (hcompared right left).2 ⟨hright, hleft, hnormal.symm⟩
  trans {first second third} hequal hequal' := by
    obtain ⟨hfirst, -, hnormal⟩ := (hcompared first second).1 hequal
    obtain ⟨-, hthird, hnormal'⟩ := (hcompared second third).1 hequal'
    exact (hcompared first third).2 ⟨hfirst, hthird, hnormal.trans hnormal'⟩

/-- Lists are compared item by item. -/
theorem list (hcompared : ComparedByNumbers literals normal) :
    ComparedByNumbers (fun items : List α => items.flatMap literals) (List.map normal) := by
  intro left
  -- Lists of different lengths are not equal, and neither are their normal forms.
  induction left with
  | nil =>
      intro right
      cases right with
      | nil => simp [nanFree_nil]
      | cons item rest => simp
  | cons item rest ih =>
      intro right
      cases right with
      | nil => simp
      | cons other others =>
          rw [List.cons_beq_cons, Bool.and_eq_true, hcompared item other, ih others]
          simp only [List.flatMap_cons, nanFree_append_iff, List.map_cons, List.cons.injEq]
          tauto

end ComparedByNumbers

namespace Scalar

/-- The literal with the sign of a zero left out. -/
def normal : Scalar → Scalar
  | integer value => .integer value
  | float value => .float value.normal
  | boolean value => .boolean value

theorem comparedByNumbers : ComparedByNumbers (fun literal : Scalar => [literal]) normal := by
  intro left right
  cases left <;> cases right <;>
    simp [beq_eq, equal, normal, NaNFree, isNaN, Number.Double.beq_iff_normal]

end Scalar

namespace Expression

/-- The literal that a value consists of, if it is one. -/
def literals : Expression → List Scalar
  | literal value => [value]
  | placeholder _ => []
  | text _ => []
  | ignored _ => []

def normal : Expression → Expression
  | placeholder index => .placeholder index
  | literal value => .literal value.normal
  | text source => .text source
  | ignored source => .ignored source

theorem comparedByNumbers : ComparedByNumbers literals normal := by
  intro left right
  cases left <;> cases right <;>
    simp [beq_eq, equal, normal, literals, nanFree_nil, Scalar.comparedByNumbers _ _]

end Expression

namespace KeySource

/-- The literal that supplies a key, if it is one. -/
def literals : KeySource → List Scalar
  | value scalar => [scalar]
  | placeholder _ => []
  | raw _ => []

def normal : KeySource → KeySource
  | placeholder index => .placeholder index
  | value scalar => .value scalar.normal
  | raw source => .raw source

theorem comparedByNumbers : ComparedByNumbers literals normal := by
  intro left right
  cases left <;> cases right <;>
    simp [beq_eq, equal, normal, literals, nanFree_nil, Scalar.comparedByNumbers _ _]

end KeySource

namespace Condition

def literals (condition : Condition) : List Scalar :=
  condition.expression.literals

def normal (condition : Condition) : Condition where
  column := condition.column
  expression := condition.expression.normal

theorem comparedByNumbers : ComparedByNumbers literals normal := by
  intro left right
  rw [beq_eq, equal, Bool.and_eq_true, beq_iff_eq, Expression.comparedByNumbers]
  simp only [literals, normal, mk.injEq]
  tauto

end Condition

namespace GeneratedKey

def literals (key : GeneratedKey) : List Scalar :=
  key.source.literals

def normal (key : GeneratedKey) : GeneratedKey where
  column := key.column
  source := key.source.normal

theorem comparedByNumbers : ComparedByNumbers literals normal := by
  intro left right
  rw [beq_eq, equal, Bool.and_eq_true, beq_iff_eq, KeySource.comparedByNumbers]
  simp only [literals, normal, mk.injEq]
  tauto

end GeneratedKey

namespace Row

def literals (row : Row) : List Scalar :=
  row.values.flatMap Expression.literals

def normal (row : Row) : Row where
  keyword := row.keyword
  parametersCount := row.parametersCount
  values := row.values.map Expression.normal

theorem comparedByNumbers : ComparedByNumbers literals normal := by
  intro left right
  rw [beq_eq, equal, Bool.and_eq_true, Bool.and_eq_true, beq_iff_eq, beq_iff_eq,
    Expression.comparedByNumbers.list]
  simp only [literals, normal, mk.injEq]
  tauto

end Row

namespace InsertStatement

/-- The literals among the values of the rows. -/
def rowLiterals (statement : InsertStatement) : List Scalar :=
  statement.rows.flatMap Row.literals

/-- The literals that the statement is routed by. -/
def conditionLiterals (statement : InsertStatement) : List Scalar :=
  statement.routeConditions.flatMap fun conditions => conditions.flatMap Condition.literals

/-- The literals that supply generated keys. -/
def keyLiterals (statement : InsertStatement) : List Scalar :=
  statement.generatedKeys.flatMap GeneratedKey.literals

/-- All literals of a statement. -/
def literals (statement : InsertStatement) : List Scalar :=
  statement.rowLiterals ++ statement.conditionLiterals ++ statement.keyLiterals

/-- The statement with the signs of all zeros among its literals left out. -/
def normal (statement : InsertStatement) : InsertStatement where
  tables := statement.tables
  columns := statement.columns
  rows := statement.rows.map Row.normal
  routeConditions := statement.routeConditions.map (List.map Condition.normal)
  generatedKeys := statement.generatedKeys.map GeneratedKey.normal
  tokens := statement.tokens
  parametersIndex := statement.parametersIndex

theorem comparedByNumbers : ComparedByNumbers literals normal := by
  intro left right
  simp only [beq_eq, equal, Bool.and_eq_true, beq_iff_eq, Row.comparedByNumbers.list _ _,
    Condition.comparedByNumbers.list.list _ _, GeneratedKey.comparedByNumbers.list _ _]
  simp only [literals, rowLiterals, conditionLiterals, keyLiterals, nanFree_append_iff, normal,
    mk.injEq]
  tauto

end InsertStatement

section Repeated

variable {clause : SetClause} {table sql : String} {rule : ShardingRule}
  {added : Contribution} {literal : Scalar}

theorem KeySource.literals_ofExpression (value : Expression) :
    (KeySource.ofExpression value).literals = value.literals := by
  cases value <;> rfl

/-- An entry that stands for a column and a value of a row has the literals of the value. -/
theorem MadeAt.mem_flatMap_literals {β : Type} {make : Column → Expression → β}
    {literals : β → List Scalar} {columns : List Column} {values : List Expression}
    {positions : List Nat} {made : List β} (hmade : MadeAt make columns values positions made)
    (hmake : ∀ column value, literals (make column value) = value.literals) {entry : β}
    (hentry : entry ∈ made) (hmem : literal ∈ literals entry) :
    literal ∈ values.flatMap Expression.literals := by
  obtain ⟨i, -, column, value, -, hvalue, rfl⟩ := hmade.mem_iff.1 hentry
  rw [hmake] at hmem
  exact List.mem_flatMap.2 ⟨value, List.mem_of_getElem? hvalue, hmem⟩

theorem Effect.mem_literals_of_condition (heffect : Effect clause table sql rule added)
    {condition : Condition} (hcondition : condition ∈ added.conditions)
    (hmem : literal ∈ condition.literals) : literal ∈ added.row.literals :=
  heffect.conditions.mem_flatMap_literals (fun _ _ => rfl) hcondition hmem

theorem Effect.mem_literals_of_key (heffect : Effect clause table sql rule added)
    {key : GeneratedKey} (hkey : key ∈ added.generatedKeys)
    (hmem : literal ∈ key.literals) : literal ∈ added.row.literals :=
  heffect.generatedKeys.mem_flatMap_literals
    (fun _ value => KeySource.literals_ofExpression value) hkey hmem

end Repeated

section Built

variable {statement : InsertStatement} {requests : List FillRequest}
  {blocks : List Contribution} {literal : Scalar}

/-- The literals in the row of a block are literals of the rows. -/
theorem Division.mem_rowLiterals (hdivision : Division .empty statement requests blocks)
    {block : Contribution} (hblock : block ∈ blocks) (hmem : literal ∈ block.row.literals) :
    literal ∈ statement.rowLiterals := by
  have hrow : block.row ∈ statement.rows := by
    rw [hdivision.rows]
    exact List.mem_append_right _ (List.mem_map_of_mem hblock)
  exact List.mem_flatMap.2 ⟨block.row, hrow, hmem⟩

theorem Division.mem_rowLiterals_of_condition
    (hdivision : Division .empty statement requests blocks)
    (hmem : literal ∈ statement.conditionLiterals) : literal ∈ statement.rowLiterals := by
  obtain ⟨conditions, hconditions, hinner⟩ := List.mem_flatMap.1 hmem
  obtain ⟨condition, hcondition, hliteral⟩ := List.mem_flatMap.1 hinner
  rw [hdivision.routeConditions] at hconditions
  obtain ⟨block, hblock, rfl⟩ := List.mem_map.1 hconditions
  obtain ⟨request, table, -, heffect⟩ := exists_effect_of_mem hdivision.effects hblock
  exact hdivision.mem_rowLiterals hblock
    (heffect.mem_literals_of_condition hcondition hliteral)

theorem Division.mem_rowLiterals_of_key
    (hdivision : Division .empty statement requests blocks)
    (hmem : literal ∈ statement.keyLiterals) : literal ∈ statement.rowLiterals := by
  obtain ⟨key, hkey, hliteral⟩ := List.mem_flatMap.1 hmem
  rw [hdivision.generatedKeys] at hkey
  obtain ⟨block, hblock, hkey⟩ := List.mem_flatMap.1 hkey
  obtain ⟨request, table, -, heffect⟩ := exists_effect_of_mem hdivision.effects hblock
  exact hdivision.mem_rowLiterals hblock (heffect.mem_literals_of_key hkey hliteral)

/-- Comparison of the statement with itself, and with what a refused request leaves of it, is
decided by the values of its rows. -/
structure RowsDecideEquality (statement : InsertStatement) : Prop where
  /-- The conditions and the generated keys have no literals of their own. -/
  repeated : ∀ literal ∈ statement.conditionLiterals ++ statement.keyLiterals,
    literal ∈ statement.rowLiterals
  itself : (statement == statement) = true ↔ NaNFree statement.rowLiterals
  /-- A copy that was taken before the request is compared with the statement after it. -/
  refused : ∀ (request : FillRequest) (error : FillError),
    (request.on statement).verdict = .error error →
      (((request.on statement).statement == statement) = true ↔
        NaNFree statement.rowLiterals)

theorem RowsDecideEquality.of_division
    (hdivision : Division .empty statement requests blocks) :
    RowsDecideEquality statement := by
  have hrepeated : ∀ literal ∈ statement.conditionLiterals ++ statement.keyLiterals,
      literal ∈ statement.rowLiterals := by
    intro literal hmem
    rcases List.mem_append.1 hmem with hcondition | hkey
    · exact hdivision.mem_rowLiterals_of_condition hcondition
    · exact hdivision.mem_rowLiterals_of_key hkey
  have hitself : (statement == statement) = true ↔ NaNFree statement.rowLiterals := by
    rw [InsertStatement.comparedByNumbers.beq_self_iff, InsertStatement.literals,
      List.append_assoc, nanFree_append_iff]
    constructor
    · exact And.left
    · intro hrows
      exact ⟨hrows, fun literal hmem => hrows literal (hrepeated literal hmem)⟩
  refine ⟨hrepeated, hitself, ?_⟩
  intro request error hrefused
  have hsame : (request.on statement).statement = statement :=
    statement_fill_of_error hrefused
  rw [hsame]
  exact hitself

/-- Float literals are compared as the numbers that their bits stand for.  Comparison of
statements is symmetric and transitive: two statements are equal exactly if neither has a NaN
among its literals and they differ at most by the signs of zeros.  So the NaN literals are all
that can make a statement differ from itself, and if it is built from a new one, those in its
rows. -/
theorem equality_up_to_nan :
    (∀ left right : Number.Double, (Scalar.float left == Scalar.float right) = true ↔
      ∃ value, left.value? = some value ∧ right.value? = some value) ∧
    PartialEquivBEq InsertStatement ∧
    (∀ left right : InsertStatement, (left == right) = true ↔
      NaNFree left.literals ∧ NaNFree right.literals ∧ left.normal = right.normal) ∧
    (∀ statement : InsertStatement,
      (statement == statement) = true ↔ NaNFree statement.literals) ∧
    ∀ (table? : Option String) (operations : List Operation),
      RowsDecideEquality ((InsertStatement.fresh table?).run operations) := by
  refine ⟨?_, InsertStatement.comparedByNumbers.partialEquivBEq,
    InsertStatement.comparedByNumbers, InsertStatement.comparedByNumbers.beq_self_iff, ?_⟩
  · intro left right
    exact Number.Double.beq_iff_value?
  · intro table? operations
    obtain ⟨blocks, hdivision⟩ := exists_division_of_run table? operations
    exact .of_division hdivision

end Built

/-- A request that supplies a NaN as the key. -/
def nanRequest : FillRequest where
  clause :=
    { columns := [⟨"id", none, 21⟩, ⟨"pwd_assisted", none, 31⟩]
      values := [⟨.literal (.float ⟨0x7ff8000000000000⟩), 26, 28⟩]
      start := 17 }
  sql := "INSERT INTO user SET id = NaN, pwd_assisted"
  rule := sampleRule
  catalog := sampleCatalog

/-- The request without its last column, so that it has a value too many. -/
def shortRequest : FillRequest :=
  { nanRequest with clause := { nanRequest.clause with columns := [⟨"id", none, 21⟩] } }

/-- The two zeros are equal, and a statement with a NaN in its row differs from the copy that
was taken of it before a request that is refused. -/
theorem equality_up_to_nan_sample :
    let statement := (InsertStatement.fresh (some "user")).run [.fill nanRequest]
    (Scalar.float ⟨0⟩ == Scalar.float ⟨0x8000000000000000⟩) = true ∧
      statement.rowLiterals = [.float ⟨0x7ff8000000000000⟩] ∧
      statement.keyLiterals = [.float ⟨0x7ff8000000000000⟩] ∧
      (shortRequest.on statement).verdict = .error (.valueCountMismatch 0 1) ∧
      ((shortRequest.on statement).statement == statement) = false := by
  intro statement
  obtain ⟨hdoubles, -, -, -, hbuilt⟩ := equality_up_to_nan
  have hliterals : statement.rowLiterals = [.float ⟨0x7ff8000000000000⟩] := by rfl
  have hrefused : (shortRequest.on statement).verdict =
      .error (.valueCountMismatch 0 1) := by rfl
  have hdecided := (hbuilt (some "user") [.fill nanRequest]).refused shortRequest _ hrefused
  have hnan : ¬ NaNFree statement.rowLiterals := by
    intro hfree
    rw [hliterals] at hfree
    exact absurd (hfree _ (List.mem_singleton_self _)) (by decide)
  refine ⟨(hdoubles _ _).2 ⟨.finite 0, ?_, ?_⟩, hliterals, by rfl, hrefused, ?_⟩
  · exact Number.Double.value?_of_isZero (by decide)
  · exact Number.Double.value?_of_isZero (by decide)
  · exact Bool.eq_false_iff.2 fun hequal => hnan (hdecided.1 hequal)

end InsertRouting
