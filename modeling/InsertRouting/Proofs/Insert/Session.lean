import InsertRouting.Proofs.Insert.Effect

namespace InsertRouting

/-!
# Sessions on one statement

A statement is built by naming tables and adding clauses, in any order.  Whatever
is done to it, its lists are what they were followed by one block for each
accepted clause, and the first table of the statement is the table of all of
these blocks.
-/

/-- A request to add a clause to a statement. -/
structure FillRequest where
  clause : SetClause
  sql : String
  rule : ShardingRule
  catalog : TableCatalog

/-- The outcome of a request. -/
def FillRequest.on (request : FillRequest) (statement : InsertStatement) : Filled :=
  fill request.clause statement request.sql request.rule request.catalog

/-- One thing that is done to a statement. -/
inductive Operation
  | addTable (table : String)
  | fill (request : FillRequest)

namespace InsertStatement

/-- A new statement, on one table or on none. -/
def fresh : Option String → InsertStatement
  | some table => onTable table
  | none => empty

/-- The statement after one more operation. -/
def perform (statement : InsertStatement) : Operation → InsertStatement
  | .addTable table => statement.addTable table
  | .fill request => (request.on statement).statement

/-- The request that an operation gets accepted. -/
def acceptedBy (statement : InsertStatement) : Operation → List FillRequest
  | .addTable _ => []
  | .fill request =>
      match (request.on statement).verdict with
      | .ok () => [request]
      | .error _ => []

/-- The statement after a sequence of operations. -/
def run (statement : InsertStatement) (operations : List Operation) : InsertStatement :=
  operations.foldl perform statement

/-- The accepted requests of a sequence of operations, in order. -/
def accepted (statement : InsertStatement) : List Operation → List FillRequest
  | [] => []
  | operation :: rest =>
      statement.acceptedBy operation ++ (statement.perform operation).accepted rest

end InsertStatement

/-- The block is what the request adds to a statement that starts with this table. -/
def IsBlockOf (tables : List String) (request : FillRequest) (block : Contribution) :
    Prop :=
  ∃ table, tables.head? = some table ∧
    Effect request.clause table request.sql request.rule block

/-- The statement is an earlier one followed by one block for each request. -/
structure Division (earlier statement : InsertStatement) (requests : List FillRequest)
    (blocks : List Contribution) : Prop where
  columns : statement.columns = earlier.columns ++ blocks.flatMap (·.columns)
  rows : statement.rows = earlier.rows ++ blocks.map (·.row)
  routeConditions : statement.routeConditions =
    earlier.routeConditions ++ blocks.map (·.conditions)
  generatedKeys : statement.generatedKeys =
    earlier.generatedKeys ++ blocks.flatMap (·.generatedKeys)
  tokens : statement.tokens = earlier.tokens ++ blocks.flatMap (·.tokens)
  parametersIndex : CountsTo statement.parametersIndex
    (earlier.parametersIndex.toNat + (blocks.map (·.row.parametersCount.toNat)).sum)
  effects : List.Forall₂ (IsBlockOf statement.tables) requests blocks

section Division

variable {earlier statement : InsertStatement} {requests : List FillRequest}
  {blocks : List Contribution}

theorem Division.refl (statement : InsertStatement) : Division statement statement [] [] where
  columns := by simp
  rows := by simp
  routeConditions := by simp
  generatedKeys := by simp
  tokens := by simp
  parametersIndex := countsTo_toNat _
  effects := .nil

/-- A further table does not come first, so it changes the table of no block. -/
theorem Division.addTable (hdivision : Division earlier statement requests blocks)
    (table : String) : Division earlier (statement.addTable table) requests blocks where
  columns := hdivision.columns
  rows := hdivision.rows
  routeConditions := hdivision.routeConditions
  generatedKeys := hdivision.generatedKeys
  tokens := hdivision.tokens
  parametersIndex := hdivision.parametersIndex
  effects := by
    apply hdivision.effects.imp
    rintro request block ⟨first, hfirst, heffect⟩
    refine ⟨first, ?_, heffect⟩
    change (statement.tables ++ [table]).head? = some first
    rw [List.head?_append, hfirst]
    rfl

/-- An accepted request adds its block behind all others. -/
theorem Division.append (hdivision : Division earlier statement requests blocks)
    {request : FillRequest} {added : Contribution}
    (hadded : IsBlockOf statement.tables request added) :
    Division earlier (statement.append added) (requests ++ [request]) (blocks ++ [added])
    where
  columns := by
    rw [InsertStatement.append, hdivision.columns]
    simp
  rows := by
    rw [InsertStatement.append, hdivision.rows]
    simp
  routeConditions := by
    rw [InsertStatement.append, hdivision.routeConditions]
    simp
  generatedKeys := by
    rw [InsertStatement.append, hdivision.generatedKeys]
    simp
  tokens := by
    rw [InsertStatement.append, hdivision.tokens]
    simp
  parametersIndex := by
    rw [InsertStatement.append, List.map_append, List.sum_append, ← Nat.add_assoc]
    exact hdivision.parametersIndex.add (countsTo_toNat _)
  effects := List.rel_append hdivision.effects (.cons hadded .nil)

/-- One operation keeps the division and adds the block of the request it accepts. -/
theorem Division.perform (hdivision : Division earlier statement requests blocks)
    (operation : Operation) :
    ∃ added, Division earlier (statement.perform operation)
      (requests ++ statement.acceptedBy operation) (blocks ++ added) := by
  cases operation with
  | addTable table =>
      refine ⟨[], ?_⟩
      rw [InsertStatement.acceptedBy, List.append_nil, List.append_nil]
      exact hdivision.addTable table
  | fill request =>
      rw [InsertStatement.acceptedBy]
      cases hverdict : (request.on statement).verdict with
      | error error =>
          -- A refused request leaves the statement as it is and adds no block.
          refine ⟨[], ?_⟩
          have hsame : statement.perform (.fill request) = statement :=
            statement_fill_of_error hverdict
          rw [hsame, List.append_nil, List.append_nil]
          exact hdivision
      | ok accepted =>
          obtain ⟨table, events, added, htables, hcontribution, hfill⟩ :=
            exists_contribution_of_fill hverdict
          refine ⟨[added], ?_⟩
          have hnext : statement.perform (.fill request) = statement.append added := by
            rw [InsertStatement.perform, FillRequest.on, hfill]
          rw [hnext]
          apply hdivision.append
          -- The only table of the statement is also its first one.
          refine ⟨table, ?_, effect_of_contribution hcontribution⟩
          rw [htables]
          rfl

/-- Every sequence of operations leaves the earlier statement in front, followed by the
blocks of the accepted requests in order. -/
theorem Division.run (hdivision : Division earlier statement requests blocks)
    (operations : List Operation) :
    ∃ added, Division earlier (statement.run operations)
      (requests ++ statement.accepted operations) (blocks ++ added) := by
  -- The blocks found so far are carried along, so the induction takes any division.
  induction operations generalizing statement requests blocks with
  | nil =>
      refine ⟨[], ?_⟩
      rw [InsertStatement.accepted, List.append_nil, List.append_nil]
      exact hdivision
  | cons operation rest ih =>
      obtain ⟨first, hfirst⟩ := hdivision.perform operation
      obtain ⟨others, hothers⟩ := ih hfirst
      refine ⟨first ++ others, ?_⟩
      rw [InsertStatement.accepted, ← List.append_assoc, ← List.append_assoc]
      exact hothers

theorem map_parametersCount_of_effects {tables : List String}
    (hblocks : List.Forall₂ (IsBlockOf tables) requests blocks) :
    blocks.map (·.row.parametersCount.toNat) =
      requests.map (·.clause.parametersCount.toNat) := by
  induction hblocks with
  | nil => rfl
  | cons hblock _ ih =>
      obtain ⟨table, -, heffect⟩ := hblock
      rw [List.map_cons, List.map_cons, ih, heffect.parametersCount]

/-- What is counted behind the earlier statement are the clauses of the requests. -/
theorem Division.countsTo_clauses (hdivision : Division earlier statement requests blocks) :
    CountsTo statement.parametersIndex
      (earlier.parametersIndex.toNat + (requests.map (·.clause.parametersCount.toNat)).sum) := by
  rw [← map_parametersCount_of_effects hdivision.effects]
  exact hdivision.parametersIndex

/-- A new statement consists of no block, whether or not it has a table. -/
theorem Division.fresh (table? : Option String) : Division .empty (.fresh table?) [] [] := by
  cases table? with
  | none => exact .refl _
  | some table => exact ⟨rfl, rfl, rfl, rfl, rfl, countsTo_zero, .nil⟩

/-- Everything on a statement that is built from a new one comes from its accepted
requests. -/
theorem exists_division_of_run (table? : Option String) (operations : List Operation) :
    ∃ blocks, Division .empty ((InsertStatement.fresh table?).run operations)
      ((InsertStatement.fresh table?).accepted operations) blocks := by
  obtain ⟨blocks, hdivision⟩ := (Division.fresh table?).run operations
  exact ⟨blocks, hdivision⟩

end Division

/-- The request for the clause of the sample. -/
def sampleRequest : FillRequest where
  clause := sampleClause
  sql := sampleText
  rule := sampleRule
  catalog := sampleCatalog

end InsertRouting
