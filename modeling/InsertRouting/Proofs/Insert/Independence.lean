import InsertRouting.Proofs.Insert.Session

namespace InsertRouting

/-!
# Requests on one table do not see each other

A request asks a statement for its table and for nothing else.  What it does to a
statement is therefore what it does to a new statement of the table, put behind
everything that is there, and a sequence of requests can be taken apart: the accepted
ones are the ones that are accepted alone, the refused ones may be left out, and the
order of the requests is the order of their blocks.  The counter of the statement goes up
by the counts of the accepted requests; that is the one place where what is already there
matters, since the sum wraps around when it does not fit a word.
-/

namespace InsertStatement

/-- The statement with everything on another one behind it.  It keeps its own tables. -/
def followedBy (statement other : InsertStatement) : InsertStatement where
  tables := statement.tables
  columns := statement.columns ++ other.columns
  rows := statement.rows ++ other.rows
  routeConditions := statement.routeConditions ++ other.routeConditions
  generatedKeys := statement.generatedKeys ++ other.generatedKeys
  tokens := statement.tokens ++ other.tokens
  parametersIndex := statement.parametersIndex + other.parametersIndex

/-- A new statement has nothing on it but its table. -/
theorem followedBy_onTable (statement : InsertStatement) (table : String) :
    statement.followedBy (.onTable table) = statement := by
  simp [followedBy, onTable]

theorem followedBy_empty (statement : InsertStatement) :
    statement.followedBy .empty = statement := by
  simp [followedBy, empty]

theorem followedBy_assoc (first second third : InsertStatement) :
    (first.followedBy second).followedBy third =
      first.followedBy (second.followedBy third) := by
  simp [followedBy, UInt64.add_assoc]

/-- A contribution is appended to a new statement first, and to another one with it. -/
theorem append_eq_followedBy (statement : InsertStatement) (added : Contribution)
    (table : String) :
    statement.append added = statement.followedBy ((onTable table).append added) := by
  simp [append, followedBy, onTable]

end InsertStatement

namespace FillRequest

/-- The outcome of a request on a new statement of the table. -/
def alone (request : FillRequest) (table : String) : Filled :=
  request.on (.onTable table)

/-- The request is accepted on a new statement of the table. -/
def succeedsAlone (request : FillRequest) (table : String) : Bool :=
  (request.alone table).verdict.isOk

section Alone

variable {table : String} {statement : InsertStatement}

theorem succeedsAlone_eq_true_iff {request : FillRequest} :
    request.succeedsAlone table = true ↔ (request.alone table).verdict = .ok () := by
  unfold succeedsAlone
  cases (request.alone table).verdict <;> simp [Except.isOk, Except.toBool]

/-- A statement of the table decides nothing about a request. -/
theorem on_eq_alone (htables : statement.tables = [table]) (request : FillRequest) :
    request.on statement =
      ⟨statement.followedBy (request.alone table).statement,
        (request.alone table).verdict, (request.alone table).events⟩ := by
  have hnew : (InsertStatement.onTable table).tables = [table] := rfl
  unfold alone on
  cases hcontribution :
      contribution request.clause table request.sql request.rule request.catalog with
  | mk events result =>
      cases result with
      | error error =>
          rw [fill_of_refused htables hcontribution, fill_of_refused hnew hcontribution,
            InsertStatement.followedBy_onTable]
      | ok added =>
          rw [fill_of_accepted htables hcontribution, fill_of_accepted hnew hcontribution,
            ← InsertStatement.append_eq_followedBy]

/-- A request that is refused alone leaves its statement new. -/
theorem statement_alone_of_not_succeedsAlone {request : FillRequest}
    (hrefused : request.succeedsAlone table = false) :
    (request.alone table).statement = .onTable table := by
  cases hverdict : (request.alone table).verdict with
  | ok accepted => simp [succeedsAlone_eq_true_iff.2 hverdict] at hrefused
  | error error => exact statement_fill_of_error hverdict

theorem perform_fill_eq (htables : statement.tables = [table]) (request : FillRequest) :
    statement.perform (.fill request) =
      statement.followedBy (request.alone table).statement := by
  rw [InsertStatement.perform, on_eq_alone htables]

/-- A statement of the table accepts a request exactly when it is accepted alone. -/
theorem acceptedBy_fill_eq (htables : statement.tables = [table]) (request : FillRequest) :
    statement.acceptedBy (.fill request) =
      if request.succeedsAlone table then [request] else [] := by
  rw [InsertStatement.acceptedBy, on_eq_alone htables]
  unfold succeedsAlone
  cases (request.alone table).verdict <;> rfl

end Alone

end FillRequest

namespace InsertStatement

/-- The statement with the effect that each request has alone behind it, in order. -/
def followedByEach (statement : InsertStatement) (table : String)
    (requests : List FillRequest) : InsertStatement :=
  requests.foldl (fun built request => built.followedBy (request.alone table).statement)
    statement

section Sequence

variable {table : String}

theorem followedByEach_cons (statement : InsertStatement) (request : FillRequest)
    (requests : List FillRequest) :
    statement.followedByEach table (request :: requests) =
      (statement.followedBy (request.alone table).statement).followedByEach table
        requests := rfl

/-- The effects can be collected before they are put behind a statement. -/
theorem followedByEach_eq (statement : InsertStatement) (requests : List FillRequest) :
    statement.followedByEach table requests =
      statement.followedBy (empty.followedByEach table requests) := by
  induction requests generalizing statement with
  | nil => exact (followedBy_empty statement).symm
  | cons request rest ih =>
      rw [followedByEach_cons, followedByEach_cons, ih, ih (empty.followedBy _),
        followedBy_assoc]
      simp [followedBy, empty]

/-- Refused requests have no effect. -/
theorem followedByEach_filter (statement : InsertStatement) (requests : List FillRequest) :
    statement.followedByEach table (requests.filter (·.succeedsAlone table)) =
      statement.followedByEach table requests := by
  induction requests generalizing statement with
  | nil => rfl
  | cons request rest ih =>
      rw [followedByEach_cons, List.filter_cons]
      cases hsucceeds : request.succeedsAlone table with
      | true => rw [if_pos rfl, followedByEach_cons, ih]
      | false =>
          rw [if_neg Bool.false_ne_true, ih,
            FillRequest.statement_alone_of_not_succeedsAlone hsucceeds, followedBy_onTable]

/-- Every request does to a statement what it does alone. -/
theorem run_map_fill {statement : InsertStatement} (htables : statement.tables = [table])
    (requests : List FillRequest) :
    statement.run (requests.map .fill) = statement.followedByEach table requests := by
  induction requests generalizing statement with
  | nil => rfl
  | cons request rest ih =>
      rw [List.map_cons, followedByEach_cons, ← FillRequest.perform_fill_eq htables request]
      apply ih
      rw [FillRequest.perform_fill_eq htables]
      exact htables

theorem accepted_map_fill {statement : InsertStatement}
    (htables : statement.tables = [table]) (requests : List FillRequest) :
    statement.accepted (requests.map .fill) =
      requests.filter (·.succeedsAlone table) := by
  induction requests generalizing statement with
  | nil => rfl
  | cons request rest ih =>
      have hnext : (statement.perform (.fill request)).tables = [table] := by
        rw [FillRequest.perform_fill_eq htables]
        exact htables
      rw [List.map_cons, accepted, ih hnext, FillRequest.acceptedBy_fill_eq htables,
        List.filter_cons]
      cases request.succeedsAlone table <;> rfl

end Sequence

end InsertStatement

/-- The request has one outcome on both statements, up to what was on them before. -/
structure SameOutcome (request : FillRequest) (left right : InsertStatement) : Prop where
  verdict : (request.on left).verdict = (request.on right).verdict
  events : (request.on left).events = (request.on right).events
  statement : ∃ added, (request.on left).statement = left.followedBy added ∧
    (request.on right).statement = right.followedBy added
  refused : ∀ error, (request.on left).verdict = .error error →
    (request.on left).statement = left ∧ (request.on right).statement = right
  /-- Both counters go up by the count of an accepted clause. -/
  accepted : (request.on left).verdict = .ok () →
    CountsTo (request.on left).statement.parametersIndex
        (left.parametersIndex.toNat + request.clause.parametersCount.toNat) ∧
      CountsTo (request.on right).statement.parametersIndex
        (right.parametersIndex.toNat + request.clause.parametersCount.toNat)

/-- How a sequence of requests is made of what each of them does alone. -/
structure IndependentRequests (table : String) (statement : InsertStatement) : Prop where
  accepted : ∀ requests : List FillRequest, statement.accepted (requests.map .fill) =
    requests.filter (·.succeedsAlone table)
  accepted_perm : ∀ requests reordered : List FillRequest, requests.Perm reordered →
    (statement.accepted (requests.map .fill)).Perm
      (statement.accepted (reordered.map .fill))
  /-- The accepted requests leave their blocks in the order of their execution. -/
  run : ∀ requests : List FillRequest, statement.run (requests.map .fill) =
    statement.followedByEach table (requests.filter (·.succeedsAlone table))
  /-- A refused request can be left out. -/
  erase : ∀ before refused after, refused.succeedsAlone table = false →
    statement.run ((before ++ refused :: after).map .fill) =
      statement.run ((before ++ after).map .fill)
  /-- Two requests in the other order leave their blocks in the other order. -/
  swap : ∀ before (first second : FillRequest) after, ∃ front back : InsertStatement,
    statement.run ((before ++ first :: second :: after).map .fill) =
        ((front.followedBy (first.alone table).statement).followedBy
          (second.alone table).statement).followedBy back ∧
      statement.run ((before ++ second :: first :: after).map .fill) =
        ((front.followedBy (second.alone table).statement).followedBy
          (first.alone table).statement).followedBy back
  /-- The counter goes up by the counts of the accepted requests. -/
  parametersIndex : ∀ requests : List FillRequest,
    CountsTo (statement.run (requests.map .fill)).parametersIndex
      (statement.parametersIndex.toNat +
        ((requests.filter (·.succeedsAlone table)).map (·.clause.parametersCount.toNat)).sum)
  parametersIndex_swap : ∀ before (first second : FillRequest) after,
    (statement.run ((before ++ first :: second :: after).map .fill)).parametersIndex =
      (statement.run ((before ++ second :: first :: after).map .fill)).parametersIndex

section Independence

variable {table : String} {statement : InsertStatement}

theorem sameOutcome_of_tables {left right : InsertStatement} (hleft : left.tables = [table])
    (hright : right.tables = [table]) (request : FillRequest) :
    SameOutcome request left right := by
  have hverdict : (request.on left).verdict = (request.on right).verdict := by
    rw [FillRequest.on_eq_alone hleft, FillRequest.on_eq_alone hright]
  refine ⟨hverdict, ?_, ⟨(request.alone table).statement, ?_, ?_⟩, fun error hrefused => ?_,
    fun haccepted => ?_⟩
  · rw [FillRequest.on_eq_alone hleft, FillRequest.on_eq_alone hright]
  · rw [FillRequest.on_eq_alone hleft]
  · rw [FillRequest.on_eq_alone hright]
  · exact ⟨statement_fill_of_error hrefused,
      statement_fill_of_error (hverdict.symm.trans hrefused)⟩
  · exact ⟨countsTo_parametersIndex_fill haccepted,
      countsTo_parametersIndex_fill (hverdict.symm.trans haccepted)⟩

/-- Around two adjacent requests the statement has a front and a back that do not depend
on them. -/
theorem exists_front_back (htables : statement.tables = [table])
    (before after : List FillRequest) :
    ∃ front back : InsertStatement, ∀ first second : FillRequest,
      statement.run ((before ++ first :: second :: after).map .fill) =
        ((front.followedBy (first.alone table).statement).followedBy
          (second.alone table).statement).followedBy back := by
  refine ⟨statement.followedByEach table before, InsertStatement.empty.followedByEach table after,
    fun first second => ?_⟩
  rw [InsertStatement.run_map_fill htables]
  calc statement.followedByEach table (before ++ first :: second :: after)
      = (statement.followedByEach table before).followedByEach table
          (first :: second :: after) := List.foldl_append
    _ = (((statement.followedByEach table before).followedBy
          (first.alone table).statement).followedBy
          (second.alone table).statement).followedByEach table after := rfl
    _ = _ := InsertStatement.followedByEach_eq _ after

theorem independentRequests_of_tables (htables : statement.tables = [table]) :
    IndependentRequests table statement where
  accepted := InsertStatement.accepted_map_fill htables
  accepted_perm := by
    intro requests reordered hperm
    rw [InsertStatement.accepted_map_fill htables, InsertStatement.accepted_map_fill htables]
    exact hperm.filter _
  run := by
    intro requests
    rw [InsertStatement.run_map_fill htables, InsertStatement.followedByEach_filter]
  erase := by
    intro before refused after hrefused
    rw [InsertStatement.run_map_fill htables, InsertStatement.run_map_fill htables,
      ← InsertStatement.followedByEach_filter,
      ← InsertStatement.followedByEach_filter statement (before ++ after),
      List.filter_append, List.filter_cons, hrefused, if_neg Bool.false_ne_true,
      List.filter_append]
  swap := by
    intro before first second after
    obtain ⟨front, back, hrun⟩ := exists_front_back htables before after
    exact ⟨front, back, hrun first second, hrun second first⟩
  parametersIndex := by
    intro requests
    obtain ⟨blocks, hdivision⟩ := (Division.refl statement).run (requests.map .fill)
    rw [← InsertStatement.accepted_map_fill htables]
    exact hdivision.countsTo_clauses
  parametersIndex_swap := by
    intro before first second after
    obtain ⟨front, back, hrun⟩ := exists_front_back htables before after
    rw [hrun first second, hrun second first]
    simp only [InsertStatement.followedBy]
    ac_rfl

/-- Statements of one table give a request the same verdict and the same log and grow by
the same block, whatever else is on them; and a sequence of requests is made of what each
of them does alone. -/
theorem requests_independent (table : String) :
    (∀ (request : FillRequest) (left right : InsertStatement), left.tables = [table] →
      right.tables = [table] → SameOutcome request left right) ∧
    ∀ statement : InsertStatement, statement.tables = [table] →
      IndependentRequests table statement :=
  ⟨fun request _ _ hleft hright => sameOutcome_of_tables hleft hright request,
    fun _ htables => independentRequests_of_tables htables⟩

end Independence

/-- The request of the sample for another text, in which its qualifier does not stand. -/
def misplacedRequest : FillRequest :=
  { sampleRequest with sql := "INSERT INTO user SET" }

/-- A statement with a row and a new one do the same with the sample, and a request that is
refused between two others leaves no trace, neither in the lists nor in the count. -/
theorem requests_independent_sample :
    sampleRequest.succeedsAlone "user" = true ∧
    misplacedRequest.succeedsAlone "user" = false ∧
    SameOutcome sampleRequest ((InsertStatement.onTable "user").run [.fill sampleRequest])
      (.onTable "user") ∧
    (InsertStatement.onTable "user").accepted
        ([sampleRequest, misplacedRequest, sampleRequest].map .fill) =
      [sampleRequest, misplacedRequest, sampleRequest].filter (·.succeedsAlone "user") ∧
    (InsertStatement.onTable "user").run
        (([sampleRequest] ++ misplacedRequest :: [sampleRequest]).map .fill) =
      (InsertStatement.onTable "user").run
        (([sampleRequest] ++ [sampleRequest]).map .fill) ∧
    ((InsertStatement.onTable "user").run
      ([sampleRequest, misplacedRequest, sampleRequest].map .fill)).parametersIndex.toNat =
        0 + (1 + 1) := by
  have hrefused : misplacedRequest.succeedsAlone "user" = false := by rfl
  have hsequence : IndependentRequests "user" (.onTable "user") :=
    (requests_independent "user").2 _ rfl
  have hcounted := hsequence.parametersIndex [sampleRequest, misplacedRequest, sampleRequest]
  have htotal : ([sampleRequest, misplacedRequest, sampleRequest].filter
      (·.succeedsAlone "user")).map (·.clause.parametersCount.toNat) = [1, 1] := by rfl
  rw [htotal] at hcounted
  exact ⟨by rfl, hrefused, (requests_independent "user").1 _ _ _ (by rfl) rfl,
    hsequence.accepted _, hsequence.erase [sampleRequest] misplacedRequest _ hrefused,
    hcounted.toNat_eq (by decide)⟩

end InsertRouting
