import InsertRouting.Proofs.Insert.Session
import Mathlib.Algebra.Order.BigOperators.Group.List
import Mathlib.Algebra.Order.Group.Nat

namespace InsertRouting

/-!
# How many generated keys a clause supplies

The column of the key generator is looked for pair by pair, so a clause supplies one
generated key for every value on a column of that name, in whatever case the name is
written.  A row has a single generated key as long as its clause names the column
once.  A clause that names it twice is not refused, and its row has two.
-/

/-- Number of columns with a value that are named like the column of the key
generator. -/
def SetClause.suppliedKeys (clause : SetClause) (table : String) (rule : ShardingRule) : Nat :=
  (clause.columns.take clause.values.length).countP fun column =>
    (rule.generateKeyColumn? table).any (Text.sameExceptAsciiCase · column.name)

/-- Number of generated keys that a request supplies for a table. -/
def FillRequest.suppliedKeys (request : FillRequest) (table : String) : Nat :=
  request.clause.suppliedKeys table request.rule

/-- There is one position for each item in front of `count` that passes the test. -/
theorem length_positionsOf {α : Type} (test : α → Bool) (items : List α) (count : Nat) :
    (positionsOf test items count).length = (items.take count).countP test := by
  induction items generalizing count with
  | nil => simp [positionsOf]
  | cons first rest ih =>
      cases count with
      | zero => rfl
      | succ count =>
          rw [positionsOf_cons, List.length_append, List.length_map, ih,
            List.take_succ_cons, List.countP_cons]
          by_cases hpasses : test first = true <;> simp [hpasses, Nat.add_comm]

/-- The generated keys of an accepted clause are counted by its columns. -/
theorem Effect.length_generatedKeys {clause : SetClause} {table sql : String}
    {rule : ShardingRule} {added : Contribution}
    (heffect : Effect clause table sql rule added) :
    added.generatedKeys.length = clause.suppliedKeys table rule := by
  rw [← heffect.generatedKeys.length_eq, length_positionsOf]
  rfl

/-- The generated keys of all blocks are those of their requests. -/
theorem length_flatMap_generatedKeys {tables : List String} {table : String}
    {requests : List FillRequest} {blocks : List Contribution}
    (hblocks : List.Forall₂ (IsBlockOf tables) requests blocks)
    (htable : tables.head? = some table) :
    (blocks.flatMap (·.generatedKeys)).length =
      (requests.map (·.suppliedKeys table)).sum := by
  induction hblocks with
  | nil => rfl
  | cons hblock hrest ih =>
      obtain ⟨first, hfirst, heffect⟩ := hblock
      obtain rfl : first = table := Option.some.inj (hfirst.symm.trans htable)
      rw [List.flatMap_cons, List.length_append, ih, heffect.length_generatedKeys]
      rfl

/-- Every row of a statement comes from one accepted request, and so do all generated
keys. -/
structure KeysCounted (statement : InsertStatement) (requests : List FillRequest) : Prop where
  rows : statement.rows.length = requests.length
  generatedKeys : ∀ table, statement.tables.head? = some table →
    statement.generatedKeys.length = (requests.map (·.suppliedKeys table)).sum
  /-- When no request supplies two keys, there are no more keys than rows. -/
  le_rows : (∀ request ∈ requests, ∀ table, statement.tables.head? = some table →
      request.suppliedKeys table ≤ 1) →
    statement.generatedKeys.length ≤ statement.rows.length

theorem KeysCounted.of_division {statement : InsertStatement} {requests : List FillRequest}
    {blocks : List Contribution} (hdivision : Division .empty statement requests blocks) :
    KeysCounted statement requests := by
  have hrows : statement.rows.length = requests.length := by
    rw [hdivision.rows, hdivision.effects.length_eq]
    simp [InsertStatement.empty]
  have hkeys : statement.generatedKeys = blocks.flatMap (·.generatedKeys) :=
    hdivision.generatedKeys
  refine ⟨hrows, fun table htable => ?_, fun hsingle => ?_⟩
  · rw [hkeys, length_flatMap_generatedKeys hdivision.effects htable]
  · cases hhead : statement.tables.head? with
    | none =>
        -- Without a table no request was accepted.
        cases hblocks : hdivision.effects with
        | nil => simp [hkeys]
        | cons hblock hrest =>
            obtain ⟨table, htable, -⟩ := hblock
            rw [hhead] at htable
            cases htable
    | some table =>
        have hle : ∀ count ∈ requests.map (·.suppliedKeys table), count ≤ 1 := by
          intro count hcount
          obtain ⟨request, hrequest, rfl⟩ := List.mem_map.1 hcount
          exact hsingle request hrequest table hhead
        calc statement.generatedKeys.length
            = (requests.map (·.suppliedKeys table)).sum := by
              rw [hkeys, length_flatMap_generatedKeys hdivision.effects hhead]
          _ ≤ (requests.map (·.suppliedKeys table)).length • 1 :=
              List.sum_le_card_nsmul _ 1 hle
          _ = statement.rows.length := by rw [hrows]; simp

/-- An accepted clause adds exactly as many generated keys as it has values on the
column of the key generator, and a statement that is built from a new one collects them:
it has at most one for each row unless an accepted clause names that column twice. -/
theorem generatedKeys_counted (clause : SetClause) (statement : InsertStatement)
    (sql : String) (rule : ShardingRule) (catalog : TableCatalog) (table? : Option String)
    (operations : List Operation) :
    ((fill clause statement sql rule catalog).verdict = .ok () →
      ∃ table keys, statement.tables = [table] ∧
        (fill clause statement sql rule catalog).statement.generatedKeys =
          statement.generatedKeys ++ keys ∧
        keys.length = clause.suppliedKeys table rule) ∧
    KeysCounted ((InsertStatement.fresh table?).run operations)
      ((InsertStatement.fresh table?).accepted operations) := by
  constructor
  · intro hok
    obtain ⟨table, events, added, htables, hcontribution, hfill⟩ :=
      exists_contribution_of_fill hok
    refine ⟨table, added.generatedKeys, htables, ?_,
      (effect_of_contribution hcontribution).length_generatedKeys⟩
    rw [hfill]
    rfl
  · obtain ⟨blocks, hdivision⟩ := exists_division_of_run table? operations
    exact .of_division hdivision

/-- The clause of the sample names the column of the key generator once, in capitals, so
a statement that accepts it twice has no more generated keys than rows. -/
theorem generatedKeys_counted_sample :
    (fill sampleClause (.onTable "user") sampleText sampleRule sampleCatalog).verdict =
      .ok () ∧
    sampleClause.suppliedKeys "user" sampleRule = 1 ∧
    (∃ table keys, (InsertStatement.onTable "user").tables = [table] ∧
      (fill sampleClause (.onTable "user") sampleText sampleRule
        sampleCatalog).statement.generatedKeys =
          (InsertStatement.onTable "user").generatedKeys ++ keys ∧
      keys.length = sampleClause.suppliedKeys table sampleRule) ∧
    ((InsertStatement.onTable "user").run
        [.fill sampleRequest, .fill sampleRequest]).generatedKeys.length ≤
      ((InsertStatement.onTable "user").run
        [.fill sampleRequest, .fill sampleRequest]).rows.length := by
  have hcounted := generatedKeys_counted sampleClause (.onTable "user") sampleText sampleRule
    sampleCatalog (some "user") [.fill sampleRequest, .fill sampleRequest]
  have hok : (fill sampleClause (.onTable "user") sampleText sampleRule
      sampleCatalog).verdict = .ok () := by rfl
  refine ⟨hok, by rfl, hcounted.1 hok, ?_⟩
  apply hcounted.2.le_rows
  intro request hrequest table htable
  have haccepted : (InsertStatement.fresh (some "user")).accepted
      [.fill sampleRequest, .fill sampleRequest] = [sampleRequest, sampleRequest] := by rfl
  have huser : table = "user" := (Option.some.inj htable).symm
  rw [haccepted] at hrequest
  obtain rfl : request = sampleRequest := by simpa using hrequest
  rw [huser]
  decide

def repeatedKeyText : String :=
  "INSERT INTO user SET id = 7, id = 7"

/-- The clause of `repeatedKeyText`. -/
def repeatedKeyClause : SetClause where
  columns := [⟨"id", none, 21⟩, ⟨"id", none, 29⟩]
  values := [⟨.literal (.integer 7), 26, 26⟩, ⟨.literal (.integer 7), 34, 34⟩]
  start := 17

/-- Rows of the table `user` are stored by `name`, and `id` is filled by the key
generator. -/
def plainRule : ShardingRule where
  isShardingColumn column table := column == "name" && table == "user"
  generateKeyColumn? _ := some "id"
  assistedQueryColumns? _ := none

/-- A clause that names the column of the key generator twice is accepted, and its one
row has two generated keys. -/
theorem repeated_key_supplied_twice :
    (fill repeatedKeyClause (.onTable "user") repeatedKeyText plainRule
      sampleCatalog).verdict = .ok () ∧
    (fill repeatedKeyClause (.onTable "user") repeatedKeyText plainRule
      sampleCatalog).statement.generatedKeys =
        [⟨⟨"id", "user"⟩, .value (.integer 7)⟩, ⟨⟨"id", "user"⟩, .value (.integer 7)⟩] ∧
    (fill repeatedKeyClause (.onTable "user") repeatedKeyText plainRule
      sampleCatalog).statement.rows.length = 1 :=
  ⟨by rfl, by rfl, by rfl⟩

end InsertRouting
