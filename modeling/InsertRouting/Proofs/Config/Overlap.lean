import InsertRouting.Proofs.Config.Judgement
import InsertRouting.Proofs.Text.Lowercase
import InsertRouting.Sharding.Tables

namespace InsertRouting
namespace Config

/-!
# Overlapping entries are warned about

Entries are compared in two ways.  A look-up takes a column for the column of an entry when
they differ in the case of letters from A to Z at most; the check compares the lower-case
forms.  The check is the coarser of the two, so an entry whose columns can be taken for those
of an earlier entry with the same name is always warned about.
-/

/-- Two entries that both answer to one column have the same column in lower case. -/
theorem lowercase_column_eq_of_matchesColumn {earlier later : ShardedTable} {column : String}
    (hearlier : earlier.matchesColumn column = true)
    (hlater : later.matchesColumn column = true) :
    Text.lowercase earlier.column = Text.lowercase later.column := by
  have hfirst : Text.Respelled earlier.column column :=
    Text.sameExceptAsciiCase_iff_respelled.1 hearlier
  have hsecond : Text.Respelled later.column column :=
    Text.sameExceptAsciiCase_iff_respelled.1 hlater
  rw [hfirst.lowercase_eq, hsecond.lowercase_eq]

/-- Further entries bring their events behind the others. -/
theorem repeatEvents_prefix {entries whole : List ShardedTable} (hfront : entries <+: whole) :
    repeatEvents entries <+: repeatEvents whole := by
  obtain ⟨rest, rfl⟩ := hfront
  induction rest using List.reverseRecOn with
  | nil => rw [List.append_nil]
  | append_singleton rest entry ih =>
      rw [← List.append_assoc, repeatEvents_concat]
      exact ih.trans (List.prefix_append _ _)

/-- As far as the entries have columns, the check reports their events first. -/
theorem repeatEvents_prefix_check {config : Config} {count : Nat}
    (hcolumns : ∀ entry ∈ config.shardedTables.take count, entry.column ≠ "") :
    repeatEvents (config.shardedTables.take count) <+: config.check.events := by
  have hwhole : repeatEvents (config.shardedTables.take count) <+:
      repeatEvents config.shardedTables :=
    repeatEvents_prefix (List.take_prefix _ _)
  rw [check_eq_judgement, judgement]
  cases hfirst : config.shardedTables.findIdx? (·.column = "") with
  | some i =>
      obtain ⟨hlt, hempty, -⟩ := List.findIdx?_eq_some_iff_getElem.1 hfirst
      -- The entry without a column is not among the first ones.
      have hle : count ≤ i := by
        by_contra hless
        have hmem : config.shardedTables[i] ∈ config.shardedTables.take count := by
          rw [List.mem_take_iff_getElem]
          exact ⟨i, by omega, rfl⟩
        exact hcolumns _ hmem (of_decide_eq_true hempty)
      exact repeatEvents_prefix (List.take_isPrefix_take.2 (.inl hle))
  | none =>
      cases config.encryptedTables.findIdx? (·.name = "") with
      | some j => exact hwhole
      | none => exact hwhole.trans (List.prefix_append _ _)

/-- Spellings of one column have one lower-case form.  So an entry is warned about, right
behind the warnings about the entries in front of it, if an earlier entry with the same name
answers to a column that it answers to itself. -/
theorem overlapping_entries_reported :
    (∀ left right : String, Text.sameExceptAsciiCase left right = true →
      Text.lowercase left = Text.lowercase right) ∧
    ∀ (config : Config) (i j : Nat) (earlier later : ShardedTable) (column : String),
      i < j → config.shardedTables[i]? = some earlier →
      config.shardedTables[j]? = some later →
      (∀ entry ∈ config.shardedTables.take (j + 1), entry.column ≠ "") →
      earlier.name = later.name → earlier.matchesColumn column = true →
      later.matchesColumn column = true →
      repeatEvents (config.shardedTables.take j) ++ [repeatEvent later] <+:
        config.check.events := by
  constructor
  · intro left right hsame
    exact (Text.sameExceptAsciiCase_iff_respelled.1 hsame).lowercase_eq
  · intro config i j earlier later column hlt hearlier hlater hcolumns hname hfirst hsecond
    have hidentity : shardingIdentity earlier = shardingIdentity later := by
      unfold shardingIdentity
      rw [hname, lowercase_column_eq_of_matchesColumn hfirst hsecond]
    have hmem : earlier ∈ config.shardedTables.take j := by
      apply List.mem_of_getElem?
      rw [List.getElem?_take_of_lt hlt, hearlier]
    have hseen : shardingIdentity later ∈
        (config.shardedTables.take j).map shardingIdentity := by
      rw [← hidentity]
      exact List.mem_map_of_mem hmem
    have hevents := repeatEvents_prefix_check hcolumns
    rw [List.take_add_one, hlater, Option.toList_some, repeatEvents_concat,
      if_pos hseen] at hevents
    exact hevents

/-- Two entries for `user` whose columns end in a sigma and differ in the case of other
letters, around an entry for all tables. -/
def overlappingConfig : Config where
  shardedTables := [⟨some "user", "ΚΩΔΙΚΟΣ_id", none⟩, ⟨none, "ΚΩΔΙΚΟΣ_id", none⟩,
    ⟨some "user", "ΚΩΔΙΚΟΣ_ID", none⟩]

/-- The third entry of the sample overlaps with the first one, and it alone is warned
about. -/
theorem overlapping_entries_reported_sample :
    Text.sameExceptAsciiCase "ΚΩΔΙΚΟΣ_id" "ΚΩΔΙΚΟΣ_ID" = true ∧
    Text.lowercase "ΚΩΔΙΚΟΣ_id" = Text.lowercase "ΚΩΔΙΚΟΣ_ID" ∧
    overlappingConfig.shardedTables[0]? = some ⟨some "user", "ΚΩΔΙΚΟΣ_id", none⟩ ∧
    overlappingConfig.shardedTables[2]? = some ⟨some "user", "ΚΩΔΙΚΟΣ_ID", none⟩ ∧
    (∀ entry ∈ overlappingConfig.shardedTables.take 3, entry.column ≠ "") ∧
    (⟨some "user", "ΚΩΔΙΚΟΣ_id", none⟩ : ShardedTable).matchesColumn "ΚΩΔΙΚΟΣ_Id" = true ∧
    (⟨some "user", "ΚΩΔΙΚΟΣ_ID", none⟩ : ShardedTable).matchesColumn "ΚΩΔΙΚΟΣ_Id" = true ∧
    [⟨.warn, "sharded table \"user\" on column \"ΚΩΔΙΚΟΣ_ID\" is configured more than once"⟩]
      <+: overlappingConfig.check.events := by
  have hsame : Text.sameExceptAsciiCase "ΚΩΔΙΚΟΣ_id" "ΚΩΔΙΚΟΣ_ID" = true := by decide +kernel
  have hcolumns : ∀ entry ∈ overlappingConfig.shardedTables.take 3, entry.column ≠ "" := by
    decide
  have hfirst : (⟨some "user", "ΚΩΔΙΚΟΣ_id", none⟩ : ShardedTable).matchesColumn
      "ΚΩΔΙΚΟΣ_Id" = true := by decide +kernel
  have hsecond : (⟨some "user", "ΚΩΔΙΚΟΣ_ID", none⟩ : ShardedTable).matchesColumn
      "ΚΩΔΙΚΟΣ_Id" = true := by decide +kernel
  have hnone : repeatEvents (overlappingConfig.shardedTables.take 2) = [] := by decide +kernel
  obtain ⟨hlowercase, hreported⟩ := overlapping_entries_reported
  refine ⟨hsame, hlowercase _ _ hsame, rfl, rfl, hcolumns, hfirst, hsecond, ?_⟩
  have hevents :=
    hreported overlappingConfig 0 2 _ _ _ (by decide) rfl rfl hcolumns rfl hfirst hsecond
  rw [hnone] at hevents
  exact hevents

end Config
end InsertRouting
