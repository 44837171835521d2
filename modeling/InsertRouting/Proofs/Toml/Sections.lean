import InsertRouting.Proofs.Data.Related
import InsertRouting.Proofs.Toml.Written

namespace InsertRouting
namespace Toml

/-!
# The sections of a written document

Every table of a written document is the last one of a collected list, and so are the
tables around it.  The tree is therefore described by the place of the open table (`Level`,
one for each collected list on the way to it) and the entries of this table (`holding`): a
key is added to these entries (`assign_holding`), and a header of a list in this table opens
the next table of the list (`openItemHeader_holding`).

Sections with the same header and one body each become the tables of one list
(`extendAll_sections`).  The bodies may have sections of their own.
-/

/-- The place of the last table of a collected list: the entries in front of the list, its
key, and the tables in front of the last one. -/
structure Level where
  before : Entries
  key : Key
  line : Nat
  items : List Node
  itemLine : Nat
  fresh : ∀ entry ∈ before, entry.1.name ≠ key.name

namespace Level

/-- The entries of the table with the list, when these are the entries of the last table. -/
def holding (level : Level) (inner : Entries) : Entries :=
  level.before ++ [(level.key, .list level.line .collected
    (level.items ++ [.table (some level.itemLine) .headed inner]))]

end Level

/-- The tree with these entries in the innermost table. -/
def holding (levels : List Level) (inner : Entries) : Entries :=
  levels.foldr Level.holding inner

/-- The keys lead through the lists of the levels. -/
def LeadsThrough (path : List Key) (levels : List Level) : Prop :=
  path.map (·.name) = levels.map (·.key.name)

section Places

theorem holding_append (levels : List Level) (level : Level) (inner : Entries) :
    holding (levels ++ [level]) inner = holding levels (level.holding inner) := by
  unfold holding
  rw [List.foldr_append]
  rfl

theorem LeadsThrough.append {path : List Key} {levels : List Level}
    (hpath : LeadsThrough path levels) {key : Key} {level : Level}
    (hkey : key.name = level.key.name) : LeadsThrough (path ++ [key]) (levels ++ [level]) := by
  unfold LeadsThrough at hpath ⊢
  rw [List.map_append, List.map_append, hpath]
  simp [hkey]

theorem splitAtKey_append {before after : Entries} {found : Key × Node} {name : String}
    (hfresh : ∀ entry ∈ before, entry.1.name ≠ name) (hname : found.1.name = name) :
    splitAtKey name (before ++ found :: after) = some (before, found, after) := by
  induction before with
  | nil => rw [List.nil_append, splitAtKey, if_pos hname]
  | cons first before ih =>
      obtain ⟨hfirst, hrest⟩ := List.forall_mem_cons.1 hfresh
      rw [List.cons_append, splitAtKey, if_neg hfirst, ih hrest]

/-- A change at the end of a path that leads through collected lists is a change of the
innermost table. -/
theorem changeAt_holding {path : List Key} {levels : List Level}
    (hpath : LeadsThrough path levels) (made : TableForm)
    (change : TableForm → Entries → Option Entries) (inner : Entries) :
    changeAt made change path .headed (holding levels inner) =
      (change .headed inner).map (holding levels) := by
  induction levels generalizing path with
  | nil =>
      obtain rfl : path = [] := List.map_eq_nil_iff.1 hpath
      show change .headed inner = (change .headed inner).map id
      rw [Option.map_id_fun, id_eq]
  | cons level levels ih =>
      obtain ⟨key, path, rfl, hkey, hrest⟩ := List.map_eq_cons_iff.1 hpath
      have hcut : splitAtKey key.name (holding (level :: levels) inner) =
          some (level.before, (level.key, .list level.line .collected
            (level.items ++ [.table (some level.itemLine) .headed (holding levels inner)])), []) :=
        splitAtKey_append (fun entry hmem => hkey ▸ level.fresh entry hmem) hkey.symm
      rw [changeAt, hcut]
      simp only [List.getLast?_append, List.getLast?_singleton, Option.some_or, ih hrest,
        List.dropLast_concat]
      cases change .headed inner <;> rfl

variable {levels : List Level} {path : List Key}

/-- A new key is added to the open table. -/
theorem assign_holding (hpath : LeadsThrough path levels) (inner : Entries) (key : Key)
    (value : Node) (hfresh : ∀ entry ∈ inner, entry.1.name ≠ key.name) :
    (⟨holding levels inner, path⟩ : Draft).assign [] key value =
      some ⟨holding levels (inner ++ [(key, value)]), path⟩ := by
  have hput : assignValue [] key value .headed inner = some (inner ++ [(key, value)]) := by
    show putValue false key value .headed inner = _
    unfold putValue
    rw [splitAtKey_eq_none_iff.2 hfresh]
    rfl
  unfold Draft.assign
  dsimp only
  rw [changeAt_holding hpath, hput]
  rfl

end Places

/-- These entries are one collected list under the name, or nothing if it has no tables. -/
inductive Collected (name : String) : List Node → Entries → Prop
  | none : Collected name [] []
  | some {key : Key} (hkey : key.name = name) (line : Nat) {items : List Node}
      (hitems : items ≠ []) : Collected name items [(key, .list line .collected items)]

theorem Collected.name_of_mem {name : String} {items : List Node} {list : Entries}
    (hlist : Collected name items list) {entry : Key × Node} (hmem : entry ∈ list) :
    entry.1.name = name := by
  cases hlist with
  | none => cases hmem
  | some hkey line hitems =>
      obtain rfl := List.mem_singleton.1 hmem
      exact hkey

/-- The level is the place of the next table of a collected list. -/
structure OpensNext (name : String) (before : Entries) (items : List Node) (number : Nat)
    (level : Level) : Prop where
  name : level.key.name = name
  before : level.before = before
  items : level.items = items
  itemLine : level.itemLine = number

theorem OpensNext.exists_collected {name : String} {before : Entries} {items : List Node}
    {number : Nat} {level : Level} (hnext : OpensNext name before items number level)
    (inner : Entries) :
    ∃ list, level.holding inner = before ++ list ∧
      Collected name (items ++ [.table (some number) .headed inner]) list := by
  obtain ⟨rfl, rfl, rfl, rfl⟩ := hnext
  exact ⟨_, rfl, .some rfl level.line (by simp)⟩

section Sections

variable {levels : List Level} {front : List Key} {before list : Entries}
  {items : List Node} {key : Key}

/-- A repeated header opens the next table of its list, be it the first one or not. -/
theorem openItem_collected (hfresh : ∀ entry ∈ before, entry.1.name ≠ key.name)
    (hlist : Collected key.name items list) (number : Nat) (form : TableForm) :
    ∃ level, OpensNext key.name before items number level ∧
      openItem number key form (before ++ list) = some (level.holding []) := by
  unfold openItem
  cases hlist with
  | none =>
      refine ⟨⟨before, key, number, [], number, hfresh⟩, ⟨rfl, rfl, rfl, rfl⟩, ?_⟩
      rw [List.append_nil, splitAtKey_eq_none_iff.2 hfresh]
      rfl
  | @some known hknown line items hitems =>
      refine ⟨⟨before, known, line, items, number, hknown ▸ hfresh⟩, ⟨hknown, rfl, rfl, rfl⟩, ?_⟩
      rw [splitAtKey_append hfresh hknown]
      rfl

theorem openItemHeader_holding (hfront : LeadsThrough front levels)
    (hfresh : ∀ entry ∈ before, entry.1.name ≠ key.name)
    (hlist : Collected key.name items list) (path : List Key) (number : Nat) :
    ∃ level, OpensNext key.name before items number level ∧
      (⟨holding levels (before ++ list), path⟩ : Draft).openItemHeader number front key =
        some ⟨holding (levels ++ [level]) [], front ++ [key]⟩ := by
  obtain ⟨level, hnext, hopen⟩ := openItem_collected hfresh hlist number .headed
  refine ⟨level, hnext, ?_⟩
  unfold Draft.openItemHeader
  dsimp only
  rw [changeAt_holding hfront, hopen, holding_append]
  rfl

end Sections

section Lines

theorem extendAll_cons (draft : Draft) (number : Nat) (written : WrittenLine)
    (rest : List WrittenLine) :
    draft.extendAll number (written :: rest) =
      (draft.extend number written).bind fun next => next.extendAll (number + 1) rest :=
  rfl

theorem extendAll_append (draft : Draft) (number : Nat) (first second : List WrittenLine) :
    draft.extendAll number (first ++ second) =
      (draft.extendAll number first).bind fun next =>
        next.extendAll (number + first.length) second := by
  induction first generalizing draft number with
  | nil => rfl
  | cons written first ih =>
      rw [List.cons_append, extendAll_cons, extendAll_cons, Option.bind_assoc]
      congr 1
      funext next
      rw [ih, List.length_cons, Nat.add_right_comm, Nat.add_assoc]

/-- The entries that written pairs become, the first of which is on the given line. -/
def pairEntries (number : Nat) : List (BareName × WrittenValue) → Entries
  | [] => []
  | (key, value) :: rest => (key.key number, value.node number) :: pairEntries (number + 1) rest

/-- The lines of pairs. -/
def pairLines (pairs : List (BareName × WrittenValue)) : List WrittenLine :=
  pairs.map fun pair => .pair pair.1 pair.2

variable {levels : List Level} {path : List Key}

/-- Pairs with different keys are added to the open table. -/
theorem extendAll_pairLines (hpath : LeadsThrough path levels) (number : Nat)
    {pairs : List (BareName × WrittenValue)} (hkeys : (pairs.map (·.1.text)).Nodup)
    (inner : Entries) (hfresh : ∀ entry ∈ inner, entry.1.name ∉ pairs.map (·.1.text)) :
    (⟨holding levels inner, path⟩ : Draft).extendAll number (pairLines pairs) =
      some ⟨holding levels (inner ++ pairEntries number pairs), path⟩ := by
  induction pairs generalizing number inner with
  | nil => rw [pairEntries, List.append_nil]; rfl
  | cons pair pairs ih =>
      obtain ⟨key, value⟩ := pair
      rw [List.map_cons, List.nodup_cons] at hkeys
      have hassign := assign_holding hpath inner (key.key number) (value.node number)
        fun entry hmem hsame => hfresh entry hmem (hsame ▸ List.mem_cons_self)
      have hrest : ∀ entry ∈ inner ++ [(key.key number, value.node number)],
          entry.1.name ∉ pairs.map (·.1.text) := by
        intro entry hmem
        rcases List.mem_append.1 hmem with hearlier | hadded
        · exact fun hlater => hfresh entry hearlier (List.mem_cons_of_mem _ hlater)
        · obtain rfl := List.mem_singleton.1 hadded
          exact hkeys.1
      show (Draft.assign _ _ _ _).bind (fun next =>
        next.extendAll (number + 1) (pairLines pairs)) = _
      rw [hassign, Option.bind_some, ih (number + 1) hkeys.2 _ hrest, List.append_assoc]
      rfl

/-- Behind a header with these names, the lines of a body put entries into the open table
that hold what they should. -/
def Fills (names : List String) (body : List WrittenLine) (holds : Entries → Prop) : Prop :=
  ∀ (levels : List Level) (path : List Key) (number : Nat),
    levels.map (·.key.name) = names → LeadsThrough path levels →
    ∃ entries next, (⟨holding levels [], path⟩ : Draft).extendAll number body =
      some ⟨holding levels entries, next⟩ ∧ holds entries

theorem fills_pairLines (names : List String) {pairs : List (BareName × WrittenValue)}
    (hkeys : (pairs.map (·.1.text)).Nodup) {holds : Entries → Prop}
    (hholds : ∀ number, holds (pairEntries number pairs)) :
    Fills names (pairLines pairs) holds := by
  intro levels path number _ hpath
  have hextend := extendAll_pairLines hpath number hkeys [] (by simp)
  exact ⟨_, path, hextend, hholds number⟩

/-- The table of a section with a body that holds an item. -/
def IsTableOf {α : Type} (holds : α → Entries → Prop) (node : Node) (item : α) : Prop :=
  ∃ line entries, node = .table (some line) .headed entries ∧ holds item entries

/-- The lines of sections with one header. -/
def sectionLines {α : Type} (front : List BareName) (last : BareName)
    (short : front.length + 1 < pathLimit) (body : α → List WrittenLine) (given : List α) :
    List WrittenLine :=
  given.flatMap fun item => .itemHeader front last short :: body item

/-- Sections with one header become the tables of one collected list, in order, behind the
tables that are there already. -/
theorem extendAll_sections {α : Type} (front : List BareName) (last : BareName)
    (short : front.length + 1 < pathLimit) {body : α → List WrittenLine}
    {holds : α → Entries → Prop}
    (hbody : ∀ item, Fills (front.map (·.text) ++ [last.text]) (body item) (holds item))
    (levels : List Level) (hlevels : levels.map (·.key.name) = front.map (·.text))
    (before : Entries) (hfresh : ∀ entry ∈ before, entry.1.name ≠ last.text) (given : List α)
    {items : List Node} {list : Entries} (hlist : Collected last.text items list)
    (path : List Key) (number : Nat) :
    ∃ added lists next,
      (⟨holding levels (before ++ list), path⟩ : Draft).extendAll number
          (sectionLines front last short body given) =
        some ⟨holding levels (before ++ lists), next⟩ ∧
      Collected last.text (items ++ added) lists ∧
      List.Forall₂ (IsTableOf holds) added given := by
  induction given generalizing items list path number with
  | nil =>
      refine ⟨[], list, path, rfl, ?_, .nil⟩
      rw [List.append_nil]
      exact hlist
  | cons item given ih =>
      have hfront : LeadsThrough (front.map (BareName.key number)) levels := by
        unfold LeadsThrough
        rw [hlevels, List.map_map]
        rfl
      have hkey : ∀ entry ∈ before, entry.1.name ≠ (last.key number).name := hfresh
      obtain ⟨level, hnext, hopen⟩ := openItemHeader_holding hfront hkey hlist path number
      -- The body fills the table that the header has opened.
      obtain ⟨entries, inside, hfilled, hholds⟩ := hbody item (levels ++ [level])
        (front.map (BareName.key number) ++ [last.key number]) (number + 1)
        (by rw [List.map_append, hlevels]; simp [hnext.name, BareName.key])
        (hfront.append hnext.name.symm)
      obtain ⟨more, hmore, hcollected⟩ := hnext.exists_collected entries
      rw [holding_append levels level entries, hmore] at hfilled
      obtain ⟨added, lists, final, hrest, hlists, htables⟩ :=
        ih hcollected inside (number + 1 + (body item).length)
      refine ⟨.table (some number) .headed entries :: added, lists, final, ?_, ?_, ?_⟩
      · show (Draft.openItemHeader _ _ _ _).bind (fun next => next.extendAll (number + 1)
          (body item ++ sectionLines front last short body given)) = _
        rw [hopen, Option.bind_some, extendAll_append, hfilled, Option.bind_some, hrest]
      · rw [List.append_assoc] at hlists
        exact hlists
      · exact .cons ⟨number, entries, rfl, hholds⟩ htables

end Lines

end Toml
end InsertRouting
