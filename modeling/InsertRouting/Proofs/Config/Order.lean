import InsertRouting.Proofs.Config.Schema
import InsertRouting.Proofs.Data.Related
import Mathlib.Data.List.Nodup
import Mathlib.Data.Option.Basic

namespace InsertRouting
namespace Config

/-!
# The order of keys in a configuration

`Reordered` relates documents with the same content: they differ at most in the order of
keys and in the places and forms in which values are written.  Such documents conform to the
same shapes, and they hold the same configuration.
-/

section Documents

/-- The values have the same content: they differ at most in the order of the keys of their
tables, and in the places and the forms in which they are written. -/
inductive Reordered : Toml.Node → Toml.Node → Prop
  | scalar (line other : Nat) (value : Toml.Scalar) :
      Reordered (.scalar line value) (.scalar other value)
  | list {line other : Nat} {form otherForm : Toml.ListForm} {items others : List Toml.Node}
      (hitems : List.Forall₂ Reordered items others) :
      Reordered (.list line form items) (.list other otherForm others)
  | table {line other : Option Nat} {form otherForm : Toml.TableForm}
      {entries others : Toml.Entries}
      (hvalues : ∀ name, List.Forall₂ Reordered (valuesOf name entries) (valuesOf name others)) :
      Reordered (.table line form entries) (.table other otherForm others)

theorem sizeOf_lt_of_mem_valuesOf {name : String} {entries : Toml.Entries} {node : Toml.Node}
    (hmem : node ∈ valuesOf name entries) : sizeOf node < sizeOf entries := by
  obtain ⟨key, hentry, -⟩ := mem_valuesOf_iff.1 hmem
  have hlt := List.sizeOf_lt_of_mem hentry
  simp only [Prod.mk.sizeOf_spec] at hlt
  omega

/- The recursion of the next two theorems passes through `valuesOf`, so it is justified by the
size of the document. -/
theorem Reordered.refl : (node : Toml.Node) → Reordered node node
  | .scalar line value => .scalar line line value
  | .list line form items =>
      .list (List.forall₂_same.2 fun node hmem =>
        have := List.sizeOf_lt_of_mem hmem
        Reordered.refl node)
  | .table line form entries =>
      .table fun name => List.forall₂_same.2 fun node hmem =>
        have := sizeOf_lt_of_mem_valuesOf hmem
        Reordered.refl node
termination_by node => sizeOf node
decreasing_by
  · decreasing_tactic
  · rw [Toml.Node.table.sizeOf_spec]
    omega

theorem Reordered.symm : {node other : Toml.Node} → Reordered node other → Reordered other node
  | _, _, .scalar line other value => .scalar other line value
  | .list _ _ _, _, .list hitems =>
      .list (forall₂_imp_of_mem hitems fun node hmem _ hsame =>
        have := List.sizeOf_lt_of_mem hmem
        Reordered.symm hsame).flip
  | .table _ _ _, _, .table hvalues =>
      .table fun name => (forall₂_imp_of_mem (hvalues name) fun node hmem _ hsame =>
        have := sizeOf_lt_of_mem_valuesOf hmem
        Reordered.symm hsame).flip
termination_by node => sizeOf node
decreasing_by
  · decreasing_tactic
  · rw [Toml.Node.table.sizeOf_spec]
    omega

/-- Without repeated keys any order of the entries gives the same values. -/
theorem valuesOf_of_perm {entries others : Toml.Entries} (hperm : entries.Perm others)
    (hkeys : (entries.map (·.1.name)).Nodup) (name : String) :
    valuesOf name entries = valuesOf name others := by
  have hvalues : (valuesOf name entries).Perm (valuesOf name others) :=
    (hperm.filter _).map _
  have hshort : (valuesOf name entries).length ≤ 1 := by
    have hcount := List.nodup_iff_count_le_one.1 hkeys name
    rw [List.count_eq_countP, List.countP_map, List.countP_eq_length_filter] at hcount
    unfold valuesOf
    rw [List.length_map]
    exact hcount
  -- A list with at most one item has one order only.
  match hfirst : valuesOf name entries with
  | [] =>
      rw [hfirst] at hvalues
      exact (List.perm_nil.1 hvalues.symm).symm
  | [node] =>
      rw [hfirst] at hvalues
      exact (List.perm_singleton.1 hvalues.symm).symm
  | first :: second :: rest =>
      rw [hfirst] at hshort
      simp at hshort

/-- The entries of a table can be written in any order. -/
theorem Reordered.of_perm {entries others : Toml.Entries} (hperm : entries.Perm others)
    (hkeys : (entries.map (·.1.name)).Nodup) (line other : Option Nat)
    (form otherForm : Toml.TableForm) :
    Reordered (.table line form entries) (.table other otherForm others) := by
  refine .table fun name => ?_
  rw [valuesOf_of_perm hperm hkeys name]
  exact List.forall₂_same.2 fun node _ => .refl node

end Documents

section Values

attribute [ext] ShardedTable EncryptedColumn EncryptedTable TableDefinition Config

/-- The value of a document depends on its content only. -/
def OrderFree {α : Type} (value : Toml.Node → α) : Prop :=
  ∀ node other, Reordered node other → value node = value other

theorem orderFree_textAt : OrderFree textAt := by
  intro node other hsame
  cases hsame with
  | scalar line other value => cases value <;> rfl
  | list => rfl
  | table => rfl

theorem items_reordered {node other : Toml.Node} (hsame : Reordered node other) :
    List.Forall₂ Reordered (itemsAt node) (itemsAt other) := by
  cases hsame with
  | scalar => exact .nil
  | list hitems => exact hitems
  | table => exact .nil

theorem OrderFree.list {α : Type} {value : Toml.Node → α} (hvalue : OrderFree value) :
    OrderFree fun node => (itemsAt node).map value := by
  intro node other hsame
  have hitems := items_reordered hsame
  rw [← List.forall₂_eq_eq_eq, List.forall₂_map_left_iff, List.forall₂_map_right_iff]
  exact hitems.imp fun _ _ => hvalue _ _

theorem valuesOf_namedItems_reordered (names : List String) (line otherLine : Nat)
    {items others : List Toml.Node} (hitems : List.Forall₂ Reordered items others)
    (name : String) :
    List.Forall₂ Reordered (valuesOf name (namedItems names line items))
      (valuesOf name (namedItems names otherLine others)) := by
  induction hitems generalizing names with
  | nil =>
      unfold namedItems
      rw [List.zip_nil_right]
      exact .nil
  | @cons node other items others hnode _ ih =>
      cases names with
      | nil => exact .nil
      | cons first names =>
          rw [namedItems_cons_cons, namedItems_cons_cons, valuesOf_cons, valuesOf_cons]
          refine List.rel_append ?_ (ih names)
          dsimp only
          split
          · exact .cons hnode .nil
          · exact .nil

theorem valuesOf_recordEntries_reordered (names : List String) {node other : Toml.Node}
    (hsame : Reordered node other) (name : String) :
    List.Forall₂ Reordered (valuesOf name (recordEntries names node))
      (valuesOf name (recordEntries names other)) := by
  cases hsame with
  | scalar => exact .nil
  | list hitems => exact valuesOf_namedItems_reordered names _ _ hitems name
  | table hvalues => exact hvalues name

/-- The value under a name is the same up to the order in the document. -/
theorem value?_reordered (names : List String) (name : String) {node other : Toml.Node}
    (hsame : Reordered node other) :
    Option.Rel Reordered (value? name (recordEntries names node))
      (value? name (recordEntries names other)) :=
  getLast?_of_forall₂ (valuesOf_recordEntries_reordered names hsame name)

/-- A field holds the same, whether it is given or has its default. -/
theorem OrderFree.part {α : Type} {held : Toml.Node → α} (hheld : OrderFree held)
    (names : List String) (name : String) (default : α) :
    OrderFree fun node => (value? name (recordEntries names node)).elim default held := by
  intro node other hsame
  have hvalue := value?_reordered names name hsame
  dsimp only
  generalize value? name (recordEntries names node) = value,
    value? name (recordEntries names other) = otherValue at hvalue ⊢
  cases hvalue with
  | none => rfl
  | some hsame => exact hheld _ _ hsame

theorem OrderFree.optional {α : Type} {held : Toml.Node → α} (hheld : OrderFree held)
    (names : List String) (name : String) :
    OrderFree fun node => (value? name (recordEntries names node)).map held := by
  have hsome : OrderFree (some ∘ held) :=
    fun node other hsame => congrArg some (hheld node other hsame)
  intro node other hsame
  have hpart := hsome.part names name none node other hsame
  have hmap (value : Option Toml.Node) : value.elim none (some ∘ held) = value.map held :=
    Option.elim_none_some (Option.map held) value
  simpa only [hmap] using hpart

theorem orderFree_shardedTableAt : OrderFree shardedTableAt := by
  intro node other hsame
  ext1
  · exact orderFree_textAt.optional _ _ node other hsame
  · exact orderFree_textAt.part _ _ _ node other hsame
  · exact orderFree_textAt.optional _ _ node other hsame

theorem orderFree_encryptedColumnAt : OrderFree encryptedColumnAt := by
  intro node other hsame
  ext1
  · exact orderFree_textAt.part _ _ _ node other hsame
  · exact orderFree_textAt.part _ _ _ node other hsame
  · exact orderFree_textAt.optional _ _ node other hsame

theorem orderFree_encryptedTableAt : OrderFree encryptedTableAt := by
  intro node other hsame
  ext1
  · exact orderFree_textAt.part _ _ _ node other hsame
  · exact orderFree_encryptedColumnAt.list.part _ _ _ node other hsame

theorem orderFree_tableDefinitionAt : OrderFree tableDefinitionAt := by
  intro node other hsame
  ext1
  · exact orderFree_textAt.part _ _ _ node other hsame
  · exact orderFree_textAt.list.part _ _ _ node other hsame

theorem orderFree_configAt : OrderFree configAt := by
  intro node other hsame
  ext1
  · exact orderFree_shardedTableAt.list.part _ _ _ node other hsame
  · exact orderFree_encryptedTableAt.list.part _ _ _ node other hsame
  · exact orderFree_tableDefinitionAt.list.part _ _ _ node other hsame

end Values

section Conforming

/-- Every entry of a table has one with the same name and the same content in the other
table. -/
theorem exists_entry_reordered {entries others : Toml.Entries}
    (hvalues : ∀ name, List.Forall₂ Reordered (valuesOf name entries) (valuesOf name others))
    {entry : Toml.Key × Toml.Node} (hmem : entry ∈ others) :
    ∃ source ∈ entries, source.1.name = entry.1.name ∧ Reordered source.2 entry.2 := by
  have hvalue : entry.2 ∈ valuesOf entry.1.name others := mem_valuesOf_iff.2 ⟨_, hmem, rfl⟩
  obtain ⟨node, hnode, hsame⟩ := exists_mem_of_forall₂_right (hvalues entry.1.name) hvalue
  obtain ⟨key, hsource, hname⟩ := mem_valuesOf_iff.1 hnode
  exact ⟨(key, node), hsource, hname, hsame⟩

theorem exists_name_reordered {entries others : Toml.Entries}
    (hvalues : ∀ name, List.Forall₂ Reordered (valuesOf name entries) (valuesOf name others))
    {entry : Toml.Key × Toml.Node} (hmem : entry ∈ entries) :
    ∃ other ∈ others, other.1.name = entry.1.name := by
  have hvalue : entry.2 ∈ valuesOf entry.1.name entries := mem_valuesOf_iff.2 ⟨_, hmem, rfl⟩
  obtain ⟨node, hnode, -⟩ := exists_mem_of_forall₂_right (hvalues entry.1.name).flip hvalue
  obtain ⟨key, hother, hname⟩ := mem_valuesOf_iff.1 hnode
  exact ⟨(key, node), hother, hname⟩

/-- Whether a value conforms does not depend on the order of keys. -/
theorem Conforms.of_reordered {shape : Shape} {node : Toml.Node}
    (hconforms : Conforms shape node) :
    ∀ {other : Toml.Node}, Reordered node other → Conforms shape other := by
  induction hconforms with
  | text line text =>
      intro other hsame
      cases hsame with
      | scalar _ otherLine => exact .text otherLine text
  | list _ ih =>
      intro other hsame
      cases hsame with
      | list hitems =>
          refine .list fun node hmem => ?_
          obtain ⟨source, hsource, hpair⟩ := exists_mem_of_forall₂_right hitems hmem
          exact ih source hsource hpair
  | table hkeys _ hrequired ih =>
      intro other hsame
      cases hsame with
      | table hvalues =>
          refine .table ?_ ?_ ?_
          · intro entry hmem
            obtain ⟨source, hsource, hname, -⟩ := exists_entry_reordered hvalues hmem
            rw [← hname]
            exact hkeys source hsource
          · intro entry hmem field hfield
            obtain ⟨source, hsource, hname, hpair⟩ := exists_entry_reordered hvalues hmem
            rw [← hname] at hfield
            exact ih source hsource field hfield hpair
          · intro field hfield hneeded
            obtain ⟨entry, hmem, hentry⟩ := hrequired field hfield hneeded
            obtain ⟨other, hother, hname⟩ := exists_name_reordered hvalues hmem
            exact ⟨other, hother, hname.trans hentry⟩
  | @fields _ declared _ _ _ _ hrequired ih =>
      intro other hsame
      cases hsame with
      | list hitems =>
          refine .fields ?_ ?_
          · intro pair hmem
            have hpairs := forall₂_zip declared hitems
            obtain ⟨source, hsource, hfield, hpair⟩ := exists_mem_of_forall₂_right hpairs hmem
            rw [← hfield]
            exact ih source hsource hpair
          · rw [← hitems.length_eq]
            exact hrequired

end Conforming

end Config
end InsertRouting
