import InsertRouting.Config.Basic
import Std.Data.HashMap

namespace InsertRouting

/-!
# Columns added by encryption

The encryptor counts, per table, the columns that encryption adds for look-ups.
Several entries for one table add up.
-/

/-- Number of look-up columns per table. -/
structure Encryptor where
  assisted : Std.HashMap String Nat

namespace Encryptor

/-- The counts with the columns of one more entry. -/
def add (counts : Std.HashMap String Nat) (table : EncryptedTable) :
    Std.HashMap String Nat :=
  counts.insert table.name (counts.getD table.name 0 + table.assistedQueryColumns)

/-- The encryptor of a list of entries. -/
def ofTables (tables : List EncryptedTable) : Encryptor :=
  ⟨tables.foldl add ∅⟩

/-- The number of look-up columns of a table, if it has any. -/
def assistedQueryColumns? (encryptor : Encryptor) (table : String) : Option Nat :=
  match encryptor.assisted[table]? with
  | none => none
  | some 0 => none
  | some (count + 1) => some (count + 1)

theorem getD_add (counts : Std.HashMap String Nat) (table : EncryptedTable) (name : String) :
    (add counts table).getD name 0 =
      counts.getD name 0 + (if table.name = name then table.assistedQueryColumns else 0) := by
  unfold add
  rw [Std.HashMap.getD_insert]
  by_cases same : table.name = name
  · simp [same]
  · simp [same]

/-- The number of look-up columns of all entries for one table. -/
def total (name : String) : List EncryptedTable → Nat
  | [] => 0
  | table :: rest =>
      (if table.name = name then table.assistedQueryColumns else 0) + total name rest

/-- The counts of the entries for one table add up. -/
theorem getD_foldl_add (tables : List EncryptedTable) (counts : Std.HashMap String Nat)
    (name : String) :
    (tables.foldl add counts).getD name 0 = counts.getD name 0 + total name tables := by
  induction tables generalizing counts with
  | nil => rfl
  | cons table rest ih =>
      rw [List.foldl_cons, ih, getD_add, total, Nat.add_assoc]

/-- A table has look-up columns when its entries list one. -/
theorem assistedQueryColumns?_ofTables (tables : List EncryptedTable) (name : String) :
    (ofTables tables).assistedQueryColumns? name =
      if total name tables = 0 then none else some (total name tables) := by
  have hcount : (tables.foldl add ∅)[name]?.getD 0 = total name tables := by
    rw [← Std.HashMap.getD_eq_getD_getElem?, getD_foldl_add, Std.HashMap.getD_empty,
      Nat.zero_add]
  unfold assistedQueryColumns? ofTables
  rw [← hcount]
  cases (tables.foldl add ∅)[name]? with
  | none => rfl
  | some count => cases count <;> rfl

/-- Entries for other tables do not count. -/
theorem total_filter (name : String) (tables : List EncryptedTable) :
    total name (tables.filter (·.name == name)) = total name tables := by
  induction tables with
  | nil => rfl
  | cons table rest ih =>
      by_cases same : table.name = name
      · simp [same, total, ih]
      · simp [same, total, ih]

end Encryptor

end InsertRouting
