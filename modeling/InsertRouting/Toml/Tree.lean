import InsertRouting.Toml.Node

namespace InsertRouting
namespace Toml

/-!
# Building the tree of a document

Tables are opened by headers and by dotted keys.  A dotted key runs only through
tables that were made by dotted keys or by the headers of inner tables, and a
header never runs through a value.  A table has one header, and a key one value;
whatever would give a second one is refused.
-/

/-- Cut the entries at the one with a given key. -/
def splitAtKey (name : String) : Entries → Option (Entries × (Key × Node) × Entries)
  | [] => none
  | entry :: rest =>
      if entry.1.name = name then some ([], entry, rest)
      else
        match splitAtKey name rest with
        | some (before, found, after) => some (entry :: before, found, after)
        | none => none

/-- There is no cut exactly if no entry has the key. -/
theorem splitAtKey_eq_none_iff {name : String} {entries : Entries} :
    splitAtKey name entries = none ↔ ∀ entry ∈ entries, entry.1.name ≠ name := by
  induction entries with
  | nil => simp [splitAtKey]
  | cons entry rest ih =>
      rw [splitAtKey]
      by_cases same : entry.1.name = name
      · simp [same]
      · cases inner : splitAtKey name rest with
        | none => simpa [same] using ih.1 inner
        | some parts =>
            have found : ¬ ∀ entry ∈ rest, entry.1.name ≠ name := fun absent => by
              simp [ih.2 absent] at inner
            simpa [same, inner] using found

/-- A path whose missing tables are made in the form `made` may run through a table
of the form `met`. -/
def passable (made met : TableForm) : Bool :=
  match made, met with
  | .dotted, .implied => true
  | .dotted, .dotted => true
  | .dotted, _ => false
  | _, .inline => false
  | _, _ => true

/-- Change the table at the end of a path.  Missing tables are made in the form
`made`, and a collected list stands for its last table. -/
def changeAt (made : TableForm) (change : TableForm → Entries → Option Entries) :
    List Key → TableForm → Entries → Option Entries
  | [], form, entries => change form entries
  | key :: path, _, entries =>
      match splitAtKey key.name entries with
      | none => do
          let inner ← changeAt made change path made []
          pure (entries ++ [(key, .table none made inner)])
      | some (before, (known, .table line form inner), after) =>
          if passable made form then do
            let inner ← changeAt made change path form inner
            pure (before ++ (known, .table line form inner) :: after)
          else none
      | some (before, (known, .list line .collected items), after) =>
          match items.getLast? with
          | some (.table itemLine form inner) => do
              let inner ← changeAt made change path form inner
              let items := items.dropLast ++ [.table itemLine form inner]
              pure (before ++ (known, .list line .collected items) :: after)
          | _ => none
      | some _ => none

/-- Give a key of a table its value.  Behind dots the table must be one that dots
have made. -/
def putValue (dots : Bool) (key : Key) (value : Node) (form : TableForm)
    (entries : Entries) : Option Entries :=
  if dots && form != .dotted then none
  else
    match splitAtKey key.name entries with
    | none => some (entries ++ [(key, value)])
    | some _ => none

/-- Give a dotted key its value. -/
def assignValue (path : List Key) (key : Key) (value : Node) (form : TableForm)
    (entries : Entries) : Option Entries :=
  changeAt .dotted (putValue (!path.isEmpty) key value) path form entries

/-- Open the table with a header on the given line.  A table that only headers of
inner tables run through moves to the end. -/
def openTable (line : Nat) (key : Key) (_ : TableForm) (entries : Entries) :
    Option Entries :=
  match splitAtKey key.name entries with
  | none => some (entries ++ [(key, .table (some line) .headed [])])
  | some (before, (_, .table _ .implied inner), after) =>
      some (before ++ after ++ [(key, .table (some line) .headed inner)])
  | some _ => none

/-- Open one more table of a collected list. -/
def openItem (line : Nat) (key : Key) (_ : TableForm) (entries : Entries) :
    Option Entries :=
  match splitAtKey key.name entries with
  | none =>
      some (entries ++ [(key, .list line .collected [.table (some line) .headed []])])
  | some (before, (known, .list first .collected items), after) =>
      some (before ++ (known, .list first .collected (items ++ [.table (some line) .headed []]))
        :: after)
  | some _ => none

/-- A document that is being built: its tree, and the path of the table that keys
are added to. -/
structure Draft where
  root : Entries := []
  path : List Key := []
  deriving Repr

namespace Draft

/-- Add a key with its value to the open table. -/
def assign (draft : Draft) (path : List Key) (key : Key) (value : Node) : Option Draft := do
  let root ← changeAt .implied (assignValue path key value) draft.path .headed draft.root
  pure { draft with root := root }

/-- Open the table of a header. -/
def openHeader (draft : Draft) (line : Nat) (path : List Key) (key : Key) : Option Draft := do
  let root ← changeAt .implied (openTable line key) path .headed draft.root
  pure ⟨root, path ++ [key]⟩

/-- Open the next table of a repeated header. -/
def openItemHeader (draft : Draft) (line : Nat) (path : List Key) (key : Key) :
    Option Draft := do
  let root ← changeAt .implied (openItem line key) path .headed draft.root
  pure ⟨root, path ++ [key]⟩

end Draft

end Toml
end InsertRouting
