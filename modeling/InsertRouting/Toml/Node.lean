import InsertRouting.Number.Double

namespace InsertRouting
namespace Toml

/-!
# Documents as trees

A document is a tree of tables, lists and scalars.  Every key and every value
that is written out remembers the line it starts on; a table that exists only
because other keys run through it has no line of its own.
-/

/-- A value without parts. -/
inductive Scalar
  | string (value : String)
  | integer (value : Int64)
  | float (value : Number.Double)
  | boolean (value : Bool)
  /-- A date, a time or both, as written. -/
  | dateTime (source : String)
  deriving Repr

/-- A key and the line it was first written on. -/
structure Key where
  name : String
  line : Nat
  deriving DecidableEq, Repr

/-- How a table came into being. -/
inductive TableForm
  /-- It is the document, or has a header of its own. -/
  | headed
  /-- It is written as a value. -/
  | inline
  /-- Headers of tables inside it run through it. -/
  | implied
  /-- Dotted keys run through it. -/
  | dotted
  deriving DecidableEq, Repr

/-- How a list came into being. -/
inductive ListForm
  /-- It is written as a value. -/
  | inline
  /-- It collects the tables under one repeated header. -/
  | collected
  deriving DecidableEq, Repr

/-- A value of a document. -/
inductive Node
  | scalar (line : Nat) (value : Scalar)
  | list (line : Nat) (form : ListForm) (items : List Node)
  | table (line : Option Nat) (form : TableForm) (entries : List (Key × Node))
  deriving Repr

/-- The keys and values of a table, in the order they were written. -/
abbrev Entries := List (Key × Node)

namespace Node

/-- The line that a value starts on, if it is written out. -/
def line? : Node → Option Nat
  | scalar line _ => some line
  | list line _ _ => some line
  | table line _ _ => line

end Node

end Toml
end InsertRouting
