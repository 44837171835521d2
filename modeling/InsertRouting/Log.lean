namespace InsertRouting

/-!
# Log events

Every operation that reports what it did returns the events it emitted, in order.
`Logged` combines the events with a result that may be an error: the events
before a failure are kept, and nothing after it happens.
-/

/-- Severity of an event, most severe first. -/
inductive Level
  | error
  | warn
  | info
  | debug
  | trace
  deriving DecidableEq, Repr

namespace Level

/-- Rank of a level; a more severe level has a smaller rank. -/
def rank : Level → Nat
  | error => 0
  | warn => 1
  | info => 2
  | debug => 3
  | trace => 4

/-- The event level is shown when everything up to `threshold` is shown. -/
def shownAt (threshold level : Level) : Bool :=
  decide (level.rank ≤ threshold.rank)

/-- Name of a level in the log. -/
def name : Level → String
  | error => "ERROR"
  | warn => "WARN"
  | info => "INFO"
  | debug => "DEBUG"
  | trace => "TRACE"

end Level

/-- One line of the log. -/
structure Event where
  level : Level
  message : String
  deriving DecidableEq, Repr

/-- The events of a computation and its result. -/
structure Logged (ε α : Type) where
  events : List Event
  result : Except ε α

namespace Logged

variable {ε α β : Type}

/-- Succeed without an event. -/
def ok (value : α) : Logged ε α := ⟨[], .ok value⟩

/-- Fail without an event. -/
def fail (error : ε) : Logged ε α := ⟨[], .error error⟩

/-- Emit one event. -/
def emit (level : Level) (message : String) : Logged ε Unit :=
  ⟨[⟨level, message⟩], .ok ()⟩

/-- A result that was obtained without an event. -/
def ofExcept (result : Except ε α) : Logged ε α := ⟨[], result⟩

/-- Run the second computation on the value of the first, unless that failed. -/
def bind (first : Logged ε α) (next : α → Logged ε β) : Logged ε β :=
  match first.result with
  | .ok value => ⟨first.events ++ (next value).events, (next value).result⟩
  | .error error => ⟨first.events, .error error⟩

instance : Monad (Logged ε) where
  pure := ok
  bind := bind

@[simp]
theorem pure_eq (value : α) : (pure value : Logged ε α) = ok value := rfl

@[simp]
theorem bind_eq (first : Logged ε α) (next : α → Logged ε β) :
    (first >>= next) = first.bind next := rfl

@[simp]
theorem ok_bind (value : α) (next : α → Logged ε β) : (ok value).bind next = next value := rfl

@[simp]
theorem ofExcept_ok (value : α) : (ofExcept (.ok value) : Logged ε α) = ok value := rfl

/-- An emitted event stands in front of everything that follows. -/
theorem emit_bind (level : Level) (message : String) (next : Unit → Logged ε β) :
    (emit level message).bind next =
      ⟨⟨level, message⟩ :: (next ()).events, (next ()).result⟩ := rfl

/-- The events of a sequence are those of its parts, in order. -/
theorem events_bind_of_ok {first : Logged ε α} {value : α} (next : α → Logged ε β)
    (succeeded : first.result = .ok value) :
    (first.bind next).events = first.events ++ (next value).events := by
  simp [bind, succeeded]

theorem result_bind_of_ok {first : Logged ε α} {value : α} (next : α → Logged ε β)
    (succeeded : first.result = .ok value) :
    (first.bind next).result = (next value).result := by
  simp [bind, succeeded]

/-- A failure ends the sequence. -/
theorem bind_of_error {first : Logged ε α} {error : ε} (next : α → Logged ε β)
    (failed : first.result = .error error) :
    first.bind next = ⟨first.events, .error error⟩ := by
  simp [bind, failed]

theorem bind_ok_eq_ok_iff {first : Logged ε α} {f : α → β} {final : β} :
    (first.bind fun value => ok (f value)) = ok final ↔
      ∃ value, first = ok value ∧ f value = final := by
  cases first with
  | mk firstEvents result => cases result <;> simp [bind, ok, and_assoc]

/-- Changing the value of a success does not touch a failure. -/
theorem bind_ok_eq_error_iff {first : Logged ε α} {f : α → β} {events : List Event}
    {error : ε} :
    (first.bind fun value => ok (f value)) = ⟨events, .error error⟩ ↔
      first = ⟨events, .error error⟩ := by
  cases first with
  | mk firstEvents result => cases result <;> simp [bind, ok]

end Logged

end InsertRouting
