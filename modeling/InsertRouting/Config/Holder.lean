import InsertRouting.Config.Parse

namespace InsertRouting

/-!
# The current configuration

A program has one current configuration, the default one at first.  It is
replaced as a whole, and only by a configuration that passes the check; a failed
replacement leaves it as it was.
-/

/-- The holder of the current configuration. -/
structure ConfigHolder where
  current : Config := {}
  deriving DecidableEq, Repr

/-- The holder after a step, the answer to the step, and the log. -/
structure HolderStep where
  holder : ConfigHolder
  answer : Except ConfigError Config
  events : List Event

namespace ConfigHolder

/-- The sizes of the sections of a configuration. -/
def sizes (config : Config) : String :=
  toString config.shardedTables.length ++ " sharded tables, " ++
    toString config.encryptedTables.length ++ " encrypted tables, " ++
    toString config.tables.length ++ " tables in catalog"

/-- Check a configuration that is to become the current one. -/
def admitted (config : Config) : Logged ConfigError Config := do
  config.check
  Logged.emit .info (sizes config)
  pure config

/-- Make the outcome of a computation the current configuration, if it has one. -/
def install (holder : ConfigHolder) (outcome : Logged ConfigError Config) : HolderStep where
  holder :=
    match outcome.result with
    | .ok config => ⟨config⟩
    | .error _ => holder
  answer := outcome.result
  events := outcome.events

/-- The current configuration. -/
def get (holder : ConfigHolder) : HolderStep :=
  ⟨holder, .ok holder.current, []⟩

/-- Replace the current configuration. -/
def set (holder : ConfigHolder) (config : Config) : HolderStep :=
  holder.install (admitted config)

section Loading

variable (wording : Toml.Wording)

/-- Replace the current configuration by the one in a file. -/
def load (holder : ConfigHolder) (path : String) (file : Config.File) : HolderStep :=
  holder.install do
    let config ← Config.load wording path file
    admitted config

/-- What a program does with the holder. -/
inductive Action
  | get
  | set (config : Config)
  | load (path : String) (file : Config.File)

/-- Do one step. -/
def act (holder : ConfigHolder) : Action → HolderStep
  | .get => holder.get
  | .set config => holder.set config
  | .load path file => holder.load wording path file

/-- Do steps one after the other. -/
def run (holder : ConfigHolder) : List Action → List HolderStep
  | [] => []
  | action :: rest =>
      let step := holder.act wording action
      step :: step.holder.run rest

end Loading

end ConfigHolder

end InsertRouting
