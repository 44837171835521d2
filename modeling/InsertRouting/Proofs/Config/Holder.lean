import InsertRouting.Proofs.Config.Checked
import Mathlib.Control.Monad.Basic

namespace InsertRouting

/-!
# Sessions on the holder of the configuration

A session is a sequence of steps on the holder, which starts with the default
configuration.  Whatever the steps are, the current configuration is the one that the last
successful replacement answered with, a refused replacement leaves the holder alone, and the
current configuration always passes the check.
-/

namespace Config

/-- Loading answers with nothing that has not passed the check, whether the configuration
was read or is the default one. -/
theorem check_accepts_of_load {wording : Toml.Wording} {path : String} {file : File}
    {config : Config} (hloaded : (load wording path file).result = .ok config) :
    config.check.result = .ok () := by
  have hchecked : ∀ other : Config, other.checked.result = .ok config →
      config.check.result = .ok () := by
    intro other hother
    cases hresult : other.check.result with
    | error error =>
        rw [checked_of_refused hresult] at hother
        cases hother
    | ok accepted =>
        rw [checked_of_accepted hresult] at hother
        cases hother
        exact hresult
  unfold load at hloaded
  split at hloaded
  · obtain ⟨read, -, hread⟩ := Logged.result_bind_eq_ok_iff.1 hloaded
    rw [Logged.bind_eq, Logged.emit_bind] at hread
    exact hchecked read hread
  · rw [Logged.bind_eq, Logged.emit_bind] at hloaded
    exact hchecked {} hloaded

end Config

namespace ConfigHolder

section Replacing

variable {holder : ConfigHolder} {config : Config} {error : ConfigError}

theorem admitted_of_accepted (haccepted : config.check.result = .ok ()) :
    admitted config = ⟨config.check.events ++ [⟨.info, sizes config⟩], .ok config⟩ := by
  simp [admitted, Logged.bind, haccepted, Logged.emit, Logged.ok]

theorem admitted_of_refused (hrefused : config.check.result = .error error) :
    admitted config = ⟨config.check.events, .error error⟩ := by
  simp [admitted, Logged.bind, hrefused]

/-- A configuration is admitted as it is, and only if the check accepts it. -/
theorem result_admitted_eq_ok_iff {other : Config} :
    (admitted config).result = .ok other ↔ other = config ∧ config.check.result = .ok () := by
  cases hresult : config.check.result with
  | error error => simp [admitted_of_refused hresult]
  | ok accepted => simp [admitted_of_accepted hresult, eq_comm]

/-- A second check changes nothing about what was loaded. -/
theorem answer_load (wording : Toml.Wording) (holder : ConfigHolder) (path : String)
    (file : Config.File) :
    (holder.load wording path file).answer = (Config.load wording path file).result := by
  show ((Config.load wording path file).bind admitted).result = _
  cases hloaded : (Config.load wording path file).result with
  | error error => rw [Logged.bind_of_error _ hloaded]
  | ok config =>
      rw [Logged.result_bind_of_ok _ hloaded, result_admitted_eq_ok_iff]
      exact ⟨rfl, Config.check_accepts_of_load hloaded⟩

end Replacing

/-- What a step makes the current configuration: a successful replacement does so with its
answer, a mere look at the current one does not. -/
def installed? : Action × HolderStep → Option Config
  | (.get, _) => none
  | (_, step) => step.answer.toOption

theorem installed?_eq_some_iff {action : Action} {step : HolderStep} {config : Config} :
    installed? (action, step) = some config ↔ action ≠ .get ∧ step.answer = .ok config := by
  cases action <;> cases hanswer : step.answer <;>
    simp [installed?, hanswer, Except.toOption]

/-- The configuration that the last successful replacement answered with, or the one from
the start if there was none. -/
def lastInstalled (start : Config) (history : List (Action × HolderStep)) : Config :=
  (history.filterMap installed?).getLast?.getD start

/-- The holder after the steps. -/
def after (holder : ConfigHolder) (history : List (Action × HolderStep)) : ConfigHolder :=
  history.foldl (fun _ entry => entry.2.holder) holder

/-- The steps of a session, each with what was asked for. -/
def history (wording : Toml.Wording) (holder : ConfigHolder) (actions : List Action) :
    List (Action × HolderStep) :=
  actions.zip (holder.run wording actions)

section History

variable {wording : Toml.Wording}

theorem history_cons (holder : ConfigHolder) (action : Action) (rest : List Action) :
    holder.history wording (action :: rest) =
      (action, holder.act wording action) ::
        (holder.act wording action).holder.history wording rest :=
  rfl

theorem length_run (holder : ConfigHolder) (actions : List Action) :
    (holder.run wording actions).length = actions.length := by
  induction actions generalizing holder with
  | nil => rfl
  | cons action rest ih => exact congrArg (· + 1) (ih _)

theorem lastInstalled_cons (start : Config) (entry : Action × HolderStep)
    (rest : List (Action × HolderStep)) :
    lastInstalled start (entry :: rest) =
      lastInstalled ((installed? entry).getD start) rest := by
  unfold lastInstalled
  cases hinstalled : installed? entry with
  | none => rw [List.filterMap_cons_none hinstalled]; rfl
  | some config =>
      rw [List.filterMap_cons_some hinstalled, List.getLast?_cons]
      rfl

/-- The first step of a session is done on the holder, and the others behind it. -/
theorem exists_of_history_eq_cons {holder : ConfigHolder} {actions : List Action}
    {entry : Action × HolderStep} {rest : List (Action × HolderStep)}
    (hsplit : holder.history wording actions = entry :: rest) :
    ∃ action others, entry = (action, holder.act wording action) ∧
      (holder.act wording action).holder.history wording others = rest := by
  cases actions with
  | nil => cases hsplit
  | cons action others =>
      rw [history_cons] at hsplit
      obtain ⟨rfl, hrest⟩ := List.cons.inj hsplit
      exact ⟨action, others, rfl, hrest⟩

/-- The holder is the result of the steps in front, so each step is done on it. -/
theorem eq_act_of_history_eq {holder : ConfigHolder} {actions : List Action}
    {before rest : List (Action × HolderStep)} {action : Action} {step : HolderStep}
    (hsplit : holder.history wording actions = before ++ (action, step) :: rest) :
    step = (holder.after before).act wording action := by
  induction before generalizing holder actions with
  | nil =>
      obtain ⟨_, _, hfirst, -⟩ := exists_of_history_eq_cons hsplit
      cases hfirst
      rfl
  | cons entry before ih =>
      obtain ⟨_, _, rfl, hrest⟩ := exists_of_history_eq_cons hsplit
      exact ih hrest

section Steps

/-- A step that hands nothing over leaves the holder as it is. -/
theorem holder_act (holder : ConfigHolder) (action : Action) :
    (holder.act wording action).holder =
      ⟨(installed? (action, holder.act wording action)).getD holder.current⟩ := by
  have hinstall : ∀ outcome : Logged ConfigError Config,
      (holder.install outcome).holder =
        ⟨(holder.install outcome).answer.toOption.getD holder.current⟩ := by
    intro outcome
    unfold install
    cases outcome.result <;> rfl
  cases action with
  | get => rfl
  | set config => exact hinstall _
  | load path file => exact hinstall _

theorem holder_act_of_error {holder : ConfigHolder} {action : Action} {error : ConfigError}
    (hrefused : (holder.act wording action).answer = .error error) :
    (holder.act wording action).holder = holder := by
  rw [holder_act]
  cases hinstalled : installed? (action, holder.act wording action) with
  | none => rfl
  | some config =>
      obtain ⟨-, hanswer⟩ := installed?_eq_some_iff.1 hinstalled
      rw [hrefused] at hanswer
      cases hanswer

/-- What a step installs has passed the check. -/
theorem check_accepts_of_installed {holder : ConfigHolder} {action : Action} {config : Config}
    (hinstalled : installed? (action, holder.act wording action) = some config) :
    config.check.result = .ok () := by
  obtain ⟨hreplaces, hanswer⟩ := installed?_eq_some_iff.1 hinstalled
  cases action with
  | get => exact absurd rfl hreplaces
  | set given =>
      obtain ⟨rfl, haccepted⟩ := result_admitted_eq_ok_iff.1 hanswer
      exact haccepted
  | load path file =>
      have hloaded : (Config.load wording path file).result = .ok config :=
        (answer_load wording holder path file).symm.trans hanswer
      exact Config.check_accepts_of_load hloaded

/-- A step keeps the current configuration checked. -/
theorem check_accepts_after_act {holder : ConfigHolder}
    (haccepted : holder.current.check.result = .ok ()) (action : Action) :
    (holder.act wording action).holder.current.check.result = .ok () := by
  rw [holder_act]
  cases hinstalled : installed? (action, holder.act wording action) with
  | none => exact haccepted
  | some config => exact check_accepts_of_installed hinstalled

end Steps

section Sessions

variable {holder : ConfigHolder} {actions : List Action}
  {before rest : List (Action × HolderStep)}

/-- After every part of a session the current configuration is the one that this part
installed last. -/
theorem current_after (hsplit : holder.history wording actions = before ++ rest) :
    (holder.after before).current = lastInstalled holder.current before := by
  induction before generalizing holder actions with
  | nil => rfl
  | cons entry before ih =>
      obtain ⟨action, _, rfl, hrest⟩ := exists_of_history_eq_cons hsplit
      have hnext : (holder.act wording action).holder.current =
          (installed? (action, holder.act wording action)).getD holder.current :=
        congrArg ConfigHolder.current (holder_act holder action)
      rw [lastInstalled_cons, ← hnext]
      exact ih hrest

theorem check_accepts_after (haccepted : holder.current.check.result = .ok ())
    (hsplit : holder.history wording actions = before ++ rest) :
    (holder.after before).current.check.result = .ok () := by
  induction before generalizing holder actions with
  | nil => exact haccepted
  | cons entry before ih =>
      obtain ⟨action, _, rfl, hrest⟩ := exists_of_history_eq_cons hsplit
      exact ih (check_accepts_after_act haccepted action) hrest

end Sessions

end History

/-- What is known of the holder behind a part of a session. -/
structure Reached (history : List (Action × HolderStep)) (holder : ConfigHolder) : Prop where
  current : holder.current = lastInstalled {} history
  accepted : holder.current.check.result = .ok ()
  complete : holder.current.Complete
  not_sharded : ∀ table,
    (ShardingRules.ofConfig holder.current).rule.isShardingColumn "" table = false

/-- What a step does to a holder. -/
structure Done (holder : ConfigHolder) (action : Action) (step : HolderStep) : Prop where
  /-- A refused replacement leaves the holder as it was. -/
  refused : ∀ error, step.answer = .error error → step.holder = holder
  /-- A successful replacement makes its answer the current configuration. -/
  replaced : ∀ config, action ≠ .get → step.answer = .ok config → step.holder = ⟨config⟩
  get : action = .get → step.answer = .ok holder.current ∧ step.holder = holder

/-- In a session that starts with the default configuration, the current configuration is
always the last one that was installed, and it has passed the check. -/
theorem session_holds_last_installed (wording : Toml.Wording) (actions : List Action) :
    (({} : ConfigHolder).history wording actions).map (·.1) = actions ∧
    (∀ before rest, ({} : ConfigHolder).history wording actions = before ++ rest →
      Reached before (({} : ConfigHolder).after before)) ∧
    ∀ before action step rest,
      ({} : ConfigHolder).history wording actions = before ++ (action, step) :: rest →
      Done (({} : ConfigHolder).after before) action step := by
  refine ⟨?_, fun before rest hsplit => ?_, fun before action step rest hsplit => ?_⟩
  · rw [history, List.map_fst_zip (Nat.le_of_eq (length_run _ _).symm)]
  · have haccepted := check_accepts_after (congrArg Logged.result Config.check_default) hsplit
    have hcomplete := Config.result_check_eq_ok_iff.1 haccepted
    exact ⟨current_after hsplit, haccepted, hcomplete, hcomplete.not_isShardingColumn_empty⟩
  · obtain rfl := eq_act_of_history_eq hsplit
    refine ⟨fun error => holder_act_of_error, fun config hreplaces hanswer => ?_, ?_⟩
    · rw [holder_act, installed?_eq_some_iff.2 ⟨hreplaces, hanswer⟩]
      rfl
    · rintro rfl
      exact ⟨rfl, rfl⟩

/-- A configuration with one sharded table. -/
def ordersById : Config where
  shardedTables := [⟨some "orders", "id", none⟩]

/-- A configuration whose sharded table has no column. -/
def withoutColumn : Config where
  shardedTables := [⟨some "orders", "", none⟩]

/-- A document with a table that has no columns. -/
def bareTableText : String :=
  "[[tables]]\nname = 'log'\n"

/-- The configuration in `bareTableText`. -/
def bareTable : Config where
  tables := [⟨"log", []⟩]

/-- A document that gives a key twice. -/
def repeatedKeyText : String :=
  "tables = []\ntables = []\n"

/-- The words for the key that `repeatedKeyText` gives twice. -/
def sampleWording : Toml.Wording := fun _ =>
  "duplicate key \x60tables\x60 in document root"

/-- Files that are read, refused and absent, replacements that are made and refused, and looks
at the current configuration between them. -/
theorem session_holds_last_installed_sample :
    let actions : List Action :=
      [.load "shards.toml" (.bytes bareTableText.toUTF8),
        .load "shards.toml" (.bytes repeatedKeyText.toUTF8), .get,
        .load "shards.toml" .absent, .set ordersById, .set withoutColumn, .get]
    let history := ({} : ConfigHolder).history sampleWording actions
    history.map (·.2.answer) =
        [.ok bareTable,
          .error (.malformed 2 "duplicate key \x60tables\x60 in document root"),
          .ok bareTable, .ok {}, .ok ordersById, .error (.noShardingColumn 0),
          .ok ordersById] ∧
      (({} : ConfigHolder).after (history.take 3)).current = bareTable ∧
      (({} : ConfigHolder).after (history.take 4)).current = {} ∧
      (({} : ConfigHolder).after history).current = ordersById := by
  intro actions history
  have hthird : lastInstalled {} (history.take 3) = bareTable := by decide +kernel
  have hfourth : lastInstalled {} (history.take 4) = {} := by decide +kernel
  have hlast : lastInstalled {} history = ordersById := by decide +kernel
  obtain ⟨-, hreached, -⟩ := session_holds_last_installed sampleWording actions
  refine ⟨by decide +kernel, ?_, ?_, ?_⟩
  · exact (hreached _ _ (List.take_append_drop 3 history).symm).current.trans hthird
  · exact (hreached _ _ (List.take_append_drop 4 history).symm).current.trans hfourth
  · exact (hreached history [] (List.append_nil _).symm).current.trans hlast

end ConfigHolder
end InsertRouting
