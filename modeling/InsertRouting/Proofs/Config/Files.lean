import InsertRouting.Proofs.Config.Holder

namespace InsertRouting

/-!
# Loading a configuration from a file

A file that holds a text is loaded as the text is read: with the same answer, the same error
included, and the holder becomes what a replacement by this configuration makes of it.  The
configuration is checked on both ways through, so its warnings are reported twice.

Without a text there is nothing to read, and the default configuration takes the place of
the current one.  That is meant for files that do not exist, but a file with undecodable bytes
is treated in the same way: it is the one kind of broken file that is not refused.
-/

namespace Config

/-- The file with this text. -/
def File.ofText (source : String) : File :=
  .bytes source.toUTF8

theorem File.text?_ofText (source : String) : (ofText source).text? = some source := by
  show (if h : source.toByteArray.IsValidUTF8 then some (String.fromUTF8 source.toByteArray h)
    else none) = some source
  rw [dif_pos source.isValidUTF8]
  rfl

section Texts

variable {wording : Toml.Wording} {source : String} {config : Config} {error : ConfigError}

/-- A text is malformed exactly if it is no document, and its reader says why. -/
theorem parse_eq_malformed_iff {line : Nat} {message : String} :
    parse wording source = .error (.malformed line message) ↔
      Toml.document source.toList = .error ⟨line⟩ ∧ message = wording source := by
  unfold parse
  cases Toml.document source.toList with
  | error failure =>
      obtain ⟨found⟩ := failure
      simp [eq_comm]
  | ok entries =>
      dsimp only
      split <;> simp

theorem ofText_of_unreadable (hparse : parse wording source = .error error) :
    ofText wording source = ⟨[], .error error⟩ := by
  simp [ofText, hparse, Logged.ofExcept, Logged.bind]

theorem ofText_of_read (hparse : parse wording source = .ok config) :
    ofText wording source = config.checked := by
  simp [ofText, hparse]

theorem load_of_unreadable (path : String) {file : File} (htext : file.text? = some source)
    (hparse : parse wording source = .error error) :
    load wording path file = ⟨[], .error error⟩ := by
  simp [load, htext, hparse, Logged.ofExcept, Logged.bind]

theorem load_of_read (path : String) {file : File} (htext : file.text? = some source)
    (hparse : parse wording source = .ok config) :
    load wording path file =
      ⟨⟨.info, "loaded \"" ++ path ++ "\""⟩ :: config.checked.events,
        config.checked.result⟩ := by
  simp [load, htext, hparse, Logged.emit_bind]

/-- The result of a file with a text is the result of the text. -/
theorem result_load (path : String) {file : File} (htext : file.text? = some source) :
    (load wording path file).result = (ofText wording source).result := by
  cases hparse : parse wording source with
  | error error => rw [load_of_unreadable path htext hparse, ofText_of_unreadable hparse]
  | ok config => rw [load_of_read path htext hparse, ofText_of_read hparse]

theorem load_of_no_text (path : String) {file : File} (htext : file.text? = none) :
    load wording path file =
      ⟨[⟨.warn, "\"" ++ path ++ "\" doesn't exist, loading defaults instead"⟩], .ok {}⟩ := by
  unfold load
  rw [htext]
  rfl

end Texts

end Config

namespace ConfigHolder

/-- The events of loading a text, when reading it without a check ends like this. -/
def loadEvents (path : String) : Except ConfigError Config → List Event
  | .error _ => []
  | .ok config =>
      ⟨.info, "loaded \"" ++ path ++ "\""⟩ :: (config.check.events ++
        match config.check.result with
        | .ok () => config.check.events ++ [⟨.info, sizes config⟩]
        | .error _ => [])

section Loading

variable {wording : Toml.Wording} {holder : ConfigHolder} {path source : String}
  {file : Config.File}

/-- Whatever was loaded is what a replacement makes of it. -/
theorem holder_load_of_ok {config : Config}
    (hloaded : (Config.load wording path file).result = .ok config) :
    (holder.load wording path file).holder = (holder.set config).holder := by
  have hadmitted : (admitted config).result = .ok config :=
    result_admitted_eq_ok_iff.2 ⟨rfl, Config.check_accepts_of_load hloaded⟩
  have hboth : ((Config.load wording path file).bind admitted).result = .ok config := by
    rw [Logged.result_bind_of_ok _ hloaded, hadmitted]
  show (holder.install ((Config.load wording path file).bind admitted)).holder =
    (holder.install (admitted config)).holder
  unfold install
  rw [hboth, hadmitted]

theorem holder_load_of_error {error : ConfigError}
    (hrefused : (Config.load wording path file).result = .error error) :
    (holder.load wording path file).holder = holder := by
  have hanswer : (holder.act wording (.load path file)).answer = .error error :=
    (answer_load wording holder path file).trans hrefused
  exact holder_act_of_error hanswer

theorem events_load (htext : file.text? = some source) :
    (holder.load wording path file).events = loadEvents path (Config.parse wording source) := by
  show ((Config.load wording path file).bind admitted).events = _
  cases hparse : Config.parse wording source with
  | error error => rw [Config.load_of_unreadable path htext hparse]; rfl
  | ok config =>
      rw [Config.load_of_read path htext hparse, loadEvents]
      -- The first check stops a configuration that the second one would refuse.
      cases hcheck : config.check.result with
      | error error =>
          rw [Config.checked_of_refused hcheck]
          simp [Logged.bind]
      | ok accepted =>
          rw [Config.checked_of_accepted hcheck]
          simp [Logged.bind, admitted_of_accepted hcheck]

theorem load_of_no_text (holder : ConfigHolder) (path : String) (htext : file.text? = none) :
    holder.load wording path file =
      ⟨{}, .ok {}, [⟨.warn, "\"" ++ path ++ "\" doesn't exist, loading defaults instead"⟩,
        ⟨.info, sizes {}⟩]⟩ := by
  show holder.install ((Config.load wording path file).bind admitted) = _
  rw [Config.load_of_no_text path htext]
  rfl

end Loading

/-- Loading a text from a file is reading the text and replacing the current configuration
by what was read.  A text that is no document is refused at its line in the words of its
reader. -/
theorem load_refines_ofText (wording : Toml.Wording) (holder : ConfigHolder)
    (path source : String) :
    (holder.load wording path (.ofText source)).answer =
      (Config.ofText wording source).result ∧
    (∀ line, Toml.document source.toList = .error ⟨line⟩ →
      (holder.load wording path (.ofText source)).answer =
        .error (.malformed line (wording source))) ∧
    (∀ config, (Config.ofText wording source).result = .ok config →
      (holder.load wording path (.ofText source)).holder = (holder.set config).holder) ∧
    (∀ error, (Config.ofText wording source).result = .error error →
      (holder.load wording path (.ofText source)).holder = holder) ∧
    (∀ file config, (Config.load wording path file).result = .ok config →
      (holder.set config).answer = .ok config) ∧
    (holder.load wording path (.ofText source)).events =
      loadEvents path (Config.parse wording source) ∧
    (∀ config : Config, ∀ event ∈ config.check.events, event.level = .warn) ∧
    holder.load wording path .absent =
      ⟨{}, .ok {}, [⟨.warn, "\"" ++ path ++ "\" doesn't exist, loading defaults instead"⟩,
        ⟨.info, sizes {}⟩]⟩ := by
  have htext := Config.File.text?_ofText source
  have hresult : (Config.load wording path (.ofText source)).result =
      (Config.ofText wording source).result := Config.result_load path htext
  refine ⟨?_, fun line hdocument => ?_, fun config hread => ?_, fun error hrefused => ?_,
    fun file config hloaded => ?_, events_load htext,
    fun config event => Config.level_of_mem_check, load_of_no_text holder path rfl⟩
  · rw [answer_load, hresult]
  · have hparse : Config.parse wording source = .error (.malformed line (wording source)) :=
      Config.parse_eq_malformed_iff.2 ⟨hdocument, rfl⟩
    rw [answer_load, hresult, Config.ofText_of_unreadable hparse]
  · exact holder_load_of_ok (hresult.trans hread)
  · exact holder_load_of_error (hresult.trans hrefused)
  · exact result_admitted_eq_ok_iff.2 ⟨rfl, Config.check_accepts_of_load hloaded⟩

/-- The warning about the table without columns is reported by both checks.  A document that
gives a key twice is refused where the key is given again, and nothing is replaced. -/
theorem load_refines_ofText_sample :
    let file := Config.File.ofText bareTableText
    let warning : Event := ⟨.warn, "table \"log\" is declared without columns"⟩
    let loaded := ({} : ConfigHolder).load sampleWording "shards.toml" file
    let refused := (⟨ordersById⟩ : ConfigHolder).load sampleWording "shards.toml"
      (.ofText repeatedKeyText)
    (Config.ofText sampleWording bareTableText).result = .ok bareTable ∧
      loaded.holder = (({} : ConfigHolder).set bareTable).holder ∧
      loaded.events =
        [⟨.info, "loaded \"shards.toml\""⟩, warning, warning,
          ⟨.info, "0 sharded tables, 0 encrypted tables, 1 tables in catalog"⟩] ∧
      refused.answer =
        .error (.malformed 2 "duplicate key \x60tables\x60 in document root") ∧
      refused.answer.mapError ConfigError.message =
        .error "config error on line 2: duplicate key \x60tables\x60 in document root" ∧
      refused.holder = ⟨ordersById⟩ ∧ refused.events = [] := by
  intro file warning loaded refused
  have hparse : Config.parse sampleWording bareTableText = .ok bareTable := by decide +kernel
  have hread : (Config.ofText sampleWording bareTableText).result = .ok bareTable := by
    rw [Config.ofText_of_read hparse]
    rfl
  have hparsed : Config.parse sampleWording repeatedKeyText =
      .error (.malformed 2 (sampleWording repeatedKeyText)) := by decide +kernel
  have hrepeated := (Config.parse_eq_malformed_iff.1 hparsed).1
  have hunread : (Config.ofText sampleWording repeatedKeyText).result =
      .error (.malformed 2 (sampleWording repeatedKeyText)) := by
    rw [Config.ofText_of_unreadable hparsed]
  obtain ⟨-, -, hholder, -, -, hevents, -⟩ :=
    load_refines_ofText sampleWording {} "shards.toml" bareTableText
  obtain ⟨-, hmalformed, -, hkept, -, hsilent, -⟩ :=
    load_refines_ofText sampleWording ⟨ordersById⟩ "shards.toml" repeatedKeyText
  have hanswer := hmalformed _ hrepeated
  refine ⟨hread, hholder bareTable hread, hevents.trans ?_, hanswer, ?_, hkept _ hunread,
    hsilent.trans ?_⟩
  · rw [hparse]
    decide +kernel
  · exact (congrArg (Except.mapError ConfigError.message) hanswer).trans (by decide +kernel)
  · rw [hparsed]
    rfl

/-- A broken file is refused, and leaves the holder as it is, if and only if it holds a text.
Any other broken file is taken for an absent one. -/
theorem broken_file_refused_iff_text (wording : Toml.Wording) (actions : List Action)
    (path : String) (content : ByteArray)
    (hbroken : ∀ source config, String.fromUTF8? content = some source →
      (Config.ofText wording source).result ≠ .ok config) :
    let holder := ({} : ConfigHolder).after (({} : ConfigHolder).history wording actions)
    let step := holder.load wording path (.bytes content)
    ((∃ error, step.answer = .error error) ∧ step.holder = holder ↔
      ∃ source, String.fromUTF8? content = some source) ∧
    (String.fromUTF8? content = none → step = holder.load wording path .absent) := by
  intro holder step
  cases htext : String.fromUTF8? content with
  | none =>
      have hbytes : (Config.File.bytes content).text? = none := htext
      have habsent : Config.File.absent.text? = none := rfl
      have hstep : step = holder.load wording path .absent :=
        (load_of_no_text holder path hbytes).trans (load_of_no_text holder path habsent).symm
      refine ⟨⟨fun ⟨⟨error, hrefused⟩, _⟩ => ?_, fun ⟨source, hsource⟩ => ?_⟩, fun _ => hstep⟩
      · rw [hstep, load_of_no_text holder path habsent] at hrefused
        cases hrefused
      · cases hsource
  | some source =>
      have hresult : (Config.load wording path (.bytes content)).result =
          (Config.ofText wording source).result := Config.result_load path htext
      have hrefused : ∃ error, (Config.ofText wording source).result = .error error := by
        cases hread : (Config.ofText wording source).result with
        | ok config => exact absurd hread (hbroken source config htext)
        | error error => exact ⟨error, rfl⟩
      obtain ⟨error, herror⟩ := hrefused
      refine ⟨⟨fun _ => ⟨source, rfl⟩, fun _ => ⟨⟨error, ?_⟩, ?_⟩⟩, fun hnone => ?_⟩
      · exact (answer_load wording holder path _).trans (hresult.trans herror)
      · exact holder_load_of_error (hresult.trans herror)
      · cases hnone

theorem after_set_ordersById (wording : Toml.Wording) (holder : ConfigHolder) :
    holder.after (holder.history wording [.set ordersById]) = ⟨ordersById⟩ := by
  have haccepted : ordersById.check.result = .ok () :=
    Config.result_check_eq_ok_iff.2 ⟨by decide, by decide⟩
  show (holder.install (admitted ordersById)).holder = _
  rw [admitted_of_accepted haccepted]
  rfl

/-- A document with a number where the column belongs. -/
def misplacedColumnText : String :=
  "[[sharded_tables]]\ncolumn = 7\n"

/-- A document with a number for a column is refused, and the current configuration stays. -/
theorem broken_file_refused_iff_text_sample :
    let holder :=
      ({} : ConfigHolder).after (({} : ConfigHolder).history sampleWording [.set ordersById])
    let step := holder.load sampleWording "shards.toml" (.ofText misplacedColumnText)
    (Config.ofText sampleWording misplacedColumnText).result =
        .error (.shape 2 (.invalidType "integer \x607\x60" "a string")) ∧
      (∃ error, step.answer = .error error) ∧ step.holder.current = ordersById := by
  intro holder step
  have htext : String.fromUTF8? misplacedColumnText.toUTF8 = some misplacedColumnText :=
    Config.File.text?_ofText _
  have hresult : (Config.ofText sampleWording misplacedColumnText).result =
      .error (.shape 2 (.invalidType "integer \x607\x60" "a string")) := by decide +kernel
  have hbroken : ∀ source config, String.fromUTF8? misplacedColumnText.toUTF8 = some source →
      (Config.ofText sampleWording source).result ≠ .ok config := by
    intro source config hsource hread
    rw [htext] at hsource
    cases hsource
    rw [hresult] at hread
    cases hread
  obtain ⟨hrefused, hkept⟩ := (broken_file_refused_iff_text sampleWording
    [.set ordersById] "shards.toml" misplacedColumnText.toUTF8 hbroken).1.2 ⟨_, htext⟩
  refine ⟨hresult, hrefused, ?_⟩
  rw [show step.holder = holder from hkept]
  exact congrArg current (after_set_ordersById sampleWording {})

/-- A file that exists and holds no text is loaded without an error, and the default
configuration takes the place of the current one. -/
theorem undecodable_file_replaces_current :
    let content : ByteArray := ⟨#[0xff]⟩
    let holder :=
      ({} : ConfigHolder).after (({} : ConfigHolder).history sampleWording [.set ordersById])
    let step := holder.load sampleWording "shards.toml" (.bytes content)
    (∀ source config, String.fromUTF8? content = some source →
        (Config.ofText sampleWording source).result ≠ .ok config) ∧
      holder.current = ordersById ∧ step.answer = .ok {} ∧ step.holder.current = {} := by
  intro content holder step
  have htext : String.fromUTF8? content = none := by decide
  have hbytes : (Config.File.bytes content).text? = none := htext
  have hstep : step = _ := load_of_no_text holder "shards.toml" hbytes
  have hcurrent := congrArg current (after_set_ordersById sampleWording {})
  refine ⟨fun source config hsource => ?_, hcurrent, ?_, ?_⟩
  · rw [htext] at hsource
    cases hsource
  · exact congrArg HolderStep.answer hstep
  · exact congrArg (·.holder.current) hstep

end ConfigHolder
end InsertRouting
