import InsertRouting.Config.Check
import InsertRouting.Config.Reader
import InsertRouting.Toml.Document

namespace InsertRouting
namespace Config

/-!
# Configurations from text and from files

A text is read as a document, the document as a configuration, and the
configuration is checked.  A file that does not hold a text counts as absent, and
an absent file as the default configuration.
-/

section Texts

variable (wording : Toml.Wording)

/-- Read a configuration from a text, without checking it. -/
def parse (source : String) : Except ConfigError Config :=
  match Toml.document source.toList with
  | .error error => .error (.malformed error.line (wording source))
  | .ok entries =>
      match ofEntries entries with
      | .error misfit => .error (.shape misfit.line misfit.error)
      | .ok config => .ok config

/-- Check a configuration and pass it on. -/
def checked (config : Config) : Logged ConfigError Config := do
  config.check
  pure config

/-- Read a configuration from a text and check it. -/
def ofText (source : String) : Logged ConfigError Config := do
  let config ← Logged.ofExcept (parse wording source)
  config.checked

/-- What is found at the path of a configuration file. -/
inductive File
  /-- Nothing. -/
  | absent
  /-- A file with these bytes. -/
  | bytes (content : ByteArray)

/-- The text in a file, if there is one. -/
def File.text? : File → Option String
  | absent => none
  | bytes content => String.fromUTF8? content

/-- Read a configuration from the file at a path, and check it. -/
def load (path : String) (file : File) : Logged ConfigError Config :=
  match file.text? with
  | some source => do
      let config ← Logged.ofExcept (parse wording source)
      Logged.emit .info ("loaded \"" ++ path ++ "\"")
      config.checked
  | none => do
      Logged.emit .warn ("\"" ++ path ++ "\" doesn't exist, loading defaults instead")
      Config.checked {}

end Texts

end Config
end InsertRouting
