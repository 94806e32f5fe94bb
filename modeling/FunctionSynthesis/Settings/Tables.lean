import FunctionSynthesis.Problem
import FunctionSynthesis.Settings
import FunctionSynthesis.Value.Text

/-!
# Settings in tables

In a settings file the settings stand in named tables. `Settings.ofTables` reads
them from the entries of such a file and refuses what it does not know, and
`Settings.fileText` writes them as a file.
-/

namespace FunctionSynthesis.Settings

/-- The place of a setting in a file: its table, its name there, and its own
name. -/
structure Place where
  table : String
  key : String
  setting : String

/-- The places of the settings other than the limits, in the order in which they
are written. -/
def places : List Place :=
  [⟨"search", "max_size", "max_size"⟩,
    ⟨"search", "timeout_seconds", "timeout_seconds"⟩,
    ⟨"pools", "max_pool_size", "max_pool_size"⟩,
    ⟨"pools", "max_literal_length", "max_literal_length"⟩,
    ⟨"executor", "kind", "executor"⟩,
    ⟨"executor", "python", "python"⟩,
    ⟨"executor", "example_timeout_seconds", "example_timeout_seconds"⟩,
    ⟨"logging", "level", "log_level"⟩,
    ⟨"logging", "format", "log_format"⟩]

def limitsTable : String := "limits"

/-- The tables in the order in which they are written. -/
def tables : List String :=
  (places.map (·.table)).eraseDups ++ [limitsTable]

/-- The setting at a place. -/
def fieldAt? (table : String) (key : Value) : Option Field := do
  let place ← places.find? fun p => p.table == table && key == .str p.key
  field? place.setting

/-! ### Reading -/

private def refuse {α : Type} (file : Option String) (message : String) :
    Attempt α :=
  Attempt.problem (.configuration message file [])

/-- Texts in ascending order; anything else cannot be listed. -/
def listed (names : List Value) : Except Fault String :=
  if names.all fun name => name.text?.isSome then
    let texts := names.filterMap Value.text?
    return Value.commaSeparated (texts.mergeSort fun a b => !decide (b < a))
  else throw (Fault.describe .type "names of limits have to be texts")

def setLimit (limits : Limits) (name value : Value) : Limits :=
  ((name.text?.bind fun s => limits.set? s value)).getD limits

/-- The limits with those of a table in their places. -/
def withLimits (file : Option String) (limits : Limits) (entries : Entries) :
    Attempt Limits := do
  let known := limits.fields.map fun (name, _) => Value.str name
  let unknown := (entries.map (·.1)).filter fun name => !known.contains name
  if unknown.isEmpty then
    return entries.foldl (fun limits e => setLimit limits e.1 e.2) limits
  else refuse file s!"Unknown limits: {← listed unknown}"

/-- The settings with that at a place replaced. -/
def withEntry (file : Option String) (table : String) (settings : Settings)
    (entry : Value × Value) : Attempt Settings :=
  match fieldAt? table entry.1 with
  | some field => return field.set settings entry.2
  | none => refuse file s!"Unknown setting {table}.{entry.1.plainText}"

/-- The settings with those of a table in their places. -/
def withTable (file : Option String) (settings : Settings)
    (entry : Value × Value) : Attempt Settings := do
  match tables.find? fun table => entry.1 == .str table with
  | none => refuse file s!"Unknown config section [{entry.1.plainText}]"
  | some table =>
      match entry.2 with
      | .dict entries =>
          if table = limitsTable then
            return { settings with
              limits := ← withLimits file settings.limits entries }
          else entries.foldlM (withEntry file table) settings
      | _ => refuse file s!"[{table}] must be a table"

/-- The settings that the tables of a file give; what they do not give has its
default. -/
def ofTables (interpreter : String) (file : Option String) (data : Value) :
    Attempt Settings :=
  match data with
  | .dict entries => entries.foldlM (withTable file) (standard interpreter)
  | data => Attempt.fault <| Fault.describe .attribute
      s!"'{data.className}' object has no attribute 'items'"

/-! ### Writing -/

/-- A text between double quotes, with backslashes before those and before
backslashes. -/
def quotedText (text : String) : String :=
  let escape (c : Char) : List Char :=
    if c = '\\' || c = '"' then ['\\', c] else [c]
  String.ofList ('"' :: text.toList.flatMap escape ++ ['"'])

/-- A setting as it is written in a file. -/
def settingText : Value → String
  | .bool b => if b then "true" else "false"
  | .str s => quotedText s
  | v => v.plainText

private def line (name : String) (value : Value) : String :=
  s!"{name} = {settingText value}"

def tableLines (settings : Settings) (table : String) : List String :=
  if table = limitsTable then
    settings.limits.fields.map fun (name, value) => line name value
  else
    places.filterMap fun place =>
      if place.table = table then
        (field? place.setting).map fun field => line place.key (field.get settings)
      else none

def toToml (settings : Settings) : String :=
  "\n".intercalate <| tables.flatMap fun table =>
    s!"[{table}]" :: settings.tableLines table ++ [""]

/-- Whether all settings can be written. -/
def isWritable (settings : Settings) : Bool :=
  (fields.all fun field => (field.get settings).isWritable) &&
    settings.limits.fields.all fun limit => limit.2.isWritable

/-- The text of a file with the settings, if they can be written. -/
def fileText (settings : Settings) : Except Fault String :=
  if settings.isWritable then return settings.toToml
  else throw (Fault.tooManyDigits none)

end FunctionSynthesis.Settings
