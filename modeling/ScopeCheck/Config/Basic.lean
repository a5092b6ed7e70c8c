import ScopeCheck.Config.Error
import ScopeCheck.Files.Path
import ScopeCheck.Run.Basic

/-!
# Configuration

The configuration starts from defaults, over which files are laid in order, and then single
settings.  `Config.ofLayers` checks the result.

* A group of settings is a table, or a list that holds its settings in a fixed order.
* Numbers and truth values are taken for texts, and texts and truth values for numbers, where they
  can be.
-/

namespace ScopeCheck

open ScopeCheck.Number
open ScopeCheck.Text

/-- The configuration of the program. -/
structure Config where
  /-- Where the grammars are that others mention; empty for a place beside the program. -/
  directory : String
  suffix : String
  dump : Report.DumpStyle
  /-- How many scopes a failure shows. -/
  sampleSize : Nat
  deriving DecidableEq, Inhabited, Repr

namespace Config

/-- A group of settings by name. -/
def group (members : List (String × Setting)) : Setting := .table none members

/-- The settings that hold when nothing else is said. -/
def defaults : Setting := group [
  ("grammars", group [
    ("directory", .text none ""),
    ("suffix", .text none ".tmLanguage.json")]),
  ("dump", group [
    ("scope_sample", .whole none 25),
    ("line_number_width", .whole none 4)]),
  ("report", group [("scope_sample", .whole none 25)])]

/-- The greatest number of a setting. -/
def greatest : Nat := 18446744073709551615

/-- The number nearest to a floating-point number, within what a setting can hold. -/
def roundedNatural : Double → Nat
  | .finite negative m e => min (roundHalfAway negative m e).toNat greatest
  | .infinite negative => if negative then 0 else greatest
  | .nan => 0

/-- The number that a text stands for. -/
def naturalOf? (text : String) : Option Nat :=
  let folded := Setting.foldedKey text
  if ["true", "on", "yes"].contains folded then some 1
  else if ["false", "off", "no"].contains folded then some 0
  else
    let digits := match text.toList with
      | '+' :: rest => rest
      | cs => cs
    (Numeral.ofDigits? 10 digits).filter (· ≤ greatest)

/-- A setting as a number. -/
def natural (key : String) (s : Setting) : Except ConfigError Nat :=
  match s with
  | .whole _ n => if 0 ≤ n then .ok n.toNat else .error (.wrongType s .natural key)
  | .float _ d => .ok (roundedNatural d)
  | .truth _ b => .ok (if b then 1 else 0)
  | .text _ t =>
    match naturalOf? t with
    | some n => .ok n
    | none => .error (.wrongType s .integer key)
  | _ => .error (.wrongType s .integer key)

/-- A setting as a text. -/
def text (key : String) (s : Setting) : Except ConfigError String :=
  match s with
  | .text _ t => .ok t
  | .whole _ n => .ok (Numeral.signed n)
  | .float _ d => .ok (positional "" d)
  | .truth _ b => .ok (if b then "true" else "false")
  | _ => .error (.wrongType s .text key)

/-- A group of settings that is being checked. -/
structure Group where
  /-- How the group is called in messages. -/
  title : String
  name : String
  fields : List String
  setting : Setting

namespace Group

/-- The setting of a field, with the key that leads to it. -/
def find? (g : Group) (field : String) : Option (String × Setting) :=
  match g.setting with
  | .table _ members =>
    (Dictionary.find? field members).map fun s => (g.name ++ "." ++ field, s)
  | .list _ items =>
    let place := g.fields.idxOf field
    (items[place]?).map fun s => (g.name ++ "[" ++ Numeral.decimal place ++ "]", s)
  | _ => none

/-- Takes a field, if it is there. -/
def field {α : Type} (g : Group) (name : String) (take : String → Setting → Except ConfigError α) :
    Except ConfigError (Option α) :=
  match g.find? name with
  | none => .ok none
  | some (key, s) => (take key s).map some

/-- Why a field is not there. -/
def lacking (g : Group) : ConfigError :=
  match g.setting with
  | .table .. => .missingField ((g.fields.find? fun f => (g.find? f).isNone).getD "")
  | .list _ items => .tooShort items.length g.title g.fields.length
  | s => .noGroup s g.title

/-- Requires that a field is there. -/
def require {α : Type} (g : Group) : Option α → Except ConfigError α
  | some x => .ok x
  | none => .error g.lacking

end Group

/-- A group of the settings. -/
def groupOf (root : Setting) (title name : String) (fields : List String) : Group :=
  ⟨title, name, fields, (root.get? name).getD (.nothing none)⟩

/-- Checks settings. -/
def ofSetting (root : Setting) : Except ConfigError Config := do
  let grammars := groupOf root "GrammarsConfig" "grammars" ["directory", "suffix"]
  let directory ← grammars.field "directory" text
  let suffix ← grammars.field "suffix" text
  let directory ← grammars.require directory
  let suffix ← grammars.require suffix
  let dump := groupOf root "DumpConfig" "dump" ["scope_sample", "line_number_width"]
  let size ← dump.field "scope_sample" natural
  let width ← dump.field "line_number_width" natural
  let size ← dump.require size
  let width ← dump.require width
  let report := groupOf root "ReportConfig" "report" ["scope_sample"]
  let sample ← report.field "scope_sample" natural
  let sample ← report.require sample
  return ⟨directory, suffix, ⟨size, width⟩, sample⟩

/-- The file that a path means; its ending may be left out. -/
def findFile (files : Files) (path : String) : Except ConfigError String :=
  if files.isFile path then .ok path
  else if files.isFile (path ++ ".toml") then .ok (path ++ ".toml")
  else .error (.missingFile path)

/-- A path as the origin of settings: without the parts that say nothing. -/
def originOf (path : String) : String :=
  "/".intercalate ((Path.names path).filter fun name => name ≠ "" && name ≠ ".")

/-- Lays the settings of a file over others. -/
def addFile (files : Files) (root : Setting) (path : String) : Except ConfigError Setting := do
  let path ← findFile files path
  let content ← (files.readText path).mapError .unreadableFile
  match Toml.Document.parse? content with
  | none => .error .badFile
  | some members =>
    return (Setting.ofMembers (some (originOf path)) members).foldl
      (fun root p => (KeyPath.ofKey p.1).set p.2 root) root

/-- Lays files over the defaults, and then single settings. -/
def ofLayers (files : Files) (paths : List String) (settings : List (KeyPath × Setting)) :
    Except ConfigError Config := do
  let root ← paths.foldlM (addFile files) defaults
  ofSetting (settings.foldl (fun root p => p.1.set p.2 root) root)

/-- Where the grammars are that others mention. -/
def grammarDirectory (c : Config) (programDirectory : String) : String :=
  if c.directory = "" then Path.join programDirectory "grammars" else c.directory

/-- How a run looks up grammars and lays out what it writes. -/
def runSettings (c : Config) (directory : Option String) : RunSettings :=
  ⟨directory, c.suffix, c.dump, c.sampleSize⟩

end Config

end ScopeCheck
