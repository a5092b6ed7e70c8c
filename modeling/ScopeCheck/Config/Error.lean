import ScopeCheck.Config.Setting
import ScopeCheck.Files.Basic
import ScopeCheck.Number.Shortest
import ScopeCheck.Text.Quoted

/-!
# Why a configuration is refused

The causes, and their wording.  Files that cannot be read as tables, and paths that are none, are
refused without a reason.
-/

namespace ScopeCheck

open ScopeCheck.Number
open ScopeCheck.Text

/-- What is wanted from a setting. -/
inductive Wanted
  | text
  | integer
  | natural
  deriving DecidableEq, Inhabited, Repr

/-- Why a configuration is refused. -/
inductive ConfigError
  | missingFile (path : String)
  | unreadableFile (cause : ReadError)
  | badFile
  | badPath
  /-- A setting that is of the wrong kind. -/
  | wrongType (setting : Setting) (wanted : Wanted) (key : String)
  /-- Something else where a group of settings is wanted. -/
  | noGroup (setting : Setting) (group : String)
  /-- A list that is too short for a group of settings. -/
  | tooShort (length : Nat) (group : String) (size : Nat)
  | missingField (name : String)
  deriving Inhabited

/-- What is wanted, in words. -/
def Wanted.message : Wanted → String
  | text => "a string"
  | integer => "an integer"
  | natural => "an unsigned 64 bit or less integer"

/-- The text of a floating-point number, with all its digits before the point. -/
def positional (wholeTail : String) : Double → String
  | .finite negative m e =>
    let style : DecimalStyle := ⟨-400, 400, wholeTail, ""⟩
    (if negative then "-" else "") ++ style.render (shortest m e)
  | .infinite negative => if negative then "-inf" else "inf"
  | .nan => "NaN"

/-- What a setting is, in words; a whole number is called by `noun`. -/
def Setting.describe (noun : String) : Setting → String
  | nothing _ => "unit value"
  | text _ s => "string " ++ quotedForReaders s
  | whole _ n => noun ++ " \x60" ++ Numeral.signed n ++ "\x60"
  | float _ d => "floating point \x60" ++ positional ".0" d ++ "\x60"
  | truth _ b => if b then "boolean \x60true\x60" else "boolean \x60false\x60"
  | list .. => "sequence"
  | table .. => "map"

/-- A number of elements in words. -/
def elementCount (n : Nat) : String :=
  Numeral.decimal n ++ if n = 1 then " element" else " elements"

/-- The wording of a cause. -/
def ConfigError.message : ConfigError → String
  | missingFile path => "configuration file \"" ++ path ++ "\" not found"
  | unreadableFile cause => cause.message
  | badFile => "<toml error>"
  | badPath => "<path error>"
  | wrongType setting wanted key =>
    "invalid type: " ++ setting.describe "64-bit integer" ++ ", expected " ++ wanted.message ++
      " for key \x60" ++ key ++ "\x60" ++
      ((setting.origin.map fun o => " in " ++ o).getD "")
  | noGroup setting group =>
    "invalid type: " ++ setting.describe "integer" ++ ", expected struct " ++ group
  | tooShort length group size =>
    "invalid length " ++ Numeral.decimal length ++ ", expected struct " ++ group ++ " with " ++
      elementCount size
  | missingField name => "missing field \x60" ++ name ++ "\x60"

end ScopeCheck
