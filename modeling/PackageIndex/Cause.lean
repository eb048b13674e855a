/-!
Causes whose own wording is not the program's: a message names them by a fixed mark.
-/
namespace PackageIndex

inductive Cause where
  | storage
  | body
  | connection
  | address
  | json
  | utf8
  | settings
  | file
  | opening
  deriving DecidableEq

def Cause.mark : Cause → String
  | .storage => "<sqlite>"
  | .body => "<decode>"
  | .connection => "<send>"
  | .address => "<url>"
  | .json => "<json>"
  | .utf8 => "<utf8>"
  | .settings => "<toml>"
  | .file => "<io>"
  | .opening => "<path and cause>"

/-- A message followed by what caused it. -/
def becauseOf (message cause : String) : String := message ++ ": " ++ cause

end PackageIndex
