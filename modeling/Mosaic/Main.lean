import Mosaic.Demo

/-!
# The command line

Runs the demonstration with the settings of the file that an environment variable
names, and reports on it on standard error. Another variable chooses what is heard.
-/

set_option autoImplicit false

namespace Mosaic

/-- The variable that names the configuration file. -/
def settingsVariable : String := "VIDSPLIT_CONFIG"

/-- The variable that chooses what is heard. -/
def filterVariable : String := "RUST_LOG"

/-- Reads what is under the name of a file. -/
def FileContent.read (name : String) : IO FileContent := do
  try
    return .bytes (← IO.FS.readBinFile name)
  catch
    | .noFileOrDirectory _ _ _ => return .missing
    | .inappropriateType none _ _ => return .directory
    | e => return .unreadable (toString e)

/-- The configuration file that the environment names. -/
def SettingsFile.find : IO (Option SettingsFile) := do
  match ← IO.getEnv settingsVariable with
  | none => return none
  | some name => return some ⟨name, ← FileContent.read name⟩

/-- What the environment chooses to be heard. -/
def NoticeFilter.find : IO (NoticeFilter × List String) := do
  match ← IO.getEnv filterVariable with
  | none => return (.upTo .info, [])
  | some text => return NoticeFilter.ofText text

end Mosaic

open Mosaic

/-- Runs the demonstration and reports on it. -/
def main : IO UInt32 := do
  let listening ← NoticeFilter.find
  let (settings, trouble) := Settings.resolve (← SettingsFile.find)
  let report := Demo.run settings trouble
  let err ← IO.getStderr
  for line in report.text listening do
    err.putStrLn line
  return report.exitCode
