import Mosaic.Settings

/-!
# Settings from a file

What is found under the name of a configuration file, and the settings it gives.
A file that cannot be read or understood is told apart from a missing name: with
no name at all the standard settings hold.
-/

set_option autoImplicit false

namespace Mosaic

open Json

/-- What is found under the name of a file. -/
inductive FileContent where
  | missing
  | directory
  /-- Something that cannot be read for another reason. -/
  | unreadable (reason : String)
  | bytes (content : ByteArray)

/-- Why a file gives no settings. -/
inductive LoadFault where
  | unreadable (reason : String)
  | refused (refusal : Refusal)

namespace LoadFault

/-- The chain of causes for a file that gives no settings. -/
def cause (name : String) : LoadFault → Cause
  | unreadable reason => (Cause.ofMessage reason).within s!"Failed to read config file {name}"
  | refused refusal => (Cause.ofMessage refusal.message).within s!"Invalid config file {name}"

end LoadFault

/-- The text of a file. -/
def FileContent.text : FileContent → Except LoadFault String
  | missing => .error (.unreadable "No such file or directory (os error 2)")
  | directory => .error (.unreadable "Is a directory (os error 21)")
  | unreadable reason => .error (.unreadable reason)
  | bytes content =>
    match String.fromUTF8? content with
    | some s => .ok s
    | none => .error (.unreadable "stream did not contain valid UTF-8")

/-- The settings that a file gives. -/
def Settings.ofFile (file : FileContent) : Except LoadFault Settings := do
  let source ← file.text
  (Settings.ofText source).mapError .refused

/-- A configuration file by its name. -/
structure SettingsFile where
  name : String
  content : FileContent

/-- The settings in force, and what is wrong with the file if it gave none. -/
def Settings.resolve : Option SettingsFile → Settings × Option Cause
  | none => (.standard, none)
  | some file =>
    match Settings.ofFile file.content with
    | .ok settings => (settings, none)
    | .error fault => (.standard, some (fault.cause file.name))

end Mosaic
