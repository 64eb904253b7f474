import Mosaic.Partition.Output
import Mosaic.Settings

/-!
# Clones

Clones show the whole source several times over: so many copies on the default
backend, or one copy on each of the backends of a list.
-/

set_option autoImplicit false

namespace Mosaic

open Json

/-- What clones can be asked for. -/
structure CloneOptions where
  /-- The number of copies, if no backends are listed. -/
  count : Nat
  /-- The backend of each copy. -/
  modules : List String
deriving DecidableEq, Repr

/-- Why a source is not cloned. -/
inductive CloneError where
  | tooMany (count : Nat)
deriving DecidableEq, Repr

namespace CloneOptions

/-- Two copies on the default backend. -/
def standard : CloneOptions := ⟨2, []⟩

/-- The number of copies. -/
def copies (o : CloneOptions) : Nat := if o.modules.isEmpty then o.count else o.modules.length

/-- The backend of each copy. -/
def backends (o : CloneOptions) : List String :=
  if o.modules.isEmpty then List.replicate o.count "" else o.modules

/-- The options of clones in documents. -/
def record : Record CloneOptions where
  title := "CloneOptions"
  initial := standard
  complete := false
  fields := [
    .of "count" Json.count count (fun n o => { o with count := n }) .nat,
    .of "modules" (sequence text) modules (fun m o => { o with modules := m }) (.list .string)]

theorem length_backends (o : CloneOptions) : o.backends.length = o.copies := by
  unfold backends copies
  split <;> simp

end CloneOptions

namespace Clone

/-- The largest number of copies. -/
def maxCopies : Nat := 99

/-- The cells of the copies, or why there are none. -/
def create (source : VideoFormat) (o : CloneOptions) : Except CloneError (List Cell) :=
  if maxCopies < o.copies then .error (.tooMany o.copies)
  else .ok (o.backends.map fun module => ⟨.shown module source, .zero⟩)

end Clone

/-- The chain of causes for a source that is not cloned. -/
def CloneError.cause : CloneError → Cause
  | tooMany count => .ofMessage s!"clone count {count} exceeds {Clone.maxCopies}"

end Mosaic
