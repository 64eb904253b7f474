/-!
# Chains of causes

A failure is told by a chain of messages, the outermost context first and the
innermost cause last. A chain is never empty.
-/

set_option autoImplicit false

namespace Mosaic

/-- A chain of messages, outermost first. -/
structure Cause where
  message : String
  inner : List String
deriving DecidableEq, Repr

namespace Cause

/-- A cause without any context. -/
def ofMessage (message : String) : Cause := ⟨message, []⟩

/-- The messages, outermost first. -/
def toList (c : Cause) : List String := c.message :: c.inner

/-- The same failure seen from further out. -/
def within (c : Cause) (context : String) : Cause := ⟨context, c.toList⟩

/-- The whole chain on one line. -/
def chain (c : Cause) : String := ": ".intercalate c.toList

/-- A cause given by its innermost message and the contexts around it, innermost first. -/
def ofInner (root : String) (contexts : List String) : Cause :=
  contexts.foldl within (ofMessage root)

@[simp] theorem toList_within (c : Cause) (context : String) :
    (c.within context).toList = context :: c.toList := rfl

end Cause

end Mosaic
