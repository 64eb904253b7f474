import Mosaic.Compositor.Operation

/-!
# Signs: what a compositor does, without what is said

A trace also tells what a compositor said and what happened inside its calls. Neither
changes what the compositor does next, so the laws of a run are read off its *signs*: the
calls it made with the locks held, the answers that decide how it goes on, and the reports
of windows, in order of time.

## Main definitions

* `Sign`, `World.signs` — what is left of a trace
* `Sign.call?`, `callsOf`, `answersOf` — its calls and its answers

## Main results

* `signs_record`, `signs_inside` — an entry adds its sign, what happens inside adds none
-/

set_option autoImplicit false

namespace Mosaic

/-- An entry of a trace that shows what a compositor does. -/
inductive Sign where
  | called (call : Call) (locked : List Nat)
  | answered (answer : Answer)
  | reported (index : Nat) (event : WindowEvent)
deriving DecidableEq

/-- The sign that an entry of a trace gives, if it gives one. -/
def Happening.sign? {ι : Type} : Happening ι → Option Sign
  | .called call locked => some (.called call locked)
  | .answered answer => some (.answered answer)
  | .reported index event => some (.reported index event)
  | .said _ | .inside _ => none

namespace Sign

/-- The call that a sign shows. -/
def call? : Sign → Option Call
  | called call _ => some call
  | answered _ | reported _ _ => none

/-- The answer that a sign shows. -/
def answer? : Sign → Option Answer
  | answered answer => some answer
  | called _ _ | reported _ _ => none

end Sign

/-- The calls among some signs. -/
def callsOf (signs : List Sign) : List Call := signs.filterMap Sign.call?

/-- The answers among some signs. -/
def answersOf (signs : List Sign) : List Answer := signs.filterMap Sign.answer?

section Lists

variable {call : Call} {locked : List Nat} {answer : Answer} {index : Nat} {event : WindowEvent}
variable {signs more : List Sign}

@[simp] theorem callsOf_nil : callsOf [] = [] := rfl

@[simp] theorem callsOf_called : callsOf (.called call locked :: signs) = call :: callsOf signs :=
  rfl

@[simp] theorem callsOf_answered : callsOf (.answered answer :: signs) = callsOf signs := rfl

@[simp] theorem callsOf_reported : callsOf (.reported index event :: signs) = callsOf signs := rfl

@[simp] theorem callsOf_append : callsOf (signs ++ more) = callsOf signs ++ callsOf more :=
  List.filterMap_append

@[simp] theorem answersOf_nil : answersOf [] = [] := rfl

@[simp] theorem answersOf_called : answersOf (.called call locked :: signs) = answersOf signs :=
  rfl

@[simp] theorem answersOf_answered :
    answersOf (.answered answer :: signs) = answer :: answersOf signs := rfl

@[simp] theorem answersOf_reported :
    answersOf (.reported index event :: signs) = answersOf signs := rfl

@[simp] theorem answersOf_append : answersOf (signs ++ more) = answersOf signs ++ answersOf more :=
  List.filterMap_append

@[simp] theorem callsOf_map_called (calls : List Call) :
    callsOf (calls.map (.called · locked)) = calls := by
  induction calls with
  | nil => rfl
  | cons call calls ih => rw [List.map_cons, callsOf_called, ih]

@[simp] theorem answersOf_map_called (calls : List Call) :
    answersOf (calls.map (.called · locked)) = [] := by
  induction calls with
  | nil => rfl
  | cons call calls ih => rw [List.map_cons, answersOf_called, ih]

end Lists

namespace World

variable {σ ι : Type}

/-- The signs in a trace, in order of time. -/
def signs (w : World σ (Happening ι)) : List Sign := w.history.filterMap Happening.sign?

@[simp] theorem signs_nil (env : σ) (ledger : Ledger) :
    (⟨env, ledger, []⟩ : World σ (Happening ι)).signs = [] := rfl

/-- An entry adds its sign, if it gives one. -/
theorem signs_record (w : World σ (Happening ι)) (item : Happening ι) :
    (w.record item).signs = w.signs ++ item.sign?.toList := by
  cases h : item.sign? <;> simp [signs, history, record, h]

/-- What happens inside a call gives no sign. -/
theorem signs_inside (w : World σ (Happening ι)) (env : σ) (ledger : Ledger) (inner : List ι) :
    (⟨env, ledger, inner.map .inside ++ w.trace⟩ : World σ (Happening ι)).signs = w.signs := by
  have silent : (inner.map Happening.inside).reverse.filterMap Happening.sign? = [] := by
    rw [List.filterMap_eq_nil_iff]
    intro item member
    obtain ⟨_, _, rfl⟩ := List.mem_map.mp (List.mem_reverse.mp member)
    rfl
  rw [signs, history, List.reverse_append, List.filterMap_append, silent, List.append_nil]
  rfl

end World

end Mosaic
