import Mathlib.Data.List.Basic

/-!
# Programs as the calls they make

The modelled Go functions mostly call methods of interfaces they were
constructed with.  A function body becomes a call tree over an operation
type `Op`, where `Answer op` is the type of what the collaborator returns to
`op`.  Running the tree against collaborators with shared state `σ` yields
the result, the operations called in order, and the final state; quantifying
over collaborators covers every behaviour of the objects behind the
interfaces.
-/

namespace Notifications.Interaction

/-- A call tree: finished with a value, or waiting for the answer to one call. -/
inductive Program (Op : Type) (Answer : Op → Type) (α : Type) where
  | pure (value : α)
  | call (op : Op) (next : Answer op → Program Op Answer α)

namespace Program

variable {Op : Type} {Answer : Op → Type} {α β : Type}

def bind : Program Op Answer α → (α → Program Op Answer β) → Program Op Answer β
  | .pure value, rest => rest value
  | .call op next, rest => .call op (fun answer => (next answer).bind rest)

instance : Monad (Program Op Answer) where
  pure := .pure
  bind := bind

/-- Call one operation and return its answer. -/
def perform (op : Op) : Program Op Answer (Answer op) := .call op .pure

@[simp] theorem pure_eq (value : α) :
    (Pure.pure value : Program Op Answer α) = .pure value := rfl

@[simp] theorem bind_eq (program : Program Op Answer α) (rest : α → Program Op Answer β) :
    program >>= rest = program.bind rest := rfl

@[simp] theorem pure_bind (value : α) (rest : α → Program Op Answer β) :
    (Program.pure value).bind rest = rest value := rfl

@[simp] theorem call_bind (op : Op) (next : Answer op → Program Op Answer α)
    (rest : α → Program Op Answer β) :
    (Program.call op next).bind rest = .call op (fun answer => (next answer).bind rest) := rfl

@[simp] theorem perform_bind (op : Op) (rest : Answer op → Program Op Answer β) :
    (perform op).bind rest = .call op rest := rfl

end Program

/-- Collaborators sharing a state `σ`: each operation answers and may change the state. -/
structure Collaborators (Op : Type) (Answer : Op → Type) (σ : Type) where
  respond : (op : Op) → σ → Answer op × σ

/-- What a run leaves behind: the result, the calls made in order, the final state. -/
structure Outcome (Op σ α : Type) where
  value : α
  calls : List Op
  state : σ

namespace Program

variable {Op : Type} {Answer : Op → Type} {σ α β : Type}

def run (collaborators : Collaborators Op Answer σ) :
    Program Op Answer α → σ → Outcome Op σ α
  | .pure value, state => ⟨value, [], state⟩
  | .call op next, state =>
      let reply := collaborators.respond op state
      let rest := (next reply.1).run collaborators reply.2
      ⟨rest.value, op :: rest.calls, rest.state⟩

@[simp] theorem run_pure (collaborators : Collaborators Op Answer σ) (value : α) (state : σ) :
    (Program.pure value).run collaborators state = ⟨value, [], state⟩ := rfl

@[simp] theorem run_call (collaborators : Collaborators Op Answer σ) (op : Op)
    (next : Answer op → Program Op Answer α) (state : σ) :
    (Program.call op next).run collaborators state =
      let rest := (next (collaborators.respond op state).1).run collaborators
        (collaborators.respond op state).2
      ⟨rest.value, op :: rest.calls, rest.state⟩ := rfl

/-- A call whose answer is known; the answer then reaches the continuation, also
where it becomes part of a later call. -/
theorem run_call_of_respond (collaborators : Collaborators Op Answer σ) {op : Op}
    (next : Answer op → Program Op Answer α) {state after : σ} {answer : Answer op}
    (respond : collaborators.respond op state = (answer, after)) :
    (Program.call op next).run collaborators state =
      let rest := (next answer).run collaborators after
      ⟨rest.value, op :: rest.calls, rest.state⟩ := by
  rw [run_call, respond]

/-- `Q` holds of the result and the calls of every path, whatever the answers. -/
def Always (Q : α → List Op → Prop) : Program Op Answer α → Prop
  | .pure value => Q value []
  | .call op next => ∀ answer, (next answer).Always fun value calls => Q value (op :: calls)

@[simp] theorem always_pure (Q : α → List Op → Prop) (value : α) :
    (Program.pure value : Program Op Answer α).Always Q ↔ Q value [] := Iff.rfl

@[simp] theorem always_call (Q : α → List Op → Prop) (op : Op)
    (next : Answer op → Program Op Answer α) :
    (Program.call op next).Always Q ↔
      ∀ answer, (next answer).Always fun value calls => Q value (op :: calls) := Iff.rfl

/-- What holds on every path holds of every run, against any collaborators. -/
theorem Always.run {Q : α → List Op → Prop} {program : Program Op Answer α}
    (always : program.Always Q) (collaborators : Collaborators Op Answer σ) (state : σ) :
    Q (program.run collaborators state).value (program.run collaborators state).calls := by
  induction program generalizing Q state with
  | pure value => exact always
  | call op next ih => exact ih _ (always _) _

end Program

end Notifications.Interaction
