/- # LiveScope.Proofs.Observation — what is seen of a run

An observation looks at one operation and the workspace it is performed on. Of a
run it gives a list, in the order of the operations (`observations`), or what was
observed last (`latest`), which is known from the run without its last operation
and what that one adds (`latest_concat`). What surfaces, callbacks and the log
receive in its course is `effects`.
-/
import LiveScope.Workspace.Operation

namespace LiveScope.Workspace

set_option autoImplicit false

/-- What was observed last of the operations of a run. -/
def latest {α : Type} (observe : Workspace → Operation → Option α) :
    Workspace → List Operation → Option α
  | _, [] => none
  | workspace, operation :: rest =>
      (latest observe (workspace.perform operation).workspace rest).or (observe workspace operation)

theorem run_concat (workspace : Workspace) (operations : List Operation) (operation : Operation) :
    workspace.run (operations ++ [operation]) =
      ((workspace.run operations).perform operation).workspace := by
  simp only [run, List.foldl_append, List.foldl_cons, List.foldl_nil]

theorem run_append (workspace : Workspace) (first second : List Operation) :
    workspace.run (first ++ second) = (workspace.run first).run second := by
  rw [run, List.foldl_append, run, run]

theorem latest_concat {α : Type} (observe : Workspace → Operation → Option α)
    (workspace : Workspace) (operations : List Operation) (operation : Operation) :
    latest observe workspace (operations ++ [operation]) =
      (observe (workspace.run operations) operation).or (latest observe workspace operations) := by
  induction operations generalizing workspace with
  | nil => simp only [List.nil_append, latest, Option.none_or, Option.or_none, run, List.foldl_nil]
  | cons first rest ih =>
      simp only [List.cons_append, latest, ih, run, List.foldl_cons, Option.or_assoc]

/-- All that was observed of the operations of a run, in order. -/
def observations {α : Type} (observe : Workspace → Operation → Option α) :
    Workspace → List Operation → List α
  | _, [] => []
  | workspace, operation :: rest =>
      (observe workspace operation).toList ++
        observations observe (workspace.perform operation).workspace rest

/-- What others see of a run, in order. -/
def effects : Workspace → List Operation → List Effect
  | _, [] => []
  | workspace, operation :: rest =>
      (workspace.perform operation).effects ++ effects (workspace.perform operation).workspace rest

end LiveScope.Workspace
