/- # LiveScope.Workspace.Basic — hosts, registries and editors side by side

A workspace keeps hosts, registries, editors, scopes and handles by name. Paths
that it allocates are numbered, so that no two of them are equal, and every scope
that is bound gets an identity of its own, also one that is equal to another.

A host comes into being when an operation names it.
-/
import LiveScope.Editor.Basic

namespace LiveScope

set_option autoImplicit false

structure Workspace where
  hosts : Hosts := .empty
  registries : Shelf Registry := .empty
  editors : Shelf Editor := .empty
  scopes : Shelf SharedScope := .empty
  handles : Shelf Handle := .empty
  nextPath : Nat
  nextScope : Nat := 0
  surfaces : Nat := 0
  deriving Inhabited

namespace Workspace

/-- The path with a number. -/
def numberedPath (n : Nat) : String :=
  "file:///node_modules/@scopetype/scope-" ++ toString n ++ ".d.ts"

/-- An empty workspace whose first allocated path has the given number. -/
def start (firstPath : Nat) : Workspace := { nextPath := firstPath }

/-- Allocate a path. -/
def allocatePath (workspace : Workspace) : String × Workspace :=
  (numberedPath workspace.nextPath, { workspace with nextPath := workspace.nextPath + 1 })

/-- The given path, or else a new one. -/
def choosePath (workspace : Workspace) : Option String → String × Workspace
  | some path => (path, workspace)
  | none => workspace.allocatePath

/-- Bind a scope to a name, under a new identity. -/
def bindScope (workspace : Workspace) (name : String) (scope : Scope) : Workspace :=
  { workspace with
    scopes := workspace.scopes.insert name ⟨workspace.nextScope, scope⟩
    nextScope := workspace.nextScope + 1 }

end Workspace

end LiveScope
