/- # LiveScope.Registry — one installed document at a time

A registry keeps at most one document installed, under a path of its own, on the
host it is attached to. The handle of the installed document is disposed before
the next document is added, before the registry moves to another host or leaves
its host, and when it is dropped. Without a host an install only forgets; if the
host rejects the document, nothing is installed.
-/
import LiveScope.Host.Basic
import LiveScope.Log
import LiveScope.Text.Revealed

namespace LiveScope

set_option autoImplicit false

structure Registry where
  path : String
  host : Option String := none
  installed : Option Handle := none
  deriving DecidableEq, Repr, Inhabited

namespace Registry

/-- What an operation leaves: the registry, the hosts, and what it reports. -/
structure Outcome where
  registry : Registry
  hosts : Hosts
  events : List Log.Event

def hasHost (registry : Registry) : Bool := registry.host.isSome

/-- Give up the installed document. -/
def dispose (registry : Registry) (hosts : Hosts) : Outcome :=
  match registry.installed, registry.host with
  | some handle, some name =>
      ⟨{ registry with installed := none },
        hosts.set name ((hosts.host name).dispose handle),
        [.disposed handle.path handle.id]⟩
  | _, _ => ⟨{ registry with installed := none }, hosts, []⟩

/-- Move to a host. -/
def attach (registry : Registry) (name : String) (hosts : Hosts) : Outcome :=
  let left := registry.dispose hosts
  { left with registry := { left.registry with host := some name } }

/-- Leave the host. -/
def detach (registry : Registry) (hosts : Hosts) : Outcome :=
  let left := registry.dispose hosts
  { left with registry := { left.registry with host := none } }

/-- Put a document in place of the installed one. -/
def install (registry : Registry) (document : Document) (hosts : Hosts) : Outcome :=
  let left := registry.dispose hosts
  match left.registry.host with
  | none => { left with events := left.events ++ [.hostMissing registry.path] }
  | some name =>
      match (left.hosts.host name).add document registry.path with
      | .ok (handle, host) =>
          ⟨{ left.registry with installed := some handle }, left.hosts.set name host,
            left.events ++ [.installed registry.path handle.id document.text.utf8ByteSize]⟩
      | .error rejection =>
          { left with events := left.events ++ [.rejected registry.path rejection.message] }

/-- How a registry is shown. -/
def describe (registry : Registry) : String :=
  let state :=
    match registry.installed with
    | none => "Uninstalled"
    | some handle =>
        "Installed(ExtraLibHandle \x7b id: " ++ toString handle.id ++ ", path: "
          ++ Text.revealed handle.path ++ " \x7d)"
  "DeclarationRegistry \x7b lib_path: " ++ Text.revealed registry.path ++ ", has_host: "
    ++ (if registry.hasHost then "true" else "false") ++ ", state: " ++ state ++ " \x7d"

end Registry

end LiveScope
