/- # LiveScope.Proofs.Registration.Interleaving — registries take their turns in any order

Registries that are there, with paths of their own, carry out their operations on
shared hosts, each in its order and all in any order (`Interleaves`). What was done
before is arbitrary, and so is what the hosts keep and whether they accept.

The workspaces after two interleavings are reflected by one ledger, since a posted ledger
does not depend on the order. Two workspaces that one ledger reflects have the same
documents (`document?_eq`) and the same registries (`registry_eq`); what is seen of a host
is known from its documents (`Host.seen_eq`). Only the ids of handles are in no ledger.
-/
import LiveScope.Proofs.Registration.Reflection
import Mathlib.Data.List.Pairwise

namespace LiveScope

set_option autoImplicit false

/-! ### What is seen of a host -/

/-- A shelf is what is found on it. -/
theorem Shelf.entries_map_eq {α β : Type} {view : α → β} {first second : Shelf α}
    (same : ∀ name, (first.get? name).map view = (second.get? name).map view) :
    first.entries.map (fun entry => (entry.1, view entry.2)) =
      second.entries.map (fun entry => (entry.1, view entry.2)) := by
  have sorted (shelf : Shelf α) : (shelf.entries.map fun entry => (entry.1, view entry.2)).Pairwise
      (fun a b => a.1 < b.1) := List.pairwise_map.2 shelf.sorted
  have nodup (shelf : Shelf α) :
      (shelf.entries.map fun entry => (entry.1, view entry.2)).Nodup := by
    refine (sorted shelf).imp ?_
    intro a b before same
    exact String.lt_irrefl a.1 (same ▸ before)
  have mem (shelf : Shelf α) (name : String) (seen : β) :
      (name, seen) ∈ shelf.entries.map (fun entry => (entry.1, view entry.2)) ↔
        (shelf.get? name).map view = some seen := by
    simp only [List.mem_map, Option.map_eq_some_iff, Shelf.get?_eq_some_iff, Prod.exists,
      Prod.mk.injEq]
    constructor
    · rintro ⟨_, kept, member, rfl, rfl⟩
      exact ⟨kept, member, rfl⟩
    · rintro ⟨kept, member, rfl⟩
      exact ⟨name, kept, member, rfl, rfl⟩
  refine List.Perm.eq_of_pairwise ?_ (sorted first) (sorted second)
    ((List.perm_ext_iff_of_nodup (nodup first) (nodup second)).2 fun ⟨name, seen⟩ => ?_)
  · exact fun a b _ _ before after => absurd (String.lt_trans before after) (String.lt_irrefl _)
  · rw [mem first, mem second, same]

/-- What is seen of all documents is known from each of them. -/
theorem Host.seen_eq {first second : Host} (same : ∀ path,
    (first.libs.get? path).map (·.document) = (second.libs.get? path).map (·.document)) :
    first.paths = second.paths ∧ first.visibleBindings = second.visibleBindings ∧
      first.liveCount = second.liveCount := by
  have entries := Shelf.entries_map_eq same
  refine ⟨?_, ?_, ?_⟩
  · have paths := congrArg (List.map Prod.fst) entries
    rwa [List.map_map, List.map_map] at paths
  · have bindings := congrArg (List.flatMap fun entry => entry.2.bindings) entries
    rw [List.flatMap_map, List.flatMap_map] at bindings
    rwa [Host.visibleBindings, Host.visibleBindings, Shelf.values, Shelf.values, List.flatMap_map,
      List.flatMap_map]
  · have live := congrArg List.length entries
    rwa [List.length_map, List.length_map] at live

namespace Workspace

/-! ### What a ledger tells -/

namespace Ledger.Reflects

variable {ledger : Ledger} {workspace other base : Workspace}
  (reflects : ledger.Reflects base workspace) (rival : ledger.Reflects base other)

include reflects rival

theorem document?_eq (name path : String) :
    workspace.hosts.document? name path = other.hosts.document? name path := by
  by_cases known : ∃ id, base.path? id = some path
  · obtain ⟨id, known⟩ := known
    rw [reflects.lies id path known, rival.lies id path known]
  · have free : ∀ id, base.path? id ≠ some path := not_exists.1 known
    rw [reflects.elsewhere path free, rival.elsewhere path free]

theorem registry_eq (id : String) :
    (workspace.registries.get? id).map
        (fun registry => (registry.path, registry.host, registry.installed.isSome)) =
      (other.registries.get? id).map
        fun registry => (registry.path, registry.host, registry.installed.isSome) := by
  have standing := (reflects.standing id).trans (rival.standing id).symm
  cases found : workspace.registries.get? id with
  | none =>
      rw [found, Option.map_none, eq_comm, Option.map_eq_none_iff] at standing
      rw [standing]
  | some registry =>
      rw [found, Option.map_some, eq_comm, Option.map_eq_some_iff] at standing
      obtain ⟨kept, keptFound, same⟩ := standing
      have samePath := (rival.path id kept keptFound).symm.trans (reflects.path id registry found)
      simp only [Registry.standing, Standing.mk.injEq, Option.some.injEq] at same samePath
      rw [keptFound, Option.map_some, Option.map_some, same.1, same.2.1, samePath]

end Ledger.Reflects

/-! ### Interleavings -/

/-- Each registry carries out its sequence of operations, in whatever order they take
turns. -/
structure Interleaves (sequences : String → List Operation) (operations : List Operation) : Prop
    where
  own : ∀ operation ∈ operations, operation.isOwn = true
  sequence : ∀ id, operations.filter (·.concerns (some id)) = sequences id

theorem Interleaves.posted_eq {sequences : String → List Operation} {first second : List Operation}
    (firstTurns : Interleaves sequences first) (secondTurns : Interleaves sequences second)
    (accepts : String → Bool) (ledger : Ledger) :
    ledger.posted accepts first = ledger.posted accepts second := by
  refine ledger.posted_eq accepts fun registry => ?_
  cases registry with
  | some id => rw [firstTurns.sequence, secondTurns.sequence]
  | none =>
      have absent {operations : List Operation} (turns : Interleaves sequences operations) :
          operations.filter (·.concerns none) = [] := by
        refine List.filter_eq_nil_iff.2 fun operation member nobody => ?_
        obtain ⟨id, isOf⟩ := Operation.registry?_of_isOwn (turns.own operation member)
        rw [Operation.concerns_iff.1 nobody] at isOf
        cases isOf
      rw [absent firstTurns, absent secondTurns]

/-- **The order in which registries take turns cannot be seen.** Let registries have
distinct paths after operations of any kind. Then any two interleavings of the same
sequences of their operations leave every host with the same paths, the same document
under each of them, the same visible constants and the same counts, and every registry
with its path, on the same host, and with a handle in both cases or in none. What lay on
the hosts before may be anything, and hosts may accept or not. Only the ids of handles
tell the order. -/
theorem interleavings_agree (firstPath : Nat) (opening : List Operation)
    (distinct : ((start firstPath).run opening).DistinctRegistryPaths)
    (sequences : String → List Operation) (first second : List Operation)
    (firstTurns : Interleaves sequences first) (secondTurns : Interleaves sequences second) :
    let workspace := (start firstPath).run (opening ++ first)
    let rival := (start firstPath).run (opening ++ second)
    (∀ name,
      let host := workspace.hosts.host name
      let other := rival.hosts.host name
      host.paths = other.paths ∧
      (∀ path, (host.libs.get? path).map (·.document) = (other.libs.get? path).map (·.document)) ∧
      host.visibleBindings = other.visibleBindings ∧ host.liveCount = other.liveCount ∧
      host.added = other.added ∧ host.disposed = other.disposed ∧
      host.replaced = other.replaced) ∧
    ∀ id, (workspace.registries.get? id).map
        (fun registry => (registry.path, registry.host, registry.installed.isSome)) =
      (rival.registries.get? id).map
        fun registry => (registry.path, registry.host, registry.installed.isSome) := by
  intro workspace rival
  let base := (start firstPath).run opening
  let ledger := base.ledger.posted base.hosts.accepts first
  have begun : base.ledger.Reflects base base := .start (.run firstPath opening)
  have reflects : ledger.Reflects base workspace := by
    have after := begun.run distinct firstTurns.own
    rwa [← run_append] at after
  have rivalReflects : ledger.Reflects base rival := by
    have after := begun.run distinct secondTurns.own
    rwa [← run_append, ← firstTurns.posted_eq secondTurns] at after
  refine ⟨fun name => ?_, reflects.registry_eq rivalReflects⟩
  intro host other
  have documents : ∀ path,
      (host.libs.get? path).map (·.document) = (other.libs.get? path).map (·.document) :=
    reflects.document?_eq rivalReflects name
  have counts := (reflects.counts name).trans (rivalReflects.counts name).symm
  obtain ⟨paths, bindings, live⟩ := Host.seen_eq documents
  exact ⟨paths, documents, bindings, live, congrArg Counts.added counts,
    congrArg Counts.disposed counts, congrArg Counts.replaced counts⟩

/-- Two registries that share a host, where something lies under the path of one already,
and what they do one after the other. -/
def sharedHost : List Operation :=
  [.makeRegistry "first" none, .makeRegistry "second" (some "pinned"),
    .addAt "host" "pinned" .nothing none]

def oneByOne : List Operation :=
  [.attach "first" "host", .install "first" .nothing, .install "first" .nothing,
    .attach "second" "host", .install "second" .nothing]

/-- The same in turns. -/
def inTurns : List Operation :=
  [.attach "second" "host", .attach "first" "host", .install "second" .nothing,
    .install "first" .nothing, .install "first" .nothing]

theorem interleavings_inTurns :
    let workspace := (start 1).run (sharedHost ++ oneByOne)
    let rival := (start 1).run (sharedHost ++ inTurns)
    (workspace.hosts.host "host").paths = (rival.hosts.host "host").paths ∧
    (workspace.hosts.host "host").replaced = (rival.hosts.host "host").replaced ∧
    workspace.handleOn? "second" "host" = some ⟨4, "pinned"⟩ ∧
    rival.handleOn? "second" "host" = some ⟨2, "pinned"⟩ := by
  have distinct : ((start 1).run sharedHost).DistinctRegistryPaths := by decide
  let sequences (id : String) := oneByOne.filter (·.concerns (some id))
  have turns : Interleaves sequences oneByOne := ⟨by decide, fun id => rfl⟩
  have rivalTurns : Interleaves sequences inTurns := by
    refine ⟨by decide, fun id => ?_⟩
    by_cases first : "first" = id
    · subst first
      rfl
    · by_cases second : "second" = id
      · subst second
        rfl
      · simp [sequences, oneByOne, inTurns, Operation.concerns, Operation.registry?, first, second]
  obtain ⟨hosts, -⟩ := interleavings_agree 1 sharedHost distinct sequences oneByOne inTurns turns
    rivalTurns
  obtain ⟨paths, -, -, -, -, -, replaced⟩ := hosts "host"
  exact ⟨paths, replaced, by decide, by decide⟩

end Workspace

end LiveScope
