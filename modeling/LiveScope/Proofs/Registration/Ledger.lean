/- # LiveScope.Proofs.Registration.Ledger — registries told without ids

What an operation of a registry does can be told without the ids of handles. The share
of a registry is where it is attached, whether it has a handle and whether the document
of that handle is still there, and what lies under its path on each host (`Share`). Its
operations turn this share into another and add to what the hosts count (`Share.act`).
They read nothing else but the readiness of hosts, and write nothing else.

A ledger keeps the shares of all registries and the counts of all hosts. Operations of
different registries commute on it (`Ledger.post_comm`): each writes its own share, and
counts are sums. So a ledger in which the operations of a run are posted is known from
the sequence of each registry by itself (`Ledger.posted_eq`).
-/
import LiveScope.Proofs.Registration.Step
import Mathlib.Logic.Function.Basic

namespace LiveScope.Workspace

set_option autoImplicit false

/-! ### Operations of a registry -/

namespace Operation

/-- What a registry is asked to do after it was made. -/
def isOwn : Operation → Bool
  | .attach _ _ | .detach _ | .install _ _ | .disposeRegistry _ | .dropRegistry _ => true
  | _ => false

theorem registry?_of_isOwn {operation : Operation} (own : operation.isOwn = true) :
    ∃ id, operation.registry? = some id := by
  cases operation <;> first | exact ⟨_, rfl⟩ | cases own

/-- Is this the registry that the operation is carried out on? -/
def concerns (operation : Operation) (registry : Option String) : Bool :=
  operation.registry? == registry

theorem concerns_iff {operation : Operation} {registry : Option String} :
    operation.concerns registry = true ↔ operation.registry? = registry := beq_iff_eq

/-- The host of a registry after its operation, if the registry is still there. -/
def attachment? : Operation → Option String → Option (Option String)
  | .attach _ name, _ => some (some name)
  | .detach _, _ => some none
  | .dropRegistry _, _ => none
  | _, host => some host

/-- Where a registry puts a document, and which, given its host. -/
def stored? (accepts : String → Bool) : Operation → Option String → Option (String × Document)
  | .install _ content, some name => if accepts name then some (name, content.document) else none
  | _, _ => none

end Operation

/-! ### Shares -/

/-- What a host has counted. -/
@[ext] structure Counts where
  added : Nat := 0
  disposed : Nat := 0
  replaced : Nat := 0
  deriving DecidableEq, Repr

namespace Counts

def plus (first second : Counts) : Counts :=
  ⟨first.added + second.added, first.disposed + second.disposed,
    first.replaced + second.replaced⟩

theorem plus_assoc (first second third : Counts) :
    (first.plus second).plus third = first.plus (second.plus third) := by
  ext <;> simp only [plus, Nat.add_assoc]

theorem plus_right_comm (first second third : Counts) :
    (first.plus second).plus third = (first.plus third).plus second := by
  ext <;> simp only [plus, Nat.add_right_comm]

end Counts

/-- A registry, but for its path and the id of its handle. -/
structure Standing where
  host : Option String
  /-- The registry has a handle. -/
  installed : Bool
  /-- The document of the handle is still there. -/
  live : Bool
  deriving DecidableEq, Repr

def Standing.isLiveOn (standing : Standing) (name : String) : Bool :=
  standing.live && standing.host == some name

structure Share where
  /-- The registry, if it is there. -/
  standing : Option Standing
  /-- What lies under its path, by host. -/
  lies : String → Option Document

/-- What an operation makes of a share, and how much it adds to the counts. -/
structure Entry where
  share : Share
  counts : String → Counts

/-- One operation after the other. -/
def Entry.andThen (entry : Entry) (operate : Share → Entry) : Entry where
  share := (operate entry.share).share
  counts name := (entry.counts name).plus ((operate entry.share).counts name)

namespace Share

def isLiveOn (share : Share) (name : String) : Bool := share.standing.any (·.isLiveOn name)

/-- Give up what is installed. -/
def leave (share : Share) (attachment : Option (Option String)) : Entry where
  share :=
    { standing := attachment.map fun host => ⟨host, false, false⟩
      lies := fun name => if share.isLiveOn name then none else share.lies name }
  counts name := if share.isLiveOn name then { disposed := 1 } else {}

/-- Put a document on a host. -/
def store (share : Share) (name : String) (document : Document) : Entry where
  share :=
    { standing := some ⟨some name, true, true⟩
      lies := fun other => if name = other then some document else share.lies other }
  counts other :=
    if name = other then { added := 1, replaced := if (share.lies other).isSome then 1 else 0 }
    else {}

/-- An operation of the registry: it gives up first, and may then put a document. -/
def act (accepts : String → Bool) (share : Share) (operation : Operation) : Entry :=
  match share.standing with
  | none => ⟨share, fun _ => {}⟩
  | some standing =>
      let left := share.leave (operation.attachment? standing.host)
      match operation.stored? accepts standing.host with
      | none => left
      | some (name, document) => left.andThen (·.store name document)

end Share

/-! ### Ledgers -/

@[ext] structure Ledger where
  shares : String → Share
  counts : String → Counts

namespace Ledger

def enter (ledger : Ledger) (id : String) (entry : Entry) : Ledger where
  shares := Function.update ledger.shares id entry.share
  counts name := (ledger.counts name).plus (entry.counts name)

theorem shares_enter_self (ledger : Ledger) (id : String) (entry : Entry) :
    (ledger.enter id entry).shares id = entry.share := Function.update_self _ _ _

theorem shares_enter_other (ledger : Ledger) {id other : String} (differs : other ≠ id)
    (entry : Entry) : (ledger.enter id entry).shares other = ledger.shares other :=
  Function.update_of_ne differs _ _

theorem enter_nothing (ledger : Ledger) (id : String) :
    ledger.enter id ⟨ledger.shares id, fun _ => {}⟩ = ledger := by
  ext1
  · exact Function.update_eq_self id _
  · rfl

theorem enter_andThen (ledger : Ledger) (id : String) (entry : Entry) (operate : Share → Entry) :
    ledger.enter id (entry.andThen operate) =
      (ledger.enter id entry).enter id (operate entry.share) := by
  ext1
  · exact (Function.update_idem _ _ _).symm
  · exact funext fun name => (Counts.plus_assoc _ _ _).symm

theorem enter_comm (ledger : Ledger) {id other : String} (differs : id ≠ other)
    (entry rival : Entry) :
    (ledger.enter id entry).enter other rival = (ledger.enter other rival).enter id entry := by
  ext1
  · exact Function.update_comm differs _ _ _
  · exact funext fun name => Counts.plus_right_comm _ _ _

variable (accepts : String → Bool) (ledger : Ledger)

/-- Enter what an operation does to the registry that it is carried out on. -/
def post (operation : Operation) : Ledger :=
  match operation.registry? with
  | none => ledger
  | some id => ledger.enter id ((ledger.shares id).act accepts operation)

theorem post_of_registry {operation : Operation} {id : String}
    (own : operation.registry? = some id) : ledger.post accepts operation =
      ledger.enter id ((ledger.shares id).act accepts operation) := by
  rw [post, own]

/-- Operations of different registries commute. -/
theorem post_comm {first second : Operation} (apart : first.registry? ≠ second.registry?) :
    (ledger.post accepts first).post accepts second =
      (ledger.post accepts second).post accepts first := by
  cases own : first.registry? with
  | none => simp only [post, own]
  | some id =>
      cases rival : second.registry? with
      | none => simp only [post, own, rival]
      | some other =>
          have differs : id ≠ other := fun same => apart (by rw [own, rival, same])
          rw [post_of_registry _ _ own, post_of_registry _ _ rival, post_of_registry _ _ own,
            post_of_registry _ _ rival, shares_enter_other _ differs,
            shares_enter_other _ differs.symm, enter_comm _ differs]

/-- Post operations one after the other. -/
def posted (operations : List Operation) : Ledger :=
  operations.foldl (fun current operation => current.post accepts operation) ledger

theorem posted_cons (operation : Operation) (rest : List Operation) :
    ledger.posted accepts (operation :: rest) =
      (ledger.post accepts operation).posted accepts rest := rfl

/-- An operation may be posted before all that are of other registries. -/
theorem posted_ahead {operation : Operation} {ahead : List Operation}
    (apart : ∀ other ∈ ahead, other.registry? ≠ operation.registry?) (behind : List Operation) :
    ledger.posted accepts (ahead ++ operation :: behind) =
      (ledger.post accepts operation).posted accepts (ahead ++ behind) := by
  induction ahead generalizing ledger with
  | nil => rfl
  | cons first ahead ih =>
      rw [List.cons_append, posted_cons, ih _ fun other member =>
          apart other (List.mem_cons_of_mem _ member), List.cons_append, posted_cons,
        post_comm _ _ (apart first List.mem_cons_self)]

/-- Two runs in which each registry does the same, one thing after the other, end with the
same ledger. -/
theorem posted_eq {first second : List Operation}
    (same : ∀ registry, first.filter (·.concerns registry) =
      second.filter (·.concerns registry)) :
    ledger.posted accepts first = ledger.posted accepts second := by
  induction first generalizing second ledger with
  | nil =>
      -- a first operation of the other run would be missing here
      cases second with
      | nil => rfl
      | cons operation rest => simpa [Operation.concerns] using same operation.registry?
  | cons operation rest ih =>
      have own := same operation.registry?
      rw [List.filter_cons, if_pos (Operation.concerns_iff.2 rfl)] at own
      obtain ⟨ahead, behind, rfl, others, -, -⟩ := List.filter_eq_cons_iff.1 own.symm
      have apart : ∀ other ∈ ahead, other.registry? ≠ operation.registry? :=
        fun other member clash => others other member (Operation.concerns_iff.2 clash)
      rw [posted_cons, posted_ahead _ _ apart]
      refine ih _ fun registry => ?_
      have still := same registry
      rw [List.filter_append] at still ⊢
      by_cases here : operation.concerns registry = true
      · have absent : ahead.filter (·.concerns registry) = [] := by
          refine List.filter_eq_nil_iff.2 fun other member clash => apart other member ?_
          rw [Operation.concerns_iff.1 clash, Operation.concerns_iff.1 here]
        rw [List.filter_cons, if_pos here, List.filter_cons, if_pos here, absent,
          List.nil_append] at still
        rw [absent, List.nil_append]
        exact List.tail_eq_of_cons_eq still
      · rwa [List.filter_cons, if_neg here, List.filter_cons, if_neg here] at still

end Ledger

end LiveScope.Workspace
