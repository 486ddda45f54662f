/- # LiveScope.Proofs.Host.History — a host keeps what its history says

A host is asked to add documents, to dispose handles, and to reject or accept.
The history of its requests is the list of the documents it accepted, each with the
handle it answered. A document is the newest under its path if none was accepted
there after it (`Newest`).

As long as only handles that were answered are disposed (`OnlyIssued`), the
history and the disposed handles say all of what a host keeps: under a path lies
the newest document, unless its handle was disposed (`Recorded.libs`), and the
handles are numbered in the order in which they were answered (`Recorded.ids`).
One request keeps this so (`Recorded.after`), so any number of them do
(`recorded_serve`).
-/
import LiveScope.Proofs.Host.Balance
import Mathlib.Data.List.Induction

namespace LiveScope.Host

set_option autoImplicit false

/-! ### Requests -/

inductive Request where
  | add (document : Document) (path : String)
  | dispose (handle : Handle)
  | setRejecting (rejecting : Bool)
  deriving DecidableEq

/-- The host after a request. -/
def after (host : Host) : Request → Host
  | .add document path =>
      match host.add document path with
      | .ok (_, changed) => changed
      | .error _ => host
  | .dispose handle => host.dispose handle
  | .setRejecting rejecting => host.setRejecting rejecting

/-- The document that a request adds, with the handle that is answered. -/
def accepted? (host : Host) : Request → Option (Handle × Document)
  | .add document path =>
      match host.add document path with
      | .ok (handle, _) => some (handle, document)
      | .error _ => none
  | .dispose _ | .setRejecting _ => none

/-- The host after requests, one after the other. -/
def serve (host : Host) (requests : List Request) : Host := requests.foldl after host

/-- The documents that are accepted in the course of requests, with their handles. -/
def history : Host → List Request → List (Handle × Document)
  | _, [] => []
  | host, request :: rest => (host.accepted? request).toList ++ history (host.after request) rest

/-- The handles that a new host answers in the course of requests. -/
def issued (requests : List Request) : List Handle := (history {} requests).map Prod.fst

/-- Only handles are disposed that were answered before. -/
def OnlyIssued (requests : List Request) : Prop :=
  ∀ n handle, requests[n]? = some (.dispose handle) → handle ∈ issued (requests.take n)

theorem serve_concat (host : Host) (requests : List Request) (request : Request) :
    host.serve (requests ++ [request]) = (host.serve requests).after request := by
  simp only [serve, List.foldl_append, List.foldl_cons, List.foldl_nil]

theorem history_concat (host : Host) (requests : List Request) (request : Request) :
    history host (requests ++ [request]) =
      history host requests ++ ((host.serve requests).accepted? request).toList := by
  induction requests generalizing host with
  | nil => simp only [List.nil_append, history, List.append_nil, serve, List.foldl_nil]
  | cons first rest ih =>
      simp only [List.cons_append, history, ih, List.append_assoc, serve, List.foldl_cons]

namespace OnlyIssued

variable {requests : List Request} {request : Request}

theorem init (onlyIssued : OnlyIssued (requests ++ [request])) : OnlyIssued requests := by
  intro n handle found
  have before : n < requests.length := (List.getElem?_eq_some_iff.1 found).1
  have kept := onlyIssued n handle (by rw [List.getElem?_append_left before, found])
  rwa [List.take_append_of_le_length (Nat.le_of_lt before)] at kept

theorem last {handle : Handle} (onlyIssued : OnlyIssued (requests ++ [.dispose handle])) :
    handle ∈ issued requests := by
  have issued := onlyIssued requests.length handle (by simp)
  rwa [List.take_left] at issued

end OnlyIssued

/-! ### The newest document under a path -/

/-- The document was accepted under the handle, and none under its path since. -/
def Newest (history : List (Handle × Document)) (handle : Handle) (document : Document) : Prop :=
  ∃ earlier later, history = earlier ++ (handle, document) :: later ∧
    ∀ entry ∈ later, entry.1.path ≠ handle.path

theorem Newest.mem {history : List (Handle × Document)} {handle : Handle} {document : Document}
    (newest : Newest history handle document) : (handle, document) ∈ history := by
  obtain ⟨earlier, later, rfl, -⟩ := newest
  exact List.mem_append_right _ List.mem_cons_self

/-- After one more document, the newest ones are that document and those under
other paths. -/
theorem newest_concat {history : List (Handle × Document)} {added handle : Handle}
    {new document : Document} : Newest (history ++ [(added, new)]) handle document ↔
      (handle = added ∧ document = new) ∨
        (added.path ≠ handle.path ∧ Newest history handle document) := by
  constructor
  · rintro ⟨earlier, later, split, others⟩
    rcases List.eq_nil_or_concat later with rfl | ⟨later, last, rfl⟩
    · obtain ⟨-, same⟩ := List.append_inj' split rfl
      cases same
      exact .inl ⟨rfl, rfl⟩
    · rw [List.concat_eq_append, ← List.cons_append, ← List.append_assoc] at split
      obtain ⟨front, same⟩ := List.append_inj' split rfl
      cases same
      refine .inr ⟨others (added, new) (by simp), earlier, later, front, fun entry member => ?_⟩
      exact others entry (by simp [member])
  · rintro (⟨rfl, rfl⟩ | ⟨differs, earlier, later, rfl, others⟩)
    · exact ⟨history, [], rfl, by simp⟩
    · refine ⟨earlier, later ++ [(added, new)], by simp, fun entry member => ?_⟩
      rcases List.mem_append.1 member with before | last
      · exact others entry before
      · rw [List.mem_singleton.1 last]
        exact differs

/-! ### What a host keeps -/

theorem after_add (host : Host) (document : Document) (path : String) :
    host.after (.add document path) =
      if host.rejecting = true then host else host.stored document path := by
  cases rejects : host.rejecting with
  | true => simp only [after, add_of_rejecting rejects, if_true]
  | false => simp only [after, add_of_accepting rejects, Bool.false_eq_true, if_false]

theorem accepted?_add (host : Host) (document : Document) (path : String) :
    host.accepted? (.add document path) =
      if host.rejecting = true then none else some (⟨host.lastId + 1, path⟩, document) := by
  cases rejects : host.rejecting with
  | true => simp only [accepted?, add_of_rejecting rejects, if_true]
  | false => simp only [accepted?, add_of_accepting rejects, Bool.false_eq_true, if_false]

/-- What a disposed handle was answered for was accepted before. -/
theorem OnlyIssued.mem_issued {requests : List Request} (onlyIssued : OnlyIssued requests)
    {handle : Handle} (disposed : .dispose handle ∈ requests) : handle ∈ issued requests := by
  induction requests using List.reverseRecOn with
  | nil => cases disposed
  | append_singleton requests request ih =>
      have before : handle ∈ issued requests := by
        rcases List.mem_append.1 disposed with earlier | last
        · exact ih onlyIssued.init earlier
        · rw [← List.mem_singleton.1 last] at onlyIssued
          exact onlyIssued.last
      rw [issued, history_concat, List.map_append]
      exact List.mem_append_left _ before

/-- What a new host keeps after requests is what its history says. -/
structure Recorded (requests : List Request) : Prop where
  balanced : (serve {} requests).Balanced
  ids : (issued requests).map Handle.id = List.range' 1 (serve {} requests).lastId
  libs : ∀ path lib, (serve {} requests).libs.get? path = some lib ↔
    ∃ handle document, Newest (history {} requests) handle document ∧
      .dispose handle ∉ requests ∧ handle.path = path ∧ lib = ⟨handle.id, document⟩

namespace Recorded

variable {requests : List Request} {request : Request}

theorem new : Recorded [] where
  balanced := .new
  ids := rfl
  libs := by
    intro path lib
    constructor
    · intro found
      cases found
    · rintro ⟨handle, document, newest, -⟩
      cases newest.mem

theorem id_le (recorded : Recorded requests) {handle : Handle} (given : handle ∈ issued requests) :
    handle.id ≤ (serve {} requests).lastId := by
  have inRange : handle.id ∈ List.range' 1 (serve {} requests).lastId :=
    recorded.ids ▸ List.mem_map_of_mem given
  have bounds := List.mem_range'_1.1 inRange
  omega

/-- A request that accepts nothing, disposes nothing and keeps the documents. -/
theorem quiet (recorded : Recorded requests) (same : (serve {} requests).after request =
      { serve {} requests with rejecting := ((serve {} requests).after request).rejecting })
    (accepts : (serve {} requests).accepted? request = none)
    (disposes : ∀ handle, request ≠ .dispose handle) : Recorded (requests ++ [request]) := by
  have sameHistory : history {} (requests ++ [request]) = history {} requests := by
    rw [history_concat, accepts, Option.toList_none, List.append_nil]
  have sameDisposed (handle : Handle) :
      .dispose handle ∈ requests ++ [request] ↔ .dispose handle ∈ requests := by
    simp [Ne.symm (disposes handle)]
  constructor
  · rw [serve_concat, same]
    exact recorded.balanced
  · rw [issued, sameHistory, serve_concat, same]
    exact recorded.ids
  · simp only [sameHistory, sameDisposed, serve_concat]
    rw [same]
    exact recorded.libs

/-- A document that is accepted gets a handle that was never disposed. -/
theorem stored (recorded : Recorded requests) (onlyIssued : OnlyIssued requests)
    (accepting : ¬(serve {} requests).rejecting = true) (document : Document) (path : String) :
    Recorded (requests ++ [.add document path]) := by
  let handle : Handle := ⟨(serve {} requests).lastId + 1, path⟩
  have unused : .dispose handle ∉ requests := by
    intro disposed
    have bound := recorded.id_le (onlyIssued.mem_issued disposed)
    exact absurd bound (Nat.not_succ_le_self _)
  have grown : history {} (requests ++ [.add document path]) =
      history {} requests ++ [(handle, document)] := by
    rw [history_concat, accepted?_add, if_neg accepting, Option.toList_some]
  have served : serve {} (requests ++ [.add document path]) =
      (serve {} requests).stored document path := by
    rw [serve_concat, after_add, if_neg accepting]
  have sameDisposed (other : Handle) :
      .dispose other ∈ requests ++ [.add document path] ↔ .dispose other ∈ requests := by
    simp
  constructor
  · rw [served]
    exact recorded.balanced.stored document path
  · rw [issued, grown, served, List.map_append, List.map_append]
    exact (congrArg (· ++ [handle.id]) recorded.ids).trans (by
      rw [Host.stored, List.range'_1_concat, Nat.add_comm 1])
  · intro here lib
    simp only [grown, served, sameDisposed, newest_concat, get?_stored]
    split
    · next same =>
        subst same
        constructor
        · intro found
          cases found
          exact ⟨handle, document, .inl ⟨rfl, rfl⟩, unused, rfl, rfl⟩
        · rintro ⟨_, _, ⟨rfl, rfl⟩ | ⟨differs, -⟩, -, same, rfl⟩
          · rfl
          · exact absurd same.symm differs
    · next differs =>
        rw [recorded.libs]
        constructor
        · rintro ⟨other, kept, newest, live, rfl, rfl⟩
          exact ⟨other, kept, .inr ⟨differs, newest⟩, live, rfl, rfl⟩
        · rintro ⟨other, kept, ⟨rfl, rfl⟩ | ⟨-, newest⟩, live, same, rfl⟩
          · exact absurd same differs
          · exact ⟨other, kept, newest, live, same, rfl⟩

/-- A disposed handle takes its document away if that still lies there. -/
theorem disposed (recorded : Recorded requests) (handle : Handle) :
    Recorded (requests ++ [.dispose handle]) := by
  have sameHistory : history {} (requests ++ [.dispose handle]) = history {} requests := by
    rw [history_concat, accepted?, Option.toList_none, List.append_nil]
  have served : serve {} (requests ++ [.dispose handle]) = (serve {} requests).dispose handle := by
    rw [serve_concat, after]
  constructor
  · rw [served]
    exact recorded.balanced.dispose handle
  · rw [issued, sameHistory, served, lastId_dispose]
    exact recorded.ids
  · intro path lib
    rw [sameHistory, served, get?_dispose_eq_some_iff, recorded.libs]
    simp only [List.mem_append, List.mem_singleton, Request.dispose.injEq, not_or]
    constructor
    · rintro ⟨⟨other, document, newest, kept, rfl, rfl⟩, differs⟩
      exact ⟨other, document, newest, ⟨kept, Ne.symm differs⟩, rfl, rfl⟩
    · rintro ⟨other, document, newest, ⟨kept, differs⟩, rfl, rfl⟩
      exact ⟨⟨other, document, newest, kept, rfl, rfl⟩, Ne.symm differs⟩

/-- One more request is recorded too. -/
theorem after (recorded : Recorded requests) (onlyIssued : OnlyIssued requests) :
    Recorded (requests ++ [request]) := by
  cases request with
  | add document path =>
      by_cases rejecting : (serve {} requests).rejecting = true
      · refine recorded.quiet ?_ ?_ (by simp)
        · rw [after_add, if_pos rejecting]
        · rw [accepted?_add, if_pos rejecting]
      · exact recorded.stored onlyIssued rejecting document path
  | dispose handle => exact recorded.disposed handle
  | setRejecting rejecting => exact recorded.quiet rfl rfl (by simp)

end Recorded

/-- Any requests are recorded. -/
theorem recorded_serve {requests : List Request} (onlyIssued : OnlyIssued requests) :
    Recorded requests := by
  induction requests using List.reverseRecOn with
  | nil => exact .new
  | append_singleton requests request ih => exact (ih onlyIssued.init).after onlyIssued.init

/-- **A host keeps the newest document under each path until its handle is
disposed.** Whatever it is asked for, its counts balance and its handles differ. A
disposal has an effect exactly if the handle's document is the newest under its
path and the handle was not disposed before; then that document goes and is
counted. A document is accepted unless the host rejects, just as it is and under the
path that is asked for; a rejected one changes nothing. -/
theorem serve_keeps_newest (requests : List Request) (onlyIssued : OnlyIssued requests) :
    let host := serve {} requests
    host.added = host.liveCount + host.disposed + host.replaced ∧
    ((issued requests).map Handle.id).Nodup ∧
    (∀ handle, host.dispose handle ≠ host ↔
      (∃ document, Newest (history {} requests) handle document) ∧ .dispose handle ∉ requests) ∧
    (∀ handle, host.dispose handle ≠ host →
      (∃ lib, host.libs.get? handle.path = some lib) ∧ host.dispose handle =
        { host with libs := host.libs.erase handle.path, disposed := host.disposed + 1 }) ∧
    (∀ document path, (host.rejecting = true ∧ host.accepted? (.add document path) = none) ∨
      (host.rejecting = false ∧ ∃ handle, handle.path = path ∧
        host.accepted? (.add document path) = some (handle, document))) ∧
    (∀ document path, host.accepted? (.add document path) = none →
      host.after (.add document path) = host) ∧
    ∀ path lib, host.libs.get? path = some lib ↔
      ∃ handle document, Newest (history {} requests) handle document ∧
        .dispose handle ∉ requests ∧ handle.path = path ∧ lib = ⟨handle.id, document⟩ := by
  intro host
  have recorded := recorded_serve onlyIssued
  refine ⟨recorded.balanced, ?_, fun handle => ?_, fun handle changed => ?_,
    fun document path => ?_, ?_, recorded.libs⟩
  · rw [recorded.ids]
    exact List.nodup_range' 1
  · rw [dispose_ne_iff, isLive_iff]
    constructor
    · rintro ⟨_, found⟩
      obtain ⟨newest, document, isNewest, kept, samePath, same⟩ := (recorded.libs _ _).1 found
      obtain rfl : newest = handle := by
        cases newest
        cases handle
        simp_all
      exact ⟨⟨document, isNewest⟩, kept⟩
    · rintro ⟨⟨document, isNewest⟩, kept⟩
      exact ⟨document, (recorded.libs _ _).2 ⟨handle, document, isNewest, kept, rfl, rfl⟩⟩
  · have live := dispose_ne_iff.1 changed
    obtain ⟨document, found⟩ := isLive_iff.1 live
    exact ⟨⟨_, found⟩, dispose_of_live live⟩
  · rw [accepted?_add]
    cases rejects : host.rejecting with
    | true => exact .inl ⟨rfl, if_pos rfl⟩
    | false => exact .inr ⟨rfl, ⟨_, path⟩, rfl, if_neg Bool.false_ne_true⟩
  · intro document path refused
    rw [accepted?_add] at refused
    rw [after_add]
    split at refused
    · next rejecting => rw [if_pos rejecting]
    · cases refused

/-- Two documents under one path, the first one's handle disposed late, and a third
document that is rejected. -/
def replacing : List Request :=
  [.add ⟨"one", ["a"]⟩ "path", .add ⟨"two", []⟩ "path", .dispose ⟨1, "path"⟩, .setRejecting true,
    .add ⟨"three", []⟩ "path"]

theorem serve_keeps_replacement :
    OnlyIssued replacing ∧
    (serve {} replacing).libs.get? "path" = some ⟨2, ⟨"two", []⟩⟩ ∧
    (serve {} replacing).dispose ⟨1, "path"⟩ = serve {} replacing ∧
    (serve {} replacing).dispose ⟨2, "path"⟩ ≠ serve {} replacing ∧
    (serve {} replacing).after (.add ⟨"three", []⟩ "path") = serve {} replacing := by
  have onlyIssued : OnlyIssued replacing := by
    intro n handle found
    rcases n with _ | _ | _ | _ | _ | n
    all_goals cases found
    decide
  obtain ⟨-, -, changes, -, -, rejected, kept⟩ := serve_keeps_newest replacing onlyIssued
  have newest : Newest (history {} replacing) ⟨2, "path"⟩ ⟨"two", []⟩ :=
    ⟨[(⟨1, "path"⟩, ⟨"one", ["a"]⟩)], [], by decide, by simp⟩
  have undisposed : Request.dispose ⟨2, "path"⟩ ∉ replacing := by decide
  refine ⟨onlyIssued, (kept _ _).2 ⟨_, _, newest, undisposed, rfl, rfl⟩, ?_,
    (changes _).2 ⟨⟨_, newest⟩, undisposed⟩, rejected _ _ (by decide)⟩
  refine Classical.byContradiction fun changed => ?_
  exact ((changes _).1 changed).2 (by decide)

end LiveScope.Host
