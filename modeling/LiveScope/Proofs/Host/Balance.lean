/- # LiveScope.Proofs.Host.Balance — what adding and disposing do to a host

A host that accepts a document is the host of `stored`; one that rejects it is left
as it was (`add_of_accepting`, `add_of_rejecting`). A handle is live as long as its
document lies under its path (`isLive_iff`); disposing a live handle takes that
document away and counts it, and disposing any other handle does nothing
(`dispose_of_live`, `dispose_of_stale`). What lies there under other handles stays
(`get?_dispose_eq_some_iff`).

A host is `Balanced` if every document it counted as added is still there or was
counted once more, as disposed or as replaced. Adding and disposing keep it so.
-/
import LiveScope.Host.Basic

namespace LiveScope.Host

set_option autoImplicit false

variable {host : Host} {handle : Handle} {document : Document} {path : String}

/-! ### Adding -/

/-- The host with a document that it accepted. -/
def stored (host : Host) (document : Document) (path : String) : Host :=
  { host with
    lastId := host.lastId + 1
    libs := host.libs.insert path ⟨host.lastId + 1, document⟩
    added := host.added + 1
    replaced := if host.libs.contains path then host.replaced + 1 else host.replaced }

theorem add_of_rejecting (rejecting : host.rejecting = true) (document : Document)
    (path : String) : host.add document path = .error ⟨path⟩ := by
  simp only [add, rejecting, if_true]

theorem add_of_accepting (accepting : host.rejecting = false) (document : Document)
    (path : String) : host.add document path =
      .ok (⟨host.lastId + 1, path⟩, host.stored document path) := by
  simp only [add, accepting, Bool.false_eq_true, if_false, stored]

@[simp] theorem lastId_stored (host : Host) (document : Document) (path : String) :
    (host.stored document path).lastId = host.lastId + 1 := rfl

theorem replaced_stored (host : Host) (document : Document) (path : String) :
    (host.stored document path).replaced =
      if host.libs.contains path then host.replaced + 1 else host.replaced := rfl

theorem get?_stored (host : Host) (document : Document) (path other : String) :
    (host.stored document path).libs.get? other =
      if path = other then some ⟨host.lastId + 1, document⟩ else host.libs.get? other :=
  Shelf.get?_insert _ _ _ _

/-! ### Disposing -/

theorem isLive_iff : host.isLive handle = true ↔
    ∃ document, host.libs.get? handle.path = some ⟨handle.id, document⟩ := by
  unfold isLive
  cases found : host.libs.get? handle.path with
  | none => simp
  | some lib =>
      obtain ⟨id, document⟩ := lib
      simp only [beq_iff_eq, Option.some.injEq, Lib.mk.injEq]
      constructor
      · intro same
        exact ⟨document, same, rfl⟩
      · rintro ⟨_, same, -⟩
        exact same

theorem dispose_of_live (live : host.isLive handle = true) : host.dispose handle =
    { host with libs := host.libs.erase handle.path, disposed := host.disposed + 1 } := by
  rw [dispose, if_pos live]

theorem dispose_of_stale (stale : ¬host.isLive handle = true) : host.dispose handle = host := by
  rw [dispose, if_neg stale]

theorem dispose_ne_iff : host.dispose handle ≠ host ↔ host.isLive handle = true := by
  constructor
  · intro changed
    exact Decidable.byContradiction fun stale => changed (dispose_of_stale stale)
  · intro live same
    rw [dispose_of_live live] at same
    exact absurd (congrArg Host.disposed same) (Nat.succ_ne_self _)

theorem get?_dispose (host : Host) (handle : Handle) (path : String) :
    (host.dispose handle).libs.get? path =
      if host.isLive handle ∧ handle.path = path then none else host.libs.get? path := by
  unfold dispose
  by_cases live : host.isLive handle
  · simp only [live, if_true, true_and, Shelf.get?_erase]
  · simp only [live, if_false, false_and, Bool.false_eq_true]

/-- What is left after a disposal is what lay there under another handle. -/
theorem get?_dispose_eq_some_iff {lib : Lib} :
    (host.dispose handle).libs.get? path = some lib ↔
      host.libs.get? path = some lib ∧ handle ≠ ⟨lib.id, path⟩ := by
  rw [get?_dispose]
  split
  · next taken =>
      obtain ⟨live, rfl⟩ := taken
      obtain ⟨document, found⟩ := isLive_iff.1 live
      simp only [found, reduceCtorEq, Option.some.injEq, false_iff, not_and]
      rintro rfl differs
      exact differs rfl
  · next kept =>
      refine ⟨fun found => ⟨found, ?_⟩, And.left⟩
      rintro rfl
      exact kept ⟨isLive_iff.2 ⟨lib.document, found⟩, rfl⟩

@[simp] theorem rejecting_dispose (host : Host) (handle : Handle) :
    (host.dispose handle).rejecting = host.rejecting := by
  unfold dispose
  split <;> rfl

@[simp] theorem lastId_dispose (host : Host) (handle : Handle) :
    (host.dispose handle).lastId = host.lastId := by
  unfold dispose
  split <;> rfl

@[simp] theorem added_dispose (host : Host) (handle : Handle) :
    (host.dispose handle).added = host.added := by
  unfold dispose
  split <;> rfl

@[simp] theorem replaced_dispose (host : Host) (handle : Handle) :
    (host.dispose handle).replaced = host.replaced := by
  unfold dispose
  split <;> rfl

/-! ### The balance -/

/-- Every document that was added is there, or was disposed or replaced. -/
def Balanced (host : Host) : Prop :=
  host.added = host.liveCount + host.disposed + host.replaced

namespace Balanced

theorem new : Balanced {} := rfl

theorem stored (balanced : host.Balanced) (document : Document) (path : String) :
    (host.stored document path).Balanced := by
  have size := Shelf.size_insert host.libs path ⟨host.lastId + 1, document⟩
  unfold Balanced liveCount Host.stored at *
  simp only [size]
  split <;> omega

theorem dispose (balanced : host.Balanced) (handle : Handle) :
    (host.dispose handle).Balanced := by
  by_cases live : host.isLive handle = true
  · obtain ⟨document, found⟩ := isLive_iff.1 live
    have here : host.libs.contains handle.path = true := by simp [Shelf.contains, found]
    have size := Shelf.size_erase here
    rw [dispose_of_live live]
    unfold Balanced liveCount at *
    simp only
    omega
  · rwa [dispose_of_stale live]

end Balanced

end LiveScope.Host
