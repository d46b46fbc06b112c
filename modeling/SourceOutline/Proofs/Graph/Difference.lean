import Mathlib.Data.Finset.Basic
import Mathlib.Data.Finset.Dedup
import Mathlib.Data.List.Sort
import SourceOutline.Graph.Snapshot

set_option autoImplicit false

/-! # Differences add up

The difference of two snapshots lists, in order, the ids that only one of them has. So it leads from
the ids of the one to the ids of the other (`SnapshotDiff.IsExact.applyTo_eq`), and there is just
one difference between two sets of ids (`SnapshotDiff.IsExact.eq`). Everything else follows from
that: seen from the other side the lists change places, and a difference followed by another is the
difference of the outer two snapshots, where an id that comes in one step and goes in the other
cancels (`SnapshotDiff.IsExact.followedBy`). Hence the reports of successive snapshots add up to the
difference of the last one from the first (`diffs_add_up`). -/

namespace SourceOutline

/-! ## Ids that only one snapshot has -/

namespace Snapshot

variable {snapshot other : Snapshot}

/-- The ids of a snapshot as a set. -/
def idSet (snapshot : Snapshot) : Finset String :=
  snapshot.ids.toFinset

theorem mem_idsMissingFrom {id : String} :
    id ∈ snapshot.idsMissingFrom other ↔ id ∈ snapshot.ids ∧ id ∉ other.ids := by
  simp only [idsMissingFrom, mem_sortedDistinct, List.mem_filter, Bool.not_eq_true',
    List.contains_eq_mem, decide_eq_false_iff_not]

theorem idsMissingFrom_eq_nil_iff :
    snapshot.idsMissingFrom other = [] ↔ ∀ id ∈ snapshot.ids, id ∈ other.ids := by
  rw [List.eq_nil_iff_forall_not_mem]
  simp only [mem_idsMissingFrom, not_and, Decidable.not_not]

theorem changed_diff_eq_false_iff :
    (snapshot.diff other).changed = false ↔ ∀ id, id ∈ snapshot.ids ↔ id ∈ other.ids := by
  simp only [SnapshotDiff.changed, diff, Bool.or_eq_false_iff, Bool.not_eq_false',
    List.isEmpty_iff, idsMissingFrom_eq_nil_iff]
  exact ⟨fun h id => ⟨h.1 id, h.2 id⟩, fun h => ⟨fun id => (h id).1, fun id => (h id).2⟩⟩

end Snapshot

/-! ## Exact differences -/

namespace SnapshotDiff

/-- A difference tells exactly what leads from some ids to others: what came and what went, each in
    strictly increasing order. -/
structure IsExact (diff : SnapshotDiff) (current previous : Finset String) : Prop where
  added_sorted : diff.added.Pairwise (· < ·)
  removed_sorted : diff.removed.Pairwise (· < ·)
  added_eq : diff.added.toFinset = current \ previous
  removed_eq : diff.removed.toFinset = previous \ current

/-- The difference seen from the other side. -/
def swap (diff : SnapshotDiff) : SnapshotDiff where
  added := diff.removed
  removed := diff.added

/-- The ids that a difference leads to. -/
def applyTo (diff : SnapshotDiff) (ids : Finset String) : Finset String :=
  ids \ diff.removed.toFinset ∪ diff.added.toFinset

/-- A difference and then another. What the one adds and the other removes again does not count, nor
    what the one removes and the other adds again. -/
def followedBy (earlier later : SnapshotDiff) : SnapshotDiff where
  added := sortedDistinct
    (later.added.filter (· ∉ earlier.removed) ++ earlier.added.filter (· ∉ later.removed))
  removed := sortedDistinct
    (later.removed.filter (· ∉ earlier.added) ++ earlier.removed.filter (· ∉ later.added))

namespace IsExact

variable {diff other earlier later : SnapshotDiff} {current previous : Finset String}

theorem mem_added_iff (h : diff.IsExact current previous) {id : String} :
    id ∈ diff.added ↔ id ∈ current ∧ id ∉ previous := by
  rw [← List.mem_toFinset, h.added_eq, Finset.mem_sdiff]

theorem mem_removed_iff (h : diff.IsExact current previous) {id : String} :
    id ∈ diff.removed ↔ id ∈ previous ∧ id ∉ current := by
  rw [← List.mem_toFinset, h.removed_eq, Finset.mem_sdiff]

/-- There is one exact difference between two sets of ids. -/
theorem eq (h : diff.IsExact current previous) (hother : other.IsExact current previous) :
    diff = other := by
  have hadded : diff.added = other.added := by
    refine h.added_sorted.eq_of_mem_iff hother.added_sorted ?_
    intro id
    rw [h.mem_added_iff, hother.mem_added_iff]
  have hremoved : diff.removed = other.removed := by
    refine h.removed_sorted.eq_of_mem_iff hother.removed_sorted ?_
    intro id
    rw [h.mem_removed_iff, hother.mem_removed_iff]
  obtain ⟨added, removed⟩ := diff
  obtain ⟨otherAdded, otherRemoved⟩ := other
  exact congrArg₂ SnapshotDiff.mk hadded hremoved

theorem swap (h : diff.IsExact current previous) : diff.swap.IsExact previous current :=
  ⟨h.removed_sorted, h.added_sorted, h.removed_eq, h.added_eq⟩

/-- An exact difference leads from the previous ids to the current ones. -/
theorem applyTo_eq (h : diff.IsExact current previous) : diff.applyTo previous = current := by
  ext id
  simp only [applyTo, Finset.mem_union, Finset.mem_sdiff, List.mem_toFinset, h.mem_added_iff,
    h.mem_removed_iff]
  tauto

/-- Exact differences, one after the other, make an exact difference. -/
theorem followedBy {first middle last : Finset String} (hearlier : earlier.IsExact middle first)
    (hlater : later.IsExact last middle) : (earlier.followedBy later).IsExact last first where
  added_sorted := pairwise_sortedDistinct _
  removed_sorted := pairwise_sortedDistinct _
  added_eq := by
    ext id
    simp only [SnapshotDiff.followedBy, List.mem_toFinset, mem_sortedDistinct, List.mem_append,
      List.mem_filter, decide_eq_true_eq, Finset.mem_sdiff, hearlier.mem_added_iff,
      hearlier.mem_removed_iff, hlater.mem_added_iff, hlater.mem_removed_iff]
    -- whether the id is in the middle tells which of the two steps counts
    by_cases hmiddle : id ∈ middle <;> simp [hmiddle, and_comm]
  removed_eq := by
    ext id
    simp only [SnapshotDiff.followedBy, List.mem_toFinset, mem_sortedDistinct, List.mem_append,
      List.mem_filter, decide_eq_true_eq, Finset.mem_sdiff, hearlier.mem_added_iff,
      hearlier.mem_removed_iff, hlater.mem_added_iff, hlater.mem_removed_iff]
    by_cases hmiddle : id ∈ middle <;> simp [hmiddle, and_comm]

end IsExact

/-- Differences one after another. -/
def total (diffs : List SnapshotDiff) : SnapshotDiff :=
  diffs.foldl followedBy { added := [], removed := [] }

end SnapshotDiff

/-! ## Successive snapshots -/

namespace Snapshot

/-- The difference of two snapshots is exact. -/
theorem isExact_diff (current previous : Snapshot) :
    (current.diff previous).IsExact current.idSet previous.idSet where
  added_sorted := pairwise_sortedDistinct _
  removed_sorted := pairwise_sortedDistinct _
  added_eq := by
    ext id
    simp [diff, idSet, mem_idsMissingFrom]
  removed_eq := by
    ext id
    simp [diff, idSet, mem_idsMissingFrom]

theorem diff_self (snapshot : Snapshot) :
    snapshot.diff snapshot = { added := [], removed := [] } := by
  refine (snapshot.isExact_diff snapshot).eq ⟨.nil, .nil, ?_, ?_⟩
  · simp
  · simp

/-- A difference followed by the next one is the difference of the outer two snapshots. -/
theorem diff_followedBy_diff (last middle first : Snapshot) :
    (middle.diff first).followedBy (last.diff middle) = last.diff first :=
  ((middle.isExact_diff first).followedBy (last.isExact_diff middle)).eq (last.isExact_diff first)

/-- What is reported of snapshots that come one after another: how each differs from the one
    before it. -/
def reportsSince (first : Snapshot) : List Snapshot → List SnapshotDiff
  | [] => []
  | next :: rest => next.diff first :: next.reportsSince rest

/-- Reports that are added to the difference from an earlier snapshot give the difference of the
    last snapshot from that one. -/
theorem foldl_followedBy_reportsSince (origin : Snapshot) (later : List Snapshot) :
    ∀ first : Snapshot, (first.reportsSince later).foldl SnapshotDiff.followedBy (first.diff origin)
      = (later.getLastD first).diff origin := by
  induction later with
  | nil =>
    intro first
    rfl
  | cons next rest ih =>
    intro first
    rw [reportsSince, List.foldl_cons, diff_followedBy_diff, ih next, List.getLastD_cons]

end Snapshot

/-- **Differences add up.** The difference of two snapshots, whatever their nodes are, lists in
    strictly increasing order exactly the ids that only the one has and those that only the other
    has. Seen from the other side the lists change places; without what it removes and with what it
    adds, the previous ids are the current ones; and nothing is listed only if the ids are the same.
    The difference across a middle snapshot is the one up to it followed by the one from it on,
    where what comes and goes again cancels. So the reports of any number of snapshots, one after
    another, make the difference of the last one from the first. -/
theorem diffs_add_up :
    (∀ current previous : Snapshot,
      (current.diff previous).IsExact current.idSet previous.idSet ∧
      previous.diff current = (current.diff previous).swap ∧
      (current.diff previous).applyTo previous.idSet = current.idSet ∧
      ((current.diff previous).changed = false ↔ current.idSet = previous.idSet)) ∧
    (∀ last middle first : Snapshot,
      last.diff first = (middle.diff first).followedBy (last.diff middle)) ∧
    ∀ (first : Snapshot) (later : List Snapshot),
      SnapshotDiff.total (first.reportsSince later) = (later.getLastD first).diff first := by
  refine ⟨fun current previous => ?_, fun last middle first => ?_, fun first later => ?_⟩
  · have hexact := current.isExact_diff previous
    refine ⟨hexact, (previous.isExact_diff current).eq hexact.swap, hexact.applyTo_eq, ?_⟩
    rw [Snapshot.changed_diff_eq_false_iff]
    simp only [Finset.ext_iff, Snapshot.idSet, List.mem_toFinset]
  · exact (Snapshot.diff_followedBy_diff last middle first).symm
  · rw [SnapshotDiff.total, ← first.diff_self]
    exact Snapshot.foldl_followedBy_reportsSince first later first

end SourceOutline
