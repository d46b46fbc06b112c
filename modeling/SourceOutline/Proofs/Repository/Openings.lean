import SourceOutline.Proofs.Repository.Difference
import SourceOutline.Proofs.Repository.Polling

set_option autoImplicit false

/-! # Scans that cause scans

A walk opens the files that it reads, and a watcher that is told so takes these events for changes.
While nothing else happens, polls and events follow each other on a tree that stays as it is
(`OpeningRun`). How many changes are waiting, noticed or yet to be told, bounds the polls that still
return true if no file that is read is relevant (`OpeningRun.add_waiting_le`). As soon as one is,
every scan brings about the next, without end (`exists_openingRun`). -/

namespace SourceOutline

variable {codecs : Codecs}

/-! ## Files that are opened -/

/-- A walk opens a file that it reads. -/
structure IsOpened (volume : Volume) (settings : Settings) (root file : Path) : Prop where
  reads : Reads volume settings [] (walkStart volume root) file
  readable : ∃ bytes, volume.readBytes file = .ok bytes

/-- The event that a file has been opened. -/
def openedEvent (file : Path) : Watcher.Event where
  source := file.text
  isFolder := false

section

variable {volume : Volume} {settings : Settings} {root file : Path} {result : WalkResult}

theorem IsOpened.exists_node (h : IsOpened volume settings root file)
    (hwalk : walk codecs volume settings root = .ok result) :
    ∃ node ∈ result.snapshot.nodes, node.kind = fileKind ∧ node.sourcePath = file.text := by
  have habsolute := isAbsolute_walkStart volume root
  have hplain := hasNull_walkStart_of_walk hwalk
  obtain ⟨-, reports, hreports⟩ := exists_isMadeOf hwalk
  obtain ⟨names, hfile, rfl⟩ := (reads_start_iff habsolute hplain).1 h.reads
  obtain ⟨before, node, definitions, after, hnodes, hstands, -⟩ :=
    hreports.exists_outline habsolute hplain hfile (exists_scanFile_of_walk hwalk hfile)
  rw [Node.standsAt, Bool.and_eq_true, beq_iff_eq, beq_iff_eq] at hstands
  exact ⟨node, hnodes ▸ List.mem_append_right _ List.mem_cons_self, hstands⟩

theorem isOpened_of_node {node : Node} (hwalk : walk codecs volume settings root = .ok result)
    (hnode : node ∈ result.snapshot.nodes) (hkind : node.kind = fileKind)
    (hread : ∃ bytes, volume.readBytes (Path.ofText node.sourcePath) = .ok bytes) :
    IsOpened volume settings root (Path.ofText node.sourcePath) := by
  have habsolute := isAbsolute_walkStart volume root
  have hplain := hasNull_walkStart_of_walk hwalk
  obtain ⟨-, reports, hreports⟩ := exists_isMadeOf hwalk
  refine ⟨?_, hread⟩
  cases hreports.isNodeOf habsolute hplain node hnode with
  | root => exact absurd hkind folderKind_ne_fileKind
  | folder => exact absurd hkind folderKind_ne_fileKind
  | @file names label parentId hfile =>
    have hpath := ofText_text_below_walkStart volume root names
    exact (reads_start_iff habsolute hplain).2 ⟨names, hfile, hpath⟩
  | definition _ houtline hin =>
    have hdefines := houtline.isDefinition node hin
    rw [Node.isDefinition, hkind] at hdefines
    exact absurd hdefines (by decide)

theorem exists_openings (hwalk : walk codecs volume settings root = .ok result) :
    ∃ opened : List Path, ∀ file, file ∈ opened ↔ IsOpened volume settings root file := by
  classical
  refine ⟨(result.snapshot.nodes.map fun node => Path.ofText node.sourcePath).filter
    fun file => decide (IsOpened volume settings root file), fun file => ?_⟩
  rw [List.mem_filter, decide_eq_true_eq]
  refine and_iff_right_of_imp fun hopened => ?_
  obtain ⟨node, hnode, -, hpath⟩ := hopened.exists_node hwalk
  have hplain := hasNull_walkStart_of_walk hwalk
  obtain ⟨names, -, rfl⟩ := (reads_start_iff (isAbsolute_walkStart volume root) hplain).1
    hopened.reads
  refine List.mem_map.2 ⟨node, hnode, ?_⟩
  rw [hpath, ofText_text_below_walkStart]

end

/-! ## Steps and runs -/

/-- A watcher, the reading of its clock, and the files whose opening it is yet to be told. -/
structure OpeningState where
  watcher : Watcher Rat
  now : Rat
  untold : List Path

section

variable (codecs : Codecs) (volume : Volume)

/-- What happens to a watcher while the tree stays as it is, and whether it is a poll that returns
    true: the clock advances, the watcher is told in any order of files that have been opened, and
    polls scan or not. A scan that fails has opened some of the files. -/
inductive IsOpeningStep : OpeningState → Bool → OpeningState → Prop
  | advance {s : OpeningState} {now : Rat} (hnow : s.now ≤ now) :
      IsOpeningStep s false { s with now }
  | tell {s : OpeningState} {before after : List Path} {file : Path}
      (huntold : s.untold = before ++ file :: after) :
      IsOpeningStep s false { s with
        watcher := (s.watcher.handle s.now (openedEvent file)).1
        untold := before ++ after }
  | idle {s : OpeningState} {next : Watcher Rat}
      (hpoll : s.watcher.poll codecs volume s.now = (next, .ok false)) :
      IsOpeningStep s false { s with watcher := next }
  | scan {s : OpeningState} {next : Watcher Rat} {opened : List Path}
      (hpoll : s.watcher.poll codecs volume s.now = (next, .ok true))
      (hopened : ∀ file, file ∈ opened ↔
        IsOpened volume s.watcher.settings s.watcher.root file) :
      IsOpeningStep s true { s with watcher := next, untold := s.untold ++ opened }
  | fail {s : OpeningState} {next : Watcher Rat} {fault : WalkFault} {opened : List Path}
      (hpoll : s.watcher.poll codecs volume s.now = (next, .error fault))
      (hopened : ∀ file ∈ opened, IsOpened volume s.watcher.settings s.watcher.root file) :
      IsOpeningStep s false { s with watcher := next, untold := s.untold ++ opened }

/-- Runs from a state, with the number of the polls that have returned true. -/
inductive OpeningRun (first : OpeningState) : Nat → OpeningState → Prop
  | start : OpeningRun first 0 first
  | step {n : Nat} {s t : OpeningState} {renewed : Bool} (hrun : OpeningRun first n s)
      (hstep : IsOpeningStep codecs volume s renewed t) : OpeningRun first (n + renewed.toNat) t

end

/-! ## What is waiting -/

/-- Whether a watcher takes notice of the opening of a file. -/
def Watcher.heeds (watcher : Watcher Rat) (file : Path) : Bool :=
  decide (watcher.isRelevant (Path.ofText file.text) false = .ok true)

/-- How many changes are waiting: one if a change has been noticed, and the openings that are to be
    told and will be taken notice of. -/
def OpeningState.waiting (s : OpeningState) : Nat :=
  s.watcher.lastChange.isSome.toNat + s.untold.countP s.watcher.heeds

/-- Two watchers watch the same tree alike. -/
structure Watcher.WatchesAlike (watcher other : Watcher Rat) : Prop where
  root : other.root = watcher.root
  settings : other.settings = watcher.settings
  debounce : other.debounce = watcher.debounce

namespace Watcher.WatchesAlike

variable {watcher other another : Watcher Rat}

theorem refl (watcher : Watcher Rat) : watcher.WatchesAlike watcher :=
  ⟨rfl, rfl, rfl⟩

theorem trans (h : watcher.WatchesAlike other) (hother : other.WatchesAlike another) :
    watcher.WatchesAlike another :=
  ⟨hother.root.trans h.root, hother.settings.trans h.settings, hother.debounce.trans h.debounce⟩

theorem heeds_eq (h : watcher.WatchesAlike other) : other.heeds = watcher.heeds := by
  funext file
  rw [heeds, heeds, isRelevant_congr h.root h.settings]

end Watcher.WatchesAlike

section

variable {volume : Volume} {watcher next : Watcher Rat} {now : Rat} {file : Path}

theorem Watcher.handle_openedEvent (watcher : Watcher Rat) (now : Rat) (file : Path) :
    (watcher.handle now (openedEvent file)).1
      = if watcher.heeds file then { watcher with lastChange := some now } else watcher := by
  unfold heeds
  cases hrelevant : watcher.isRelevant (Path.ofText file.text) false with
  | ok relevant =>
    have hnotify := notify_eq hrelevant now
    simp only [handle, openedEvent, hnotify, if_pos]
    cases relevant <;> rfl
  | error fault =>
    have hnotify : watcher.notify now (Path.ofText file.text) false = .error fault := by
      simp only [notify, hrelevant, bind, Except.bind]
    simp only [handle, openedEvent, hnotify]
    rfl

theorem Watcher.poll_of_not_isDue (volume : Volume) (h : watcher.isDue now = false) :
    watcher.poll codecs volume now = (watcher, .ok false) := by
  simp [poll, check, h]

theorem Watcher.poll_eq_false_iff :
    watcher.poll codecs volume now = (next, .ok false) ↔
      watcher.isDue now = false ∧ next = watcher := by
  cases hdue : watcher.isDue now with
  | false =>
    rw [poll_of_not_isDue volume hdue]
    simp [eq_comm]
  | true =>
    rw [poll_of_isDue volume hdue]
    cases watcher.clear.rescan codecs volume <;> simp

theorem Watcher.poll_eq_true_iff :
    watcher.poll codecs volume now = (next, .ok true) ↔
      watcher.isDue now = true ∧ watcher.clear.rescan codecs volume = .ok next := by
  cases hdue : watcher.isDue now with
  | false => simp [poll_of_not_isDue volume hdue]
  | true =>
    rw [poll_of_isDue volume hdue]
    cases watcher.clear.rescan codecs volume <;> simp

theorem Watcher.poll_eq_error_iff {fault : WalkFault} :
    watcher.poll codecs volume now = (next, .error fault) ↔
      watcher.isDue now = true ∧ watcher.clear.rescan codecs volume = .error fault ∧
        next = watcher.clear := by
  cases hdue : watcher.isDue now with
  | false => simp [poll_of_not_isDue volume hdue]
  | true =>
    rw [poll_of_isDue volume hdue]
    cases watcher.clear.rescan codecs volume <;> simp [eq_comm, and_comm]

theorem Watcher.WatchesAlike.of_poll {outcome : Except WalkFault Bool}
    (h : watcher.poll codecs volume now = (next, outcome)) : watcher.WatchesAlike next := by
  obtain rfl : (watcher.poll codecs volume now).1 = next := congrArg Prod.fst h
  obtain hsame | ⟨polled, hscan, hpolled⟩ | ⟨fault, -, hcleared⟩ :=
    watcher.poll_cases volume now
  · rw [hsame]
    exact .refl watcher
  · rw [hpolled]
    obtain ⟨result, -, rfl⟩ := Watcher.rescan_eq_ok_iff.1 hscan
    exact ⟨rfl, rfl, rfl⟩
  · rw [hcleared]
    exact ⟨rfl, rfl, rfl⟩

theorem Watcher.lastChange_isSome_of_isDue (h : watcher.isDue now = true) :
    watcher.lastChange.isSome = true := by
  obtain ⟨changed, hchanged, -⟩ := isDue_eq_true_iff.1 h
  rw [hchanged]
  rfl

end

/-! ## What steps leave -/

section

variable {volume : Volume} {s t : OpeningState} {renewed : Bool}

theorem IsOpeningStep.watchesAlike (h : IsOpeningStep codecs volume s renewed t) :
    s.watcher.WatchesAlike t.watcher := by
  cases h with
  | advance => exact .refl _
  | @tell before after file huntold =>
    rw [Watcher.handle_openedEvent]
    split
    · exact ⟨rfl, rfl, rfl⟩
    · exact .refl _
  | idle hpoll => exact .of_poll hpoll
  | scan hpoll => exact .of_poll hpoll
  | fail hpoll => exact .of_poll hpoll

theorem OpeningState.waiting_eq (halike : s.watcher.WatchesAlike t.watcher) :
    t.waiting = t.watcher.lastChange.isSome.toNat + t.untold.countP s.watcher.heeds := by
  rw [waiting, halike.heeds_eq]

/-- To tell of an opening adds nothing to what is waiting. -/
theorem IsOpeningStep.waiting_le_of_tell {before after : List Path} {file : Path}
    (huntold : s.untold = before ++ file :: after) :
    OpeningState.waiting { s with
      watcher := (s.watcher.handle s.now (openedEvent file)).1
      untold := before ++ after } ≤ s.waiting := by
  have hsplit : s.untold.countP s.watcher.heeds
      = (before ++ after).countP s.watcher.heeds + (s.watcher.heeds file).toNat := by
    rw [huntold, List.countP_append, List.countP_append, List.countP_cons, ← Nat.add_assoc]
    cases s.watcher.heeds file <;> rfl
  rw [Watcher.handle_openedEvent]
  cases hheeds : s.watcher.heeds file with
  | true =>
    have halike : s.watcher.WatchesAlike { s.watcher with lastChange := some s.now } :=
      ⟨rfl, rfl, rfl⟩
    rw [if_pos rfl, OpeningState.waiting_eq (s := s) halike, OpeningState.waiting, hsplit, hheeds]
    simp only [Option.isSome_some, Bool.toNat_true]
    omega
  | false =>
    rw [if_neg Bool.false_ne_true, OpeningState.waiting, OpeningState.waiting, hsplit]
    exact Nat.add_le_add_left (Nat.le_add_right _ _) _

theorem OpeningState.waiting_of_polled {next : Watcher Rat} (opened : List Path)
    (hdue : s.watcher.isDue s.now = true) (halike : s.watcher.WatchesAlike next)
    (hlast : next.lastChange = none) :
    OpeningState.waiting { s with watcher := next, untold := s.untold ++ opened } + 1
      = s.waiting + opened.countP s.watcher.heeds := by
  rw [waiting_eq (s := s) halike, waiting, hlast, Watcher.lastChange_isSome_of_isDue hdue,
    List.countP_append]
  simp only [Option.isSome_none, Bool.toNat_false, Bool.toNat_true]
  omega

/-- What is waiting, with the polls that return true, does not become more as long as no file that
    is read is relevant. -/
theorem IsOpeningStep.add_waiting_le (h : IsOpeningStep codecs volume s renewed t)
    (hignored : ∀ file, IsOpened volume s.watcher.settings s.watcher.root file →
      s.watcher.heeds file = false) : renewed.toNat + t.waiting ≤ s.waiting := by
  have hnone : ∀ {opened : List Path},
      (∀ file ∈ opened, IsOpened volume s.watcher.settings s.watcher.root file) →
        opened.countP s.watcher.heeds = 0 := fun hopened =>
    List.countP_eq_zero.2 fun file hfile => Bool.eq_false_iff.1 (hignored file (hopened file hfile))
  have halike := h.watchesAlike
  cases h with
  | advance => exact (Nat.zero_add _).le
  | tell huntold => exact (Nat.zero_add _).trans_le (waiting_le_of_tell huntold)
  | idle hpoll =>
    obtain ⟨-, rfl⟩ := Watcher.poll_eq_false_iff.1 hpoll
    exact (Nat.zero_add _).le
  | @scan next opened hpoll hopened =>
    obtain ⟨hdue, hscan⟩ := Watcher.poll_eq_true_iff.1 hpoll
    obtain ⟨result, -, hnext⟩ := Watcher.rescan_eq_ok_iff.1 hscan
    have hwaiting := OpeningState.waiting_of_polled opened hdue halike (hnext ▸ rfl)
    rw [hnone fun file hfile => (hopened file).1 hfile] at hwaiting
    exact (Nat.add_comm _ _).trans_le hwaiting.le
  | @fail next fault opened hpoll hopened =>
    obtain ⟨hdue, -, hnext⟩ := Watcher.poll_eq_error_iff.1 hpoll
    have hwaiting := OpeningState.waiting_of_polled opened hdue halike (hnext ▸ rfl)
    rw [hnone hopened] at hwaiting
    exact (Nat.zero_add _).trans_le ((Nat.le_succ _).trans hwaiting.le)

/-- Where nothing is waiting no poll returns true, and nothing comes to be waiting. -/
theorem IsOpeningStep.of_waiting_eq_zero (h : IsOpeningStep codecs volume s renewed t)
    (hidle : s.waiting = 0) : renewed = false ∧ t.waiting = 0 := by
  have hnotDue : s.watcher.isDue s.now ≠ true := by
    intro hdue
    rw [OpeningState.waiting, Watcher.lastChange_isSome_of_isDue hdue, Bool.toNat_true] at hidle
    omega
  cases h with
  | advance => exact ⟨rfl, hidle⟩
  | tell huntold => exact ⟨rfl, Nat.le_zero.1 ((waiting_le_of_tell huntold).trans hidle.le)⟩
  | idle hpoll =>
    obtain ⟨-, rfl⟩ := Watcher.poll_eq_false_iff.1 hpoll
    exact ⟨rfl, hidle⟩
  | scan hpoll => exact absurd (Watcher.poll_eq_true_iff.1 hpoll).1 hnotDue
  | fail hpoll => exact absurd (Watcher.poll_eq_error_iff.1 hpoll).1 hnotDue

theorem IsOpeningStep.exists_walk (h : IsOpeningStep codecs volume s true t) :
    ∃ result, walk codecs volume s.watcher.settings s.watcher.root = .ok result := by
  cases h with
  | scan hpoll =>
    obtain ⟨-, hscan⟩ := Watcher.poll_eq_true_iff.1 hpoll
    obtain ⟨result, hresult, -⟩ := Watcher.rescan_eq_ok_iff.1 hscan
    exact ⟨result, hresult⟩

end

/-! ## What runs leave -/

namespace OpeningRun

variable {volume : Volume} {s t u : OpeningState} {m n : Nat}

theorem trans (h : OpeningRun codecs volume s m t) (hmore : OpeningRun codecs volume t n u) :
    OpeningRun codecs volume s (m + n) u := by
  induction hmore with
  | start => exact h
  | step _ hstep ih => exact Nat.add_assoc m _ _ ▸ ih.step hstep

theorem watchesAlike (h : OpeningRun codecs volume s n t) : s.watcher.WatchesAlike t.watcher := by
  induction h with
  | start => exact .refl _
  | step _ hstep ih => exact ih.trans hstep.watchesAlike

/-- As long as no file that is read is relevant, no more polls return true than changes have been
    waiting. -/
theorem add_waiting_le (h : OpeningRun codecs volume s n t)
    (hignored : ∀ file, IsOpened volume s.watcher.settings s.watcher.root file →
      s.watcher.heeds file = false) : n + t.waiting ≤ s.waiting := by
  induction h with
  | start => exact (Nat.zero_add _).le
  | @step n t u renewed hrun hstep ih =>
    have halike := hrun.watchesAlike
    have hnext := hstep.add_waiting_le fun file hfile => by
      rw [halike.heeds_eq]
      rw [halike.settings, halike.root] at hfile
      exact hignored file hfile
    omega

theorem of_waiting_eq_zero (h : OpeningRun codecs volume s n t) (hidle : s.waiting = 0) :
    n = 0 ∧ t.waiting = 0 := by
  induction h with
  | start => exact ⟨rfl, hidle⟩
  | step _ hstep ih =>
    obtain ⟨rfl, hbefore⟩ := ih
    obtain ⟨rfl, hafter⟩ := hstep.of_waiting_eq_zero hbefore
    exact ⟨rfl, hafter⟩

theorem of_walk_fails (h : OpeningRun codecs volume s n t)
    (hfails : ∀ result, walk codecs volume s.watcher.settings s.watcher.root ≠ .ok result) :
    n = 0 := by
  induction h with
  | start => rfl
  | @step n t u renewed hrun hstep ih =>
    cases renewed with
    | false => exact ih
    | true =>
      obtain ⟨result, hresult⟩ := hstep.exists_walk
      rw [hrun.watchesAlike.settings, hrun.watchesAlike.root] at hresult
      exact absurd hresult (hfails result)

end OpeningRun

/-! ## Scans without end -/

section

variable {volume : Volume} {s : OpeningState} {seconds : Rat} {result : WalkResult}

variable (codecs volume) in
theorem exists_openingRun_noticed (h : 0 < s.waiting) :
    ∃ t, OpeningRun codecs volume s 0 t ∧ t.watcher.lastChange.isSome = true ∧
      t.waiting = s.waiting := by
  cases hnoticed : s.watcher.lastChange.isSome with
  | true => exact ⟨s, .start, hnoticed, rfl⟩
  | false =>
    rw [OpeningState.waiting, hnoticed, Bool.toNat_false, Nat.zero_add] at h
    obtain ⟨file, hfile, hheeds⟩ := List.countP_pos_iff.1 h
    obtain ⟨before, after, huntold⟩ := List.append_of_mem hfile
    have hhandle := Watcher.handle_openedEvent s.watcher s.now file
    rw [if_pos hheeds] at hhandle
    refine ⟨_, OpeningRun.start.step (.tell huntold), ?_, ?_⟩
    · rw [hhandle]
      rfl
    · have halike : s.watcher.WatchesAlike { s.watcher with lastChange := some s.now } :=
        ⟨rfl, rfl, rfl⟩
      rw [hhandle, OpeningState.waiting_eq (s := s) halike, OpeningState.waiting, hnoticed,
        huntold, List.countP_append, List.countP_append, List.countP_cons_of_pos hheeds]
      simp only [Option.isSome_some, Bool.toNat_true, Bool.toNat_false]
      omega

variable (codecs volume) in
/-- If something is waiting it becomes due when the clock advances. -/
theorem exists_openingRun_due (hdebounce : s.watcher.debounce = .ofSeconds seconds)
    (h : 0 < s.waiting) :
    ∃ t, OpeningRun codecs volume s 0 t ∧ t.watcher.isDue t.now = true ∧ t.waiting = s.waiting := by
  obtain ⟨t, hrun, hnoticed, hwaiting⟩ := exists_openingRun_noticed codecs volume h
  obtain ⟨changed, hchanged⟩ := Option.isSome_iff_exists.1 hnoticed
  obtain ⟨now, hnow, hlate⟩ := exists_ge_ge t.now (changed + seconds)
  refine ⟨_, hrun.step (.advance hnow), ?_, hwaiting⟩
  refine Watcher.isDue_eq_true_iff.2 ⟨changed, hchanged, ?_⟩
  rw [hrun.watchesAlike.debounce, hdebounce, Debounce.ofSeconds, decide_eq_false_iff_not,
    Rat.not_lt]
  exact Rat.le_sub_iff.2 (Rat.add_comm changed seconds ▸ hlate)

/-- If something is waiting and the walk returns, one more poll can return true. What was waiting is
    one less then, but for the files that the walk has opened. -/
theorem exists_openingRun_scanned (hdebounce : s.watcher.debounce = .ofSeconds seconds)
    (hwalk : walk codecs volume s.watcher.settings s.watcher.root = .ok result)
    (h : 0 < s.waiting) :
    ∃ t, OpeningRun codecs volume s 1 t ∧ s.waiting ≤ t.waiting + 1 ∧
      ((∃ file, IsOpened volume s.watcher.settings s.watcher.root file ∧
        s.watcher.heeds file = true) → s.waiting ≤ t.waiting) := by
  obtain ⟨t, hrun, hdue, hwaiting⟩ := exists_openingRun_due codecs volume hdebounce h
  obtain ⟨opened, hopened⟩ := exists_openings hwalk
  have halike := hrun.watchesAlike
  have hwalkNow : walk codecs volume t.watcher.clear.settings t.watcher.clear.root = .ok result :=
    (congrArg₂ (walk codecs volume) halike.settings halike.root).trans hwalk
  have hscan := Watcher.rescan_eq_ok_iff.2 ⟨result, hwalkNow, rfl⟩
  have hpoll := Watcher.poll_eq_true_iff.2 ⟨hdue, hscan⟩
  have hlisted : ∀ file, file ∈ opened ↔
      IsOpened volume t.watcher.settings t.watcher.root file := by
    rwa [halike.settings, halike.root]
  have hstep := IsOpeningStep.scan hpoll hlisted
  have hafter := OpeningState.waiting_of_polled opened hdue hstep.watchesAlike rfl
  rw [hwaiting, halike.heeds_eq] at hafter
  refine ⟨_, hrun.step hstep, (Nat.le_add_right _ _).trans hafter.ge, ?_⟩
  rintro ⟨file, hfile, hheeds⟩
  have hone : 1 ≤ opened.countP s.watcher.heeds :=
    List.countP_pos_iff.2 ⟨file, (hopened file).2 hfile, hheeds⟩
  exact Nat.le_of_add_le_add_right ((Nat.add_le_add_left hone _).trans hafter.ge)

/-- If something is waiting, the walk returns and a file that it reads is relevant, any number of
    polls can return true. -/
theorem exists_openingRun (hdebounce : s.watcher.debounce = .ofSeconds seconds)
    (hwalk : walk codecs volume s.watcher.settings s.watcher.root = .ok result) (h : 0 < s.waiting)
    {file : Path} (hfile : IsOpened volume s.watcher.settings s.watcher.root file)
    (hheeds : s.watcher.heeds file = true) (n : Nat) : ∃ t, OpeningRun codecs volume s n t := by
  induction n generalizing s with
  | zero => exact ⟨s, .start⟩
  | succ n ih =>
    obtain ⟨t, hrun, -, hmore⟩ := exists_openingRun_scanned hdebounce hwalk h
    have halike := hrun.watchesAlike
    obtain ⟨u, hlater⟩ := ih (halike.debounce.trans hdebounce)
      (by rwa [halike.settings, halike.root]) (h.trans_le (hmore ⟨file, hfile, hheeds⟩))
      (by rwa [halike.settings, halike.root]) (by rwa [halike.heeds_eq])
    exact ⟨u, Nat.add_comm 1 n ▸ hrun.trans hlater⟩

end

/-! ## Which openings are relevant -/

/-- A watcher whose root is the path that the walk starts from takes notice of every file that the
    walk opens. -/
theorem IsOpened.heeds {volume : Volume} {watcher : Watcher Rat} {file : Path}
    (h : IsOpened volume watcher.settings watcher.root file)
    (hroot : walkStart volume watcher.root = watcher.root) : watcher.heeds file = true := by
  have habsolute := isAbsolute_walkStart volume watcher.root
  have hplain : (walkStart volume watcher.root).hasNull = false := by
    cases h.reads with
    | direct hopens => exact hopens.plain
    | deeper hopens => exact hopens.plain
  obtain ⟨names, ⟨outer, name, rfl, hopen, hincluded, hsupported, -⟩, rfl⟩ :=
    (reads_start_iff habsolute hplain).1 h.reads
  have hnone : ((outer ++ [name]).map Step.down).any
      (fun step => watcher.settings.isExcluded step.text) = false := by
    refine List.any_eq_false.2 fun step hstep => Bool.eq_false_iff.1 ?_
    obtain ⟨inner, hinner, rfl⟩ := List.mem_map.1 hstep
    rcases List.mem_append.1 hinner with houter | hlast
    · exact hopen.included inner houter
    · obtain rfl := List.mem_singleton.1 hlast
      exact hincluded
  refine decide_eq_true ?_
  rw [ofText_text_below_walkStart, hroot, Watcher.isRelevant, Path.stepsBelow?_below]
  simp only [hnone, Path.fileName_below]
  exact hsupported

/-! ## Polls that return true -/

/-- On a tree that stays as it is, while nothing but the opening of files that walks read is told
    of, at most one more poll returns true exactly if the walk fails, or nothing is waiting, or only
    one change is and the walk opens no file that the watcher takes notice of. Otherwise, if it
    opens one, polls return true without end. A watcher whose root is the path that the walk starts
    from takes notice of every file that is opened. -/
theorem polls_after_openings {volume : Volume} {s : OpeningState} {seconds : Rat}
    (hdebounce : s.watcher.debounce = .ofSeconds seconds) :
    ((∀ n t, OpeningRun codecs volume s n t → n ≤ 1) ↔
      (∀ result, walk codecs volume s.watcher.settings s.watcher.root ≠ .ok result) ∨
        s.waiting = 0 ∨
        s.waiting = 1 ∧ ∀ file, IsOpened volume s.watcher.settings s.watcher.root file →
          s.watcher.heeds file = false) ∧
    ((∃ result, walk codecs volume s.watcher.settings s.watcher.root = .ok result) → s.waiting ≠ 0 →
      (∃ file, IsOpened volume s.watcher.settings s.watcher.root file ∧
        s.watcher.heeds file = true) → ∀ n, ∃ t, OpeningRun codecs volume s n t) ∧
    (walkStart volume s.watcher.root = s.watcher.root →
      ∀ file, IsOpened volume s.watcher.settings s.watcher.root file →
        s.watcher.heeds file = true) := by
  refine ⟨⟨fun hone => ?_, ?_⟩, ?_, fun hroot file hfile => hfile.heeds hroot⟩
  · by_contra hnot
    simp only [not_or, not_forall, not_not] at hnot
    obtain ⟨⟨result, hwalk⟩, hwaiting, hmore⟩ := hnot
    have hpos := Nat.pos_of_ne_zero hwaiting
    obtain ⟨t, hrun, hless, hkept⟩ := exists_openingRun_scanned hdebounce hwalk hpos
    have halike := hrun.watchesAlike
    -- after one scan something is waiting still, so a second one follows
    have hstill : 0 < t.waiting := by
      by_cases hmany : s.waiting = 1
      · have hheeded : ∃ file, IsOpened volume s.watcher.settings s.watcher.root file ∧
            s.watcher.heeds file = true := by
          by_contra hnone
          refine hmore ⟨hmany, fun file hfile => Bool.eq_false_iff.2 fun hheeds => hnone ?_⟩
          exact ⟨file, hfile, hheeds⟩
        exact hpos.trans_le (hkept hheeded)
      · omega
    obtain ⟨u, hlater, -⟩ := exists_openingRun_scanned (halike.debounce.trans hdebounce)
      (by rwa [halike.settings, halike.root]) hstill
    exact absurd (hone _ u (hrun.trans hlater)) (by decide)
  · rintro (hfails | hidle | ⟨hwaiting, hignored⟩) n t hrun
    · exact (hrun.of_walk_fails hfails).trans_le (Nat.zero_le 1)
    · exact (hrun.of_waiting_eq_zero hidle).1.trans_le (Nat.zero_le 1)
    · exact hwaiting ▸ (Nat.le_add_right _ _).trans (hrun.add_waiting_le hignored)
  · rintro ⟨result, hwalk⟩ hwaiting ⟨file, hfile, hheeds⟩ n
    exact exists_openingRun hdebounce hwalk (Nat.pos_of_ne_zero hwaiting) hfile hheeds n

/-- A watcher that has noticed a change, two seconds before it is due. -/
def noticedState : OpeningState where
  watcher := { emptyWatcher "utf-8" with lastChange := some 0 }
  now := 0
  untold := []

theorem not_isOpened_emptyRepository (file : Path) :
    ¬ IsOpened emptyRepository noticedState.watcher.settings noticedState.watcher.root file := by
  intro hopened
  obtain ⟨node, hnode, hkind, -⟩ := hopened.exists_node (walk_noFile "utf-8" List.mem_cons_self)
  obtain rfl := List.mem_singleton.1 hnode
  exact absurd hkind folderKind_ne_fileKind

/-- There one poll returns true and no other. -/
theorem polls_after_openings_emptyRepository :
    noticedState.watcher.debounce = .ofSeconds 2 ∧
    (∃ t, OpeningRun Encoding.codecs emptyRepository noticedState 1 t) ∧
    ∀ n t, OpeningRun Encoding.codecs emptyRepository noticedState n t → n ≤ 1 := by
  have hempty := walk_noFile "utf-8" List.mem_cons_self
  obtain ⟨t, hrun, -⟩ := exists_openingRun_scanned (s := noticedState) rfl hempty Nat.one_pos
  obtain ⟨hone, -, -⟩ := @polls_after_openings Encoding.codecs emptyRepository noticedState 2 rfl
  refine ⟨rfl, ⟨t, hrun⟩, hone.2 (.inr (.inr ⟨rfl, fun file hfile => ?_⟩))⟩
  exact absurd hfile (not_isOpened_emptyRepository file)

/-- In a repository with a file, each scan brings about the next: two polls return true after a
    single change, and so do any number of them. -/
theorem openings_repeat_plainRepository :
    noticedState.waiting = 1 ∧
    IsOpened plainRepository noticedState.watcher.settings noticedState.watcher.root
      (Path.ofText "/repo/a.py") ∧
    (∀ n, ∃ t, OpeningRun Encoding.codecs plainRepository noticedState n t) ∧
    ¬ ∀ n t, OpeningRun Encoding.codecs plainRepository noticedState n t → n ≤ 1 := by
  have hopened : IsOpened plainRepository noticedState.watcher.settings noticedState.watcher.root
      (Path.ofText "/repo/a.py") := by
    have hnode : fileNode (Path.ofText "/repo/a.py") "a.py" (folderId "/repo")
        ∈ plainSnapshot.nodes := List.mem_cons_of_mem _ List.mem_cons_self
    have hpath : (Path.ofText "/repo/a.py").text = "/repo/a.py" := by decide +kernel
    have hread : plainRepository.readBytes (Path.ofText "/repo/a.py")
        = .ok (encodeUtf8 "x = 1\n".toList) := by decide +kernel
    have hfile := isOpened_of_node walk_newFile hnode rfl (by
      rw [fileNode, hpath]
      exact ⟨_, hread⟩)
    rw [fileNode, hpath] at hfile
    exact hfile
  have hheeds : noticedState.watcher.heeds (Path.ofText "/repo/a.py") = true :=
    decide_eq_true (isRelevant_newFile "utf-8")
  have hruns := exists_openingRun (s := noticedState) rfl walk_newFile Nat.one_pos hopened hheeds
  refine ⟨rfl, hopened, hruns, fun hone => ?_⟩
  obtain ⟨t, hrun⟩ := hruns 2
  exact absurd (hone 2 t hrun) (by decide)

end SourceOutline
