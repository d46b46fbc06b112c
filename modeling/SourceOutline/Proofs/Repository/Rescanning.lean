import Mathlib.Data.List.Nodup
import SourceOutline.Proofs.Repository.Polling

set_option autoImplicit false

/-! # Scans that overlap

A scan takes two steps: under a lock it walks and renews the snapshot, remembering the one that it
replaces, and then, without the lock, it reports the snapshot that it has replaced and the one that
the watcher has. Other scans may come between the two steps. The renewals make a chain in which each
goes on from the snapshot that the one before has left, and each is reported once, by its own scan,
with the snapshot that it has replaced. But what is reported as new is the latest snapshot, which is
that of the scan only if no other has renewed it since (`reports_of_run`). -/

namespace SourceOutline

variable {codecs : Codecs}

/-! ## Steps and runs -/

/-- What happens to a watcher that is told to scan. Scans are told apart by numbers, and a change is
    told by the snapshots before and after it. -/
inductive ScanEvent where
  /-- The first step of a scan: it renews the snapshot. -/
  | renewed (scan : Nat) (change : Snapshot × Snapshot)
  /-- The first step of a scan whose walk fails. The snapshot stays, and the scan ends. -/
  | failed (scan : Nat) (fault : WalkFault)
  /-- The second step of a scan: it reports a change. -/
  | reported (scan : Nat) (change : Snapshot × Snapshot)
  /-- A notice, or the check of a poll: neither alters anything but what is waiting. -/
  | attended

/-- A watcher, the scans that have been begun, and those of them that are yet to report, with the
    snapshots that they have replaced. -/
structure ScanState (τ : Type) where
  watcher : Watcher τ
  begun : List Nat := []
  pending : List (Nat × Snapshot) := []

section

variable {τ : Type}

/-- What a step can be. A walk reads the tree as it is at that time. -/
inductive IsScanStep (codecs : Codecs) : ScanState τ → ScanEvent → ScanState τ → Prop
  | renew {s : ScanState τ} {scan : Nat} {volume : Volume} {next : Watcher τ}
      (hnew : scan ∉ s.begun) (hscan : s.watcher.rescan codecs volume = .ok next) :
      IsScanStep codecs s (.renewed scan (s.watcher.snapshot, next.snapshot))
        { watcher := next
          begun := scan :: s.begun
          pending := (scan, s.watcher.snapshot) :: s.pending }
  | fail {s : ScanState τ} {scan : Nat} {volume : Volume} {fault : WalkFault}
      (hnew : scan ∉ s.begun) (hscan : s.watcher.rescan codecs volume = .error fault) :
      IsScanStep codecs s (.failed scan fault) { s with begun := scan :: s.begun }
  | report {s : ScanState τ} {scan : Nat} {previous : Snapshot}
      (hpending : (scan, previous) ∈ s.pending) :
      IsScanStep codecs s (.reported scan (s.watcher.report previous))
        { s with pending := s.pending.erase (scan, previous) }
  | attend {s : ScanState τ} (waiting : Option τ) :
      IsScanStep codecs s .attended { s with watcher := { s.watcher with lastChange := waiting } }

/-- The runs of a watcher that nobody has told to scan yet: their events, latest first, and the
    state at the end. -/
inductive ScanRun (codecs : Codecs) (first : Watcher τ) : List ScanEvent → ScanState τ → Prop
  | start : ScanRun codecs first [] { watcher := first }
  | step {events : List ScanEvent} {s t : ScanState τ} {event : ScanEvent}
      (hrun : ScanRun codecs first events s) (hstep : IsScanStep codecs s event t) :
      ScanRun codecs first (event :: events) t

end

/-! ## What the events say -/

/-- The change that a scan has made. -/
def ScanEvent.change? : ScanEvent → Option (Nat × Snapshot × Snapshot)
  | renewed scan change => some (scan, change)
  | _ => none

/-- The change that a scan has reported. -/
def ScanEvent.report? : ScanEvent → Option (Nat × Snapshot × Snapshot)
  | reported scan change => some (scan, change)
  | _ => none

/-- The changes that scans have made, in order, with the scans. -/
def changesOf (events : List ScanEvent) : List (Nat × Snapshot × Snapshot) :=
  (events.filterMap ScanEvent.change?).reverse

/-- The changes that scans have reported, in order, with the scans. -/
def reportsOf (events : List ScanEvent) : List (Nat × Snapshot × Snapshot) :=
  (events.filterMap ScanEvent.report?).reverse

/-- The snapshots that scans have stored, in order. -/
def storedOf (events : List ScanEvent) : List Snapshot :=
  (changesOf events).map (·.2.2)

/-- The snapshot that the latest scan has stored; at first it is that of the watcher. -/
def latestOf (first : Snapshot) (events : List ScanEvent) : Snapshot :=
  (storedOf events).getLast?.getD first

/-- Each of some snapshots with the one that comes before it. -/
def consecutive : Snapshot → List Snapshot → List (Snapshot × Snapshot)
  | _, [] => []
  | previous, snapshot :: rest => (previous, snapshot) :: consecutive snapshot rest

theorem consecutive_append (first : Snapshot) (stored : List Snapshot) (next : Snapshot) :
    consecutive first (stored ++ [next])
      = consecutive first stored ++ [(stored.getLast?.getD first, next)] := by
  induction stored generalizing first with
  | nil => rfl
  | cons snapshot rest ih =>
    rw [List.cons_append, consecutive, consecutive, ih, List.cons_append]
    cases rest <;> rfl

/-- What a scan has replaced, of a change that it has made or reported. -/
def replacedBy (change : Nat × Snapshot × Snapshot) : Nat × Snapshot :=
  (change.1, change.2.1)

/-- Every scan reports before another one renews the snapshot: at a report the latest change is that
    of the scan. -/
def IsPrompt : List ScanEvent → Prop
  | [] => True
  | .reported scan _ :: earlier =>
    (changesOf earlier).getLast?.map (·.1) = some scan ∧ IsPrompt earlier
  | _ :: earlier => IsPrompt earlier

section Events

variable {event : ScanEvent} {events : List ScanEvent} {scan : Nat} {change : Snapshot × Snapshot}

theorem changesOf_renewed :
    changesOf (.renewed scan change :: events) = changesOf events ++ [(scan, change)] := by
  simp [changesOf, ScanEvent.change?]

theorem storedOf_renewed :
    storedOf (.renewed scan change :: events) = storedOf events ++ [change.2] := by
  rw [storedOf, changesOf_renewed, List.map_append]
  rfl

theorem latestOf_renewed (first : Snapshot) :
    latestOf first (.renewed scan change :: events) = change.2 := by
  rw [latestOf, storedOf_renewed, List.getLast?_concat]
  rfl

theorem changesOf_cons (h : event.change? = none) :
    changesOf (event :: events) = changesOf events := by
  simp [changesOf, h]

theorem reportsOf_reported :
    reportsOf (.reported scan change :: events) = reportsOf events ++ [(scan, change)] := by
  simp [reportsOf, ScanEvent.report?]

theorem reportsOf_cons (h : event.report? = none) :
    reportsOf (event :: events) = reportsOf events := by
  simp [reportsOf, h]

theorem mem_changesOf_iff : (scan, change) ∈ changesOf events ↔ .renewed scan change ∈ events := by
  rw [changesOf, List.mem_reverse, List.mem_filterMap]
  constructor
  · rintro ⟨event, hevent, hchange⟩
    cases event <;> cases hchange
    exact hevent
  · exact fun hevent => ⟨_, hevent, rfl⟩

theorem mem_reportsOf_iff :
    (scan, change) ∈ reportsOf events ↔ .reported scan change ∈ events := by
  rw [reportsOf, List.mem_reverse, List.mem_filterMap]
  constructor
  · rintro ⟨event, hevent, hreport⟩
    cases event <;> cases hreport
    exact hevent
  · exact fun hevent => ⟨_, hevent, rfl⟩

/-- Of prompt scans the latest change at a report is that of the scan. -/
theorem IsPrompt.exists_getLast? {later earlier : List ScanEvent}
    (h : IsPrompt (later ++ .reported scan change :: earlier)) :
    ∃ own, (changesOf earlier).getLast? = some (scan, own) := by
  induction later with
  | nil =>
    obtain ⟨⟨scan, own⟩, hlatest, rfl⟩ := Option.map_eq_some_iff.1 h.1
    exact ⟨own, hlatest⟩
  | cons event later ih =>
    cases event with
    | reported => exact ih h.2
    | renewed | failed | attended => exact ih h

end Events

/-! ## What a run preserves -/

section

variable {τ : Type}

/-- A state to which events lead from a watcher: its snapshot is the latest that has been stored,
    the changes make a chain, and each of them has been reported or is yet to be, with the snapshot
    that its own scan has replaced. -/
structure ScanState.Matches (first : Watcher τ) (events : List ScanEvent) (state : ScanState τ) :
    Prop where
  snapshot_eq : state.watcher.snapshot = latestOf first.snapshot events
  counted : state.watcher.scanCount = first.scanCount + (changesOf events).length
  chain : (changesOf events).map (·.2) = consecutive first.snapshot (storedOf events)
  accounted : ((reportsOf events).map replacedBy ++ state.pending).Perm
    ((changesOf events).map replacedBy)
  begun : ∀ change ∈ changesOf events, change.1 ∈ state.begun
  distinct : ((changesOf events).map (·.1)).Nodup
  failed : ∀ scan fault, .failed scan fault ∈ events →
    scan ∈ state.begun ∧ ∀ change, (scan, change) ∉ changesOf events

namespace ScanState.Matches

variable {first : Watcher τ} {events : List ScanEvent} {s t : ScanState τ} {event : ScanEvent}

theorem of_change?_eq_none (h : s.Matches first events) (hchange : event.change? = none)
    (hsnapshot : t.watcher.snapshot = s.watcher.snapshot)
    (hcount : t.watcher.scanCount = s.watcher.scanCount)
    (haccounted : ((reportsOf (event :: events)).map replacedBy ++ t.pending).Perm
      ((reportsOf events).map replacedBy ++ s.pending))
    (hbegun : ∀ scan ∈ s.begun, scan ∈ t.begun)
    (hfailed : ∀ scan fault, event = .failed scan fault → scan ∈ t.begun ∧ scan ∉ s.begun) :
    t.Matches first (event :: events) := by
  have hchanges : changesOf (event :: events) = changesOf events := changesOf_cons hchange
  refine ⟨?_, ?_, ?_, ?_, fun change hmem => ?_, ?_, fun scan fault hmem => ?_⟩
  · rw [hsnapshot, h.snapshot_eq, latestOf, latestOf, storedOf, storedOf, hchanges]
  · rw [hcount, h.counted, hchanges]
  · rw [storedOf, hchanges, h.chain, storedOf]
  · rw [hchanges]
    exact haccounted.trans h.accounted
  · exact hbegun _ (h.begun change (hchanges ▸ hmem))
  · rw [hchanges]
    exact h.distinct
  · rw [hchanges]
    rcases List.mem_cons.1 hmem with heq | hearlier
    · obtain ⟨hnow, hnew⟩ := hfailed scan fault heq.symm
      exact ⟨hnow, fun change hchanged => hnew (h.begun _ hchanged)⟩
    · exact ⟨hbegun _ (h.failed scan fault hearlier).1, (h.failed scan fault hearlier).2⟩

theorem of_renewed {scan : Nat} {next : Watcher τ} (h : s.Matches first events)
    (hnew : scan ∉ s.begun) (hcount : next.scanCount = s.watcher.scanCount + 1) :
    ScanState.Matches first (.renewed scan (s.watcher.snapshot, next.snapshot) :: events)
      { watcher := next
        begun := scan :: s.begun
        pending := (scan, s.watcher.snapshot) :: s.pending } := by
  have hchanges : changesOf (.renewed scan (s.watcher.snapshot, next.snapshot) :: events)
      = changesOf events ++ [(scan, s.watcher.snapshot, next.snapshot)] := changesOf_renewed
  refine ⟨?_, ?_, ?_, ?_, fun change hmem => ?_, ?_, fun other fault hmem => ?_⟩
  · rw [latestOf_renewed]
  · rw [hcount, h.counted, hchanges, List.length_append]
    rfl
  · rw [storedOf_renewed, consecutive_append, hchanges, List.map_append, h.chain, h.snapshot_eq]
    rfl
  · rw [reportsOf_cons rfl, hchanges, List.map_append]
    exact List.perm_middle.trans
      ((h.accounted.cons _).trans (List.perm_append_singleton _ _).symm)
  · rw [hchanges] at hmem
    rcases List.mem_append.1 hmem with hbefore | hnow
    · exact List.mem_cons_of_mem _ (h.begun change hbefore)
    · rw [List.mem_singleton.1 hnow]
      exact List.mem_cons_self
  · rw [hchanges, List.map_append]
    refine (List.perm_append_singleton _ _).nodup_iff.2
      (List.nodup_cons.2 ⟨fun hin => ?_, h.distinct⟩)
    obtain ⟨change, hchange, hscan⟩ := List.mem_map.1 hin
    have hbegun := h.begun change hchange
    rw [hscan] at hbegun
    exact hnew hbegun
  · obtain ⟨hbegun, hnone⟩ := h.failed other fault ((List.mem_cons.1 hmem).resolve_left nofun)
    refine ⟨List.mem_cons_of_mem _ hbegun, fun change hchange => ?_⟩
    rw [hchanges] at hchange
    rcases List.mem_append.1 hchange with hbefore | hnow
    · exact hnone change hbefore
    · obtain ⟨rfl, -⟩ := Prod.mk.inj (List.mem_singleton.1 hnow)
      exact hnew hbegun

theorem step (h : s.Matches first events) (hstep : IsScanStep codecs s event t) :
    t.Matches first (event :: events) := by
  cases hstep with
  | renew hnew hscan =>
    obtain ⟨result, -, rfl⟩ := Watcher.rescan_eq_ok_iff.1 hscan
    exact h.of_renewed hnew rfl
  | fail hnew hscan =>
    refine h.of_change?_eq_none rfl rfl rfl (.refl _) (fun _ => List.mem_cons_of_mem _) ?_
    rintro scan fault heq
    obtain ⟨rfl, -⟩ := ScanEvent.failed.inj heq
    exact ⟨List.mem_cons_self, hnew⟩
  | @report scan previous hpending =>
    refine h.of_change?_eq_none rfl rfl rfl ?_ (fun _ => id) nofun
    rw [reportsOf_reported, List.map_append, List.append_assoc]
    exact ((List.perm_cons_erase hpending).symm).append_left _
  | attend waiting => exact h.of_change?_eq_none rfl rfl rfl (.refl _) (fun _ => id) nofun

/-- If each report is of a change that its scan has made, the reports are the changes. -/
theorem reports_perm (h : s.Matches first events) (hpending : s.pending = [])
    (hreports : ∀ report ∈ reportsOf events, report ∈ changesOf events) :
    (reportsOf events).Perm (changesOf events) := by
  have hscans : ((reportsOf events).map (·.1)).Perm ((changesOf events).map (·.1)) := by
    have haccounted := h.accounted.map (·.1)
    rw [hpending, List.append_nil, List.map_map, List.map_map] at haccounted
    exact haccounted
  refine (List.perm_ext_iff_of_nodup (List.Nodup.of_map _ (hscans.nodup_iff.2 h.distinct))
    (List.Nodup.of_map _ h.distinct)).2 fun change => ⟨hreports change, fun hchange => ?_⟩
  -- the report of the scan is of its own change
  obtain ⟨report, hreport, hscan⟩ := List.mem_map.1 (hscans.mem_iff.2 (List.mem_map_of_mem hchange))
  rwa [← List.inj_on_of_nodup_map h.distinct (hreports report hreport) hchange hscan]

end ScanState.Matches

namespace ScanRun

variable {first : Watcher τ} {events : List ScanEvent} {s : ScanState τ}

theorem matches' (h : ScanRun codecs first events s) : s.Matches first events := by
  induction h with
  | start => exact ⟨rfl, rfl, rfl, .refl _, nofun, .nil, nofun⟩
  | step _ hstep ih => exact ih.step hstep

theorem split {event : ScanEvent} {earlier : List ScanEvent} :
    ∀ {later : List ScanEvent} {last : ScanState τ},
      ScanRun codecs first (later ++ event :: earlier) last →
      ∃ s t, ScanRun codecs first earlier s ∧ IsScanStep codecs s event t := by
  intro later
  induction later with
  | nil =>
    intro last h
    cases h with
    | step hrun hstep => exact ⟨_, _, hrun, hstep⟩
  | cons other later ih =>
    intro last h
    cases h with
    | step hrun _ => exact ih hrun

/-- A scan that reports before another one renews the snapshot reports its own change. -/
theorem mem_changesOf_of_isPrompt (h : ScanRun codecs first events s) (hprompt : IsPrompt events) :
    ∀ report ∈ reportsOf events, report ∈ changesOf events := by
  rintro ⟨scan, change⟩ hreport
  obtain ⟨later, earlier, rfl⟩ := List.append_of_mem (mem_reportsOf_iff.1 hreport)
  obtain ⟨s, t, hearlier, hstep⟩ := h.split
  obtain ⟨own, hlatest⟩ := hprompt.exists_getLast?
  have hown := List.mem_of_getLast? hlatest
  have hmatches := hearlier.matches'
  cases hstep with
  | @report _ previous hpending =>
    -- a scan makes one change, so the snapshot that it has replaced is that of its own
    obtain ⟨made, hmade, hreplaced⟩ :=
      List.mem_map.1 (hmatches.accounted.mem_iff.1 (List.mem_append_right _ hpending))
    have hscan : made.1 = scan := congrArg Prod.fst hreplaced
    obtain rfl := List.inj_on_of_nodup_map hmatches.distinct hmade hown hscan
    have hcurrent : s.watcher.snapshot = own.2 := by
      rw [hmatches.snapshot_eq, latestOf, storedOf, List.getLast?_map, hlatest]
      rfl
    have hchange : s.watcher.report previous = own :=
      Prod.ext (congrArg Prod.snd hreplaced).symm hcurrent
    rw [hchange]
    exact mem_changesOf_iff.2 (List.mem_append_right _ (List.mem_cons_of_mem _
      (mem_changesOf_iff.1 hown)))

end ScanRun

/-- Whatever the order of the steps of scans, and however the tree changes meanwhile: each renewal
    goes on from the snapshot that the one before has left, and the scans that are counted are the
    renewals. Every renewal is reported once, by its own scan and with the snapshot that it has
    replaced, or is yet to be, and a scan that fails reports nothing. What is reported as new is the
    latest snapshot. So once all scans have reported, the reports are the changes from each snapshot
    to the next, in some order, if every scan has reported before another one has renewed the
    snapshot. -/
theorem reports_of_run {first : Watcher τ} {events : List ScanEvent} {last : ScanState τ}
    (hrun : ScanRun codecs first events last) :
    (changesOf events).map (·.2) = consecutive first.snapshot (storedOf events) ∧
    last.watcher.snapshot = latestOf first.snapshot events ∧
    last.watcher.scanCount = first.scanCount + (changesOf events).length ∧
    ((reportsOf events).map replacedBy ++ last.pending).Perm
      ((changesOf events).map replacedBy) ∧
    (∀ scan fault change, .failed scan fault ∈ events → .reported scan change ∉ events) ∧
    (∀ later scan change earlier, events = later ++ .reported scan change :: earlier →
      change.2 = latestOf first.snapshot earlier) ∧
    (last.pending = [] → IsPrompt events →
      ((reportsOf events).map (·.2)).Perm (consecutive first.snapshot (storedOf events))) := by
  have hlast := hrun.matches'
  refine ⟨hlast.chain, hlast.snapshot_eq, hlast.counted, hlast.accounted, ?_, ?_, ?_⟩
  · intro scan fault change hfailed hreported
    have hreplaced := hlast.accounted.mem_iff.1 (List.mem_append_left last.pending
      (List.mem_map_of_mem (mem_reportsOf_iff.2 hreported)))
    obtain ⟨⟨made, own⟩, hmade, heq⟩ := List.mem_map.1 hreplaced
    obtain rfl : made = scan := congrArg Prod.fst heq
    exact (hlast.failed made fault hfailed).2 own hmade
  · rintro later scan change earlier rfl
    obtain ⟨s, t, hearlier, hstep⟩ := hrun.split
    cases hstep with
    | report => exact hearlier.matches'.snapshot_eq
  · intro hpending hprompt
    rw [← hlast.chain]
    exact (hlast.reports_perm hpending (hrun.mem_changesOf_of_isPrompt hprompt)).map _

end

/-! ## A new file that is removed again -/

/-- What changes when the file is made. -/
def newFileChange : Snapshot × Snapshot :=
  (emptySnapshot, plainSnapshot)

/-- The watcher of an empty repository after a scan that has found the file, and after another one
    that has found it gone. -/
def newFileWatcher : Watcher Rat :=
  { emptyWatcher "utf-8" with snapshot := plainSnapshot, scanCount := 1 }

@[inherit_doc newFileWatcher]
def noFileWatcher : Watcher Rat :=
  { emptyWatcher "utf-8" with snapshot := emptySnapshot, scanCount := 2 }

theorem scanRun_newFile :
    ScanRun Encoding.codecs (emptyWatcher "utf-8") [.renewed 0 newFileChange]
      { watcher := newFileWatcher, begun := [0], pending := [(0, emptySnapshot)] } := by
  have hscan : (emptyWatcher "utf-8").rescan Encoding.codecs plainRepository = .ok newFileWatcher :=
    Watcher.rescan_eq_ok_iff.2 ⟨_, walk_newFile, rfl⟩
  exact ScanRun.start.step (@IsScanStep.renew _ _ _ 0 _ newFileWatcher List.not_mem_nil hscan)

/-- If the scan reports at once, it reports the new file. -/
theorem reports_of_newFile :
    ∃ last, ScanRun Encoding.codecs (emptyWatcher "utf-8")
        [.reported 0 newFileChange, .renewed 0 newFileChange] last ∧ last.pending = [] ∧
      IsPrompt [.reported 0 newFileChange, .renewed 0 newFileChange] ∧
      [newFileChange].Perm (consecutive emptySnapshot [plainSnapshot]) := by
  have hrun := scanRun_newFile.step (.report List.mem_cons_self)
  have hprompt : IsPrompt [.reported 0 newFileChange, .renewed 0 newFileChange] := ⟨rfl, trivial⟩
  obtain ⟨-, -, -, -, -, -, hreports⟩ := reports_of_run hrun
  exact ⟨_, hrun, rfl, hprompt, hreports rfl hprompt⟩

/-- If another scan finds the file gone before the first one reports, the first one reports that
    nothing has changed, and no report tells that the file had come. -/
theorem scanRun_overlapping :
    ScanRun Encoding.codecs (emptyWatcher "utf-8")
      [.reported 0 (emptySnapshot, emptySnapshot), .reported 1 (plainSnapshot, emptySnapshot),
        .renewed 1 (plainSnapshot, emptySnapshot), .renewed 0 newFileChange]
      { watcher := noFileWatcher, begun := [1, 0] } := by
  have hscan : newFileWatcher.rescan Encoding.codecs emptyRepository = .ok noFileWatcher :=
    Watcher.rescan_eq_ok_iff.2 ⟨_, walk_noFile "utf-8" (by decide), rfl⟩
  have hrenewed : ScanRun Encoding.codecs (emptyWatcher "utf-8")
      [.renewed 1 (plainSnapshot, emptySnapshot), .renewed 0 newFileChange]
      { watcher := noFileWatcher, begun := [1, 0],
        pending := [(1, plainSnapshot), (0, emptySnapshot)] } :=
    scanRun_newFile.step (@IsScanStep.renew _ _ _ 1 _ noFileWatcher (by decide) hscan)
  have hreported : ScanRun Encoding.codecs (emptyWatcher "utf-8")
      [.reported 1 (plainSnapshot, emptySnapshot), .renewed 1 (plainSnapshot, emptySnapshot),
        .renewed 0 newFileChange]
      { watcher := noFileWatcher, begun := [1, 0], pending := [(0, emptySnapshot)] } := by
    have hstep := hrenewed.step (.report List.mem_cons_self)
    rwa [List.erase_cons_head] at hstep
  have hstep := hreported.step (.report List.mem_cons_self)
  rwa [List.erase_cons_head] at hstep

/-- A scan that cannot read the file reports nothing, and the next one finds nothing changed once
    the file has gone. -/
theorem scanRun_unmarkedFile :
    ScanRun Encoding.codecs (emptyWatcher "utf-16")
      [.reported 1 (emptySnapshot, emptySnapshot), .renewed 1 (emptySnapshot, emptySnapshot),
        .failed 0 (.scan (.read (.decoding .missingMark)))]
      { watcher := { emptyWatcher "utf-16" with scanCount := 1 }, begun := [1, 0] } := by
  have hfault : (emptyWatcher "utf-16").rescan Encoding.codecs plainRepository
      = .error (.scan (.read (.decoding .missingMark))) := by
    have hwalk : walk Encoding.codecs plainRepository (emptyWatcher "utf-16").settings
        (emptyWatcher "utf-16").root
        = .error (.scan (.read (.decoding .missingMark))) := walk_plainRepository_utf16.2.2
    simp only [Watcher.rescan, hwalk, bind, Except.bind]
  have hscan : (emptyWatcher "utf-16").rescan Encoding.codecs emptyRepository
      = .ok { emptyWatcher "utf-16" with scanCount := 1 } :=
    Watcher.rescan_eq_ok_iff.2 ⟨_, walk_noFile "utf-16" (by decide), rfl⟩
  have hfailed : ScanRun Encoding.codecs (emptyWatcher "utf-16")
      [.failed 0 (.scan (.read (.decoding .missingMark)))]
      { watcher := emptyWatcher "utf-16", begun := [0] } :=
    ScanRun.start.step (.fail List.not_mem_nil hfault)
  have hrenewed : ScanRun Encoding.codecs (emptyWatcher "utf-16")
      [.renewed 1 (emptySnapshot, emptySnapshot),
        .failed 0 (.scan (.read (.decoding .missingMark)))]
      { watcher := { emptyWatcher "utf-16" with scanCount := 1 }, begun := [1, 0],
        pending := [(1, emptySnapshot)] } :=
    hfailed.step (@IsScanStep.renew _ _ _ 1 _ { emptyWatcher "utf-16" with scanCount := 1 }
      (by decide) hscan)
  have hstep := hrenewed.step (.report List.mem_cons_self)
  rwa [List.erase_cons_head] at hstep

/-- When all scans have reported, a change can be among those from each snapshot to the next and in
    no report; and a scan can have ended without a report. -/
theorem overlapping_scans_lose_change :
    (∃ events last, ScanRun Encoding.codecs (emptyWatcher "utf-8") events last ∧ last.pending = [] ∧
      newFileChange ∈ consecutive emptySnapshot (storedOf events) ∧
      newFileChange ∉ (reportsOf events).map (·.2) ∧
      ¬ ((reportsOf events).map (·.2)).Perm (consecutive emptySnapshot (storedOf events))) ∧
    ∃ events last, ScanRun Encoding.codecs (emptyWatcher "utf-16") events last ∧ last.pending = [] ∧
      last.begun.length = 2 ∧ (reportsOf events).length = 1 := by
  have hlost : newFileChange ∉
      [(plainSnapshot, emptySnapshot), (emptySnapshot, emptySnapshot)] := by decide +kernel
  exact ⟨⟨_, _, scanRun_overlapping, rfl, List.mem_cons_self, hlost,
    fun hperm => hlost (hperm.mem_iff.2 List.mem_cons_self)⟩,
    _, _, scanRun_unmarkedFile, rfl, rfl, rfl⟩

end SourceOutline
