import SourceOutline.Proofs.Repository.Completion
import SourceOutline.Repository.Watch

set_option autoImplicit false

/-! # What a watcher does

For each operation of a watcher, what it leaves: a notice, an event with its one or two paths, a
check and a poll, and a scan. A watcher whose extensions texts can be looked up in tells of every
path whether it is relevant, so an event changes nothing but what is waiting
(`Watcher.exists_handle_eq`). -/

namespace SourceOutline

variable {codecs : Codecs}

namespace Watcher

variable {τ : Type} {watcher next : Watcher τ} {now : τ} {path : Path} {isFolder : Bool}

/-! ## Notices -/

theorem isRelevant_congr {other : Watcher τ} (hroot : watcher.root = other.root)
    (hsettings : watcher.settings = other.settings) (path : Path) (isFolder : Bool) :
    watcher.isRelevant path isFolder = other.isRelevant path isFolder := by
  simp only [isRelevant, hroot, hsettings]

theorem exists_isRelevant_eq_ok
    (hextensions : ∀ suffix, ∃ held, watcher.settings.extensions.holds suffix = .ok held)
    (path : Path) (isFolder : Bool) :
    ∃ relevant, watcher.isRelevant path isFolder = .ok relevant := by
  unfold isRelevant
  split
  · exact ⟨_, rfl⟩
  split
  · exact ⟨_, rfl⟩
  split
  · exact ⟨_, rfl⟩
  · exact hextensions _

theorem notify_eq {relevant : Bool} (h : watcher.isRelevant path isFolder = .ok relevant)
    (now : τ) :
    watcher.notify now path isFolder
      = .ok { watcher with lastChange := if relevant then some now else watcher.lastChange } := by
  simp only [notify, h, bind, Except.bind]
  cases relevant <;> rfl

theorem notify_of_isRelevant (now : τ) (h : watcher.isRelevant path isFolder = .ok true) :
    watcher.notify now path isFolder = .ok { watcher with lastChange := some now } :=
  notify_eq h now

theorem eq_of_notify_eq_ok (h : watcher.isRelevant path isFolder ≠ .ok true)
    (hnotify : watcher.notify now path isFolder = .ok next) : next = watcher := by
  obtain ⟨relevant, hrelevant, hnext⟩ := bind_eq_ok_iff.1 hnotify
  cases relevant with
  | true => exact absurd hrelevant h
  | false => exact (Except.ok.inj hnext).symm

/-! ## Events -/

/-- An event is taken notice of if one of its paths is relevant. -/
theorem handle_eq {event : Event} {relevant relevantTarget : Bool}
    (hsource : watcher.isRelevant (Path.ofText event.source) event.isFolder = .ok relevant)
    (htarget : watcher.isRelevant (Path.ofText event.target) event.isFolder = .ok relevantTarget)
    (now : τ) :
    watcher.handle now event
      = ({ watcher with
          lastChange := if relevant || (event.target != "" && relevantTarget) then some now
            else watcher.lastChange }, none) := by
  -- what is relevant is the same after the first path has been taken notice of
  have hsecond : ∀ noticed : Option τ,
      ({ watcher with lastChange := noticed } : Watcher τ).notify now (Path.ofText event.target)
        event.isFolder
          = .ok { watcher with lastChange := if relevantTarget then some now else noticed } := by
    intro noticed
    have hcongr : ({ watcher with lastChange := noticed } : Watcher τ).isRelevant
        (Path.ofText event.target) event.isFolder = .ok relevantTarget :=
      (isRelevant_congr rfl rfl _ _).trans htarget
    exact notify_eq hcongr now
  simp only [handle, notify_eq hsource now, hsecond]
  cases relevant <;> cases relevantTarget <;> by_cases hnone : event.target = "" <;> simp [hnone]

/-- Neither path of an event is relevant. -/
def Ignores (watcher : Watcher τ) (event : Event) : Prop :=
  watcher.isRelevant (Path.ofText event.source) event.isFolder = .ok false ∧
    (event.target ≠ "" →
      watcher.isRelevant (Path.ofText event.target) event.isFolder = .ok false)

/-- An event changes nothing but what is waiting, and if nothing is waiting after it, nothing was
    before and the watcher ignores it. -/
theorem exists_handle_eq
    (hextensions : ∀ suffix, ∃ held, watcher.settings.extensions.holds suffix = .ok held)
    (now : τ) (event : Event) :
    ∃ waiting, (watcher.handle now event).1 = { watcher with lastChange := waiting } ∧
      (waiting = none → watcher.lastChange = none ∧ watcher.Ignores event) := by
  obtain ⟨relevant, hsource⟩ := exists_isRelevant_eq_ok hextensions (Path.ofText event.source)
    event.isFolder
  obtain ⟨relevantTarget, htarget⟩ := exists_isRelevant_eq_ok hextensions
    (Path.ofText event.target) event.isFolder
  rw [handle_eq hsource htarget]
  refine ⟨_, rfl, fun hnone => ?_⟩
  split at hnone
  case isTrue => cases hnone
  case isFalse hnotice =>
    obtain ⟨rfl, hrest⟩ := Bool.or_eq_false_iff.1 (Bool.eq_false_iff.2 hnotice)
    refine ⟨hnone, hsource, fun hne => ?_⟩
    rw [bne_iff_ne.2 hne, Bool.true_and] at hrest
    rw [htarget, hrest]

/-! ## Scans -/

/-- A watcher begins with a first scan, and with nothing waiting or counted. -/
theorem startOn_eq_ok_iff {volume : Volume} {root : Path} {settings : Settings}
    {debounce : Debounce τ} :
    startOn codecs volume root settings debounce = .ok watcher ↔
      ∃ result, walk codecs volume settings root = .ok result ∧
        watcher = { root, settings, debounce, snapshot := result.snapshot } :=
  map_eq_ok_iff (x := walk codecs volume settings root)

/-- A walk renews the snapshot and is counted. -/
theorem rescan_eq_ok_iff {volume : Volume} :
    watcher.rescan codecs volume = .ok next ↔
      ∃ result, walk codecs volume watcher.settings watcher.root = .ok result ∧
        next = { watcher with
          snapshot := result.snapshot, scanCount := watcher.scanCount + 1 } :=
  map_eq_ok_iff (x := walk codecs volume watcher.settings watcher.root)

theorem walk_eq_error_of_rescan {volume : Volume} {fault : WalkFault}
    (h : watcher.rescan codecs volume = .error fault) :
    walk codecs volume watcher.settings watcher.root = .error fault := by
  unfold rescan at h
  cases hwalk : walk codecs volume watcher.settings watcher.root with
  | ok result =>
    rw [hwalk] at h
    cases h
  | error other =>
    rw [hwalk] at h
    cases h
    rfl

/-! ## Polls -/

theorem check_eq_iff {due : Bool} :
    watcher.check now = (next, due) ↔
      due = watcher.isDue now ∧ next = if due then watcher.clear else watcher := by
  unfold check
  cases watcher.isDue now <;> cases due <;> simp [eq_comm]

/-- A change is due if one is waiting and the time to wait has passed since. -/
theorem isDue_eq_true_iff :
    watcher.isDue now = true ↔
      ∃ changed, watcher.lastChange = some changed ∧
        watcher.debounce.isRunning changed now = false := by
  unfold isDue
  cases watcher.lastChange with
  | none => simp
  | some changed => simp

/-- A poll of a change that is due accounts for it and scans anew. -/
theorem poll_of_isDue (volume : Volume) (h : watcher.isDue now = true) :
    watcher.poll codecs volume now
      = match watcher.clear.rescan codecs volume with
        | .ok next => (next, .ok true)
        | .error fault => (watcher.clear, .error fault) := by
  have hcheck : watcher.check now = (watcher.clear, true) := by rw [check, if_pos h]
  cases hscan : watcher.clear.rescan codecs volume <;> simp only [poll, hcheck, hscan]

/-- A poll leaves the watcher as it is, or it scans anew, and nothing is waiting if that fails. -/
theorem poll_cases (watcher : Watcher τ) (volume : Volume) (now : τ) :
    (watcher.poll codecs volume now).1 = watcher ∨
      (∃ next, watcher.clear.rescan codecs volume = .ok next ∧
        (watcher.poll codecs volume now).1 = next) ∨
      ∃ fault, watcher.clear.rescan codecs volume = .error fault ∧
        (watcher.poll codecs volume now).1 = watcher.clear := by
  by_cases hdue : watcher.isDue now = true
  · rw [poll_of_isDue volume hdue]
    cases hscan : watcher.clear.rescan codecs volume with
    | ok next => exact .inr (.inl ⟨next, rfl, rfl⟩)
    | error fault => exact .inr (.inr ⟨fault, rfl, rfl⟩)
  · refine .inl ?_
    simp only [poll, check, if_neg hdue]

end Watcher

end SourceOutline
