import SourceOutline.Repository.Walk

set_option autoImplicit false

/-! # Watching a repository

A watcher keeps the snapshot of a repository up to date. Notices of changes that can alter the
snapshot are remembered, and once none has come for a while the repository is scanned anew and the
difference reported. Time is told by a clock whose readings are given: in seconds as floating-point
numbers, but all that a watcher asks of two readings is whether it still has to wait
(`Debounce`). -/

namespace SourceOutline

/-! ## Waiting -/

/-- How long to wait after a change, on a clock with readings of type `τ`. -/
structure Debounce (τ : Type) where
  /-- Whether the time to wait has not passed yet from one reading to another. -/
  isRunning : τ → τ → Bool

namespace Debounce

/-- Wait for a number of seconds; what has passed between two readings is rounded. -/
def ofQuantity (seconds : Quantity) : Debounce Binary64 where
  isRunning changed now := seconds.exceeds (now - changed)

/-- Wait for a number of seconds on a clock that tells time exactly. -/
def ofSeconds (seconds : Rat) : Debounce Rat where
  isRunning changed now := decide (now - changed < seconds)

end Debounce

/-! ## Watchers -/

/-- The state of a watcher: what it watches, how long it waits after a change, the latest snapshot,
    how often that was renewed, and when the latest change came that it does not yet account for. -/
structure Watcher (τ : Type := Binary64) where
  root : Path
  settings : Settings
  debounce : Debounce τ
  snapshot : Snapshot
  scanCount : Nat := 0
  lastChange : Option τ := none

namespace Watcher

variable {τ : Type}

/-- Begin to watch with a first scan. -/
def startOn (codecs : Codecs) (volume : Volume) (root : Path) (settings : Settings)
    (debounce : Debounce τ) : Except WalkFault (Watcher τ) := do
  let result ← walk codecs volume settings root
  return { root, settings, debounce, snapshot := result.snapshot }

/-- Begin to watch on a clock that tells seconds as floating-point numbers. -/
def start (codecs : Codecs) (volume : Volume) (root : Path) (settings : Settings)
    (seconds : Quantity) : Except WalkFault Watcher :=
  startOn codecs volume root settings (.ofQuantity seconds)

/-- Whether a change at a path can alter the snapshot: the path lies under the root, no step on the
    way is excluded, and what changed is a folder or a file of a supported kind. -/
def isRelevant (watcher : Watcher τ) (path : Path) (isFolder : Bool) : Except SettingsFault Bool :=
  match watcher.root.stepsBelow? path with
  | none => .ok false
  | some steps =>
    if steps.any fun step => watcher.settings.isExcluded step.text then .ok false
    else if isFolder then .ok true
    else watcher.settings.isSupported path.fileName

/-- Take notice of a change at a path. -/
def notify (watcher : Watcher τ) (now : τ) (path : Path) (isFolder : Bool) :
    Except SettingsFault (Watcher τ) := do
  if ← watcher.isRelevant path isFolder then return { watcher with lastChange := some now }
  else return watcher

/-- An event of a file system: what happened at one path, and for a move the path it went to. -/
structure Event where
  source : String
  target : String := ""
  isFolder : Bool

/-- Take notice of an event at its path, and at the path it went to if there is one. What was
    noticed before a fault stays. -/
def handle (watcher : Watcher τ) (now : τ) (event : Event) :
    Watcher τ × Option SettingsFault :=
  match watcher.notify now (Path.ofText event.source) event.isFolder with
  | .error fault => (watcher, some fault)
  | .ok noticed =>
    if event.target = "" then (noticed, none)
    else
      match noticed.notify now (Path.ofText event.target) event.isFolder with
      | .error fault => (noticed, some fault)
      | .ok next => (next, none)

/-- Whether a change is waiting and none has come for the time to wait. -/
def isDue (watcher : Watcher τ) (now : τ) : Bool :=
  match watcher.lastChange with
  | none => false
  | some changed => !watcher.debounce.isRunning changed now

/-- Account for the change that is waiting. -/
def clear (watcher : Watcher τ) : Watcher τ :=
  { watcher with lastChange := none }

/-- The first step of a poll, under a lock: account for the change that is waiting if it is due, and
    tell whether it was. -/
def check (watcher : Watcher τ) (now : τ) : Watcher τ × Bool :=
  if watcher.isDue now then (watcher.clear, true) else (watcher, false)

/-- Scan anew. -/
def rescan (watcher : Watcher τ) (codecs : Codecs) (volume : Volume) :
    Except WalkFault (Watcher τ) := do
  let result ← walk codecs volume watcher.settings watcher.root
  return { watcher with snapshot := result.snapshot, scanCount := watcher.scanCount + 1 }

/-- What a scan reports once it has let other scans go on: the snapshot that it has replaced, and
    the one that the watcher has by then. -/
def report (watcher : Watcher τ) (previous : Snapshot) : Snapshot × Snapshot :=
  (previous, watcher.snapshot)

/-- Scan anew if a change is due, and tell whether it was. A scan that fails leaves the watcher with
    its old snapshot and no change waiting. -/
def poll (watcher : Watcher τ) (codecs : Codecs) (volume : Volume) (now : τ) :
    Watcher τ × Except WalkFault Bool :=
  match watcher.check now with
  | (next, false) => (next, .ok false)
  | (cleared, true) =>
    match cleared.rescan codecs volume with
    | .ok next => (next, .ok true)
    | .error fault => (cleared, .error fault)

end Watcher

/-! ## Reports -/

/-- The report of a new snapshot. -/
def changeReport (previous current : Snapshot) : String :=
  let diff := current.diff previous
  if diff.changed then
    "  ✓ Re-scanned: " ++ toString current.nodes.length ++ " nodes (+"
      ++ toString diff.added.length ++ " / -" ++ toString diff.removed.length ++ ")\n"
  else "  No structural changes\n"

end SourceOutline
