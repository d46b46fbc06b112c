import SourceOutline.Proofs.Repository.Watching

set_option autoImplicit false

/-! # Notices and polls that overlap

A poll takes two steps: under a lock it checks whether a change is due and accounts for it, and then
it walks. Notices may come between the two, and so may the steps of other polls. A run is told by
its events, latest first, and the watcher at its end is compared with what the events say: the
change that is waiting is the latest relevant notice since a poll has last accounted for one
(`IsLatestNotice`). `PollingState.Matches` says so of a state, every step preserves it
(`PollingState.Matches.step`), and from it follows when a poll goes on to walk and that no relevant
notice is lost. A poll whose walk fails fails like it and has still accounted for the change. -/

namespace SourceOutline

/-! ## Steps and runs -/

/-- What happens to a watcher. Polls are told apart by numbers. -/
inductive WatchEvent (τ : Type) where
  /-- A change at a path is notified while the clock reads `now`. -/
  | notified (now : τ) (path : Path) (isFolder : Bool)
  /-- The first step of a poll, which tells whether a change was due. If none was, the poll returns
      false. -/
  | checked (poll : Nat) (now : τ) (due : Bool)
  /-- The second step of a poll: it returns true, or its walk fails and the poll with it. -/
  | walked (poll : Nat) (fault : Option WalkFault)

/-- A watcher, the polls that have been begun, and those of them that are yet to walk. -/
structure PollingState (τ : Type) where
  watcher : Watcher τ
  begun : List Nat := []
  underway : List Nat := []

section

variable {τ : Type}

/-- What a step can be. A walk reads the tree as it is at that time. -/
inductive IsWatchStep (codecs : Codecs) :
    PollingState τ → WatchEvent τ → PollingState τ → Prop
  | notify {s : PollingState τ} {now : τ} {path : Path} {isFolder : Bool} {next : Watcher τ}
      (hnotify : s.watcher.notify now path isFolder = .ok next) :
      IsWatchStep codecs s (.notified now path isFolder) { s with watcher := next }
  | refuse {s : PollingState τ} {now : τ} {path : Path} {isFolder : Bool} {fault : SettingsFault}
      (hnotify : s.watcher.notify now path isFolder = .error fault) :
      IsWatchStep codecs s (.notified now path isFolder) s
  | check {s : PollingState τ} {poll : Nat} {now : τ} {next : Watcher τ} {due : Bool}
      (hnew : poll ∉ s.begun) (hcheck : s.watcher.check now = (next, due)) :
      IsWatchStep codecs s (.checked poll now due)
        { watcher := next
          begun := poll :: s.begun
          underway := if due then poll :: s.underway else s.underway }
  | walk {s : PollingState τ} {poll : Nat} {volume : Volume} {next : Watcher τ}
      (hpoll : poll ∈ s.underway) (hscan : s.watcher.rescan codecs volume = .ok next) :
      IsWatchStep codecs s (.walked poll none)
        { s with watcher := next, underway := s.underway.erase poll }
  | fail {s : PollingState τ} {poll : Nat} {volume : Volume} {fault : WalkFault}
      (hpoll : poll ∈ s.underway) (hscan : s.watcher.rescan codecs volume = .error fault) :
      IsWatchStep codecs s (.walked poll (some fault)) { s with underway := s.underway.erase poll }

/-- The runs of a watcher that nobody has polled yet: their events, latest first, and the state at
    the end. -/
inductive WatchRun (codecs : Codecs) (first : Watcher τ) :
    List (WatchEvent τ) → PollingState τ → Prop
  | start : WatchRun codecs first [] { watcher := first }
  | step {events : List (WatchEvent τ)} {s t : PollingState τ} {event : WatchEvent τ}
      (hrun : WatchRun codecs first events s) (hstep : IsWatchStep codecs s event t) :
      WatchRun codecs first (event :: events) t

/-! ## What the events say -/

/-- The event is the notice of a change that the watcher takes for relevant. -/
def WatchEvent.IsNotice (watcher : Watcher τ) (event : WatchEvent τ) (changed : τ) : Prop :=
  ∃ path isFolder, event = .notified changed path isFolder ∧
    watcher.isRelevant path isFolder = .ok true

/-- The event is the step of a poll that accounts for the change that is waiting. -/
def WatchEvent.Clears (event : WatchEvent τ) : Prop :=
  ∃ poll now, event = .checked poll now true

/-- The event is a walk that has been completed. -/
def WatchEvent.isCompletion : WatchEvent τ → Bool
  | .walked _ none => true
  | _ => false

/-- The latest relevant notice came at a reading of the clock, and no poll has accounted for a
    change since. -/
def IsLatestNotice (watcher : Watcher τ) (events : List (WatchEvent τ)) (changed : τ) : Prop :=
  ∃ later event earlier, events = later ++ event :: earlier ∧ event.IsNotice watcher changed ∧
    ∀ other ∈ later, ¬ other.Clears ∧ ∀ at', ¬ other.IsNotice watcher at'

section Latest

variable {watcher : Watcher τ} {events : List (WatchEvent τ)} {event : WatchEvent τ} {changed : τ}

theorem not_isLatestNotice_nil : ¬ IsLatestNotice watcher [] changed := by
  rintro ⟨later, event, earlier, hevents, -⟩
  exact List.append_ne_nil_of_right_ne_nil later (List.cons_ne_nil event earlier) hevents.symm

theorem not_isLatestNotice_cons (hclears : event.Clears) :
    ¬ IsLatestNotice watcher (event :: events) changed := by
  rintro ⟨later, notice, earlier, hevents, hnotice, hlater⟩
  cases later with
  | nil =>
    obtain ⟨path, isFolder, rfl, -⟩ := hnotice
    obtain ⟨poll, now, hcleared⟩ := hclears
    exact nomatch (List.cons.inj hevents).1.symm.trans hcleared
  | cons other later =>
    obtain ⟨rfl, -⟩ := List.cons.inj hevents
    exact (hlater event List.mem_cons_self).1 hclears

theorem isLatestNotice_cons_iff_eq {now : τ} (hnotice : event.IsNotice watcher now) :
    IsLatestNotice watcher (event :: events) changed ↔ changed = now := by
  constructor
  · rintro ⟨later, other, earlier, hevents, hother, hlater⟩
    cases later with
    | nil =>
      obtain ⟨rfl, -⟩ := List.cons.inj hevents
      obtain ⟨path, isFolder, hevent, -⟩ := hnotice
      obtain ⟨path', isFolder', hevent', -⟩ := hother
      exact (WatchEvent.notified.inj (hevent'.symm.trans hevent)).1
    | cons first later =>
      obtain ⟨rfl, -⟩ := List.cons.inj hevents
      exact absurd hnotice ((hlater event List.mem_cons_self).2 now)
  · rintro rfl
    exact ⟨[], event, events, rfl, hnotice, fun _ hmem => absurd hmem List.not_mem_nil⟩

theorem isLatestNotice_cons_iff (hclears : ¬ event.Clears)
    (hnotice : ∀ now, ¬ event.IsNotice watcher now) :
    IsLatestNotice watcher (event :: events) changed ↔ IsLatestNotice watcher events changed := by
  constructor
  · rintro ⟨later, other, earlier, hevents, hother, hlater⟩
    cases later with
    | nil =>
      obtain ⟨rfl, -⟩ := List.cons.inj hevents
      exact absurd hother (hnotice changed)
    | cons first later =>
      obtain ⟨rfl, rfl⟩ := List.cons.inj hevents
      exact ⟨later, other, earlier, rfl, hother, fun e he =>
        hlater e (List.mem_cons_of_mem _ he)⟩
  · rintro ⟨later, other, earlier, rfl, hother, hlater⟩
    refine ⟨event :: later, other, earlier, rfl, hother, fun e he => ?_⟩
    rcases List.mem_cons.1 he with rfl | hin
    · exact ⟨hclears, hnotice⟩
    · exact hlater e hin

end Latest

/-! ## What steps leave -/

theorem IsWatchStep.mem_underway {codecs : Codecs} {s t : PollingState τ} {event : WatchEvent τ}
    {poll : Nat}
    (h : IsWatchStep codecs s event t) (hpoll : poll ∈ s.underway) :
    poll ∈ t.underway ∨ ∃ fault, event = .walked poll fault := by
  have hother : ∀ other : Nat, poll ∈ s.underway.erase other ∨ poll = other := by
    intro other
    by_cases heq : poll = other
    · exact .inr heq
    · exact .inl ((List.mem_erase_of_ne heq).2 hpoll)
  cases h with
  | notify | refuse => exact .inl hpoll
  | @check _ _ _ due =>
    cases due with
    | true => exact .inl (List.mem_cons_of_mem _ hpoll)
    | false => exact .inl hpoll
  | @walk other =>
    rcases hother other with hstill | rfl
    · exact .inl hstill
    · exact .inr ⟨none, rfl⟩
  | @fail other _ fault =>
    rcases hother other with hstill | rfl
    · exact .inl hstill
    · exact .inr ⟨some fault, rfl⟩

/-- A change that is waiting is still so after any step that is not one of a poll accounting for
    it. -/
theorem IsWatchStep.exists_lastChange {codecs : Codecs} {s t : PollingState τ}
    {event : WatchEvent τ} {changed : τ}
    (h : IsWatchStep codecs s event t) (hchanged : s.watcher.lastChange = some changed)
    (hclears : ¬ event.Clears) : ∃ at', t.watcher.lastChange = some at' := by
  cases h with
  | @notify now path isFolder next hnotify =>
    by_cases hrelevant : s.watcher.isRelevant path isFolder = .ok true
    · rw [Watcher.notify_of_isRelevant now hrelevant] at hnotify
      exact ⟨now, Except.ok.inj hnotify ▸ rfl⟩
    · exact ⟨changed, Watcher.eq_of_notify_eq_ok hrelevant hnotify ▸ hchanged⟩
  | refuse => exact ⟨changed, hchanged⟩
  | @check poll now next due hnew hcheck =>
    cases due with
    | true => exact absurd ⟨poll, now, rfl⟩ hclears
    | false => exact ⟨changed, (Watcher.check_eq_iff.1 hcheck).2 ▸ hchanged⟩
  | walk hpoll hscan =>
    obtain ⟨result, -, rfl⟩ := Watcher.rescan_eq_ok_iff.1 hscan
    exact ⟨changed, hchanged⟩
  | fail => exact ⟨changed, hchanged⟩

/-! ## What a run preserves -/

/-- A state to which events lead from a watcher: what is waiting is the latest notice, every
    completed walk is counted, and the polls that are yet to walk have accounted for a change. -/
structure PollingState.Matches (first : Watcher τ) (events : List (WatchEvent τ))
    (state : PollingState τ) : Prop where
  root_eq : state.watcher.root = first.root
  settings_eq : state.watcher.settings = first.settings
  debounce_eq : state.watcher.debounce = first.debounce
  latest : ∀ changed,
    state.watcher.lastChange = some changed ↔ IsLatestNotice first events changed
  counted : state.watcher.scanCount = events.countP WatchEvent.isCompletion
  checked : ∀ poll ∈ state.underway, ∃ now, .checked poll now true ∈ events

namespace PollingState.Matches

variable {codecs : Codecs} {first : Watcher τ} {events : List (WatchEvent τ)} {s t : PollingState τ}

theorem isRelevant_eq (h : s.Matches first events) (path : Path) (isFolder : Bool) :
    s.watcher.isRelevant path isFolder = first.isRelevant path isFolder :=
  Watcher.isRelevant_congr h.root_eq h.settings_eq path isFolder

/-- An event that leaves the watcher as it is and after which no further poll is to walk. -/
theorem of_watcher_eq {event : WatchEvent τ} (h : s.Matches first events)
    (hwatcher : t.watcher = s.watcher) (hunderway : ∀ poll ∈ t.underway, poll ∈ s.underway)
    (hclears : ¬ event.Clears) (hnotice : ∀ now, ¬ event.IsNotice first now)
    (hcompletion : event.isCompletion = false) : t.Matches first (event :: events) where
  root_eq := hwatcher ▸ h.root_eq
  settings_eq := hwatcher ▸ h.settings_eq
  debounce_eq := hwatcher ▸ h.debounce_eq
  latest changed := by
    rw [hwatcher, isLatestNotice_cons_iff hclears hnotice]
    exact h.latest changed
  counted := by
    rw [hwatcher, List.countP_cons_of_neg (Bool.eq_false_iff.1 hcompletion)]
    exact h.counted
  checked poll hpoll := (h.checked poll (hunderway poll hpoll)).imp fun _ hmem =>
    List.mem_cons_of_mem _ hmem

theorem step {event : WatchEvent τ} (h : s.Matches first events)
    (hstep : IsWatchStep codecs s event t) :
    t.Matches first (event :: events) := by
  cases hstep with
  | @notify now path isFolder next hnotify =>
    have hclears : ¬ (WatchEvent.notified now path isFolder).Clears := nofun
    by_cases hrelevant : s.watcher.isRelevant path isFolder = .ok true
    · rw [Watcher.notify_of_isRelevant now hrelevant] at hnotify
      obtain rfl := Except.ok.inj hnotify
      have hnotice : (WatchEvent.notified now path isFolder).IsNotice first now :=
        ⟨path, isFolder, rfl, (h.isRelevant_eq path isFolder).symm.trans hrelevant⟩
      refine ⟨h.root_eq, h.settings_eq, h.debounce_eq, fun changed => ?_, h.counted, ?_⟩
      · rw [isLatestNotice_cons_iff_eq hnotice, Option.some.injEq]
        exact eq_comm
      · exact fun poll hpoll => (h.checked poll hpoll).imp fun _ => List.mem_cons_of_mem _
    · obtain rfl := Watcher.eq_of_notify_eq_ok hrelevant hnotify
      refine h.of_watcher_eq rfl (fun _ => id) hclears ?_ rfl
      rintro at' ⟨path', isFolder', hevent, hnotice⟩
      obtain ⟨-, rfl, rfl⟩ := WatchEvent.notified.inj hevent
      exact hrelevant ((h.isRelevant_eq path isFolder).trans hnotice)
  | @refuse now path isFolder fault hnotify =>
    refine h.of_watcher_eq rfl (fun _ => id) nofun ?_ rfl
    rintro at' ⟨path', isFolder', hevent, hnotice⟩
    obtain ⟨-, rfl, rfl⟩ := WatchEvent.notified.inj hevent
    rw [← h.isRelevant_eq] at hnotice
    exact nomatch (Watcher.notify_of_isRelevant now hnotice).symm.trans hnotify
  | @check poll now next due hnew hcheck =>
    obtain ⟨-, hnext⟩ := Watcher.check_eq_iff.1 hcheck
    cases due with
    | false =>
      exact h.of_watcher_eq hnext (fun _ => id) (fun ⟨_, _, hevent⟩ => nomatch hevent) nofun rfl
    | true =>
      -- the change that was waiting has been accounted for, and the poll is yet to walk
      subst hnext
      refine ⟨h.root_eq, h.settings_eq, h.debounce_eq, fun changed => ?_, h.counted, ?_⟩
      · exact iff_of_false nofun (not_isLatestNotice_cons ⟨poll, now, rfl⟩)
      · intro other hother
        rcases List.mem_cons.1 hother with rfl | hbefore
        · exact ⟨now, List.mem_cons_self⟩
        · exact (h.checked other hbefore).imp fun _ => List.mem_cons_of_mem _
  | @walk poll volume next hpoll hscan =>
    obtain ⟨result, -, rfl⟩ := Watcher.rescan_eq_ok_iff.1 hscan
    have hclears : ¬ (WatchEvent.walked poll none : WatchEvent τ).Clears := nofun
    refine ⟨h.root_eq, h.settings_eq, h.debounce_eq, fun changed => ?_, ?_, ?_⟩
    · rw [isLatestNotice_cons_iff hclears nofun]
      exact h.latest changed
    · rw [List.countP_cons_of_pos rfl]
      exact congrArg (· + 1) h.counted
    · exact fun other hother =>
        (h.checked other (List.mem_of_mem_erase hother)).imp fun _ => List.mem_cons_of_mem _
  | @fail poll volume fault hpoll hscan =>
    exact h.of_watcher_eq rfl (fun _ => List.mem_of_mem_erase) nofun nofun rfl

end PollingState.Matches

namespace WatchRun

variable {codecs : Codecs} {first : Watcher τ} {events : List (WatchEvent τ)} {s t : PollingState τ}

theorem matches' (hpending : first.lastChange = none) (hcount : first.scanCount = 0)
    (h : WatchRun codecs first events s) : s.Matches first events := by
  induction h with
  | start =>
    refine ⟨rfl, rfl, rfl, fun changed => ?_, hcount, fun _ hmem => absurd hmem List.not_mem_nil⟩
    rw [hpending]
    exact iff_of_false nofun not_isLatestNotice_nil
  | step _ hstep ih => exact ih.step hstep

theorem split {event : WatchEvent τ} {earlier : List (WatchEvent τ)} :
    ∀ {later : List (WatchEvent τ)} {last : PollingState τ},
      WatchRun codecs first (later ++ event :: earlier) last →
      ∃ s t, WatchRun codecs first earlier s ∧ IsWatchStep codecs s event t := by
  intro later
  induction later with
  | nil =>
    intro last h
    cases h with
    | step hrun hstep => exact ⟨_, _, hrun, hstep⟩
  | cons other later ih =>
    intro last h
    cases h with
    | step hrun _ => exact ih hrun

/-- A poll that has accounted for a change is yet to walk or has walked. -/
theorem underway_or_walked {poll : Nat} {now : τ} (h : WatchRun codecs first events s)
    (hchecked : .checked poll now true ∈ events) :
    poll ∈ s.underway ∨ ∃ fault, .walked poll fault ∈ events := by
  induction h with
  | start => exact absurd hchecked List.not_mem_nil
  | step hrun hstep ih =>
    rcases List.mem_cons.1 hchecked with rfl | hbefore
    · cases hstep with
      | check hnew hcheck => exact .inl List.mem_cons_self
    · rcases ih hbefore with hunderway | ⟨fault, hwalked⟩
      · exact (hstep.mem_underway hunderway).imp_right fun ⟨fault, hwalked⟩ =>
          ⟨fault, hwalked ▸ List.mem_cons_self⟩
      · exact .inr ⟨fault, List.mem_cons_of_mem _ hwalked⟩

/-- After a relevant notice the change is waiting, or a poll has accounted for it and is yet to
    walk, or a walk has begun since. -/
theorem waiting_or_walked {now : τ} {path : Path} {isFolder : Bool}
    {earlier : List (WatchEvent τ)} (hpending : first.lastChange = none)
    (hcount : first.scanCount = 0) (hrelevant : first.isRelevant path isFolder = .ok true) :
    ∀ {later : List (WatchEvent τ)} {last : PollingState τ},
      WatchRun codecs first (later ++ .notified now path isFolder :: earlier) last →
      ((∃ changed, last.watcher.lastChange = some changed) ∧ ∀ event ∈ later, ¬ event.Clears) ∨
      (∃ poll ∈ last.underway, ∃ at', .checked poll at' true ∈ later) ∨
      ∃ poll fault, .walked poll fault ∈ later := by
  intro later
  induction later with
  | nil =>
    intro last h
    refine .inl ⟨⟨now, ?_⟩, fun _ hmem => absurd hmem List.not_mem_nil⟩
    refine ((h.matches' hpending hcount).latest now).2 ?_
    exact (isLatestNotice_cons_iff_eq ⟨path, isFolder, rfl, hrelevant⟩).2 rfl
  | cons event later ih =>
    intro last h
    cases h with
    | @step _ s _ _ hrun hstep =>
      rcases ih hrun with ⟨⟨changed, hchanged⟩, hlater⟩ | ⟨poll, hpoll, at', hchecked⟩ | hwalked
      · -- a waiting change stops waiting only when a poll accounts for it
        by_cases hclears : event.Clears
        · obtain ⟨poll, at', rfl⟩ := hclears
          have hbegun : poll ∈ last.underway := by
            cases hstep with
            | check => exact List.mem_cons_self
          exact .inr (.inl ⟨poll, hbegun, at', List.mem_cons_self⟩)
        · exact .inl ⟨hstep.exists_lastChange hchanged hclears,
            List.forall_mem_cons.2 ⟨hclears, hlater⟩⟩
      · rcases hstep.mem_underway hpoll with hstill | ⟨fault, rfl⟩
        · exact .inr (.inl ⟨poll, hstill, at', List.mem_cons_of_mem _ hchecked⟩)
        · exact .inr (.inr ⟨poll, fault, List.mem_cons_self⟩)
      · obtain ⟨poll, fault, hwalked⟩ := hwalked
        exact .inr (.inr ⟨poll, fault, List.mem_cons_of_mem _ hwalked⟩)

end WatchRun

end

/-! ## Clocks that tell time exactly -/

/-- A change is due at a reading of the clock: a relevant notice has come since a poll has last
    accounted for one, and the time to wait has passed since the latest. -/
def IsDueAfter (first : Watcher Rat) (seconds : Rat) (events : List (WatchEvent Rat)) (now : Rat) :
    Prop :=
  ∃ changed, IsLatestNotice first events changed ∧ seconds ≤ now - changed

/-- The check of a poll tells whether a change is due after the events so far. -/
theorem PollingState.Matches.check_iff {first : Watcher Rat} {seconds : Rat}
    {events : List (WatchEvent Rat)} {s : PollingState Rat} {now : Rat} {next : Watcher Rat}
    {due : Bool} (h : s.Matches first events) (hdebounce : first.debounce = .ofSeconds seconds)
    (hcheck : s.watcher.check now = (next, due)) :
    due = true ↔ IsDueAfter first seconds events now := by
  have hwait : ∀ changed, s.watcher.debounce.isRunning changed now = false ↔
      seconds ≤ now - changed := by
    intro changed
    rw [h.debounce_eq, hdebounce, Debounce.ofSeconds, decide_eq_false_iff_not, Rat.not_lt]
  rw [(Watcher.check_eq_iff.1 hcheck).1, Watcher.isDue_eq_true_iff, IsDueAfter]
  exact exists_congr fun changed => and_congr (h.latest changed) (hwait changed)

/-- Whatever the order of notices and of the steps of polls, and whatever the clock reads:
    a poll goes on to walk exactly if a change is due, and otherwise returns false; a poll that goes
    on is yet to walk, or its walk is completed and it returns true, or it fails like its walk;
    the notice of a change that is not relevant leaves everything as it is; after a relevant one the
    change is waiting, or a poll has accounted for it and is yet to walk, or a walk has begun since;
    and the scans that are counted are the walks that have been completed. -/
theorem overlapping_polls {codecs : Codecs} {volume : Volume} {root : Path} {settings : Settings}
    {seconds : Rat}
    {first : Watcher Rat}
    (hfirst : Watcher.startOn codecs volume root settings (.ofSeconds seconds) = .ok first)
    {events : List (WatchEvent Rat)} {last : PollingState Rat}
    (hrun : WatchRun codecs first events last) :
    (∀ later poll now due earlier, events = later ++ .checked poll now due :: earlier →
      (due = true ↔ IsDueAfter first seconds earlier now)) ∧
    (∀ later poll fault earlier, events = later ++ .walked poll fault :: earlier →
      ∃ now, .checked poll now true ∈ earlier) ∧
    (∀ poll now, .checked poll now true ∈ events →
      poll ∈ last.underway ∨ ∃ fault, .walked poll fault ∈ events) ∧
    (∀ now path isFolder next, first.isRelevant path isFolder ≠ .ok true →
      IsWatchStep codecs last (.notified now path isFolder) next → next = last) ∧
    (∀ later now path isFolder earlier, events = later ++ .notified now path isFolder :: earlier →
      first.isRelevant path isFolder = .ok true →
      ((∃ changed, last.watcher.lastChange = some changed) ∧
        ∀ event ∈ later, ¬ event.Clears) ∨
      (∃ poll ∈ last.underway, ∃ at', .checked poll at' true ∈ later) ∨
      ∃ poll fault, .walked poll fault ∈ later) ∧
    last.watcher.scanCount = events.countP WatchEvent.isCompletion := by
  obtain ⟨result, -, hwatcher⟩ := Watcher.startOn_eq_ok_iff.1 hfirst
  have hpending : first.lastChange = none := hwatcher ▸ rfl
  have hcount : first.scanCount = 0 := hwatcher ▸ rfl
  have hdebounce : first.debounce = .ofSeconds seconds := hwatcher ▸ rfl
  have hlast := hrun.matches' hpending hcount
  refine ⟨?_, ?_, fun poll now => hrun.underway_or_walked, ?_, ?_, hlast.counted⟩
  · -- the state before the check keeps to the earlier events
    rintro later poll now due earlier rfl
    obtain ⟨s, t, hearlier, hstep⟩ := hrun.split
    cases hstep with
    | check hnew hcheck => exact (hearlier.matches' hpending hcount).check_iff hdebounce hcheck
  · rintro later poll fault earlier rfl
    obtain ⟨s, t, hearlier, hstep⟩ := hrun.split
    have hunderway : poll ∈ s.underway := by cases hstep <;> assumption
    exact (hearlier.matches' hpending hcount).checked poll hunderway
  · intro now path isFolder next hirrelevant hstep
    rw [← hlast.isRelevant_eq] at hirrelevant
    cases hstep with
    | notify hnotify => rw [Watcher.eq_of_notify_eq_ok hirrelevant hnotify]
    | refuse => rfl
  · rintro later now path isFolder earlier rfl hrelevant
    exact hrun.waiting_or_walked hpending hcount hrelevant

/-! ## A poll that returns and one that fails -/

/-- A repository without files. -/
def emptyRepository : Volume where
  entries := [([repositoryName], .folder true)]
  distinct := by decide
  plain := by decide

/-- The notice of a new file. -/
def newFileNotice : WatchEvent Rat :=
  .notified 0 (Path.ofText "/repo/a.py") false

/-- What comes to be known of an empty repository by its first scan. -/
def emptySnapshot : Snapshot where
  nodes := [folderNode (Path.ofText "/repo") "repo" none]

/-- What comes to be known once the file has been made. -/
def plainSnapshot : Snapshot where
  nodes := [folderNode (Path.ofText "/repo") "repo" none,
    fileNode (Path.ofText "/repo/a.py") "a.py" (folderId "/repo")]
  edges := [{ source := folderId "/repo", target := fileId "/repo/a.py" }]

/-- The watcher of an empty repository, with some encoding. -/
def emptyWatcher (encoding : String) : Watcher Rat where
  root := Path.ofText "/repo"
  settings := { encoding := .text encoding }
  debounce := .ofSeconds 2
  snapshot := emptySnapshot

section OnePoll

variable (encoding : String)

theorem isRelevant_newFile :
    (emptyWatcher encoding).isRelevant (Path.ofText "/repo/a.py") false = .ok true := by
  have hplain : (emptyWatcher "").isRelevant (Path.ofText "/repo/a.py") false = .ok true := by
    decide +kernel
  exact hplain

theorem isDueAfter_newFileNotice : IsDueAfter (emptyWatcher encoding) 2 [newFileNotice] 2 :=
  ⟨0, (isLatestNotice_cons_iff_eq ⟨_, _, rfl, isRelevant_newFile encoding⟩).2 rfl,
    by decide +kernel⟩

theorem isDue_newFile :
    Watcher.isDue { emptyWatcher encoding with lastChange := some 0 } 2 = true := by
  have hwaited : (Debounce.ofSeconds 2).isRunning 0 2 = false := by decide +kernel
  exact Watcher.isDue_eq_true_iff.2 ⟨0, rfl, hwaited⟩

theorem watchRun_newFile :
    WatchRun Encoding.codecs (emptyWatcher encoding) [.checked 0 2 true, newFileNotice]
      { watcher := emptyWatcher encoding, begun := [0], underway := [0] } := by
  have hnotify := Watcher.notify_of_isRelevant 0 (isRelevant_newFile encoding)
  have hcheck := Watcher.check_eq_iff.2 ⟨(isDue_newFile encoding).symm, rfl⟩
  exact (WatchRun.start.step (.notify hnotify)).step (.check List.not_mem_nil hcheck)

end OnePoll

theorem walk_noFile : ∀ encoding ∈ ["utf-8", "utf-16"],
    walk Encoding.codecs emptyRepository { encoding := .text encoding } (Path.ofText "/repo")
      = .ok { snapshot := emptySnapshot, skipped := [] } := by
  decide +kernel

theorem startOn_emptyRepository :
    Watcher.startOn Encoding.codecs emptyRepository (Path.ofText "/repo")
      { encoding := .text "utf-8" }
      (.ofSeconds 2) = .ok (emptyWatcher "utf-8") :=
  Watcher.startOn_eq_ok_iff.2 ⟨_, walk_noFile _ List.mem_cons_self, rfl⟩

theorem walk_newFile :
    walk Encoding.codecs plainRepository { encoding := .text "utf-8" } (Path.ofText "/repo")
      = .ok { snapshot := plainSnapshot, skipped := [] } := by
  decide +kernel

/-- In UTF-8 the poll returns true, and its walk is counted. -/
theorem overlapping_polls_newFile :
    Watcher.startOn Encoding.codecs emptyRepository (Path.ofText "/repo")
      { encoding := .text "utf-8" }
      (.ofSeconds 2) = .ok (emptyWatcher "utf-8") ∧
    ∃ last, WatchRun Encoding.codecs (emptyWatcher "utf-8")
        [.walked 0 none, .checked 0 2 true, newFileNotice] last ∧
      IsDueAfter (emptyWatcher "utf-8") 2 [newFileNotice] 2 ∧ last.watcher.scanCount = 1 := by
  have hfirst := startOn_emptyRepository
  have hrun := (watchRun_newFile "utf-8").step
    (.walk List.mem_cons_self (Watcher.rescan_eq_ok_iff.2 ⟨_, walk_newFile, rfl⟩))
  obtain ⟨hchecked, -, -, -, -, hcount⟩ := overlapping_polls hfirst hrun
  exact ⟨hfirst, _, hrun, (hchecked [.walked 0 none] 0 2 true [newFileNotice] rfl).1 rfl, hcount⟩

theorem walk_unmarkedFile :
    walk Encoding.codecs plainRepository { encoding := .text "utf-16" } (Path.ofText "/repo")
      = .error (.scan (.read (.decoding .missingMark))) := by
  decide +kernel

/-- In UTF-16 the same poll does not return true: it fails at the new file, though the change is
    due. Nothing is waiting any more, and no scan is counted. -/
theorem due_poll_fails :
    encodingName (.text "utf-16") = .ok "utf-16" ∧
    Encoding.codecs.decoder "utf-16" = .ok Encoding.markedUtf16.decode ∧
    Watcher.startOn Encoding.codecs emptyRepository (Path.ofText "/repo")
      { encoding := .text "utf-16" } (.ofSeconds 2) = .ok (emptyWatcher "utf-16") ∧
    IsDueAfter (emptyWatcher "utf-16") 2 [newFileNotice] 2 ∧
    ∃ last, WatchRun Encoding.codecs (emptyWatcher "utf-16")
        [.walked 0 (some (.scan (.read (.decoding .missingMark)))), .checked 0 2 true,
          newFileNotice] last ∧
      last.underway = [] ∧ last.watcher.lastChange = none ∧ last.watcher.scanCount = 0 := by
  have hempty := walk_noFile "utf-16" (by decide)
  have hscan : (emptyWatcher "utf-16").rescan Encoding.codecs plainRepository
      = .error (.scan (.read (.decoding .missingMark))) := by
    rw [Watcher.rescan]
    exact congrArg (· >>= _) walk_unmarkedFile
  exact ⟨by decide +kernel, Encoding.decoder_codecs (by decide +kernel),
    Watcher.startOn_eq_ok_iff.2 ⟨_, hempty, rfl⟩, isDueAfter_newFileNotice "utf-16", _,
    (watchRun_newFile "utf-16").step (.fail List.mem_cons_self hscan), rfl, rfl, rfl⟩

end SourceOutline
