import Mathlib.Logic.Relation
import SourceOutline.Proofs.Repository.Locality
import SourceOutline.Proofs.Repository.Polling
import SourceOutline.Proofs.Volume.Change

set_option autoImplicit false

/-! # A watched tree that changes

The tree below a root changes while a watcher is told of each change by an event, the clock
advances, and the watcher polls and scans anew, all in any order (`IsTreeStep`). The watcher ignores
a change only if walks overlook it at every place in the tree (`Watcher.Event.TellsOf.overlooks`),
and then the walks before and after it give the same (`IsTreeAt.walk_eq`). So while nothing is
waiting the snapshot is that of the walk of the tree as it is now, if there is one
(`WatchedTree.IsFresh`): every step preserves this, and so does every run. A walk that fails renews
nothing, though the poll that began it has accounted for the change. -/

namespace SourceOutline

variable {codecs : Codecs}

/-! ## Changes that walks overlook -/

/-- What stands below a root under some names, given innermost first, makes no difference to walks:
    one of the names is excluded, or it is no folder and its own name is not supported. -/
def Settings.Overlooks (settings : Settings) (isFolder : Bool) (names : List Name) : Prop :=
  (∃ name ∈ names, settings.isExcluded name.text = true) ∨
    isFolder = false ∧
      ∃ name outer, names = name :: outer ∧ settings.isSupported name.text = .ok false

section

variable {before after : Volume} {isFolder : Bool} {source root : Location}
  {target : Option Location} {settings : Settings}

/-- Volumes look alike before and after a change that is overlooked at all its places below the
    root. -/
theorem IsChange.looksAlike (h : IsChange before after isFolder source target)
    (hway : before.IsLinkFreeTo root) (hbefore : before.IsLinkFreeFrom root)
    (hafter : after.IsLinkFreeFrom root)
    (haway : ∀ place ∈ changedPlaces source target, ¬ place <:+ root)
    (hoverlooked : ∀ names, names ++ root ∈ changedPlaces source target →
      settings.Overlooks isFolder names) : LooksAlike settings root before after where
  linkFree := hbefore
  linkFree_other := hafter
  way := hway
  above outer houter := (h.object?_of_not_below fun place hplace hsuffix =>
    haway place hplace (hsuffix.trans houter)).symm
  below names hincluded := by
    have hexcluded : ∀ inner, inner <:+ names →
        ¬ ∃ name ∈ inner, settings.isExcluded name.text = true := by
      rintro inner hinner ⟨name, hname, hexcluded⟩
      exact Bool.eq_false_iff.1 (hincluded name (hinner.mem hname)) hexcluded
    -- a change of a folder may alter all that is below its places, one of a file nothing but these
    cases isFolder with
    | true =>
      refine .inl (h.object?_of_not_below fun place hplace hsuffix => ?_).symm
      rcases List.suffix_or_suffix_of_suffix hsuffix (List.suffix_append names root) with
        habove | ⟨inner, rfl⟩
      · exact haway place hplace habove
      · obtain ⟨more, hmore⟩ := hsuffix
        have hinner : more ++ inner = names :=
          List.append_cancel_right ((List.append_assoc more inner root).trans hmore)
        exact hexcluded inner ⟨more, hinner⟩ ((hoverlooked inner hplace).resolve_right nofun)
    | false =>
      by_cases hplace : names ++ root ∈ changedPlaces source target
      · have hname := (hoverlooked names hplace).resolve_left (hexcluded names (List.suffix_refl _))
        exact .inr ⟨hname.2, h.of_file.2 _ hplace⟩
      · exact .inl (h.of_file.1 _ hplace).symm

end

/-! ## What is not relevant -/

section

variable {τ : Type}

/-- What is not relevant below the root is overlooked. -/
theorem Watcher.overlooks_of_isRelevant {watcher : Watcher τ} {names : List Name}
    {isFolder : Bool} (hne : names ≠ [])
    (h : watcher.isRelevant (watcher.root.below names.reverse) isFolder = .ok false) :
    watcher.settings.Overlooks isFolder names := by
  unfold isRelevant at h
  rw [Path.stepsBelow?_below] at h
  simp only at h
  split at h
  case isTrue hexcluded =>
    obtain ⟨step, hstep, hname⟩ := List.any_eq_true.1 hexcluded
    obtain ⟨name, hin, rfl⟩ := List.mem_map.1 hstep
    exact .inl ⟨name, List.mem_reverse.1 hin, hname⟩
  case isFalse =>
    cases isFolder with
    | true => simp at h
    | false =>
      obtain ⟨name, outer, rfl⟩ := List.exists_cons_of_ne_nil hne
      refine .inr ⟨rfl, name, outer, rfl, ?_⟩
      rw [List.reverse_cons, Path.fileName_below] at h
      simpa using h

/-! ## Trees and events -/

/-- A folder without links whose place a path from the top leads straight down to. -/
structure IsTreeAt (volume : Volume) (root : Path) (place : Location) : Prop where
  absolute : root.isAbsolute = true
  straight : (walkStart volume root).LeadsDown place
  folders : ∀ outer, outer <:+ place → volume.hasFolder outer = true
  linkFree : volume.IsLinkFreeFrom place

/-- In a volume without links every path from the top to a folder leads to a tree. -/
theorem isTreeAt_of_locate {volume : Volume} {root : Path} {place : Location}
    (hfree : volume.IsLinkFreeFrom []) (habsolute : root.isAbsolute = true)
    (hlocate : volume.locate root = .ok place) (hfolder : volume.hasFolder place = true) :
    IsTreeAt volume root place where
  absolute := habsolute
  straight := hfree.leadsDown_absolute habsolute hlocate _
  folders := hfree.hasFolder_of_locate habsolute hlocate hfolder
  linkFree _ _ := hfree _ List.nil_suffix

/-- An event tells of a change in the tree below a root: it says whether the change is one of a
    folder, and it gives each place of the change in the tree by the path that leads there from the
    root. It may say anything about a place elsewhere. -/
structure Watcher.Event.TellsOf (event : Event) (root : Path) (place : Location)
    (isFolder : Bool) (source : Location) (target : Option Location) : Prop where
  isFolder_eq : event.isFolder = isFolder
  source_eq : ∀ names, source = names ++ place →
    Path.ofText event.source = root.below names.reverse
  target_eq : ∀ names, target = some (names ++ place) →
    Path.ofText event.target = root.below names.reverse

/-- An event that gives the places of a change by the texts of their paths tells of it. -/
theorem Watcher.Event.tellsOf_of_texts {event : Event} {root : Path} {place source : Location}
    {isFolder : Bool} {target : Option Location} (habsolute : root.isAbsolute = true)
    (hplain : .here ∉ root.steps) (hfolder : event.isFolder = isFolder)
    (hsource : ∀ names, source = names ++ place → event.source = (root.below names.reverse).text)
    (htarget : ∀ names, target = some (names ++ place) →
      event.target = (root.below names.reverse).text) :
    event.TellsOf root place isFolder source target := by
  have hread : ∀ names, Path.ofText (root.below names).text = root.below names := by
    intro names
    refine Path.ofText_text habsolute fun hhere => ?_
    rcases List.mem_append.1 hhere with hroot | hbelow
    · exact hplain hroot
    · obtain ⟨name, -, hname⟩ := List.mem_map.1 hbelow
      cases hname
  refine ⟨hfolder, fun names hnames => ?_, fun names hnames => ?_⟩
  · rw [hsource names hnames, hread]
  · rw [htarget names hnames, hread]

/-- A change of which an event tells that the watcher ignores is overlooked. -/
theorem Watcher.Event.TellsOf.overlooks {event : Event} {watcher : Watcher τ}
    {place source : Location} {isFolder : Bool} {target : Option Location}
    (h : event.TellsOf watcher.root place isFolder source target)
    (habsolute : watcher.root.isAbsolute = true) (hignored : watcher.Ignores event)
    {names : List Name} (hne : names ≠ [])
    (hplace : names ++ place ∈ changedPlaces source target) :
    watcher.settings.Overlooks isFolder names := by
  obtain ⟨hsource, htarget⟩ := hignored
  rw [h.isFolder_eq] at hsource htarget
  refine Watcher.overlooks_of_isRelevant hne ?_
  rcases List.mem_cons.1 hplace with hplace | hplace
  · rwa [h.source_eq names hplace.symm] at hsource
  · have hpath := h.target_eq names (Option.mem_toList.1 hplace)
    have hnonempty : event.target ≠ "" := by
      intro hempty
      have hstart : (Path.ofText event.target).isAbsolute = true := hpath ▸ habsolute
      rw [hempty] at hstart
      exact absurd hstart (by decide)
    rw [hpath] at htarget
    exact htarget hnonempty

/-! ## Steps and runs -/

/-- A watcher, the volume with the tree that it watches, and what the clock reads. -/
structure WatchedTree (τ : Type) where
  volume : Volume
  watcher : Watcher τ
  now : τ

/-- What a step can be: a change in the tree at a place, of which the watcher is told by an event;
    an advance of the clock; a poll; or a scan, which leaves the watcher as it is if it fails. -/
inductive IsTreeStep (codecs : Codecs) (place : Location) : WatchedTree τ → WatchedTree τ → Prop
  | change {s : WatchedTree τ} {volume : Volume} {isFolder : Bool} {source : Location}
      {target : Option Location} {event : Watcher.Event}
      (hchange : IsChange s.volume volume isFolder source target)
      (hinside : ∃ inner ∈ changedPlaces source target, place <:+ inner ∧ inner ≠ place)
      (hlinkFree : volume.IsLinkFreeFrom place)
      (hevent : event.TellsOf s.watcher.root place isFolder source target) :
      IsTreeStep codecs place s
        { s with volume := volume, watcher := (s.watcher.handle s.now event).1 }
  | advance {s : WatchedTree τ} {now : τ} : IsTreeStep codecs place s { s with now := now }
  | poll {s : WatchedTree τ} :
      IsTreeStep codecs place s { s with watcher := (s.watcher.poll codecs s.volume s.now).1 }
  | rescan {s : WatchedTree τ} {next : Watcher τ}
      (hscan : s.watcher.rescan codecs s.volume = .ok next) :
      IsTreeStep codecs place s { s with watcher := next }
  | failedRescan {s : WatchedTree τ} {fault : WalkFault}
      (hscan : s.watcher.rescan codecs s.volume = .error fault) : IsTreeStep codecs place s s

/-- A state to which steps lead: the watched tree is still one, and while nothing is waiting the
    snapshot is that of the walk, if there is one. -/
structure WatchedTree.IsFresh (codecs : Codecs) (root : Path) (settings : Settings)
    (place : Location)
    (s : WatchedTree τ) : Prop where
  root_eq : s.watcher.root = root
  settings_eq : s.watcher.settings = settings
  tree : IsTreeAt s.volume root place
  fresh : s.watcher.lastChange = none → ∀ result, walk codecs s.volume settings root = .ok result →
    s.watcher.snapshot = result.snapshot

section

variable {root : Path} {settings : Settings} {place : Location}

/-- A change in a tree is not about the root or what encloses it, so the tree is still one. -/
theorem IsTreeAt.of_isChange {before after : Volume} {isFolder : Bool} {source : Location}
    {target : Option Location} (h : IsTreeAt before root place)
    (hchange : IsChange before after isFolder source target)
    (hinside : ∃ inner ∈ changedPlaces source target, place <:+ inner ∧ inner ≠ place)
    (hlinkFree : after.IsLinkFreeFrom place) : IsTreeAt after root place where
  absolute := h.absolute
  straight := walkStart_congr h.absolute before after ▸ h.straight
  folders outer houter := by
    have haway := hchange.not_encloses h.folders hinside
    have hsame := hchange.object?_of_not_below fun changed hchanged hsuffix =>
      haway changed hchanged (hsuffix.trans houter)
    rw [Volume.hasFolder_congr hsame]
    exact h.folders outer houter
  linkFree := hlinkFree

/-- Walks before and after a change that is overlooked give the same. -/
theorem IsTreeAt.walk_eq {before after : Volume} {isFolder : Bool} {source : Location}
    {target : Option Location} (h : IsTreeAt before root place)
    (hchange : IsChange before after isFolder source target)
    (hinside : ∃ inner ∈ changedPlaces source target, place <:+ inner ∧ inner ≠ place)
    (hlinkFree : after.IsLinkFreeFrom place)
    (hoverlooked : ∀ names, names ≠ [] → names ++ place ∈ changedPlaces source target →
      settings.Overlooks isFolder names) (codecs : Codecs) :
    walk codecs before settings root = walk codecs after settings root := by
  have haway := hchange.not_encloses h.folders hinside
  have hway : before.IsLinkFreeTo place := fun outer houter =>
    Volume.hasLink_of_hasFolder (h.folders outer houter)
  have halike : LooksAlike settings place before after := by
    refine hchange.looksAlike hway h.linkFree hlinkFree haway fun names hplace => ?_
    refine hoverlooked names (fun hnil => ?_) hplace
    rw [hnil] at hplace
    exact haway place hplace (List.suffix_refl _)
  exact halike.walk_congr h.absolute h.straight

namespace WatchedTree.IsFresh

variable {s : WatchedTree τ}

/-- A state with another watcher that is fresh while nothing is waiting. -/
theorem with_watcher {watcher : Watcher τ} (h : s.IsFresh codecs root settings place)
    (hroot : watcher.root = s.watcher.root) (hsettings : watcher.settings = s.watcher.settings)
    (hfresh : watcher.lastChange = none →
      ∀ result, walk codecs s.volume settings root = .ok result →
      watcher.snapshot = result.snapshot) :
    WatchedTree.IsFresh codecs root settings place { s with watcher := watcher } :=
  ⟨hroot.trans h.root_eq, hsettings.trans h.settings_eq, h.tree, hfresh⟩

theorem of_rescan {watcher next : Watcher τ} (h : s.IsFresh codecs root settings place)
    (hscan : watcher.rescan codecs s.volume = .ok next) (hroot : watcher.root = s.watcher.root)
    (hsettings : watcher.settings = s.watcher.settings) :
    WatchedTree.IsFresh codecs root settings place { s with watcher := next } := by
  obtain ⟨result, hresult, rfl⟩ := Watcher.rescan_eq_ok_iff.1 hscan
  rw [hroot, hsettings, h.root_eq, h.settings_eq] at hresult
  refine h.with_watcher hroot hsettings fun _ other hother => ?_
  rw [Except.ok.inj (hother.symm.trans hresult)]

theorem step {t : WatchedTree τ} (h : s.IsFresh codecs root settings place)
    (hstep : IsTreeStep codecs place s t)
    (hextensions : ∀ suffix, ∃ held, settings.extensions.holds suffix = .ok held) :
    t.IsFresh codecs root settings place := by
  cases hstep with
  | @change volume isFolder source target event hchange hinside hlinkFree hevent =>
    have htree := h.tree.of_isChange hchange hinside hlinkFree
    obtain ⟨waiting, hwatcher, hwaiting⟩ := s.watcher.exists_handle_eq
      (h.settings_eq ▸ hextensions) s.now event
    rw [hwatcher]
    refine ⟨h.root_eq, h.settings_eq, htree, fun hidle result hresult => ?_⟩
    -- with nothing waiting after the event, walks cannot tell the change
    obtain ⟨hbefore, hignored⟩ := hwaiting hidle
    have hsame := h.tree.walk_eq hchange hinside hlinkFree (fun names hne hplace =>
      hevent.overlooks (h.root_eq ▸ h.tree.absolute) hignored hne hplace) codecs
    rw [h.settings_eq] at hsame
    exact h.fresh hbefore result (hsame.trans hresult)
  | advance => exact ⟨h.root_eq, h.settings_eq, h.tree, h.fresh⟩
  | poll =>
    obtain hsame | ⟨next, hscan, hnext⟩ | ⟨fault, hscan, hnext⟩ :=
      s.watcher.poll_cases s.volume s.now
    · rw [hsame]
      exact h
    · rw [hnext]
      exact h.of_rescan hscan rfl rfl
    · -- the walk fails, so there is nothing that the snapshot could be behind
      rw [hnext]
      have hwalk : walk codecs s.volume s.watcher.settings s.watcher.root = .error fault :=
        (Watcher.walk_eq_error_of_rescan hscan :)
      rw [h.root_eq, h.settings_eq] at hwalk
      exact h.with_watcher rfl rfl fun _ result hresult => nomatch hresult.symm.trans hwalk
  | rescan hscan => exact h.of_rescan hscan rfl rfl
  | failedRescan => exact h

theorem run {t : WatchedTree τ} (h : s.IsFresh codecs root settings place)
    (hrun : Relation.ReflTransGen (IsTreeStep codecs place) s t)
    (hextensions : ∀ suffix, ∃ held, settings.extensions.holds suffix = .ok held) :
    t.IsFresh codecs root settings place := by
  induction hrun with
  | refl => exact h
  | tail _ hstep ih => exact ih.step hstep hextensions

end WatchedTree.IsFresh

end

end

/-! ## Watchers that are not behind -/

/-- Whatever happens in what order to a tree without links and to the watcher of it, in every state
    in which nothing is waiting the snapshot is that of the walk of the tree as it is now, if the
    walk returns; and it returns exactly if it reads no file that stops a scan. -/
theorem watch_freshness {τ : Type} {settings : Settings}
    (hextensions : ∀ suffix, ∃ held, settings.extensions.holds suffix = .ok held)
    (hwhole : ∀ x, settings.snippetLines ≠ .real x) {encodingText : String} {decode : Decoder}
    (hname : encodingName settings.encoding = .ok encodingText)
    (hdecoder : codecs.decoder encodingText = .ok decode) {volume : Volume} {root : Path}
    {place : Location} (htree : IsTreeAt volume root place) {debounce : Debounce τ}
    {first : Watcher τ} (hfirst : Watcher.startOn codecs volume root settings debounce = .ok first)
    (now : τ) {last : WatchedTree τ}
    (hrun : Relation.ReflTransGen (IsTreeStep codecs place) ⟨volume, first, now⟩ last)
    (hidle : last.watcher.lastChange = none) :
    (∀ result, walk codecs last.volume settings root = .ok result →
      last.watcher.snapshot = result.snapshot) ∧
    ((∃ result, walk codecs last.volume settings root = .ok result ∧
        last.watcher.snapshot = result.snapshot) ↔
      ∀ file, Reads last.volume settings [] (walkStart last.volume root) file →
        ¬ IsRefused last.volume decode file) := by
  obtain ⟨result, hresult, rfl⟩ := Watcher.startOn_eq_ok_iff.1 hfirst
  have hbegin : WatchedTree.IsFresh codecs root settings place
      ⟨volume, { root, settings, debounce, snapshot := result.snapshot }, now⟩ :=
    ⟨rfl, rfl, htree, fun _ other hother => by rw [Except.ok.inj (hother.symm.trans hresult)]⟩
  have hfresh := (hbegin.run hrun hextensions).fresh hidle
  refine ⟨hfresh, ?_⟩
  -- the root is still written as it was when the first walk returned
  have hplain : (walkStart last.volume root).hasNull = false := by
    rw [walkStart_congr htree.absolute last.volume volume]
    refine Bool.eq_false_iff.2 fun hnull => ?_
    exact nomatch hresult.symm.trans (walk_of_hasNull hnull)
  have hreturns : (∃ result, walk codecs last.volume settings root = .ok result ∧
      last.watcher.snapshot = result.snapshot) ↔
        ∃ result, walk codecs last.volume settings root = .ok result :=
    exists_congr fun result => and_iff_left_of_imp (hfresh result)
  rw [hreturns, exists_walk_eq_ok_iff]
  exact exists_visitFolder_eq_ok_iff hextensions hwhole hname hdecoder last.volume []
    (walkStart last.volume root) (rootNode (walkStart last.volume root)).id
    (isAbsolute_walkStart _ _) hplain

/-! ## A snapshot that is renewed and one that stays behind -/

/-- The event of a new file. -/
def newFileEvent : Watcher.Event where
  source := "/repo/a.py"
  isFolder := false

/-- Where the repository stands. -/
def repositoryPlace : Location := [repositoryName]

/-- Where the new file stands. -/
def newFilePlace : Location := [sourceName] ++ repositoryPlace

theorem isTreeAt_emptyRepository :
    IsTreeAt emptyRepository (Path.ofText "/repo") repositoryPlace :=
  isTreeAt_of_locate (Volume.isLinkFreeFrom_of_entries (by decide) []) (by decide)
    (by decide +kernel) (by decide)

theorem isChange_newFile :
    IsChange emptyRepository plainRepository false newFilePlace none := by
  have hput : emptyRepository.put newFilePlace (.file (encodeUtf8 "x = 1\n".toList) true)
      = plainRepository := rfl
  rw [← hput]
  exact .put_file (.inl (by decide)) (by decide) (by decide)

theorem newFileEvent_tellsOf :
    newFileEvent.TellsOf (Path.ofText "/repo") repositoryPlace false newFilePlace none := by
  refine Watcher.Event.tellsOf_of_texts rfl (by decide) rfl (fun names hnames => ?_) nofun
  obtain rfl : names = [sourceName] := (List.append_cancel_right hnames).symm
  decide

theorem run_newFile (encoding : String) (next : Watcher Rat)
    (hpoll : (Watcher.poll { emptyWatcher encoding with lastChange := some 0 } Encoding.codecs
      plainRepository 2).1 = next) :
    Relation.ReflTransGen (IsTreeStep Encoding.codecs repositoryPlace)
      ⟨emptyRepository, emptyWatcher encoding, 0⟩ ⟨plainRepository, next, 2⟩ := by
  have hnone : (emptyWatcher encoding).isRelevant (Path.ofText newFileEvent.target)
      newFileEvent.isFolder = .ok false := rfl
  have hhandle := Watcher.handle_eq (isRelevant_newFile encoding) hnone 0
  have hfree := Volume.isLinkFreeFrom_of_entries
    (by decide : ∀ entry ∈ plainRepository.entries, plainRepository.hasLink entry.1 = false)
  have hstep := @IsTreeStep.change _ Encoding.codecs _
    ⟨emptyRepository, emptyWatcher encoding, 0⟩ _ _ _ _ _ isChange_newFile
      ⟨_, List.mem_cons_self, List.suffix_append _ _, by decide⟩ (hfree _)
    newFileEvent_tellsOf
  rw [hhandle] at hstep
  rw [← hpoll]
  exact ((Relation.ReflTransGen.single hstep).tail .advance).tail .poll

/-- In a known encoding the watcher has the file in its snapshot, as the walk has. -/
theorem watch_freshness_newFile :
    (∀ suffix, ∃ held, (emptyWatcher "utf-8").settings.extensions.holds suffix = .ok held) ∧
    (∀ x, (emptyWatcher "utf-8").settings.snippetLines ≠ .real x) ∧
    encodingName (.text "utf-8") = .ok "utf-8" ∧
    Encoding.codecs.decoder "utf-8" = .ok utf8Decoder ∧
    IsTreeAt emptyRepository (Path.ofText "/repo") repositoryPlace ∧
    Watcher.startOn Encoding.codecs emptyRepository (Path.ofText "/repo")
      { encoding := .text "utf-8" }
      (.ofSeconds 2) = .ok (emptyWatcher "utf-8") ∧
    ∃ last : WatchedTree Rat, Relation.ReflTransGen (IsTreeStep Encoding.codecs repositoryPlace)
        ⟨emptyRepository, emptyWatcher "utf-8", 0⟩ last ∧
      last.volume = plainRepository ∧ last.watcher.lastChange = none ∧
      last.watcher.snapshot = plainSnapshot ∧
      ∃ result,
        walk Encoding.codecs last.volume { encoding := .text "utf-8" } (Path.ofText "/repo")
          = .ok result ∧
        last.watcher.snapshot = result.snapshot := by
  have hextensions : ∀ suffix, ∃ held,
      (emptyWatcher "utf-8").settings.extensions.holds suffix = .ok held := fun suffix => ⟨_, rfl⟩
  have hwhole : ∀ x, (emptyWatcher "utf-8").settings.snippetLines ≠ .real x := nofun
  have hname : encodingName (.text "utf-8") = .ok "utf-8" := by decide +kernel
  have hdecoder := Encoding.codecs.decoder_utf8
  have hscan : (Watcher.clear { emptyWatcher "utf-8" with lastChange := some 0 }).rescan
      Encoding.codecs plainRepository
        = .ok { emptyWatcher "utf-8" with snapshot := plainSnapshot, scanCount := 1 } :=
    Watcher.rescan_eq_ok_iff.2 ⟨_, walk_newFile, rfl⟩
  have hrun := run_newFile "utf-8"
    { emptyWatcher "utf-8" with snapshot := plainSnapshot, scanCount := 1 }
    (by rw [Watcher.poll_of_isDue plainRepository (isDue_newFile "utf-8"), hscan])
  have hfresh := watch_freshness hextensions hwhole hname hdecoder isTreeAt_emptyRepository
    startOn_emptyRepository 0 hrun rfl
  exact ⟨hextensions, hwhole, hname, hdecoder, isTreeAt_emptyRepository, startOn_emptyRepository,
    _, hrun, rfl, rfl, rfl, hfresh.2.2 fun file _ => not_isRefused_utf8 plainRepository file⟩

/-- In UTF-16 the walk of the poll fails at the file. Nothing is waiting any more, and the snapshot
    is that of the empty repository. -/
theorem watch_stale_unmarkedFile :
    encodingName (.text "utf-16") = .ok "utf-16" ∧
    Encoding.codecs.decoder "utf-16" = .ok Encoding.markedUtf16.decode ∧
    IsTreeAt emptyRepository (Path.ofText "/repo") repositoryPlace ∧
    Watcher.startOn Encoding.codecs emptyRepository (Path.ofText "/repo")
      { encoding := .text "utf-16" }
      (.ofSeconds 2) = .ok (emptyWatcher "utf-16") ∧
    ∃ last : WatchedTree Rat, Relation.ReflTransGen (IsTreeStep Encoding.codecs repositoryPlace)
        ⟨emptyRepository, emptyWatcher "utf-16", 0⟩ last ∧
      last.volume = plainRepository ∧ last.watcher.lastChange = none ∧
      last.watcher.snapshot = emptySnapshot ∧
      ¬ ∃ result,
        walk Encoding.codecs last.volume { encoding := .text "utf-16" } (Path.ofText "/repo")
          = .ok result ∧ last.watcher.snapshot = result.snapshot := by
  have hscan : (Watcher.clear { emptyWatcher "utf-16" with lastChange := some 0 }).rescan
      Encoding.codecs plainRepository = .error (.scan (.read (.decoding .missingMark))) := by
    rw [Watcher.rescan]
    exact congrArg (· >>= _) walk_unmarkedFile
  have hrun := run_newFile "utf-16" (emptyWatcher "utf-16")
    (by rw [Watcher.poll_of_isDue plainRepository (isDue_newFile "utf-16"), hscan]; rfl)
  refine ⟨by decide +kernel, Encoding.decoder_codecs (by decide +kernel), isTreeAt_emptyRepository,
    Watcher.startOn_eq_ok_iff.2 ⟨_, walk_noFile "utf-16" (by decide), rfl⟩, _, hrun, rfl, rfl, rfl,
    ?_⟩
  rw [walk_unmarkedFile]
  rintro ⟨result, hresult, -⟩
  cases hresult

end SourceOutline
