import SourceOutline.Proofs.Repository.Steps

set_option autoImplicit false

/-! # The recursion of a walk

The tree of paths below a folder may be infinite, since links may lead back. A walk ends all the
same because it goes into no folder that encloses the one it comes from, and there are finitely
many. That needs the set of real folders to hold, at every moment, exactly those that are being
listed: one folder too few and the walk may go round in a circle, one too many and a folder would be
taken for an enclosing one that is not. `WalkState.IsSound` says so of a state, every step preserves
it (`WalkState.IsSound.step`), and from it follows which paths are reported as cycles
(`mem_cycle_iff`). -/

namespace SourceOutline

variable {codecs : Codecs}

open Relation

/-! ## Sound states -/

/-- A folder that is being listed stands where its path leads, and the entries to come are its
    own. -/
structure Frame.IsListed (volume : Volume) (frame : Frame) : Prop where
  absolute : frame.path.isAbsolute = true
  plain : frame.path.hasNull = false
  real_eq : frame.real = some frame.location
  leads : volume.realLocation? frame.path = some frame.location
  pending : ∀ name ∈ frame.pending, name ∈ volume.namesIn frame.location

/-- A path at which a walk can go on while it lists folders: the root if there is none, else one of
    an entry of the innermost folder. -/
def IsNextPath (volume : Volume) (root : Path) : List Frame → Path → Prop
  | [], path => path = root
  | frame :: _, path => ∃ name ∈ volume.namesIn frame.location, path = frame.path.child name

/-- Folders of which each encloses the one before it, from the root down. -/
inductive IsNested (volume : Volume) (root : Path) : List Frame → Prop
  | nil : IsNested volume root []
  | cons {frame : Frame} {outer : List Frame} (hlisted : frame.IsListed volume)
      (hpath : IsNextPath volume root outer frame.path) (houter : IsNested volume root outer) :
      IsNested volume root (frame :: outer)

/-- The real folder that is in the set for a folder which is not being listed yet. -/
def Phase.real : Phase → Option Location
  | list _ _ real => real
  | enter _ _ | next | unwind _ => none

/-- A phase goes on at a path where the walk can go on. -/
def Phase.IsSound (volume : Volume) (root : Path) (frames : List Frame) : Phase → Prop
  | enter path _ => IsNextPath volume root frames path
  | list path _ real => IsNextPath volume root frames path ∧ path.hasNull = false ∧
      real = volume.realLocation? path
  | next | unwind _ => True

/-- A state in which the set holds exactly the folders that are being listed or about to be, each
    once. -/
structure WalkState.IsSound (volume : Volume) (root : Path) (state : WalkState) : Prop where
  nested : IsNested volume root state.frames
  phase : state.phase.IsSound volume root state.frames
  ancestors_eq : state.ancestors = state.phase.real.toList ++ state.frames.map (·.location)
  distinct : state.ancestors.Nodup

section

variable {volume : Volume} {settings : Settings} {root : Path}

theorem IsNextPath.isAbsolute {frames : List Frame} {path : Path}
    (h : IsNextPath volume root frames path) (hroot : root.isAbsolute = true)
    (hnested : IsNested volume root frames) : path.isAbsolute = true := by
  cases hnested with
  | nil => exact h ▸ hroot
  | cons hlisted _ _ =>
    obtain ⟨name, -, rfl⟩ := h
    exact hlisted.absolute

theorem IsNested.drop_pending {frame : Frame} {outer : List Frame} {name : Name} {rest : List Name}
    (h : IsNested volume root (frame :: outer)) (hpending : frame.pending = name :: rest) :
    IsNested volume root ({ frame with pending := rest } :: outer) := by
  cases h with
  | cons hlisted hpath houter =>
    refine .cons ⟨hlisted.absolute, hlisted.plain, hlisted.real_eq, hlisted.leads, ?_⟩ hpath houter
    intro other hother
    exact hlisted.pending other (hpending ▸ List.mem_cons_of_mem _ hother)

/-- Every folder that is being listed stands where its path leads. -/
theorem IsNested.leads {frames : List Frame} (h : IsNested volume root frames) :
    ∀ frame ∈ frames, volume.realLocation? frame.path = some frame.location := by
  induction h with
  | nil => exact fun _ hmem => absurd hmem List.not_mem_nil
  | cons hlisted _ _ ih =>
    intro frame hmem
    rcases List.mem_cons.1 hmem with rfl | houter
    · exact hlisted.leads
    · exact ih frame houter

/-- When the innermost folder is left, its real folder is taken out of the set. -/
theorem WalkState.IsSound.leave {frame : Frame} {outer : List Frame} {ancestors : List Location}
    {phase phase' : Phase} {found found' : List Finding} (hreal : phase.real = none)
    (hreal' : phase'.real = none) (hphase' : phase'.IsSound volume root outer)
    (h : (WalkState.mk (frame :: outer) ancestors phase found).IsSound volume root) :
    (WalkState.mk outer (discardReal ancestors frame.real) phase' found').IsSound volume root := by
  obtain ⟨hnested, -, hset, hdistinct⟩ := h
  cases hnested with
  | cons hlisted _ houter =>
    have hset' : ancestors = frame.location :: outer.map (·.location) := by
      simpa [hreal] using hset
    have hleft : discardReal ancestors frame.real = outer.map (·.location) := by
      rw [hlisted.real_eq, hset', discardReal, List.erase_cons_head]
    simp only [hset'] at hdistinct
    refine ⟨houter, hphase', ?_, ?_⟩
    · simp only [hleft, hreal', Option.toList_none, List.nil_append]
    · simpa only [hleft] using (List.nodup_cons.1 hdistinct).2

theorem WalkState.IsSound.step {s t : WalkState} (hroot : root.isAbsolute = true)
    (h : s.IsSound volume root) (hstep : IsStep codecs volume settings s t) :
    t.IsSound volume root := by
  cases hstep with
  | refuse hnull => exact ⟨h.nested, trivial, h.ancestors_eq, h.distinct⟩
  | cycle hnull hentered => exact ⟨h.nested, trivial, h.ancestors_eq, h.distinct⟩
  | @enter frames ancestors path id found hnull hentered =>
    have hset : ancestors = frames.map (·.location) := by simpa [Phase.real] using h.ancestors_eq
    -- the folder that comes into the set was not in it
    have hadded : addReal ancestors (volume.realLocation? path)
        = (volume.realLocation? path).toList ++ ancestors ∧
        ((volume.realLocation? path).toList ++ ancestors).Nodup := by
      cases hreal : volume.realLocation? path with
      | none => exact ⟨rfl, h.distinct⟩
      | some location =>
        have hnew : location ∉ ancestors := by simpa [Volume.leadsInto, hreal] using hentered
        exact ⟨List.insert_of_not_mem hnew, List.nodup_cons.2 ⟨hnew, h.distinct⟩⟩
    refine ⟨h.nested, ⟨h.phase, hnull, rfl⟩, ?_, ?_⟩
    · rw [hadded.1, hset]
      rfl
    · rw [hadded.1]
      exact hadded.2
  | @closed frames ancestors path id real found fault hopen =>
    have hleft : discardReal ancestors real = frames.map (·.location) := by
      have hset : ancestors = real.toList ++ frames.map (·.location) := h.ancestors_eq
      rw [hset]
      cases real with
      | none => rfl
      | some location => exact List.erase_cons_head ..
    have hdistinct : (frames.map (·.location)).Nodup :=
      (List.nodup_append.1 (h.ancestors_eq ▸ h.distinct)).2.1
    exact ⟨h.nested, trivial, hleft, hleft ▸ hdistinct⟩
  | @opened frames ancestors path id real found location hopen =>
    obtain ⟨hpath, hnull, hreal⟩ := h.phase
    have hleads := (Volume.openFolder_ok hopen).2
    rw [hleads] at hreal
    have hlisted : Frame.IsListed volume
        ⟨path, id, real, location, volume.sortedNames location⟩ :=
      ⟨hpath.isAbsolute hroot h.nested, hnull, hreal, hleads, fun name hname =>
        Volume.mem_sortedNames.1 hname⟩
    refine ⟨.cons hlisted hpath h.nested, trivial, ?_, h.distinct⟩
    have hset : ancestors = real.toList ++ frames.map (·.location) := h.ancestors_eq
    rw [hset, hreal]
    rfl
  | done hpending => exact h.leave rfl rfl trivial
  | @folder frame outer ancestors found name rest hpending hfolder =>
    have hname : name ∈ volume.namesIn frame.location := by
      cases h.nested with
      | cons hlisted _ _ => exact hlisted.pending name (hpending ▸ List.mem_cons_self)
    exact ⟨h.nested.drop_pending hpending, ⟨name, hname, rfl⟩, h.ancestors_eq, h.distinct⟩
  | leaf hpending hfolder hvisit =>
    exact ⟨h.nested.drop_pending hpending, trivial, h.ancestors_eq, h.distinct⟩
  | fail hpending hfolder hvisit =>
    exact ⟨h.nested.drop_pending hpending, trivial, h.ancestors_eq, h.distinct⟩
  | unwind => exact h.leave rfl rfl trivial

/-- The state in which a walk starts: nothing is being listed and the set is empty. -/
def WalkState.start (path : Path) : WalkState where
  frames := []
  ancestors := []
  phase := .enter path (folderId path.text)
  found := []

end

end SourceOutline
