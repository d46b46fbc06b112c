import SourceOutline.Proofs.Repository.Reports
import SourceOutline.Proofs.Volume.Straight

set_option autoImplicit false

/-! # The paths that a walk comes to

Which paths a walk comes to is told without following it: every name on the way is one that is not
excluded, every path on the way is a folder of the one before, and all of them can be listed and
stand at different real places (`IsOpenPath`). A visit goes down to exactly these paths
(`exists_descends_iff`), with the folders on the way as those being visited
(`Descends.mem_within_iff`). -/

namespace SourceOutline

/-! ## Entries -/

section

variable (volume : Volume) (settings : Settings) (folder : Path) (name : Name)

/-- The entry of a folder that can be listed is a folder, or leads to one through links if those are
    followed. -/
def IsFolderIn : Prop :=
  ∃ location, volume.openFolder folder = .ok location ∧
    (volume.hasFolder (name :: location) = true ∨
      settings.followLinks.isTrue = true ∧ volume.hasLink (name :: location) = true ∧
        ∃ target, volume.locate (folder.child name) = .ok target ∧ volume.hasFolder target = true)

/-- The entry of a folder that can be listed is a file, or leads to one through links. -/
def IsFileIn : Prop :=
  ∃ location, volume.openFolder folder = .ok location ∧
    (volume.hasFile (name :: location) = true ∨
      volume.hasLink (name :: location) = true ∧
        ∃ target, volume.locate (folder.child name) = .ok target ∧ volume.hasFile target = true)

/-- The entry of a folder that can be listed is a link that cannot be told where it leads. -/
def IsBrokenIn : Prop :=
  ∃ location, volume.openFolder folder = .ok location ∧
    volume.hasLink (name :: location) = true ∧
      ∃ fault, volume.locate (folder.child name) = .error fault

end

section Entry

variable {volume : Volume} {settings : Settings} {folder : Path} {name : Name}
  {location : Location} {follow : Bool}

theorem exists_ok_and_iff {ε α : Type} {x : Except ε α} {a : α} {p : α → Prop} (h : x = .ok a) :
    (∃ b, x = .ok b ∧ p b) ↔ p a := by
  subst h
  exact ⟨fun ⟨b, hb, hp⟩ => Except.ok.inj hb ▸ hp, fun hp => ⟨a, rfl, hp⟩⟩

theorem linkRole_eq_folder_iff {path : Path} :
    linkRole volume follow path = .folder ↔
      follow = true ∧ ∃ target, volume.locate path = .ok target ∧
        volume.hasFolder target = true := by
  unfold linkRole Volume.hasFolder
  cases hlocate : volume.locate path with
  | error fault => cases fault <;> simp
  | ok target =>
    cases hobject : volume.object? target with
    | none => simp [hobject]
    | some object => cases object <;> cases follow <;> simp [hobject, Object.role]

theorem linkRole_eq_file_iff {path : Path} :
    linkRole volume follow path = .file ↔
      ∃ target, volume.locate path = .ok target ∧ volume.hasFile target = true := by
  unfold linkRole Volume.hasFile
  cases hlocate : volume.locate path with
  | error fault => cases fault <;> simp
  | ok target =>
    cases hobject : volume.object? target with
    | none => simp [hobject]
    | some object => cases object <;> cases follow <;> simp [hobject, Object.role]

theorem exists_linkRole_eq_failed_iff (follow : Bool) {path : Path} :
    (∃ reason, linkRole volume follow path = .failed reason) ↔
      ∃ fault, volume.locate path = .error fault := by
  unfold linkRole
  cases hlocate : volume.locate path with
  | error fault => cases fault <;> simp
  | ok target =>
    cases hobject : volume.object? target with
    | none => simp [hobject]
    | some object => cases object <;> cases follow <;> simp [hobject, Object.role]

theorem entryRole_eq_folder_iff (hopen : volume.openFolder folder = .ok location) :
    entryRole volume settings.followLinks.isTrue location folder name = .folder ↔
      IsFolderIn volume settings folder name := by
  rw [IsFolderIn, exists_ok_and_iff hopen]
  unfold entryRole Volume.hasFolder Volume.hasLink
  cases hobject : volume.object? (name :: location) with
  | none => simp
  | some object => cases object <;> simp [Object.role, linkRole_eq_folder_iff, Volume.hasFolder]

theorem entryRole_eq_file_iff (hopen : volume.openFolder folder = .ok location) :
    entryRole volume follow location folder name = .file ↔ IsFileIn volume folder name := by
  rw [IsFileIn, exists_ok_and_iff hopen]
  unfold entryRole Volume.hasFile Volume.hasLink
  cases hobject : volume.object? (name :: location) with
  | none => simp
  | some object => cases object <;> simp [Object.role, linkRole_eq_file_iff, Volume.hasFile]

theorem exists_entryRole_eq_failed_iff (hopen : volume.openFolder folder = .ok location) :
    (∃ reason, entryRole volume follow location folder name = .failed reason) ↔
      IsBrokenIn volume folder name := by
  rw [IsBrokenIn, exists_ok_and_iff hopen, ← exists_linkRole_eq_failed_iff follow]
  unfold entryRole Volume.hasLink
  cases hobject : volume.object? (name :: location) with
  | none => simp
  | some object => cases object <;> simp [Object.role]

theorem mem_namesIn_of_entryRole (h : entryRole volume follow location folder name ≠ .ignored) :
    name ∈ volume.namesIn location := by
  rw [Volume.mem_namesIn_iff, Option.isSome_iff_ne_none]
  intro hnone
  exact h (by rw [entryRole, hnone])

end Entry

/-! ## Paths -/

section

variable (volume : Volume) (settings : Settings) (start : Path)

/-- A walk lists the folders on the way by some names, the last included. -/
structure IsOpenPath (names : List Name) : Prop where
  included : ∀ name ∈ names, settings.isExcluded name.text = false
  folders : ∀ outer name, outer ++ [name] <+: names →
    IsFolderIn volume settings (start.below outer) name
  listable : ∀ outer, outer <+: names →
    ∃ location, volume.openFolder (start.below outer) = .ok location
  distinct : ∀ outer other, outer <+: names → other <+: names →
    volume.realLocation? (start.below outer) = volume.realLocation? (start.below other) →
      outer = other

/-- The path by some names is that of an entry of some kind that is not excluded, in a folder that a
    walk lists. -/
def IsEntryPath (kind : Path → Name → Prop) (names : List Name) : Prop :=
  ∃ outer name, names = outer ++ [name] ∧ IsOpenPath volume settings start outer ∧
    settings.isExcluded name.text = false ∧ kind (start.below outer) name

/-- A walk comes to a folder. -/
def IsFolderPath : List Name → Prop :=
  IsEntryPath volume settings start (IsFolderIn volume settings)

/-- A walk comes to a file that it reads. -/
def IsFilePath : List Name → Prop :=
  IsEntryPath volume settings start fun folder name =>
    settings.isSupported name.text = .ok true ∧ IsFileIn volume folder name

/-- A walk comes to a link that cannot be told where it leads. -/
def IsBrokenPath : List Name → Prop :=
  IsEntryPath volume settings start (IsBrokenIn volume)

end

section

variable {volume : Volume} {settings : Settings} {start path : Path}
  {entered within : List Location} {location : Location} {name : Name} {names : List Name}

theorem leadsInto_iff :
    volume.leadsInto path entered = true ↔
      ∃ real ∈ entered, volume.realLocation? path = some real := by
  unfold Volume.leadsInto
  cases volume.realLocation? path with
  | none => simp
  | some real => simp

/-- A path does not lead to one of some locations if it leads neither to the first nor to one of the
    others. -/
theorem leadsInto_cons_eq_false_iff :
    volume.leadsInto path (location :: entered) = false ↔
      volume.realLocation? path ≠ some location ∧ volume.leadsInto path entered = false := by
  rw [← Bool.not_eq_true, ← Bool.not_eq_true, leadsInto_iff, leadsInto_iff]
  simp

theorem leadsInto_nil : volume.leadsInto path [] = false := by
  rw [← Bool.not_eq_true, leadsInto_iff]
  simp

theorem isOpenPath_nil_iff :
    IsOpenPath volume settings path [] ↔ ∃ location, volume.openFolder path = .ok location := by
  constructor
  · intro h
    simpa using h.listable [] List.nil_prefix
  · intro h
    refine ⟨by simp, ?_, ?_, ?_⟩
    · intro outer name hprefix
      simp at hprefix
    · intro outer hprefix
      rw [List.prefix_nil] at hprefix
      subst hprefix
      simpa using h
    · intro outer other houter hother _
      rw [List.prefix_nil.1 houter, List.prefix_nil.1 hother]

/-- The way by one more name lists the folder, goes on at an entry that is a folder, and does not
    come back. -/
theorem isOpenPath_cons_iff (hopen : volume.openFolder path = .ok location) :
    IsOpenPath volume settings path (name :: names) ↔
      settings.isExcluded name.text = false ∧ IsFolderIn volume settings path name ∧
        IsOpenPath volume settings (path.child name) names ∧
        ∀ outer, outer <+: names →
          volume.realLocation? ((path.child name).below outer) ≠ some location := by
  have hreal := (Volume.openFolder_ok hopen).2
  constructor
  · intro h
    refine ⟨h.included name List.mem_cons_self, ?_, ⟨?_, ?_, ?_, ?_⟩, ?_⟩
    · simpa using h.folders [] name (by simp)
    · exact fun other hother => h.included other (List.mem_cons_of_mem _ hother)
    · intro outer last hprefix
      simpa using h.folders (name :: outer) last (by simpa using hprefix)
    · intro outer hprefix
      simpa using h.listable (name :: outer) (by simpa using hprefix)
    · intro outer other houter hother heq
      have := h.distinct (name :: outer) (name :: other) (by simpa using houter)
        (by simpa using hother) (by simpa using heq)
      exact (List.cons.inj this).2
    · intro outer houter heq
      have := h.distinct (name :: outer) [] (by simpa using houter) List.nil_prefix
        (by simpa [hreal] using heq)
      exact List.cons_ne_nil _ _ this
  · rintro ⟨hincluded, hfolder, h, hreturns⟩
    refine ⟨List.forall_mem_cons.2 ⟨hincluded, h.included⟩, ?_, ?_, ?_⟩
    · intro outer last hprefix
      cases outer with
      | nil =>
        obtain ⟨rfl, -⟩ := List.cons_prefix_cons.1 hprefix
        simpa using hfolder
      | cons first outer =>
        obtain ⟨rfl, hrest⟩ := List.cons_prefix_cons.1 hprefix
        simpa using h.folders outer last hrest
    · intro outer hprefix
      cases outer with
      | nil => exact ⟨location, by simpa using hopen⟩
      | cons first outer =>
        obtain ⟨rfl, hrest⟩ := List.cons_prefix_cons.1 hprefix
        simpa using h.listable outer hrest
    · -- of two ways that lead to one place neither goes on unless both do
      intro outer other houter hother heq
      cases outer with
      | nil =>
        cases other with
        | nil => rfl
        | cons second other =>
          obtain ⟨rfl, hrest⟩ := List.cons_prefix_cons.1 hother
          rw [Path.below_nil, Path.below_cons, hreal] at heq
          exact absurd heq.symm (hreturns other hrest)
      | cons first outer =>
        obtain ⟨rfl, hrest⟩ := List.cons_prefix_cons.1 houter
        cases other with
        | nil =>
          rw [Path.below_nil, Path.below_cons, hreal] at heq
          exact absurd heq (hreturns outer hrest)
        | cons second other =>
          obtain ⟨rfl, hmore⟩ := List.cons_prefix_cons.1 hother
          rw [Path.below_cons, Path.below_cons] at heq
          rw [h.distinct outer other hrest hmore heq]

theorem IsOpenPath.of_prefix {outer : List Name} (h : IsOpenPath volume settings start names)
    (houter : outer <+: names) : IsOpenPath volume settings start outer where
  included name hname := h.included name (houter.mem hname)
  folders inner name hinner := h.folders inner name (hinner.trans houter)
  listable inner hinner := h.listable inner (hinner.trans houter)
  distinct inner other hinner hother := h.distinct inner other (hinner.trans houter)
    (hother.trans houter)

/-! ## Where a visit goes down -/

theorem isFolderEntry_iff (hopen : volume.openFolder path = .ok location) :
    IsFolderEntry volume settings location path name ↔
      settings.isExcluded name.text = false ∧ IsFolderIn volume settings path name := by
  rw [← entryRole_eq_folder_iff hopen]
  exact ⟨fun h => ⟨h.included, h.role⟩, fun h => ⟨h.1, h.2⟩⟩

theorem isFileEntry_iff (hopen : volume.openFolder path = .ok location) :
    IsFileEntry volume settings location path name ↔
      settings.isExcluded name.text = false ∧ settings.isSupported name.text = .ok true ∧
        IsFileIn volume path name := by
  rw [← entryRole_eq_file_iff hopen]
  exact ⟨fun h => ⟨h.included, h.supported, h.role⟩, fun h => ⟨h.1, h.2.2, h.2.1⟩⟩

theorem exists_isLostEntry_iff (hopen : volume.openFolder path = .ok location) :
    (∃ reason, IsLostEntry volume settings location path name reason) ↔
      settings.isExcluded name.text = false ∧ IsBrokenIn volume path name := by
  rw [← exists_entryRole_eq_failed_iff hopen]
  constructor
  · rintro ⟨reason, h⟩
    exact ⟨h.included, reason, h.role⟩
  · rintro ⟨hincluded, reason, hrole⟩
    exact ⟨reason, hincluded, hrole⟩

/-- A visit goes down by exactly the names on the way by which all folders can be listed and stand
    at different places, none of them one of those being visited. -/
theorem exists_descends_iff :
    ∀ {names : List Name} {entered : List Location} {path : Path}, path.isAbsolute = true →
      path.hasNull = false →
      ((∃ location within, Descends volume settings entered path names location within) ↔
        IsOpenPath volume settings path names ∧
          ∀ outer, outer <+: names → volume.leadsInto (path.below outer) entered = false) := by
  intro names
  induction names with
  | nil =>
    intro entered path habsolute hplain
    rw [isOpenPath_nil_iff]
    constructor
    · rintro ⟨location, within, hdescends⟩
      cases hdescends with
      | here hopens =>
        refine ⟨⟨location, hopens.opened⟩, fun outer houter => ?_⟩
        rw [List.prefix_nil.1 houter, Path.below_nil]
        exact hopens.fresh
    · rintro ⟨⟨location, hopen⟩, hfresh⟩
      have hself := hfresh [] List.nil_prefix
      rw [Path.below_nil] at hself
      exact ⟨location, entered, .here ⟨hplain, hself, hopen⟩⟩
  | cons name names ih =>
    intro entered path habsolute hplain
    have hbelow : (path.child name).isAbsolute = true := habsolute
    have hchild : ∀ {location : Location}, name ∈ volume.namesIn location →
        (path.child name).hasNull = false := fun hname =>
      Path.hasNull_child hplain (Volume.hasNull_of_mem_namesIn hname)
    constructor
    · rintro ⟨place, within, hdescends⟩
      cases hdescends with
      | @deeper _ _ _ location _ _ _ hopens hname hfolder hdescends =>
        obtain ⟨hopen, hfresh⟩ := (ih hbelow (hchild hname)).1 ⟨_, _, hdescends⟩
        -- the folder of this step is being visited too, so the further way does not return to it
        have hboth := fun outer houter => leadsInto_cons_eq_false_iff.1 (hfresh outer houter)
        obtain ⟨hincluded, hin⟩ := (isFolderEntry_iff hopens.opened).1 hfolder
        have hway := (isOpenPath_cons_iff hopens.opened).2
          ⟨hincluded, hin, hopen, fun outer houter => (hboth outer houter).1⟩
        refine ⟨hway, fun outer houter => ?_⟩
        rcases List.prefix_cons_iff.1 houter with rfl | ⟨rest, rfl, hrest⟩
        · rw [Path.below_nil]
          exact hopens.fresh
        · rw [Path.below_cons]
          exact (hboth rest hrest).2
    · rintro ⟨hopen, hfresh⟩
      obtain ⟨location, hlocation⟩ := hopen.listable [] List.nil_prefix
      rw [Path.below_nil] at hlocation
      obtain ⟨hincluded, hin, hrest, hreturns⟩ := (isOpenPath_cons_iff hlocation).1 hopen
      have hself := hfresh [] List.nil_prefix
      rw [Path.below_nil] at hself
      have hfolder := (isFolderEntry_iff hlocation).2 ⟨hincluded, hin⟩
      have hname : name ∈ volume.namesIn location :=
        mem_namesIn_of_entryRole (by rw [hfolder.role]; nofun)
      obtain ⟨place, within, hdescends⟩ := (ih hbelow (hchild hname)).2
        ⟨hrest, fun outer houter => leadsInto_cons_eq_false_iff.2 ⟨hreturns outer houter, by
          simpa using hfresh (name :: outer) (by simpa using houter)⟩⟩
      exact ⟨place, within, .deeper ⟨hplain, hself, hlocation⟩ hname hfolder hdescends⟩

/-- A visit that goes down lists the folder that it comes to, and being visited are then the folders
    on the way and those that were before. -/
theorem Descends.mem_within_iff (h : Descends volume settings entered path names location within) :
    volume.openFolder (path.below names) = .ok location ∧ ∀ real, real ∈ location :: within ↔
      real ∈ entered ∨
        ∃ outer, outer <+: names ∧ volume.realLocation? (path.below outer) = some real := by
  induction h with
  | @here entered path location hopens =>
    have hreal := (Volume.openFolder_ok hopens.opened).2
    refine ⟨by simpa using hopens.opened, fun real => ?_⟩
    simp [List.prefix_nil, hreal, or_comm, eq_comm]
  | @deeper entered within path location place name names hopens hname hfolder hdescends ih =>
    have hreal := (Volume.openFolder_ok hopens.opened).2
    refine ⟨by simpa using ih.1, fun real => ?_⟩
    rw [ih.2 real, List.mem_cons]
    constructor
    · rintro ((rfl | hentered) | ⟨outer, houter, hleads⟩)
      · exact .inr ⟨[], List.nil_prefix, by simpa using hreal⟩
      · exact .inl hentered
      · exact .inr ⟨name :: outer, by simpa using houter, by simpa using hleads⟩
    · rintro (hentered | ⟨outer, houter, hleads⟩)
      · exact .inl (.inr hentered)
      · rcases List.prefix_cons_iff.1 houter with rfl | ⟨rest, rfl, hrest⟩
        · rw [Path.below_nil, hreal, Option.some.injEq] at hleads
          exact .inl (.inl hleads.symm)
        · rw [Path.below_cons] at hleads
          exact .inr ⟨rest, hrest, hleads⟩

/-- A visit reads the files in the folders that it goes down to. -/
theorem reads_iff {file : Path} :
    Reads volume settings entered path file ↔ ∃ names location within name,
      Descends volume settings entered path names location within ∧
        name ∈ volume.namesIn location ∧
        IsFileEntry volume settings location (path.below names) name ∧
        file = (path.below names).child name := by
  constructor
  · intro h
    induction h with
    | @direct entered path location name hopens hname hfile =>
      exact ⟨[], location, entered, name, .here hopens, hname, by rwa [Path.below_nil], by
        rw [Path.below_nil]⟩
    | @deeper entered path file location name hopens hname hfolder _ ih =>
      obtain ⟨names, place, within, last, hdescends, hlast, hfile, rfl⟩ := ih
      exact ⟨name :: names, place, within, last, .deeper hopens hname hfolder hdescends, hlast, by
        rwa [Path.below_cons], by rw [Path.below_cons]⟩
  · rintro ⟨names, location, within, name, hdescends, hname, hfile, rfl⟩
    induction hdescends with
    | here hopens =>
      rw [Path.below_nil] at hfile ⊢
      exact .direct hopens hname hfile
    | deeper hopens hnext hfolder _ ih =>
      rw [Path.below_cons] at hfile ⊢
      exact .deeper hopens hnext hfolder (ih hname hfile)

end

end SourceOutline
