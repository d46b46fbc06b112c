import SourceOutline.Proofs.Result
import SourceOutline.Proofs.Volume.Change
import SourceOutline.Proofs.Volume.PathText

set_option autoImplicit false

/-! # What is written to a path is read there

To write a file, its path is resolved to a place, and the file is put there. Afterwards the path
leads to this very place: the way there meets the same folders and links, and the file at its end
(`chase_put`). So a file that has been written is found under its path, whatever links lead to it
(`locate_of_writeBytes`). All this is so in a volume that is in order (`IsInOrder`), which it stays
when folders are made and files are written. -/

namespace SourceOutline

/-- A step holds no null character. -/
def Step.IsPlain (step : Step) : Prop :=
  '\x00' ∉ step.text.toList

theorem Step.isPlain_down {name : Name} : (Step.down name).IsPlain ↔ name.hasNull = false := by
  unfold Step.IsPlain Name.hasNull
  rw [List.contains_eq_mem, decide_eq_false_iff_not]
  rfl

theorem isPlain_of_mem_stepsOfText {text : String} (h : '\x00' ∉ text.toList) {step : Step}
    (hstep : step ∈ stepsOfText text) : step.IsPlain := by
  obtain ⟨piece, hpiece, rfl⟩ := List.mem_map.1 hstep
  have hnull : '\x00' ∉ piece := by
    intro hmem
    refine h ?_
    rw [← intercalate_piecesBetween '/' text.toList]
    exact (mem_intercalate_iff (by decide)).2 ⟨piece, hpiece, hmem⟩
  unfold Step.IsPlain Step.ofText
  split
  case isTrue => decide
  case isFalse =>
  split
  case isTrue =>
    rw [Step.text, String.toList_ofList]
    exact hnull
  case isFalse => decide

theorem Path.isPlain_of_mem_steps {path : Path} (h : path.hasNull = false) {step : Step}
    (hstep : step ∈ path.steps) : step.IsPlain := by
  rw [hasNull_eq_any, List.any_eq_false] at h
  exact fun hmem => h step hstep (List.contains_iff_mem.2 hmem)

namespace Volume

variable {volume written : Volume} {path : Path}

/-! ## Volumes in order -/

/-- A folder stands at a location and at all that enclose it. -/
def IsFolderWay (volume : Volume) (location : Location) : Prop :=
  ∀ outer, outer <:+ location → volume.hasFolder outer = true

/-- The working folder is there with the folders around it, and no link is written with a null
    character. -/
structure IsInOrder (volume : Volume) : Prop where
  working : volume.IsFolderWay volume.working
  links : ∀ entry ∈ volume.entries, ∀ target, entry.2 = .link target → '\x00' ∉ target.toList

theorem isFolderWay_nil : volume.IsFolderWay [] :=
  fun _ houter => List.suffix_nil.1 houter ▸ rfl

theorem IsFolderWay.cons {location : Location} {name : Name} (h : volume.IsFolderWay location)
    (hfolder : volume.hasFolder (name :: location) = true) :
    volume.IsFolderWay (name :: location) := by
  intro outer houter
  rcases List.suffix_cons_iff.1 houter with rfl | hinner
  · exact hfolder
  · exact h outer hinner

theorem plain_of_object? {location : Location} {object : Object}
    (h : volume.object? location = some object) : ∀ name ∈ location, name.hasNull = false := by
  cases location with
  | nil => exact fun _ hname => absurd hname List.not_mem_nil
  | cons name folder => exact volume.plain _ (mem_of_lookup_eq_some h)

theorem IsFolderWay.plain {location : Location} (h : volume.IsFolderWay location) :
    ∀ name ∈ location, name.hasNull = false := by
  obtain ⟨object, hobject⟩ := Option.ne_none_iff_exists'.1
    (object?_ne_none_of_hasFolder (h location List.suffix_rfl))
  exact plain_of_object? hobject

theorem working_put (volume : Volume) (place : Location) (object : Object) :
    (volume.put place object).working = volume.working := by
  unfold Volume.put
  split
  · split <;> rfl
  · rfl

/-- A volume stays in order when an object that is no link is put where no folder stands, or a
    folder anywhere. -/
theorem IsInOrder.put (h : volume.IsInOrder) {object : Object} {place : Location}
    (hne : place ≠ []) (hobject : ∀ target, object ≠ .link target)
    (hplace : volume.hasFolder place = false ∨ ∃ listable, object = .folder listable) :
    (volume.put place object).IsInOrder := by
  by_cases hplain : ∀ name ∈ place, name.hasNull = false
  case neg =>
    have hsame : volume.put place object = volume := dif_neg hplain
    rw [hsame]
    exact h
  have hput := volume.object?_put object hne hplain
  refine ⟨?_, fun entry hentry target htarget => ?_⟩
  · rw [working_put]
    intro outer houter
    have hfolder := h.working outer houter
    by_cases heq : outer = place
    · subst heq
      rw [hasFolder, hput, if_pos rfl]
      rcases hplace with hnone | ⟨listable, rfl⟩
      · rw [hfolder] at hnone
        cases hnone
      · rfl
    · rw [hasFolder, hput, if_neg heq]
      exact hfolder
  · unfold Volume.put at hentry
    rw [dif_pos hplain] at hentry
    split at hentry
    case isTrue =>
      obtain ⟨old, hold, rfl⟩ := List.mem_map.1 hentry
      split at htarget
      case isTrue => exact absurd htarget (hobject target)
      case isFalse => exact h.links old hold target htarget
    case isFalse =>
      rcases List.mem_append.1 hentry with hold | hnew
      · exact h.links entry hold target htarget
      · rw [List.mem_singleton.1 hnew] at htarget
        exact absurd htarget (hobject target)

theorem IsInOrder.makeFolder (h : volume.IsInOrder) (hmake : volume.makeFolder path = .ok written) :
    written.IsInOrder := by
  obtain ⟨place, -, hplace⟩ := bind_eq_ok_iff.1 hmake
  cases place with
  | vacant folder name =>
    cases hplace
    exact h.put (List.cons_ne_nil _ _) (fun _ heq => by cases heq) (.inr ⟨true, rfl⟩)
  | present location => cases hplace

theorem IsInOrder.ensureFolder (h : volume.IsInOrder) (path : Path) :
    (volume.ensureFolder path).1.IsInOrder := by
  unfold Volume.ensureFolder
  split
  case h_1 hmake => exact h.makeFolder hmake
  case h_2 => exact h

theorem IsInOrder.makeFolders (h : volume.IsInOrder) (path : Path) :
    (volume.makeFolders path).1.IsInOrder := by
  have hfrom : ∀ steps, (volume.makeFoldersFrom path.start steps).1.IsInOrder := by
    intro steps
    induction steps with
    | nil => exact h.ensureFolder _
    | cons step above ih =>
      rw [makeFoldersFrom]
      split
      case h_1 hmake => exact h.makeFolder hmake
      case h_2 =>
        cases hmade : volume.makeFoldersFrom path.start above with
        | mk next fault =>
          rw [hmade] at ih
          cases fault with
          | none => exact ih.ensureFolder _
          | some fault => exact ih
      case h_3 => exact h
  exact hfrom _

/-! ## Ways of folders -/

/-- Steps from a folder lead through folders: they arrive at something that is no link, or they come
    to a link or to a name that stands for nothing in a folder. -/
theorem IsInOrder.advance (h : volume.IsInOrder) {steps : List Step} {location : Location}
    (hlocation : volume.IsFolderWay location) (hsteps : ∀ step ∈ steps, step.IsPlain) :
    match volume.advance location steps with
    | .arrived found => volume.hasLink found = false ∧ ∃ object, volume.object? found = some object
    | .atLink folder _ target rest =>
      volume.IsFolderWay folder ∧ ∀ step ∈ stepsOfText target ++ rest, step.IsPlain
    | .vacant folder name _ => volume.object? (name :: folder) = none ∧
      ∀ other ∈ name :: folder, other.hasNull = false
    | .fault _ => True := by
  induction steps generalizing location with
  | nil =>
    have hfolder := hlocation location List.suffix_rfl
    exact ⟨hasLink_of_hasFolder hfolder,
      Option.ne_none_iff_exists'.1 (object?_ne_none_of_hasFolder hfolder)⟩
  | cons step rest ih =>
    have hrest : ∀ other ∈ rest, other.IsPlain := fun other hother =>
      hsteps other (List.mem_cons_of_mem _ hother)
    cases step with
    | here => exact ih hlocation hrest
    | up =>
      exact ih (fun outer houter => hlocation outer (houter.trans (List.tail_suffix _))) hrest
    | down name =>
      by_cases hlong : name.isTooLong = true
      · rw [Volume.advance, if_pos hlong]
        exact trivial
      · rw [Volume.advance, if_neg hlong]
        cases hobject : volume.object? (name :: location) with
        | none =>
          refine ⟨hobject, fun other hother => ?_⟩
          rcases List.mem_cons.1 hother with rfl | houter
          · exact Step.isPlain_down.1 (hsteps _ List.mem_cons_self)
          · exact hlocation.plain other houter
        | some object =>
          cases object with
          | folder listable =>
            have hfolder : volume.hasFolder (name :: location) = true := by
              rw [hasFolder, hobject]
            exact ih (hlocation.cons hfolder) hrest
          | link target =>
            refine ⟨hlocation, fun other hother => ?_⟩
            rcases List.mem_append.1 hother with htarget | hlater
            · have hentry := mem_of_lookup_eq_some hobject
              exact isPlain_of_mem_stepsOfText (h.links _ hentry target rfl) htarget
            · exact hrest other hlater
          | _ =>
            cases rest with
            | nil => exact ⟨by rw [hasLink, hobject], _, hobject⟩
            | cons _ _ => exact trivial

/-! ## Resolving for writing -/

/-- What a path that is written to can resolve to: where its steps arrive, a name that stands for
    nothing, or what a link on the way leads to. -/
theorem chase_written_cases {budget : Nat} {location : Location} {steps : List Step} {place : Place}
    (h : volume.chase .written budget location steps = .ok place) :
    (∃ found, volume.advance location steps = .arrived found ∧ place = .present found) ∨
    (∃ folder name, volume.advance location steps = .vacant folder name [] ∧
      place = .vacant folder name) ∨
    ∃ folder name target rest less,
      volume.advance location steps = .atLink folder name target rest ∧ budget = less + 1 ∧
      volume.chase .written less (if PathStart.ofText target = .working then folder else [])
        (stepsOfText target ++ rest) = .ok place := by
  unfold chase at h
  cases hadvance : volume.advance location steps with
  | arrived found =>
    rw [hadvance] at h
    cases h
    exact .inl ⟨found, rfl, rfl⟩
  | vacant folder name rest =>
    rw [hadvance] at h
    cases rest with
    | nil =>
      cases h
      exact .inr (.inl ⟨folder, name, rfl, rfl⟩)
    | cons step more => cases h
  | fault fault =>
    rw [hadvance] at h
    cases h
  | atLink folder name target rest =>
    rw [hadvance] at h
    simp only [reduceCtorEq, decide_false, Bool.and_false, Bool.false_eq_true, if_false] at h
    cases budget with
    | zero => cases h
    | succ less =>
      simp only at h
      split at h
      case h_1 => exact .inr (.inr ⟨folder, name, target, rest, less, rfl, rfl, h⟩)
      case h_2 =>
        split at h
        case h_1 => split at h <;> cases h
        case h_2 => cases h
        case h_3 => cases h

/-- The location of what a path resolves to. -/
def placeLocation : Place → Location
  | .present location => location
  | .vacant folder name => name :: folder

/-- A path that is written to resolves to a location without null characters where no link stands,
    and to a name only if that stands for nothing. -/
theorem IsInOrder.chase (h : volume.IsInOrder) {budget : Nat} {location : Location}
    {steps : List Step} {place : Place} (hlocation : volume.IsFolderWay location)
    (hsteps : ∀ step ∈ steps, step.IsPlain)
    (hchase : volume.chase .written budget location steps = .ok place) :
    (∀ name ∈ placeLocation place, name.hasNull = false) ∧
      volume.hasLink (placeLocation place) = false ∧
      ∀ folder name, place = .vacant folder name → volume.object? (name :: folder) = none := by
  induction budget using Nat.strongRecOn generalizing location steps with
  | _ budget ih =>
    have hway := h.advance hlocation hsteps
    obtain ⟨found, hadvance, rfl⟩ | ⟨folder, name, hadvance, rfl⟩ |
      ⟨folder, name, target, rest, less, hadvance, rfl, hmore⟩ := chase_written_cases hchase
    · rw [hadvance] at hway
      obtain ⟨hlink, object, hobject⟩ := hway
      exact ⟨plain_of_object? hobject, hlink, nofun⟩
    · rw [hadvance] at hway
      refine ⟨hway.2, by rw [placeLocation, hasLink, hway.1], ?_⟩
      rintro _ _ heq
      cases heq
      exact hway.1
    · rw [hadvance] at hway
      refine ih less (Nat.lt_succ_self _) ?_ hway.2 hmore
      split
      case isTrue => exact hway.1
      case isFalse => exact isFolderWay_nil

/-- What a path for writing resolves to is what it leads to in a volume where all ways lead to the
    same links and to a file at this place. -/
theorem chase_followed_of_written (other : Volume) {found : Place}
    (harrived : ∀ location steps there, volume.advance location steps = .arrived there →
      found = .present there → other.advance location steps = .arrived (placeLocation found))
    (hvacant : ∀ location steps folder name,
      volume.advance location steps = .vacant folder name [] → found = .vacant folder name →
      other.advance location steps = .arrived (placeLocation found))
    (hlink : ∀ location steps folder name target rest,
      volume.advance location steps = .atLink folder name target rest →
      other.advance location steps = .atLink folder name target rest)
    {budget : Nat} {location : Location} {steps : List Step}
    (hchase : volume.chase .written budget location steps = .ok found) :
    other.chase .followed budget location steps = .ok (.present (placeLocation found)) := by
  induction budget using Nat.strongRecOn generalizing location steps with
  | _ budget ih =>
    obtain ⟨there, hadvance, hfound⟩ | ⟨folder, name, hadvance, hfound⟩ |
      ⟨folder, name, target, rest, less, hadvance, rfl, hmore⟩ := chase_written_cases hchase
    · unfold chase
      rw [harrived _ _ _ hadvance hfound]
    · unfold chase
      rw [hvacant _ _ _ _ hadvance hfound]
    · unfold chase
      rw [hlink _ _ _ _ _ _ hadvance]
      simp only [reduceCtorEq, decide_false, Bool.and_false, Bool.false_eq_true, if_false]
      exact ih less (Nat.lt_succ_self _) hmore

section

variable {place : Location} {content : List UInt8}

variable (content) in
/-- Steps lead through a volume in which a file has been put as they did before, but that they
    arrive at the file. What stood there before was neither a folder nor a link. -/
theorem advance_put (hne : place ≠ []) (hplain : ∀ name ∈ place, name.hasNull = false)
    (hfolder : volume.hasFolder place = false) (hlink : volume.hasLink place = false)
    (steps : List Step) (location : Location) :
    (volume.put place (.file content true)).advance location steps
      = match volume.advance location steps with
        | .vacant folder name rest =>
          if name :: folder = place then
            if rest.isEmpty then .arrived place else .fault .notDirectory
          else .vacant folder name rest
        | progress => progress := by
  have hput := volume.object?_put (.file content true) hne hplain
  induction steps generalizing location with
  | nil => rfl
  | cons step rest ih =>
    cases step with
    | here => exact ih location
    | up => exact ih location.tail
    | down name =>
      by_cases hlong : name.isTooLong = true
      · rw [advance, advance, if_pos hlong, if_pos hlong]
      · rw [advance, advance, if_neg hlong, if_neg hlong, hput]
        by_cases hhere : name :: location = place
        · subst hhere
          rw [if_pos rfl]
          cases hobject : volume.object? (name :: location) with
          | none => simp
          | some object =>
            cases object with
            | folder listable =>
              rw [hasFolder, hobject] at hfolder
              cases hfolder
            | link target =>
              rw [hasLink, hobject] at hlink
              cases hlink
            | _ => cases rest <;> rfl
        · rw [if_neg hhere]
          cases hobject : volume.object? (name :: location) with
          | none => simp [hhere]
          | some object =>
            cases object with
            | folder listable => exact ih _
            | link target => rfl
            | _ => cases rest <;> rfl

variable (content) in
/-- When a file has been put where a path for writing resolves to, the path leads to the file. -/
theorem chase_put {found : Place} (hne : placeLocation found ≠ [])
    (hplain : ∀ name ∈ placeLocation found, name.hasNull = false)
    (hfolder : volume.hasFolder (placeLocation found) = false)
    (hlink : volume.hasLink (placeLocation found) = false) {budget : Nat} {location : Location}
    {steps : List Step} (hchase : volume.chase .written budget location steps = .ok found) :
    (volume.put (placeLocation found) (.file content true)).chase .followed budget location steps
      = .ok (.present (placeLocation found)) := by
  have hadvance := advance_put content hne hplain hfolder hlink
  refine chase_followed_of_written _ ?_ ?_ ?_ hchase
  · rintro location steps there harrived rfl
    rw [hadvance, harrived]
    rfl
  · rintro location steps folder name hvacant rfl
    rw [hadvance, hvacant]
    simp [placeLocation]
  · intro location steps folder name target rest hatLink
    rw [hadvance, hatLink]

theorem chase_of_resolve {last : LastLink} {found : Place}
    (h : volume.resolve last path = .ok found) :
    path.hasNull = false ∧ path.isTooLong = false ∧
      volume.chase last linkBudget (volume.startOf path) path.steps = .ok found := by
  unfold resolve at h
  split at h
  case isTrue => cases h
  case isFalse hnull =>
  split at h
  case isTrue => cases h
  case isFalse hshort => exact ⟨Bool.eq_false_iff.2 hnull, Bool.eq_false_iff.2 hshort, h⟩

theorem IsInOrder.resolve (h : volume.IsInOrder) {found : Place}
    (hresolve : volume.resolve .written path = .ok found) :
    (∀ name ∈ placeLocation found, name.hasNull = false) ∧
      volume.hasLink (placeLocation found) = false ∧
      ∀ folder name, found = .vacant folder name → volume.object? (name :: folder) = none := by
  obtain ⟨hnull, -, hchase⟩ := chase_of_resolve hresolve
  refine h.chase ?_ (fun step => Path.isPlain_of_mem_steps hnull) hchase
  unfold startOf
  split
  case isTrue => exact isFolderWay_nil
  case isFalse => exact h.working

/-- What is written is a file at the place that the path resolves to, where no folder stands, or
    nothing if that is a pipe. -/
theorem IsInOrder.writeBytes_cases (h : volume.IsInOrder)
    (hwrite : volume.writeBytes path content = .ok written) :
    ∃ found, volume.resolve .written path = .ok found ∧
      (volume.hasFolder (placeLocation found) = false ∧
          written = volume.put (placeLocation found) (.file content true) ∨
        ∃ location, found = .present location ∧ volume.object? location = some .pipe ∧
          written = volume) := by
  obtain ⟨found, hresolve, hplace⟩ := bind_eq_ok_iff.1 hwrite
  refine ⟨found, hresolve, ?_⟩
  cases found with
  | vacant folder name =>
    refine .inl ⟨?_, (Except.ok.inj hplace).symm⟩
    rw [placeLocation, hasFolder, (h.resolve hresolve).2.2 folder name rfl]
  | present location =>
    simp only at hplace
    split at hplace
    case h_1 => cases hplace
    case h_2 hpipe => exact .inr ⟨location, rfl, hpipe, (Except.ok.inj hplace).symm⟩
    case h_3 hother _ =>
      refine .inl ⟨?_, (Except.ok.inj hplace).symm⟩
      rw [placeLocation, hasFolder]
      split
      case h_1 hfolder => exact absurd hfolder (hother _)
      case h_2 => rfl

theorem ne_nil_of_hasFolder_eq_false (h : volume.hasFolder place = false) : place ≠ [] := by
  rintro rfl
  cases h

/-- A volume stays in order when a file is written. -/
theorem IsInOrder.writeBytes (h : volume.IsInOrder)
    (hwrite : volume.writeBytes path content = .ok written) : written.IsInOrder := by
  obtain ⟨found, -, ⟨hfolder, rfl⟩ | ⟨_, -, -, rfl⟩⟩ := h.writeBytes_cases hwrite
  · exact h.put (ne_nil_of_hasFolder_eq_false hfolder) (fun _ heq => by cases heq) (.inl hfolder)
  · exact h

/-- When something has been written at a path, the path leads to a file with it, or to a pipe in a
    volume that is the same as before. -/
theorem IsInOrder.locate_of_writeBytes (h : volume.IsInOrder)
    (hwrite : volume.writeBytes path content = .ok written) :
    ∃ location, written.locate path = .ok location ∧
      (written.object? location = some (.file content true) ∨
        written.object? location = some .pipe ∧ written = volume) := by
  obtain ⟨found, hresolve, hcases⟩ := h.writeBytes_cases hwrite
  obtain ⟨hplain, hlink, -⟩ := h.resolve hresolve
  obtain ⟨hnull, hshort, hchase⟩ := chase_of_resolve hresolve
  have hlocate : ∀ {after : Volume}, after.working = volume.working →
      after.chase .followed linkBudget (volume.startOf path) path.steps
        = .ok (.present (placeLocation found)) → after.locate path = .ok (placeLocation found) := by
    intro after hworking hafter
    rw [locate, Volume.resolve, if_neg (Bool.eq_false_iff.1 hnull),
      if_neg (Bool.eq_false_iff.1 hshort), startOf, hworking, ← startOf, hafter]
    rfl
  rcases hcases with ⟨hfolder, rfl⟩ | ⟨location, rfl, hobject, rfl⟩
  · have hne := ne_nil_of_hasFolder_eq_false hfolder
    refine ⟨_, hlocate (working_put _ _ _) (chase_put content hne hplain hfolder hlink hchase),
      .inl ?_⟩
    rw [object?_put _ _ hne hplain, if_pos rfl]
  · refine ⟨location, hlocate rfl ?_, .inr ⟨hobject, rfl⟩⟩
    exact chase_followed_of_written written (fun _ _ _ harrived heq => by cases heq; exact harrived)
      (fun _ _ _ _ _ heq => by cases heq) (fun _ _ _ _ _ _ hatLink => hatLink) hchase

/-- What has been written at a path is read there, if it is no pipe that the path stands for. -/
theorem IsInOrder.read_of_writeBytes (h : volume.IsInOrder)
    (hwrite : volume.writeBytes path content = .ok written)
    (hpipe : ∀ location, written.locate path = .ok location →
      written.object? location ≠ some .pipe) :
    written.exists? path = .ok true ∧ written.readBytes path = .ok content := by
  obtain ⟨location, hlocate, hobject | ⟨hobject, -⟩⟩ := h.locate_of_writeBytes hwrite
  · refine ⟨by rw [exists?, hlocate], ?_⟩
    rw [readBytes, hlocate]
    simp only [bind, Except.bind, hobject, pure, Except.pure]
  · exact absurd hobject (hpipe location hlocate)

end

end Volume

end SourceOutline
