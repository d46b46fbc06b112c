import SourceOutline.Proofs.Volume.Writing

set_option autoImplicit false

/-! # Folders that are made keep the files that are there

Folders are made where nothing stands, so a path that leads to a file goes on leading to it
(`fileAt?_makeFolders`). Where the making of folders above a path fails, the path leads to no file,
neither before nor after: a path that does leads through folders all the way
(`exists_chase_of_append`). And a path that leads to a file can be opened for writing
(`exists_writeBytes_of_fileAt?`). -/

namespace SourceOutline

namespace Volume

variable {volume before after : Volume} {path : Path}

/-! ## Following links -/

/-- Steps whose links are followed lead where they arrive, or where the first link on the way and
    the steps after it lead. -/
theorem chase_followed_eq_present_iff {budget : Nat} {location found : Location}
    {steps : List Step} :
    volume.chase .followed budget location steps = .ok (.present found) ↔
      volume.advance location steps = .arrived found ∨
      ∃ folder name target rest less,
        volume.advance location steps = .atLink folder name target rest ∧ budget = less + 1 ∧
        volume.chase .followed less (if PathStart.ofText target = .working then folder else [])
          (stepsOfText target ++ rest) = .ok (.present found) := by
  rw [chase]
  cases hadvance : volume.advance location steps with
  | arrived there => simp
  | vacant folder name rest => cases rest <;> simp
  | fault fault => simp
  | atLink folder name target rest =>
    simp only [reduceCtorEq, decide_false, Bool.and_false, Bool.false_eq_true, if_false]
    cases budget with
    | zero => simp
    | succ less => simp [and_assoc]

theorem locate_eq_ok_iff {location : Location} : volume.locate path = .ok location ↔
    path.hasNull = false ∧ path.isTooLong = false ∧
      volume.chase .followed linkBudget (volume.startOf path) path.steps
        = .ok (.present location) := by
  constructor
  · intro h
    obtain ⟨found, hresolve, hfound⟩ := bind_eq_ok_iff.1 h
    obtain ⟨hnull, hshort, hchase⟩ := chase_of_resolve hresolve
    cases found with
    | present there =>
      cases hfound
      exact ⟨hnull, hshort, hchase⟩
    | vacant folder name => cases hfound
  · rintro ⟨hnull, hshort, hchase⟩
    rw [locate, resolve, if_neg (Bool.eq_false_iff.1 hnull), if_neg (Bool.eq_false_iff.1 hshort),
      hchase]
    rfl

/-! ## Volumes that hold more -/

/-- A volume holds what another holds, and maybe more. -/
structure Extends (after before : Volume) : Prop where
  working : after.working = before.working
  objects : ∀ location object, before.object? location = some object →
    after.object? location = some object

theorem Extends.refl (volume : Volume) : volume.Extends volume :=
  ⟨rfl, fun _ _ h => h⟩

theorem Extends.trans {between : Volume} (h : after.Extends between) (hb : between.Extends before) :
    after.Extends before :=
  ⟨h.working.trans hb.working, fun location object hobject =>
    h.objects location object (hb.objects location object hobject)⟩

theorem Extends.advance (h : after.Extends before) {steps : List Step} {location : Location}
    (hvacant : ∀ folder name rest, before.advance location steps ≠ .vacant folder name rest) :
    after.advance location steps = before.advance location steps := by
  induction steps generalizing location with
  | nil => rfl
  | cons step rest ih =>
    cases step with
    | here => exact ih hvacant
    | up => exact ih hvacant
    | down name =>
      unfold Volume.advance at hvacant ⊢
      by_cases hlong : name.isTooLong = true
      · rw [if_pos hlong, if_pos hlong]
      · simp only [if_neg hlong] at hvacant ⊢
        cases hobject : before.object? (name :: location) with
        | none =>
          simp only [hobject] at hvacant
          exact absurd rfl (hvacant location name rest)
        | some object =>
          rw [h.objects _ _ hobject]
          cases object with
          | folder listable =>
            simp only [hobject] at hvacant
            exact ih hvacant
          | _ => rfl

theorem Extends.chase (h : after.Extends before) {budget : Nat} {location found : Location}
    {steps : List Step}
    (hchase : before.chase .followed budget location steps = .ok (.present found)) :
    after.chase .followed budget location steps = .ok (.present found) := by
  induction budget generalizing location steps with
  | zero =>
    obtain harrived | ⟨_, _, _, _, _, -, hbudget, -⟩ := chase_followed_eq_present_iff.1 hchase
    · refine chase_followed_eq_present_iff.2 (.inl ?_)
      rw [h.advance (by simp [harrived]), harrived]
    · cases hbudget
  | succ budget ih =>
    obtain harrived | ⟨folder, name, target, rest, less, hlink, hbudget, hmore⟩ :=
      chase_followed_eq_present_iff.1 hchase
    · refine chase_followed_eq_present_iff.2 (.inl ?_)
      rw [h.advance (by simp [harrived]), harrived]
    · obtain rfl := Nat.succ.inj hbudget
      refine chase_followed_eq_present_iff.2
        (.inr ⟨folder, name, target, rest, _, ?_, rfl, ih hmore⟩)
      rw [h.advance (by simp [hlink]), hlink]

theorem Extends.locate (h : after.Extends before) {location : Location}
    (hlocate : before.locate path = .ok location) : after.locate path = .ok location := by
  obtain ⟨hnull, hshort, hchase⟩ := locate_eq_ok_iff.1 hlocate
  refine locate_eq_ok_iff.2 ⟨hnull, hshort, ?_⟩
  rw [startOf, h.working, ← startOf]
  exact h.chase hchase

/-! ## Files -/

/-- The bytes of the file that a path leads to, if it leads to one. -/
def fileAt? (volume : Volume) (path : Path) : Option (List UInt8) :=
  match volume.locate path with
  | .error _ => none
  | .ok location =>
    match volume.object? location with
    | some (.file content _) => some content
    | _ => none

theorem fileAt?_eq_some_iff {content : List UInt8} : volume.fileAt? path = some content ↔
    ∃ location readable, volume.locate path = .ok location ∧
      volume.object? location = some (.file content readable) := by
  rw [fileAt?]
  cases volume.locate path with
  | error fault => simp
  | ok location =>
    simp only [Except.ok.injEq, exists_and_left, exists_eq_left']
    split
    case h_1 hobject => simp [hobject]
    case h_2 hother => simpa using fun readable hobject => hother content readable hobject

theorem Extends.fileAt? (h : after.Extends before) {content : List UInt8}
    (hfile : before.fileAt? path = some content) : after.fileAt? path = some content := by
  obtain ⟨location, readable, hlocate, hobject⟩ := fileAt?_eq_some_iff.1 hfile
  exact fileAt?_eq_some_iff.2 ⟨location, readable, h.locate hlocate, h.objects _ _ hobject⟩

/-! ## Making folders -/

theorem object?_of_advance_eq_vacant {steps : List Step} {location folder : Location} {name : Name}
    {rest : List Step} (h : volume.advance location steps = .vacant folder name rest) :
    volume.object? (name :: folder) = none := by
  induction steps generalizing location with
  | nil => cases h
  | cons step steps ih =>
    cases step with
    | here => exact ih h
    | up => exact ih h
    | down first =>
      rw [advance] at h
      split at h
      case isTrue => cases h
      case isFalse =>
        split at h
        case h_1 hnone =>
          cases h
          exact hnone
        case h_2 => cases h
        case h_3 => exact ih h
        case h_4 => split at h <;> cases h

theorem object?_of_chase_eq_vacant {last : LastLink} {budget : Nat} {location folder : Location}
    {steps : List Step} {name : Name}
    (h : volume.chase last budget location steps = .ok (.vacant folder name)) :
    volume.object? (name :: folder) = none := by
  induction budget using Nat.strongRecOn generalizing location steps with
  | _ budget ih =>
    unfold chase at h
    split at h
    case h_1 => cases h
    case h_2 hadvance =>
      split at h
      case isTrue =>
        cases h
        exact object?_of_advance_eq_vacant hadvance
      case isFalse => cases h
    case h_3 => cases h
    case h_4 =>
      split at h
      case isTrue => cases h
      case isFalse =>
        split at h
        case h_1 => cases h
        case h_2 less =>
          simp only at h
          split at h
          case h_1 => exact ih less (Nat.lt_succ_self less) h
          case h_2 => split at h <;> cases h

theorem extends_put {place : Location} (object : Object) (hvacant : volume.object? place = none) :
    (volume.put place object).Extends volume := by
  refine ⟨working_put _ _ _, fun location old hold => ?_⟩
  by_cases hplain : ∀ name ∈ place, name.hasNull = false
  case neg =>
    have hsame : volume.put place object = volume := dif_neg hplain
    rwa [hsame]
  have hne : place ≠ [] := by
    rintro rfl
    cases hvacant
  have hother : location ≠ place := by
    rintro rfl
    rw [hvacant] at hold
    cases hold
  rw [object?_put _ _ hne hplain, if_neg hother, hold]

theorem extends_of_makeFolder (h : before.makeFolder path = .ok after) : after.Extends before := by
  obtain ⟨found, hresolve, hfound⟩ := bind_eq_ok_iff.1 h
  cases found with
  | vacant folder name =>
    cases hfound
    exact extends_put _ (object?_of_chase_eq_vacant (chase_of_resolve hresolve).2.2)
  | present location => cases hfound

theorem extends_ensureFolder (volume : Volume) (path : Path) :
    (volume.ensureFolder path).1.Extends volume := by
  unfold ensureFolder
  split
  case h_1 hmake => exact extends_of_makeFolder hmake
  case h_2 => exact .refl volume

theorem extends_makeFoldersFrom (volume : Volume) (start : PathStart) (steps : List Step) :
    (volume.makeFoldersFrom start steps).1.Extends volume := by
  induction steps with
  | nil => exact extends_ensureFolder _ _
  | cons step above ih =>
    rw [makeFoldersFrom]
    split
    case h_1 hmake => exact extends_of_makeFolder hmake
    case h_2 =>
      cases hmade : volume.makeFoldersFrom start above with
      | mk next fault =>
        rw [hmade] at ih
        cases fault with
        | none => exact (extends_ensureFolder next _).trans ih
        | some fault => exact ih
    case h_3 => exact .refl volume

theorem isFolder?_of_folderFault? {fault reason : FileFault}
    (h : volume.folderFault? path fault = some reason) : volume.isFolder? path ≠ .ok true := by
  intro hfolder
  rw [folderFault?, hfolder] at h
  cases h

theorem isFolder?_of_ensureFolder {fault : FileFault}
    (h : before.ensureFolder path = (after, some fault)) : after.isFolder? path ≠ .ok true := by
  unfold ensureFolder at h
  split at h
  case h_1 => cases h
  case h_2 =>
    obtain ⟨rfl, hfault⟩ := Prod.mk.inj h
    exact isFolder?_of_folderFault? hfault

/-- When folders cannot be made, one on the way is not there afterwards. -/
theorem exists_isFolder?_of_makeFoldersFrom {start : PathStart} {steps : List Step}
    {fault : FileFault} (h : before.makeFoldersFrom start steps = (after, some fault)) :
    ∃ first more, steps.reverse = first ++ more ∧ after.isFolder? ⟨start, first⟩ ≠ .ok true := by
  induction steps with
  | nil => exact ⟨[], [], rfl, isFolder?_of_ensureFolder h⟩
  | cons step above ih =>
    rw [makeFoldersFrom] at h
    split at h
    case h_1 => cases h
    case h_2 =>
      cases hmade : before.makeFoldersFrom start above with
      | mk next reason =>
        rw [hmade] at h ih
        cases reason with
        | none => exact ⟨_, [], (List.append_nil _).symm, isFolder?_of_ensureFolder h⟩
        | some reason =>
          cases h
          obtain ⟨first, more, hsplit, hfolder⟩ := ih rfl
          refine ⟨first, more ++ [step], ?_, hfolder⟩
          rw [List.reverse_cons, hsplit, List.append_assoc]
    case h_3 =>
      obtain ⟨rfl, hfault⟩ := Prod.mk.inj h
      exact ⟨_, [], (List.append_nil _).symm, isFolder?_of_folderFault? hfault⟩

/-! ## Ways that go on -/

/-- Steps from a folder that arrive do so at a folder, from which one can go on, or at something
    else, from which one cannot. -/
theorem IsFolderWay.advance_append_of_arrived {steps : List Step} {location found : Location}
    (hlocation : volume.IsFolderWay location) (h : volume.advance location steps = .arrived found) :
    (volume.IsFolderWay found ∧
        ∀ more, volume.advance location (steps ++ more) = volume.advance found more) ∨
      ∀ more, more ≠ [] → volume.advance location (steps ++ more) = .fault .notDirectory := by
  induction steps generalizing location with
  | nil =>
    cases h
    exact .inl ⟨hlocation, fun _ => rfl⟩
  | cons step rest ih =>
    cases step with
    | here => exact ih hlocation h
    | up => exact ih (fun outer houter => hlocation outer (houter.trans (List.tail_suffix _))) h
    | down name =>
      simp only [List.cons_append, advance] at h ⊢
      split at h
      case isTrue => cases h
      case isFalse hshort =>
        simp only [if_neg hshort]
        cases hobject : volume.object? (name :: location) with
        | none =>
          rw [hobject] at h
          cases h
        | some object =>
          rw [hobject] at h
          cases object with
          | folder listable =>
            exact ih (hlocation.cons (by rw [hasFolder, hobject])) h
          | link target => cases h
          | _ =>
            refine .inr fun more hmore => ?_
            have hne : rest ++ more ≠ [] := List.append_ne_nil_of_right_ne_nil rest hmore
            simp [hne]

/-- Steps that do not arrive anywhere lead to the same when one wants to go on, with more steps that
    remain. -/
theorem advance_append_of_not_arrived {steps : List Step} {location : Location} (more : List Step)
    (h : ∀ found, volume.advance location steps ≠ .arrived found) :
    volume.advance location (steps ++ more) = match volume.advance location steps with
      | .atLink folder name target rest => .atLink folder name target (rest ++ more)
      | .vacant folder name rest => .vacant folder name (rest ++ more)
      | progress => progress := by
  induction steps generalizing location with
  | nil => exact absurd rfl (h location)
  | cons step rest ih =>
    cases step with
    | here => exact ih h
    | up => exact ih h
    | down name =>
      simp only [List.cons_append, advance] at h ⊢
      split
      case isTrue => rfl
      case isFalse hshort =>
        simp only [if_neg hshort] at h
        cases hobject : volume.object? (name :: location) with
        | none => rfl
        | some object =>
          simp only [hobject] at h
          cases object with
          | folder listable => exact ih h
          | link target => rfl
          | _ =>
            cases rest with
            | nil => exact absurd rfl (h _)
            | cons next others => rfl

theorem IsFolderWay.of_atLink {steps : List Step} {location folder : Location} {name : Name}
    {target : String} {rest : List Step} (hlocation : volume.IsFolderWay location)
    (h : volume.advance location steps = .atLink folder name target rest) :
    volume.IsFolderWay folder := by
  induction steps generalizing location with
  | nil => cases h
  | cons step steps ih =>
    cases step with
    | here => exact ih hlocation h
    | up => exact ih (fun outer houter => hlocation outer (houter.trans (List.tail_suffix _))) h
    | down first =>
      rw [advance] at h
      split at h
      case isTrue => cases h
      case isFalse =>
        split at h
        case h_1 => cases h
        case h_2 =>
          cases h
          exact hlocation
        case h_3 hobject => exact ih (hlocation.cons (by rw [hasFolder, hobject])) h
        case h_4 => split at h <;> cases h

theorem IsFolderWay.startOfLink {steps : List Step} {location folder : Location} {name : Name}
    {target : String} {rest : List Step} (hlocation : volume.IsFolderWay location)
    (h : volume.advance location steps = .atLink folder name target rest) :
    volume.IsFolderWay (if PathStart.ofText target = .working then folder else []) := by
  split
  case isTrue => exact hlocation.of_atLink h
  case isFalse => exact isFolderWay_nil

/-- Steps that lead somewhere lead through folders: what comes before the last of them leads to a
    folder, and what comes after leads on from there. -/
theorem exists_chase_of_append {budget : Nat} {location found : Location} {steps more : List Step}
    (hlocation : volume.IsFolderWay location) (hmore : more ≠ [])
    (h : volume.chase .followed budget location (steps ++ more) = .ok (.present found)) :
    ∃ between less, volume.chase .followed budget location steps = .ok (.present between) ∧
      volume.IsFolderWay between ∧
      volume.chase .followed less between more = .ok (.present found) := by
  induction budget using Nat.strongRecOn generalizing location steps with
  | _ budget ih =>
    by_cases harrived : ∃ between, volume.advance location steps = .arrived between
    · obtain ⟨between, hadvance⟩ := harrived
      obtain ⟨hfolder, hon⟩ | hstop := hlocation.advance_append_of_arrived hadvance
      · refine ⟨between, budget, chase_followed_eq_present_iff.2 (.inl hadvance), hfolder, ?_⟩
        rw [chase] at h ⊢
        rwa [hon] at h
      · rw [chase, hstop more hmore] at h
        cases h
    · have happend := advance_append_of_not_arrived more (not_exists.1 harrived)
      obtain hdone | ⟨folder, name, target, rest, less, hlink, rfl, hrest⟩ :=
        chase_followed_eq_present_iff.1 h
      · rw [happend] at hdone
        cases hadvance : volume.advance location steps with
        | arrived between => exact absurd ⟨between, hadvance⟩ harrived
        | _ =>
          rw [hadvance] at hdone
          cases hdone
      · rw [happend] at hlink
        cases hadvance : volume.advance location steps with
        | atLink folder' name' target' rest' =>
          rw [hadvance] at hlink
          cases hlink
          have hstart := hlocation.startOfLink hadvance
          rw [← List.append_assoc] at hrest
          obtain ⟨between, last, hfirst, hbetween, hlast⟩ :=
            ih less (Nat.lt_succ_self less) hstart hrest
          exact ⟨between, last, chase_followed_eq_present_iff.2
            (.inr ⟨folder, name, target, rest', less, hadvance, rfl, hfirst⟩), hbetween, hlast⟩
        | arrived between => exact absurd ⟨between, hadvance⟩ harrived
        | _ =>
          rw [hadvance] at hlink
          cases hlink

theorem IsInOrder.isFolderWay_startOf (h : volume.IsInOrder) (path : Path) :
    volume.IsFolderWay (volume.startOf path) := by
  unfold startOf
  split
  case isTrue => exact isFolderWay_nil
  case isFalse => exact h.working

theorem IsInOrder.isFolder?_of_extend (h : volume.IsInOrder) {location : Location}
    {more : List Step} (hmore : more ≠ [])
    (hlocate : volume.locate (path.extend more) = .ok location) :
    volume.isFolder? path = .ok true := by
  obtain ⟨hnull, hshort, hchase⟩ := locate_eq_ok_iff.1 hlocate
  obtain ⟨between, -, hfirst, hbetween, -⟩ :=
    exists_chase_of_append (h.isFolderWay_startOf path) hmore hchase
  have hthere : volume.locate path = .ok between :=
    locate_eq_ok_iff.2 ⟨Path.hasNull_of_extend hnull, Path.isTooLong_of_extend hshort, hfirst⟩
  rw [isFolder?, hthere]
  exact congrArg Except.ok (hbetween between List.suffix_rfl)

/-- Where folders above a path cannot be made, the path leads to no file. -/
theorem IsInOrder.fileAt?_of_makeFolders (h : before.IsInOrder) {fault : FileFault}
    (hmake : before.makeFolders path.parent = (after, some fault)) : after.fileAt? path = none := by
  have hafter : after.IsInOrder := by
    have hfolders := h.makeFolders path.parent
    rwa [hmake] at hfolders
  rw [Option.eq_none_iff_forall_ne_some]
  intro content hfile
  obtain ⟨location, readable, hlocate, hobject⟩ := fileAt?_eq_some_iff.1 hfile
  -- the path of a file takes at least one step
  have hsteps : path.steps ≠ [] := by
    intro hnil
    obtain ⟨-, -, hchase⟩ := locate_eq_ok_iff.1 hlocate
    rw [hnil, Volume.chase] at hchase
    cases hchase
    have hfolder := hafter.isFolderWay_startOf path _ List.suffix_rfl
    rw [hasFolder, hobject] at hfolder
    cases hfolder
  obtain ⟨first, more, hsplit, hfolder⟩ := exists_isFolder?_of_makeFoldersFrom hmake
  rw [List.reverse_reverse] at hsplit
  have hpath : path = (Path.mk path.start first).extend (more ++ [path.steps.getLast hsteps]) := by
    rw [Path.extend, ← List.append_assoc, ← hsplit, Path.parent,
      List.dropLast_concat_getLast hsteps]
  rw [hpath] at hlocate
  exact hfolder (hafter.isFolder?_of_extend (by simp) hlocate)

theorem fileAt?_makeFolders {content : List UInt8} {other : Path}
    (h : volume.fileAt? path = some content) :
    (volume.makeFolders other).1.fileAt? path = some content :=
  (extends_makeFoldersFrom volume other.start other.steps.reverse).fileAt? h

/-! ## Opening a file for writing -/

/-- A written path that ends with a slash after the name of an entry stays there at last. -/
theorem exists_stepsOfText_of_stepsAbove? {target : String} {above : List Step}
    (h : stepsAbove? target = some above) : ∃ steps, stepsOfText target = steps ++ [.here] := by
  simp only [stepsAbove?] at h
  cases hpieces : (piecesBetween '/' target.toList).reverse with
  | nil =>
    rw [hpieces] at h
    cases h
  | cons piece others =>
    rw [hpieces] at h
    by_cases hempty : piece.isEmpty = true
    · have hsplit : piecesBetween '/' target.toList = others.reverse ++ [[]] := by
        rw [← List.isEmpty_iff.1 hempty, ← List.reverse_cons, ← hpieces, List.reverse_reverse]
      refine ⟨others.reverse.map fun piece => Step.ofText (String.ofList piece), ?_⟩
      rw [stepsOfText, hsplit, List.map_append]
      rfl
    · -- the last piece is the name itself
      rw [List.dropWhile_cons_of_neg hempty] at h
      simp only [List.length_cons, if_true] at h
      split at h <;> cases h

/-- Steps that lead to something other than a folder resolve to it for writing. -/
theorem IsFolderWay.chase_written {budget : Nat} {location found : Location} {steps : List Step}
    (hlocation : volume.IsFolderWay location) (hfound : volume.hasFolder found = false)
    (h : volume.chase .followed budget location steps = .ok (.present found)) :
    volume.chase .written budget location steps = .ok (.present found) := by
  induction budget using Nat.strongRecOn generalizing location steps with
  | _ budget ih =>
    obtain hadvance | ⟨folder, name, target, rest, less, hlink, rfl, hmore⟩ :=
      chase_followed_eq_present_iff.1 h
    · rw [chase, hadvance]
    · have hstart := hlocation.startOfLink hlink
      rw [chase, hlink]
      simp only [reduceCtorEq, decide_false, Bool.and_false, Bool.false_eq_true, if_false]
      split
      case h_1 => exact ih less (Nat.lt_succ_self less) hstart hmore
      case h_2 above habove =>
        -- a link that is written with a slash at its end leads to a folder
        split at habove
        case isTrue hlast =>
          obtain ⟨steps, hsteps⟩ := exists_stepsOfText_of_stepsAbove? habove
          simp only [Bool.and_eq_true, List.isEmpty_iff] at hlast
          rw [hlast.1, List.append_nil, hsteps] at hmore
          obtain ⟨between, last, -, hbetween, hlater⟩ :=
            exists_chase_of_append hstart (List.cons_ne_nil _ _) hmore
          rw [chase] at hlater
          cases hlater
          rw [hbetween _ List.suffix_rfl] at hfound
          cases hfound
        case isFalse => cases habove

theorem IsInOrder.exists_writeBytes_of_fileAt? (h : volume.IsInOrder) {content : List UInt8}
    (hfile : volume.fileAt? path = some content) (bytes : List UInt8) :
    ∃ written, volume.writeBytes path bytes = .ok written := by
  obtain ⟨location, readable, hlocate, hobject⟩ := fileAt?_eq_some_iff.1 hfile
  obtain ⟨hnull, hshort, hchase⟩ := locate_eq_ok_iff.1 hlocate
  have hfolder : volume.hasFolder location = false := by rw [hasFolder, hobject]
  have hresolve : volume.resolve .written path = .ok (.present location) := by
    rw [Volume.resolve, if_neg (Bool.eq_false_iff.1 hnull),
      if_neg (Bool.eq_false_iff.1 hshort)]
    exact (h.isFolderWay_startOf path).chase_written hfolder hchase
  refine ⟨volume.put location (.file bytes true), bind_eq_ok_iff.2 ⟨_, hresolve, ?_⟩⟩
  simp only [hobject]
  rfl

end Volume

end SourceOutline
