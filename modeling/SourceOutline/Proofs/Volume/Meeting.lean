import SourceOutline.Proofs.Volume.Making

set_option autoImplicit false

/-! # What a path meets on its way

To find out where a path leads a volume looks at one location after another: at the entry for each
step down, and at the entries on the ways that links stand for. A path depends on what it meets in
this way and on nothing else (`AgreesOutside.chase`): where two volumes agree outside a place that
it does not meet, it leads to the same location, outside the place, and what is opened or read there
is the same. -/

namespace SourceOutline

namespace Volume

variable {volume before after : Volume} {place location found : Location} {steps more : List Step}
  {budget : Nat} {path : Path} {name : Name}

/-! ## Ways -/

/-- Steps from a folder, links followed, come to a place, whatever stands there. -/
inductive StepsMeet (volume : Volume) (place : Location) : Nat → Location → List Step → Prop
  | here {budget : Nat} {location : Location} {rest : List Step}
      (h : StepsMeet volume place budget location rest) :
      StepsMeet volume place budget location (.here :: rest)
  | up {budget : Nat} {location : Location} {rest : List Step}
      (h : StepsMeet volume place budget location.tail rest) :
      StepsMeet volume place budget location (.up :: rest)
  | entry {budget : Nat} {location : Location} {name : Name} (rest : List Step)
      (h : name :: location = place) : StepsMeet volume place budget location (.down name :: rest)
  | folder {budget : Nat} {location : Location} {name : Name} {rest : List Step}
      (hfolder : volume.hasFolder (name :: location) = true)
      (h : StepsMeet volume place budget (name :: location) rest) :
      StepsMeet volume place budget location (.down name :: rest)
  | link {budget : Nat} {location : Location} {name : Name} {target : String} {rest : List Step}
      (hlink : volume.object? (name :: location) = some (.link target))
      (h : StepsMeet volume place budget
        (if PathStart.ofText target = .working then location else [])
        (stepsOfText target ++ rest)) :
      StepsMeet volume place (budget + 1) location (.down name :: rest)

/-- A path comes to a place on its way. -/
def Meets (volume : Volume) (path : Path) (place : Location) : Prop :=
  volume.StepsMeet place linkBudget (volume.startOf path) path.steps

theorem StepsMeet.of_arrived (hadvance : volume.advance location steps = .arrived found)
    (hfolder : volume.hasFolder found = true) (h : volume.StepsMeet place budget found more) :
    volume.StepsMeet place budget location (steps ++ more) := by
  induction steps generalizing location with
  | nil => exact Progress.arrived.inj hadvance ▸ h
  | cons step rest ih =>
    cases step with
    | here => exact .here (ih hadvance)
    | up => exact .up (ih hadvance)
    | down name =>
      obtain ⟨hentry, hrest⟩ | ⟨rfl, rfl⟩ := advance_down_eq_arrived hadvance
      · exact .folder hentry (ih hrest)
      · exact .folder hfolder h

/-- What the way of a link comes to is met by the steps that lead to the link. -/
theorem StepsMeet.of_atLink {folder : Location} {target : String} {rest : List Step}
    (hadvance : volume.advance location steps = .atLink folder name target rest)
    (h : volume.StepsMeet place budget (if PathStart.ofText target = .working then folder else [])
      (stepsOfText target ++ (rest ++ more))) :
    volume.StepsMeet place (budget + 1) location (steps ++ more) := by
  induction steps generalizing location with
  | nil => cases hadvance
  | cons step others ih =>
    cases step with
    | here => exact .here (ih hadvance)
    | up => exact .up (ih hadvance)
    | down first =>
      rw [advance] at hadvance
      split at hadvance
      case isTrue => cases hadvance
      case isFalse =>
        split at hadvance
        case h_1 => cases hadvance
        case h_2 hlink =>
          cases hadvance
          exact .link hlink h
        case h_3 hobject => exact .folder (by rw [hasFolder, hobject]) (ih hadvance)
        case h_4 => split at hadvance <;> cases hadvance

theorem StepsMeet.of_chase
    (hchase : volume.chase .followed budget location steps = .ok (.present found))
    (hfolder : volume.hasFolder found = true) :
    volume.StepsMeet (name :: found) budget location (steps ++ [.down name]) := by
  induction budget generalizing location steps with
  | zero =>
    obtain harrived | ⟨_, _, _, _, _, -, hbudget, -⟩ := chase_followed_eq_present_iff.1 hchase
    · exact .of_arrived harrived hfolder (.entry [] rfl)
    · cases hbudget
  | succ budget ih =>
    obtain harrived | ⟨folder, first, target, rest, less, hlink, hbudget, hmore⟩ :=
      chase_followed_eq_present_iff.1 hchase
    · exact .of_arrived harrived hfolder (.entry [] rfl)
    · obtain rfl := Nat.succ.inj hbudget
      refine .of_atLink hlink ?_
      rw [← List.append_assoc]
      exact ih hmore

theorem meets_child (habsolute : path.isAbsolute = true)
    (hopen : volume.openFolder path = .ok location) (name : Name) :
    volume.Meets (path.child name) (name :: location) := by
  have hchild : (path.child name).isAbsolute = true := habsolute
  rw [Meets, startOf, if_pos hchild]
  refine .of_chase (chase_of_locate habsolute (locate_of_openFolder hopen)) ?_
  rw [hasFolder, (openFolder_ok hopen).1]

end Volume

/-! ## Volumes that agree outside a place -/

/-- Steps have led to a location, or to a link in a folder, that is not at a place or below it. -/
def Progress.IsOutside (place : Location) : Progress → Prop
  | .arrived location => ¬ place <:+ location
  | .atLink folder _ _ _ => ¬ place <:+ folder
  | .vacant _ _ _ | .fault _ => True

/-- Two volumes hold the same except at a place and below it. -/
structure AgreesOutside (before after : Volume) (place : Location) : Prop where
  working : after.working = before.working
  objects : ∀ location, ¬ place <:+ location → after.object? location = before.object? location

namespace AgreesOutside

variable {before after : Volume} {place location found : Location} {steps : List Step}
  {budget : Nat} {path : Path} {name : Name}

theorem of_put (volume : Volume) (object : Object) (hne : place ≠ [])
    (hplain : ∀ name ∈ place, name.hasNull = false) :
    AgreesOutside volume (volume.put place object) place := by
  refine ⟨Volume.working_put _ _ _, fun location houtside => ?_⟩
  rw [Volume.object?_put _ _ hne hplain, if_neg]
  rintro rfl
  exact houtside (List.suffix_refl _)

theorem not_suffix_cons (hne : name :: location ≠ place) (houtside : ¬ place <:+ location) :
    ¬ place <:+ name :: location := fun h =>
  (List.suffix_cons_iff.1 h).elim (fun heq => hne heq.symm) houtside

theorem advance (h : AgreesOutside before after place) (houtside : ¬ place <:+ location)
    (hmeet : ¬ before.StepsMeet place budget location steps) :
    after.advance location steps = before.advance location steps := by
  induction steps generalizing location with
  | nil => rfl
  | cons step rest ih =>
    cases step with
    | here => exact ih houtside fun hrest => hmeet (.here hrest)
    | up =>
      exact ih (fun htail => houtside (htail.trans (List.tail_suffix _))) fun hrest =>
        hmeet (.up hrest)
    | down name =>
      have hentry : ¬ place <:+ name :: location :=
        not_suffix_cons (fun heq => hmeet (.entry rest heq)) houtside
      rw [Volume.advance, Volume.advance, h.objects _ hentry]
      cases hobject : before.object? (name :: location) with
      | none => rfl
      | some object =>
        cases object with
        | folder listable =>
          have hfolder : before.hasFolder (name :: location) = true := by
            rw [Volume.hasFolder, hobject]
          simp only [ih hentry fun hrest => hmeet (.folder hfolder hrest)]
        | _ => rfl

theorem isOutside_advance (houtside : ¬ place <:+ location)
    (hmeet : ¬ before.StepsMeet place budget location steps) :
    (before.advance location steps).IsOutside place := by
  induction steps generalizing location with
  | nil => exact houtside
  | cons step rest ih =>
    cases step with
    | here => exact ih houtside fun hrest => hmeet (.here hrest)
    | up =>
      exact ih (fun htail => houtside (htail.trans (List.tail_suffix _))) fun hrest =>
        hmeet (.up hrest)
    | down name =>
      have hentry : ¬ place <:+ name :: location :=
        not_suffix_cons (fun heq => hmeet (.entry rest heq)) houtside
      rw [Volume.advance]
      split
      case isTrue => trivial
      case isFalse =>
        split
        case h_1 => trivial
        case h_2 => exact houtside
        case h_3 hobject =>
          exact ih hentry fun hrest => hmeet (.folder (by rw [Volume.hasFolder, hobject]) hrest)
        case h_4 =>
          split
          case isTrue => exact hentry
          case isFalse => trivial

theorem chase (h : AgreesOutside before after place) (houtside : ¬ place <:+ location)
    (hmeet : ¬ before.StepsMeet place budget location steps) :
    after.chase .followed budget location steps = before.chase .followed budget location steps ∧
      ∀ found, before.chase .followed budget location steps = .ok (.present found) →
        ¬ place <:+ found := by
  induction budget using Nat.strongRecOn generalizing location steps with
  | _ budget ih =>
    have hprogress := isOutside_advance houtside hmeet
    rw [Volume.chase, Volume.chase, h.advance houtside hmeet]
    cases hadvance : before.advance location steps with
    | arrived there =>
      rw [hadvance] at hprogress
      refine ⟨rfl, fun found hfound => ?_⟩
      cases hfound
      exact hprogress
    | vacant folder name rest => cases rest <;> simp
    | fault fault => simp
    | atLink folder name target rest =>
      rw [hadvance] at hprogress
      cases budget with
      | zero => simp
      | succ budget =>
        -- the way goes on from the folder of the link, or from the top
        have hstart : ¬ place <:+ if PathStart.ofText target = .working then folder else [] := by
          split
          case isTrue => exact hprogress
          case isFalse => exact fun htop => houtside (List.suffix_nil.1 htop ▸ List.nil_suffix)
        have hfurther : ¬ before.StepsMeet place budget
            (if PathStart.ofText target = .working then folder else [])
            (stepsOfText target ++ rest) := fun hmore => hmeet <| by
          rw [← List.append_nil steps]
          exact .of_atLink hadvance ((List.append_nil rest).symm ▸ hmore)
        simpa using ih budget (Nat.lt_succ_self budget) hstart hfurther

section Path

variable (h : AgreesOutside before after place) (hne : place ≠ [])
  (habsolute : path.isAbsolute = true) (hmeet : ¬ before.Meets path place)

include h hne habsolute hmeet

theorem chase_steps :
    after.chase .followed linkBudget (after.startOf path) path.steps
        = before.chase .followed linkBudget (before.startOf path) path.steps ∧
      ∀ found, before.chase .followed linkBudget (before.startOf path) path.steps
        = .ok (.present found) → ¬ place <:+ found := by
  have htop : ¬ place <:+ [] := fun hplace => hne (List.suffix_nil.1 hplace)
  rw [Volume.Meets, Volume.startOf, if_pos habsolute] at hmeet
  rw [Volume.startOf, Volume.startOf, if_pos habsolute, if_pos habsolute]
  exact h.chase htop hmeet

theorem locate : after.locate path = before.locate path := by
  rw [Volume.locate, Volume.locate, Volume.resolve, Volume.resolve,
    (h.chase_steps hne habsolute hmeet).1]

theorem not_suffix_of_locate (hlocate : before.locate path = .ok found) : ¬ place <:+ found :=
  (h.chase_steps hne habsolute hmeet).2 found (Volume.locate_eq_ok_iff.1 hlocate).2.2

theorem leadsInto (entered : List Location) :
    after.leadsInto path entered = before.leadsInto path entered := by
  rw [Volume.leadsInto, Volume.leadsInto, Volume.realLocation?, Volume.realLocation?,
    (h.chase_steps hne habsolute hmeet).1]

theorem object?_of_locate (hlocate : before.locate path = .ok found) :
    after.object? found = before.object? found :=
  h.objects found (h.not_suffix_of_locate hne habsolute hmeet hlocate)

theorem openFolder : after.openFolder path = before.openFolder path := by
  rw [Volume.openFolder, Volume.openFolder, h.locate hne habsolute hmeet]
  cases hlocate : before.locate path with
  | error fault => rfl
  | ok found => simp only [bind, Except.bind, h.object?_of_locate hne habsolute hmeet hlocate]

theorem readText {codecs : Codecs} (encoding : Value) :
    SourceOutline.readText codecs after encoding path
      = SourceOutline.readText codecs before encoding path := by
  refine readText_of_readBytes_eq ?_
  rw [Volume.readBytes, Volume.readBytes, h.locate hne habsolute hmeet]
  cases hlocate : before.locate path with
  | error fault => rfl
  | ok found => simp only [bind, Except.bind, h.object?_of_locate hne habsolute hmeet hlocate]

end Path

end AgreesOutside

end SourceOutline
