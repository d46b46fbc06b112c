import SourceOutline.Proofs.Volume.PathText
import SourceOutline.Repository.Reading

set_option autoImplicit false

/-! # Straight ways without links

Where no link stands on the way, a path that only goes down leads to the location of the same names,
and what it leads to depends on the objects on the way alone. So two volumes that agree on the way
resolve, open and read the path alike (`Volume.openFolder_congr`, `Volume.readText_congr`). In a
volume without links a path that goes up on the way leads to where it does with the detours cut out
(`Volume.IsLinkFreeFrom.leadsDown_absolute`). -/

namespace SourceOutline

/-! ## Objects -/

namespace Volume

variable (volume : Volume) (location : Location)

/-- Whether a file stands at a location. -/
def hasFile : Bool :=
  match volume.object? location with
  | some (.file _ _) => true
  | _ => false

/-- Whether a link stands at a location. -/
def hasLink : Bool :=
  match volume.object? location with
  | some (.link _) => true
  | _ => false

/-- No link stands at a location or at one that encloses it. -/
def IsLinkFreeTo : Prop :=
  ∀ outer, outer <:+ location → volume.hasLink outer = false

/-- No link stands at a location or below it. -/
def IsLinkFreeFrom : Prop :=
  ∀ inner, location <:+ inner → volume.hasLink inner = false

/-- Steps from a location lead to no link. -/
def MeetsNoLink (steps : List Step) : Prop :=
  ∀ folder name target rest, volume.advance location steps ≠ .atLink folder name target rest

end Volume

/-- Two volumes hold the same at a location and at those that enclose it. -/
def AgreesOnWay (volume other : Volume) (location : Location) : Prop :=
  ∀ outer, outer <:+ location → volume.object? outer = other.object? outer

/-- A path goes from the top straight down to a location. -/
structure Path.LeadsDown (path : Path) (location : Location) : Prop where
  absolute : path.isAbsolute = true
  steps_eq : path.steps = location.reverse.map Step.down

theorem Path.LeadsDown.child {path : Path} {location : Location} (h : path.LeadsDown location)
    (name : Name) : (path.child name).LeadsDown (name :: location) where
  absolute := h.absolute
  steps_eq := by simp [Path.child, h.steps_eq]

theorem AgreesOnWay.cons {volume other : Volume} {location : Location} {name : Name}
    (h : AgreesOnWay volume other location)
    (hentry : volume.object? (name :: location) = other.object? (name :: location)) :
    AgreesOnWay volume other (name :: location) := by
  intro outer houter
  rcases List.suffix_cons_iff.1 houter with rfl | hinner
  · exact hentry
  · exact h outer hinner

namespace Volume

variable {volume other : Volume} {location : Location} {path : Path}

theorem object?_ne_link (h : volume.hasLink location = false) (target : String) :
    volume.object? location ≠ some (.link target) := by
  intro hlink
  rw [hasLink, hlink] at h
  cases h

theorem hasLink_of_hasFolder (h : volume.hasFolder location = true) :
    volume.hasLink location = false := by
  unfold hasFolder at h
  unfold hasLink
  split at h
  case h_1 hfolder => rw [hfolder]
  case h_2 => cases h

theorem IsLinkFreeTo.append (hto : volume.IsLinkFreeTo location)
    (hfrom : volume.IsLinkFreeFrom location) (names : List Name) :
    volume.IsLinkFreeTo (names ++ location) := by
  intro outer houter
  rcases List.suffix_or_suffix_of_suffix houter (List.suffix_append names location) with
    habove | hbelow
  · exact hto outer habove
  · exact hfrom outer hbelow

theorem isLinkFreeFrom_of_entries (h : ∀ entry ∈ volume.entries, volume.hasLink entry.1 = false)
    (location : Location) : volume.IsLinkFreeFrom location := by
  intro inner _
  cases inner with
  | nil => rfl
  | cons name folder =>
    cases hlookup : volume.entries.lookup (name :: folder) with
    | none => simp [hasLink, object?, hlookup]
    | some object => exact h _ (mem_of_lookup_eq_some hlookup)

theorem hasFolder_of_hasFile (h : volume.hasFile location = true) :
    volume.hasFolder location = false := by
  unfold hasFile at h
  unfold hasFolder
  split at h
  case h_1 hfile => rw [hfile]
  case h_2 => cases h

theorem hasFolder_of_object?_eq_none (h : volume.object? location = none) :
    volume.hasFolder location = false := by
  rw [hasFolder, h]

theorem object?_ne_none_of_hasFolder (h : volume.hasFolder location = true) :
    volume.object? location ≠ none := fun hnone =>
  Bool.eq_false_iff.1 (hasFolder_of_object?_eq_none hnone) h

theorem hasFolder_congr {place : Location} (h : volume.object? location = other.object? place) :
    volume.hasFolder location = other.hasFolder place := by
  rw [hasFolder, hasFolder, h]

/-! ## Steps -/

theorem MeetsNoLink.down {steps : List Step} {first : Name}
    (hentry : volume.hasLink (first :: location) = false)
    (h : volume.MeetsNoLink (first :: location) steps) :
    volume.MeetsNoLink location (.down first :: steps) := by
  intro folder name target rest
  unfold advance
  split
  · nofun
  split
  case h_1 => nofun
  case h_2 link hlink => exact absurd hlink (object?_ne_link hentry link)
  case h_3 => exact h folder name target rest
  case h_4 => split <;> nofun

theorem IsLinkFreeFrom.meetsNoLink (h : volume.IsLinkFreeFrom []) (steps : List Step) :
    ∀ location, volume.MeetsNoLink location steps := by
  induction steps with
  | nil => exact fun _ _ _ _ _ => nofun
  | cons step steps ih =>
    intro location
    cases step with
    | here => exact ih location
    | up => exact ih location.tail
    | down first => exact (ih (first :: location)).down (h _ List.nil_suffix)

theorem IsLinkFreeTo.meetsNoLink (names : List Name) :
    ∀ location : Location, volume.IsLinkFreeTo (names.reverse ++ location) →
      volume.MeetsNoLink location (names.map Step.down) := by
  induction names with
  | nil => exact fun _ _ _ _ _ _ => nofun
  | cons first names ih =>
    intro location h
    rw [List.reverse_cons, List.append_assoc, List.singleton_append] at h
    exact (ih (first :: location) h).down (h (first :: location) (List.suffix_append _ _))

theorem advance_congr (names : List Name) :
    ∀ location : Location, AgreesOnWay volume other (names.reverse ++ location) →
      volume.advance location (names.map Step.down)
        = other.advance location (names.map Step.down) := by
  induction names with
  | nil => exact fun _ _ => rfl
  | cons name names ih =>
    intro location h
    rw [List.reverse_cons, List.append_assoc, List.singleton_append] at h
    have hentry := h (name :: location) (List.suffix_append _ _)
    rw [List.map_cons, advance, advance, hentry, ih (name :: location) h]

theorem advance_down_eq_arrived {name : Name} {rest : List Step} {found : Location}
    (h : volume.advance location (.down name :: rest) = .arrived found) :
    volume.hasFolder (name :: location) = true ∧
        volume.advance (name :: location) rest = .arrived found ∨
      rest = [] ∧ found = name :: location := by
  unfold advance at h
  split at h
  case isTrue => cases h
  case isFalse =>
    split at h
    case h_1 => cases h
    case h_2 => cases h
    case h_3 hfolder => exact .inl ⟨by rw [hasFolder, hfolder], h⟩
    case h_4 =>
      split at h
      case isTrue hlast => exact .inr ⟨List.isEmpty_iff.1 hlast, (Progress.arrived.inj h).symm⟩
      case isFalse => cases h

theorem eq_of_advance_eq_arrived (names : List Name) :
    ∀ {location found : Location},
      volume.advance location (names.map Step.down) = .arrived found →
        found = names.reverse ++ location := by
  induction names with
  | nil =>
    intro location found h
    exact (Progress.arrived.inj h).symm
  | cons name names ih =>
    intro location found h
    obtain ⟨-, hrest⟩ | ⟨hlast, rfl⟩ := advance_down_eq_arrived h
    · simpa using ih hrest
    · obtain rfl := List.map_eq_nil_iff.1 hlast
      simp

/-! ## Places -/

/-- Steps that lead to the same, and to no link, are chased to the same. -/
theorem chase_congr {steps : List Step} (h : other.MeetsNoLink location steps)
    (hadvance : volume.advance location steps = other.advance location steps) (last : LastLink)
    (budget : Nat) : volume.chase last budget location steps
      = other.chase last budget location steps := by
  unfold chase
  rw [hadvance]
  cases hprogress : other.advance location steps with
  | arrived => rfl
  | vacant => rfl
  | fault => rfl
  | atLink => exact absurd hprogress (h _ _ _ _)

theorem MeetsNoLink.advance_of_chase {steps : List Step} (h : volume.MeetsNoLink location steps)
    {last : LastLink} {budget : Nat} {found : Location}
    (hchase : volume.chase last budget location steps = .ok (.present found)) :
    volume.advance location steps = .arrived found := by
  unfold chase at hchase
  cases hprogress : volume.advance location steps with
  | arrived place =>
    rw [hprogress] at hchase
    cases hchase
    rfl
  | vacant folder name rest =>
    rw [hprogress] at hchase
    simp only at hchase
    split at hchase <;> cases hchase
  | fault fault =>
    rw [hprogress] at hchase
    cases hchase
  | atLink => exact absurd hprogress (h _ _ _ _)

theorem chase_of_locate {found : Location} (habsolute : path.isAbsolute = true)
    (h : volume.locate path = .ok found) :
    volume.chase .followed linkBudget [] path.steps = .ok (.present found) := by
  have hstart : volume.startOf path = [] := by rw [startOf, if_pos habsolute]
  simp only [locate, resolve, hstart] at h
  split at h
  · cases h
  split at h
  · cases h
  cases hchase : volume.chase .followed linkBudget [] path.steps with
  | error fault =>
    rw [hchase] at h
    cases h
  | ok place =>
    rw [hchase] at h
    cases place with
    | present place =>
      cases h
      rfl
    | vacant folder name => cases h

theorem locate_of_openFolder (h : volume.openFolder path = .ok location) :
    volume.locate path = .ok location := by
  rw [openFolder] at h
  cases hlocate : volume.locate path with
  | error fault =>
    rw [hlocate] at h
    cases h
  | ok found =>
    rw [hlocate] at h
    simp only [bind, Except.bind] at h
    split at h <;> cases h
    rfl

/-! ## Straight ways -/

section Straight

variable (hpath : path.LeadsDown location)

include hpath

theorem IsLinkFreeTo.meetsNoLink_steps (h : volume.IsLinkFreeTo location) :
    volume.MeetsNoLink [] path.steps := by
  rw [hpath.steps_eq]
  refine IsLinkFreeTo.meetsNoLink _ [] ?_
  rwa [List.reverse_reverse, List.append_nil]

theorem IsLinkFreeTo.eq_of_locate (h : volume.IsLinkFreeTo location) {found : Location}
    (hlocate : volume.locate path = .ok found) : found = location := by
  have hadvance := (h.meetsNoLink_steps hpath).advance_of_chase
    (chase_of_locate hpath.absolute hlocate)
  rw [hpath.steps_eq] at hadvance
  simpa using eq_of_advance_eq_arrived _ hadvance

variable (h : other.IsLinkFreeTo location) (hagrees : AgreesOnWay volume other location)

include h hagrees

theorem chase_straight_congr (last : LastLink) (budget : Nat) :
    volume.chase last budget (volume.startOf path) path.steps
      = other.chase last budget (other.startOf path) path.steps := by
  rw [startOf, startOf, if_pos hpath.absolute, if_pos hpath.absolute]
  refine chase_congr (h.meetsNoLink_steps hpath) ?_ last budget
  rw [hpath.steps_eq]
  refine advance_congr _ [] ?_
  rwa [List.reverse_reverse, List.append_nil]

theorem locate_congr : volume.locate path = other.locate path := by
  rw [locate, locate, resolve, resolve, chase_straight_congr hpath h hagrees]

theorem realLocation?_congr : volume.realLocation? path = other.realLocation? path := by
  rw [realLocation?, realLocation?, chase_straight_congr hpath h hagrees]

theorem leadsInto_congr (entered : List Location) :
    volume.leadsInto path entered = other.leadsInto path entered := by
  rw [leadsInto, leadsInto, realLocation?_congr hpath h hagrees]

theorem openFolder_congr : volume.openFolder path = other.openFolder path := by
  rw [openFolder, openFolder, locate_congr hpath h hagrees]
  cases hlocate : other.locate path with
  | error fault => rfl
  | ok found =>
    obtain rfl := h.eq_of_locate hpath hlocate
    simp only [bind, Except.bind, hagrees found (List.suffix_refl _)]

theorem readBytes_congr : volume.readBytes path = other.readBytes path := by
  rw [readBytes, readBytes, locate_congr hpath h hagrees]
  cases hlocate : other.locate path with
  | error fault => rfl
  | ok found =>
    obtain rfl := h.eq_of_locate hpath hlocate
    simp only [bind, Except.bind, hagrees found (List.suffix_refl _)]

theorem readText_congr (codecs : Codecs) (encoding : Value) :
    readText codecs volume encoding path = readText codecs other encoding path :=
  readText_of_readBytes_eq (readBytes_congr hpath h hagrees)

end Straight

/-! ## Ways with detours -/

/-- Steps that arrive at a location arrive there without detours: what the steps up undo can be cut
    out. The way so far is straight. -/
theorem collapse_of_advance (steps : List Step) :
    ∀ {location found : Location}, volume.advance location steps = .arrived found →
      Path.collapse true (location.map Step.down) steps = found.reverse.map Step.down := by
  induction steps with
  | nil =>
    intro location found h
    rw [Path.collapse, List.map_reverse, Progress.arrived.inj h]
  | cons step steps ih =>
    intro location found h
    cases step with
    | here =>
      rw [Path.collapse]
      exact ih h
    | up =>
      cases location with
      | nil => exact ih h
      | cons name location =>
        rw [List.map_cons, Path.collapse]
        exact ih h
    | down name =>
      rw [Path.collapse]
      obtain ⟨-, hrest⟩ | ⟨rfl, rfl⟩ := advance_down_eq_arrived h
      · exact ih hrest
      · rw [Path.collapse, List.map_reverse, List.map_cons]

/-- Steps that arrive at a location pass only through folders. The folders so far enclose one
    another. -/
theorem hasFolder_of_advance (steps : List Step) :
    ∀ {location found : Location}, (∀ outer, outer <:+ location → volume.hasFolder outer = true) →
      volume.advance location steps = .arrived found →
      ∀ outer, outer <:+ found → outer = found ∨ volume.hasFolder outer = true := by
  induction steps with
  | nil =>
    intro location found hfolders h outer houter
    obtain rfl := Progress.arrived.inj h
    exact .inr (hfolders outer houter)
  | cons step steps ih =>
    intro location found hfolders h
    cases step with
    | here => exact ih hfolders h
    | up =>
      refine ih (fun outer houter => hfolders outer (houter.trans ?_)) h
      exact List.tail_suffix location
    | down name =>
      obtain ⟨hfolder, hrest⟩ | ⟨rfl, rfl⟩ := advance_down_eq_arrived h
      · refine ih (fun outer houter => ?_) hrest
        rcases List.suffix_cons_iff.1 houter with rfl | hinner
        · exact hfolder
        · exact hfolders outer hinner
      · -- what is arrived at may be anything, but what encloses it are folders
        intro outer houter
        exact (List.suffix_cons_iff.1 houter).imp_right (hfolders outer)

/-- Where a path from the top is located without links, there a straight way leads. -/
theorem IsLinkFreeFrom.leadsDown_absolute (h : volume.IsLinkFreeFrom []) {found : Location}
    (habsolute : path.isAbsolute = true) (hlocate : volume.locate path = .ok found)
    (working : Path) : (Path.absolute working path).LeadsDown found := by
  have hadvance := (h.meetsNoLink _ _).advance_of_chase (chase_of_locate habsolute hlocate)
  have hfull : Path.absolute working path
      = { path with steps := Path.collapse true [] path.steps } := by
    rw [Path.absolute, if_pos habsolute, habsolute]
  rw [hfull]
  exact ⟨habsolute, collapse_of_advance path.steps hadvance⟩

theorem IsLinkFreeFrom.hasFolder_of_locate (h : volume.IsLinkFreeFrom []) {found : Location}
    (habsolute : path.isAbsolute = true) (hlocate : volume.locate path = .ok found)
    (hfolder : volume.hasFolder found = true) :
    ∀ outer, outer <:+ found → volume.hasFolder outer = true := by
  intro outer houter
  have hadvance := (h.meetsNoLink _ _).advance_of_chase (chase_of_locate habsolute hlocate)
  have htop : ∀ outer, outer <:+ ([] : Location) → volume.hasFolder outer = true := by
    intro outer houter
    rw [List.suffix_nil.1 houter]
    rfl
  rcases hasFolder_of_advance path.steps htop hadvance outer houter with rfl | hin
  · exact hfolder
  · exact hin

end Volume

end SourceOutline
