import SourceOutline.Proofs.Config.Fields
import SourceOutline.Proofs.Volume.Making

set_option autoImplicit false

/-! # Volumes of one layout

Two volumes have one layout if they have the same working folder and hold the same everywhere, but
for the bytes of files (`SameLayout`). Where a path leads and what a folder lists is told by the
layout: paths are located alike (`SameLayout.locate`), lead into the same folders and open the same.
Only what is read in a file is not, and that is the same too where the same bytes stand
(`SameLayout.readBytes`). Two cases of this are volumes that hold the same in another order
(`SameLayout.of_perm`) and volumes that differ in one file (`IsFileEdit.sameLayout`). -/

namespace SourceOutline

/-! ## Layouts -/

/-- Two volumes hold the same everywhere, but for the bytes of files. -/
structure SameLayout (before after : Volume) : Prop where
  working : after.working = before.working
  objects : ∀ location, after.object? location = before.object? location ∨
    ∃ old new readable, before.object? location = some (.file old readable) ∧
      after.object? location = some (.file new readable)

/-- Two volumes hold the same everywhere, but for the bytes of the file at a place. -/
structure IsFileEdit (before after : Volume) (place : Location) : Prop where
  working : after.working = before.working
  file : ∃ old new readable, before.object? place = some (.file old readable) ∧
    after.object? place = some (.file new readable)
  others : ∀ location, location ≠ place → after.object? location = before.object? location

theorem IsFileEdit.sameLayout {before after : Volume} {place : Location}
    (h : IsFileEdit before after place) : SameLayout before after where
  working := h.working
  objects location := by
    by_cases hplace : location = place
    · exact .inr (hplace ▸ h.file)
    · exact .inl (h.others location hplace)

theorem IsFileEdit.symm {before after : Volume} {place : Location}
    (h : IsFileEdit before after place) : IsFileEdit after before place where
  working := h.working.symm
  file := by
    obtain ⟨old, new, readable, hbefore, hafter⟩ := h.file
    exact ⟨new, old, readable, hafter, hbefore⟩
  others location hother := (h.others location hother).symm

theorem IsFileEdit.of_put {volume : Volume} {place : Location} {old : List UInt8} {readable : Bool}
    (h : volume.object? place = some (.file old readable))
    (hplain : ∀ name ∈ place, name.hasNull = false) (new : List UInt8) :
    IsFileEdit volume (volume.put place (.file new readable)) place := by
  have hne : place ≠ [] := by
    rintro rfl
    cases h
  refine ⟨Volume.working_put _ _ _, ⟨old, new, readable, h, ?_⟩, fun location hother => ?_⟩
  · rw [Volume.object?_put _ _ hne hplain, if_pos rfl]
  · rw [Volume.object?_put _ _ hne hplain, if_neg hother]

theorem Volume.object?_eq_some_iff {volume : Volume} {location : Location} {object : Object}
    (hne : location ≠ []) :
    volume.object? location = some object ↔ (location, object) ∈ volume.entries := by
  have hlookup : volume.object? location = volume.entries.lookup location := by
    cases location with
    | nil => exact absurd rfl hne
    | cons => rfl
  rw [hlookup]
  exact ⟨mem_of_lookup_eq_some, lookup_eq_some_of_mem volume.distinct⟩

theorem Volume.object?_of_perm {before after : Volume} (h : after.entries.Perm before.entries)
    (location : Location) : after.object? location = before.object? location := by
  by_cases hne : location = []
  · rw [hne]
    rfl
  · refine Option.ext fun object => ?_
    rw [object?_eq_some_iff hne, object?_eq_some_iff hne, h.mem_iff]

theorem SameLayout.of_perm {before after : Volume} (hworking : after.working = before.working)
    (h : after.entries.Perm before.entries) : SameLayout before after where
  working := hworking
  objects location := .inl (Volume.object?_of_perm h location)

theorem SameLayout.symm {before after : Volume} (h : SameLayout before after) :
    SameLayout after before where
  working := h.working.symm
  objects location := by
    obtain hsame | ⟨old, new, readable, hbefore, hafter⟩ := h.objects location
    · exact .inl hsame.symm
    · exact .inr ⟨new, old, readable, hafter, hbefore⟩

/-! ## Where paths lead -/

namespace SameLayout

variable {before after : Volume} {location found : Location} {path : Path}
  (h : SameLayout before after)

include h

theorem hasFolder (location : Location) : after.hasFolder location = before.hasFolder location := by
  unfold Volume.hasFolder
  obtain hsame | ⟨_, _, _, hbefore, hafter⟩ := h.objects location
  · rw [hsame]
  · rw [hbefore, hafter]

theorem advance (steps : List Step) (location : Location) :
    after.advance location steps = before.advance location steps := by
  induction steps generalizing location with
  | nil => rfl
  | cons step rest ih =>
    cases step with
    | here => exact ih location
    | up => exact ih location.tail
    | down name =>
      rw [Volume.advance, Volume.advance, ih (name :: location)]
      obtain hsame | ⟨_, _, _, hbefore, hafter⟩ := h.objects (name :: location)
      · rw [hsame]
      · rw [hbefore, hafter]

theorem chase (last : LastLink) (budget : Nat) (location : Location) (steps : List Step) :
    after.chase last budget location steps = before.chase last budget location steps := by
  induction budget using Nat.strongRecOn generalizing last location steps with
  | _ budget ih =>
    rw [Volume.chase, Volume.chase, h.advance]
    cases before.advance location steps with
    | arrived => rfl
    | vacant => rfl
    | fault => rfl
    | atLink folder name target rest =>
      cases budget with
      | zero => rfl
      | succ budget => simp only [ih budget (Nat.lt_succ_self budget), h.hasFolder]

theorem startOf (path : Path) : after.startOf path = before.startOf path := by
  rw [Volume.startOf, Volume.startOf, h.working]

theorem locate (path : Path) : after.locate path = before.locate path := by
  rw [Volume.locate, Volume.locate, Volume.resolve, Volume.resolve, h.startOf, h.chase]

theorem leadsInto (path : Path) (entered : List Location) :
    after.leadsInto path entered = before.leadsInto path entered := by
  rw [Volume.leadsInto, Volume.leadsInto, Volume.realLocation?, Volume.realLocation?, h.startOf,
    h.chase]

theorem openFolder (path : Path) : after.openFolder path = before.openFolder path := by
  rw [Volume.openFolder, Volume.openFolder, h.locate]
  cases before.locate path with
  | error fault => rfl
  | ok found =>
    obtain hsame | ⟨_, _, _, hbefore, hafter⟩ := h.objects found
    · simp only [bind, Except.bind, hsame]
    · simp only [bind, Except.bind, hbefore, hafter]

theorem readBytes (hobject : ∀ found, before.locate path = .ok found →
      after.object? found = before.object? found) :
    after.readBytes path = before.readBytes path := by
  rw [Volume.readBytes, Volume.readBytes, h.locate]
  cases hlocate : before.locate path with
  | error fault => rfl
  | ok found => simp only [bind, Except.bind, hobject found hlocate]

theorem readText {codecs : Codecs} (hobject : ∀ found, before.locate path = .ok found →
      after.object? found = before.object? found) (encoding : Value) :
    SourceOutline.readText codecs after encoding path
      = SourceOutline.readText codecs before encoding path :=
  readText_of_readBytes_eq (h.readBytes hobject)

end SameLayout

end SourceOutline
