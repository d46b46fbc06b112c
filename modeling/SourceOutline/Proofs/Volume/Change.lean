import SourceOutline.Proofs.Volume.Straight
import SourceOutline.Volume.Edit

set_option autoImplicit false

/-! # Changes of a volume

`IsChange` tells what one change can be: a file is made, edited or deleted, a folder is made or
deleted with everything in it, or a file or a whole folder is moved. Writing a file and removing a
folder are such changes (`IsChange.put_file`, `IsChange.remove_folder`). Two things are known of all
of them: what does not stand at or below one of the places that the change is about stays as it is
(`IsChange.object?_of_not_below`), and a change of a file leaves everything as it is but at these
places, where no folder stands before or after (`IsChange.of_file`). -/

namespace SourceOutline

/-! ## Edits -/

namespace Volume

theorem lookup_map_replace (entries : List (Location × Object)) (location : Location)
    (object : Object) (other : Location) :
    (entries.map fun entry =>
        if entry.1 = location then (entry.1, object) else entry).lookup other
      = if other = location then (entries.lookup other).map fun _ => object
        else entries.lookup other := by
  induction entries with
  | nil => simp
  | cons entry entries ih =>
    obtain ⟨place, old⟩ := entry
    rw [List.map_cons, List.lookup_cons, List.lookup_cons, ih]
    by_cases hplace : place = location <;> by_cases hother : other = place <;> grind

theorem entryStandsAt_eq_isSome (entries : List (Location × Object)) (location : Location) :
    entryStandsAt location entries = (entries.lookup location).isSome := by
  rw [Bool.eq_iff_iff, entryStandsAt, List.any_eq_true, List.lookup_isSome_iff]
  refine exists_congr fun entry => and_congr_right fun _ => ?_
  rw [decide_eq_true_eq, beq_iff_eq, eq_comm]

theorem object?_put (volume : Volume) {location : Location} (object : Object)
    (hne : location ≠ []) (hplain : ∀ name ∈ location, name.hasNull = false) (other : Location) :
    (volume.put location object).object? other
      = if other = location then some object else volume.object? other := by
  cases other with
  | nil => rw [if_neg hne.symm]; rfl
  | cons name folder =>
    unfold put
    rw [dif_pos hplain]
    split
    case isTrue hstands =>
      refine (lookup_map_replace _ _ _ _).trans ?_
      obtain ⟨old, hold⟩ := Option.isSome_iff_exists.1
        (entryStandsAt_eq_isSome volume.entries location ▸ hstands)
      split
      case isTrue heq => rw [heq, hold]; rfl
      case isFalse => rfl
    case isFalse hvacant =>
      rw [entryStandsAt_eq_isSome] at hvacant
      have hnone := Option.not_isSome_iff_eq_none.1 hvacant
      refine List.lookup_append.trans ?_
      rw [List.lookup_cons, List.lookup_nil]
      split
      case h_1 heq =>
        rw [if_pos (eq_of_beq heq), eq_of_beq heq, hnone]
        rfl
      case h_2 hneq =>
        rw [if_neg (beq_eq_false_iff_ne.1 hneq), Option.or_none]
        rfl

/-- After something has been removed nothing stands at its location or below it, and everything else
    as before. -/
theorem object?_remove (volume : Volume) {location : Location} (hne : location ≠ [])
    (other : Location) :
    (volume.remove location).object? other
      = if location <:+ other then none else volume.object? other := by
  cases other with
  | nil => rw [if_neg fun h => hne (List.suffix_nil.1 h)]; rfl
  | cons name folder =>
    have hlookup : ∀ entries : List (Location × Object),
        (entries.filter fun entry => !location.isSuffixOf entry.1).lookup (name :: folder)
          = if location <:+ name :: folder then none else entries.lookup (name :: folder) := by
      intro entries
      induction entries with
      | nil => simp
      | cons entry entries ih =>
        obtain ⟨place, old⟩ := entry
        rw [List.lookup_cons]
        by_cases hplace : location <:+ place <;> by_cases hother : name :: folder = place <;> grind
    exact hlookup volume.entries

end Volume

/-! ## Changes -/

/-- What one change of a volume can be. It is told whether it is one of a folder, at which place it
    is, and, if it is a move, to which place. A moved file may replace anything but a folder, and a
    moved folder an empty one; no folder is moved into itself. -/
inductive IsChange (before after : Volume) : Bool → Location → Option Location → Prop
  | fileMade {place : Location} (hbefore : before.object? place = none)
      (hafter : after.hasFile place = true)
      (hothers : ∀ other, other ≠ place → after.object? other = before.object? other) :
      IsChange before after false place none
  | fileEdited {place : Location} (hbefore : before.hasFile place = true)
      (hafter : after.hasFile place = true)
      (hothers : ∀ other, other ≠ place → after.object? other = before.object? other) :
      IsChange before after false place none
  | fileDeleted {place : Location} (hbefore : before.hasFile place = true)
      (hafter : after.object? place = none)
      (hothers : ∀ other, other ≠ place → after.object? other = before.object? other) :
      IsChange before after false place none
  | folderMade {place : Location} (hbefore : before.object? place = none)
      (hafter : after.hasFolder place = true)
      (hothers : ∀ other, ¬ place <:+ other → after.object? other = before.object? other) :
      IsChange before after true place none
  | folderDeleted {place : Location} (hbefore : before.hasFolder place = true)
      (hafter : ∀ other, place <:+ other → after.object? other = none)
      (hothers : ∀ other, ¬ place <:+ other → after.object? other = before.object? other) :
      IsChange before after true place none
  | fileMoved {source target : Location} (hsource : before.hasFile source = true)
      (htarget : before.hasFolder target = false) (hne : source ≠ target)
      (hgone : after.object? source = none)
      (hcame : after.object? target = before.object? source)
      (hothers : ∀ other, other ≠ source → other ≠ target →
        after.object? other = before.object? other) :
      IsChange before after false source (some target)
  | folderMoved {source target : Location} (hsource : before.hasFolder source = true)
      (htarget : before.object? target = none ∨ before.hasFolder target = true)
      (hempty : ∀ other, target <:+ other → other ≠ target → before.object? other = none)
      (hapart : ¬ source <:+ target)
      (hgone : ∀ other, source <:+ other → after.object? other = none)
      (hcame : ∀ inner : Location,
        after.object? (inner ++ target) = before.object? (inner ++ source))
      (hothers : ∀ other, ¬ source <:+ other → ¬ target <:+ other →
        after.object? other = before.object? other) :
      IsChange before after true source (some target)

/-- The places that a change is about. -/
def changedPlaces (source : Location) (target : Option Location) : List Location :=
  source :: target.toList

namespace IsChange

variable {before after : Volume} {isFolder : Bool} {source : Location} {target : Option Location}

theorem put_file {volume : Volume} {place : Location} {content : List UInt8} {readable : Bool}
    (hbefore : volume.object? place = none ∨ volume.hasFile place = true) (hne : place ≠ [])
    (hplain : ∀ name ∈ place, name.hasNull = false) :
    IsChange volume (volume.put place (.file content readable)) false place none := by
  have hput := volume.object?_put (.file content readable) hne hplain
  have hafter : (volume.put place (.file content readable)).hasFile place = true := by
    rw [Volume.hasFile, hput, if_pos rfl]
  have hothers := fun other (hother : other ≠ place) => (hput other).trans (if_neg hother)
  rcases hbefore with hvacant | hfile
  · exact fileMade hvacant hafter hothers
  · exact fileEdited hfile hafter hothers

theorem remove_folder {volume : Volume} {place : Location}
    (hbefore : volume.hasFolder place = true) (hne : place ≠ []) :
    IsChange volume (volume.remove place) true place none :=
  have hremove := volume.object?_remove hne
  folderDeleted hbefore (fun other hother => (hremove other).trans (if_pos hother))
    fun other hother => (hremove other).trans (if_neg hother)

/-- A change leaves everything as it is that does not stand at or below one of its places. -/
theorem object?_of_not_below (h : IsChange before after isFolder source target) {other : Location}
    (hother : ∀ place ∈ changedPlaces source target, ¬ place <:+ other) :
    after.object? other = before.object? other := by
  have hsource := hother source List.mem_cons_self
  have hne : other ≠ source := fun heq => hsource (heq ▸ List.suffix_refl _)
  cases h with
  | fileMade _ _ hothers => exact hothers other hne
  | fileEdited _ _ hothers => exact hothers other hne
  | fileDeleted _ _ hothers => exact hothers other hne
  | folderMade _ _ hothers => exact hothers other hsource
  | folderDeleted _ _ hothers => exact hothers other hsource
  | @fileMoved _ target _ _ _ _ _ hothers =>
    have htarget := hother target (List.mem_cons_of_mem _ List.mem_cons_self)
    exact hothers other hne fun heq => htarget (heq ▸ List.suffix_refl _)
  | @folderMoved _ target _ _ _ _ _ _ hothers =>
    exact hothers other hsource (hother target (List.mem_cons_of_mem _ List.mem_cons_self))

/-- A change of a file leaves everything as it is but at its places, and at none of these is there a
    folder before or after. -/
theorem of_file (h : IsChange before after false source target) :
    (∀ other, other ∉ changedPlaces source target →
      after.object? other = before.object? other) ∧
    ∀ place ∈ changedPlaces source target,
      before.hasFolder place = false ∧ after.hasFolder place = false := by
  -- all but a move are about one place
  have hsingle : ∀ {place : Location},
      (∀ other, other ≠ place → after.object? other = before.object? other) →
      before.hasFolder place = false → after.hasFolder place = false →
      (∀ other, other ∉ changedPlaces place none → after.object? other = before.object? other) ∧
        ∀ changed ∈ changedPlaces place none,
          before.hasFolder changed = false ∧ after.hasFolder changed = false := by
    intro place hothers hbefore hafter
    refine ⟨fun other hother => hothers other (List.ne_of_not_mem_cons hother), ?_⟩
    intro changed hchanged
    rw [List.mem_singleton.1 hchanged]
    exact ⟨hbefore, hafter⟩
  cases h with
  | fileMade hbefore hafter hothers =>
    exact hsingle hothers (Volume.hasFolder_of_object?_eq_none hbefore)
      (Volume.hasFolder_of_hasFile hafter)
  | fileEdited hbefore hafter hothers =>
    exact hsingle hothers (Volume.hasFolder_of_hasFile hbefore)
      (Volume.hasFolder_of_hasFile hafter)
  | fileDeleted hbefore hafter hothers =>
    exact hsingle hothers (Volume.hasFolder_of_hasFile hbefore)
      (Volume.hasFolder_of_object?_eq_none hafter)
  | fileMoved hsource htarget hne hgone hcame hothers =>
    have hfile := Volume.hasFolder_of_hasFile hsource
    refine ⟨fun other hother => hothers other (List.ne_of_not_mem_cons hother)
      (List.ne_of_not_mem_cons (List.not_mem_of_not_mem_cons hother)), ?_⟩
    intro place hplace
    rcases List.mem_cons.1 hplace with rfl | hplace
    · exact ⟨hfile, Volume.hasFolder_of_object?_eq_none hgone⟩
    · rw [List.mem_singleton.1 hplace]
      exact ⟨htarget, (Volume.hasFolder_congr hcame).trans hfile⟩

/-- A change one of whose places is below a folder is not about that folder nor about one that
    encloses it. -/
theorem not_encloses (h : IsChange before after isFolder source target) {root : Location}
    (hfolders : ∀ outer, outer <:+ root → before.hasFolder outer = true)
    (hinside : ∃ place ∈ changedPlaces source target, root <:+ place ∧ place ≠ root) :
    ∀ place ∈ changedPlaces source target, ¬ place <:+ root := by
  intro place hplace hencloses
  have hfolder := hfolders place hencloses
  obtain ⟨inner, hinner, hbelow, hne⟩ := hinside
  cases isFolder with
  | false => exact Bool.eq_false_iff.1 (h.of_file.2 place hplace).1 hfolder
  | true =>
    cases h with
    | folderMade hbefore =>
      rw [List.mem_singleton.1 hplace] at hfolder
      exact Volume.object?_ne_none_of_hasFolder hfolder hbefore
    | folderDeleted =>
      rw [List.mem_singleton.1 hinner] at hbelow hne
      rw [List.mem_singleton.1 hplace] at hencloses
      exact hne (hencloses.eq_of_length_le hbelow.length_le)
    | @folderMoved _ target hsource _ hempty hapart =>
      -- one end encloses the root and the other, or the same, is below it
      have hends : ∀ {other}, other ∈ changedPlaces source (some target) →
          other = source ∨ other = target := fun hother =>
        (List.mem_cons.1 hother).imp_right List.mem_singleton.1
      rcases hends hplace with rfl | rfl <;> rcases hends hinner with rfl | rfl
      · exact hne (hencloses.eq_of_length_le hbelow.length_le)
      · exact hapart (hencloses.trans hbelow)
      · have happart : inner ≠ place := fun heq => hapart (heq ▸ List.suffix_refl _)
        exact Volume.object?_ne_none_of_hasFolder hsource
          (hempty inner (hencloses.trans hbelow) happart)
      · exact hne (hencloses.eq_of_length_le hbelow.length_le)

end IsChange

end SourceOutline
