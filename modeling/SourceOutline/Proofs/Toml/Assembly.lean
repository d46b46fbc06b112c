import SourceOutline.Proofs.Config.Fields
import SourceOutline.Proofs.Toml.Draft
import SourceOutline.Toml.Layout

set_option autoImplicit false

/-! # A table is put together part by part

While a document of a table is read, some parts of the table have been named by a header or a line.
These stand where they stand in the table, the tables above them have come about on the way, and
nothing else is there (`HasRead`). One more part can always be read, in whatever order they come, if
it has not been read before (`HasRead.openTable`, `HasRead.assign`). When all parts that are no
tables have been read, and of each table it or something in it, the table is complete
(`HasRead.complete`). -/

namespace SourceOutline.Toml

/-! ## What has been read -/

/-- The mark of a part that has been read: a table has been opened by its header, and any other
    value is finished. -/
def readMark : Value → Mark
  | .table _ _ => .table .opened
  | v => .value v

/-- Of a table some parts have been read, and nothing else. -/
structure HasRead (table : List (String × Value)) (isRead : List String → Prop) (root : Fields) :
    Prop where
  read : ∀ path, isRead path →
    ∃ v, partAt path table = some v ∧ markAt path root = some (readMark v)
  passed : ∀ path, path ≠ [] → ¬ isRead path → (∃ other, isRead other ∧ path <+: other) →
    markAt path root = some (.table .passed)
  fresh : ∀ path, ¬ isRead path → (¬ ∃ other, isRead other ∧ path <+: other) →
    markAt path root = none

namespace HasRead

variable {table : List (String × Value)} {isRead : List String → Prop} {root : Fields}

theorem nothing : HasRead table (fun _ => False) [] where
  read := nofun
  passed := fun _ _ _ h => h.elim fun _ hother => hother.1.elim
  fresh := fun path _ _ => markAt_nil path

theorem exists_part (h : HasRead table isRead root) {path : List String} (hpath : isRead path) :
    ∃ v, partAt path table = some v := by
  obtain ⟨v, hpart, -⟩ := h.read path hpath
  exact ⟨v, hpart⟩

theorem isOpenWay (h : HasRead table isRead root) {path : List String} {key : String} {v : Value}
    (hpart : partAt (path ++ [key]) table = some v) : IsOpenWay path root := by
  intro part hne hleads
  by_cases hread : isRead part
  · obtain ⟨w, hw, hmark⟩ := h.read part hread
    have hproper : part ≠ path ++ [key] := by
      rintro rfl
      exact absurd hleads.length_le (by simp)
    obtain ⟨inner, inline, hinner⟩ :=
      exists_partAt_of_prefix hpart (hleads.trans (List.prefix_append _ _)) hne hproper
    obtain rfl : Value.table inner inline = w := Option.some.inj (hinner.symm.trans hw)
    exact .inr ⟨.opened, hmark⟩
  · by_cases hbelow : ∃ other, isRead other ∧ part <+: other
    · exact .inr ⟨.passed, h.passed part hne hread hbelow⟩
    · exact .inl (h.fresh part hread hbelow)

/-- Where a part has not been read there is at most a table that has come about on the way, and
    only if the part is a table. -/
theorem markAt_of_not_read (h : HasRead table isRead root) {path : List String} {v : Value}
    (hpart : partAt path table = some v) (hnew : ¬ isRead path) :
    markAt path root = none ∨ markAt path root = some (.table .passed) ∧ v.isTable = true := by
  have hne : path ≠ [] := by
    rintro rfl
    cases hpart
  by_cases hbelow : ∃ other, isRead other ∧ path <+: other
  · refine .inr ⟨h.passed path hne hnew hbelow, ?_⟩
    obtain ⟨other, hother, hprefix⟩ := hbelow
    obtain ⟨w, hw⟩ := h.exists_part hother
    have hproper : path ≠ other := by
      rintro rfl
      exact hnew hother
    obtain ⟨inner, inline, hinner⟩ := exists_partAt_of_prefix hw hprefix hne hproper
    obtain rfl : Value.table inner inline = v := Option.some.inj (hinner.symm.trans hpart)
    rfl
  · exact .inl (h.fresh path hnew hbelow)

theorem put (h : HasRead table isRead root) {path : List String} {v : Value} {root' : Fields}
    (hpart : partAt path table = some v) (hput : IsPut path (readMark v) root root') :
    HasRead table (fun other => other = path ∨ isRead other) root' where
  read := by
    intro other hother
    by_cases heq : other = path
    · subst heq
      exact ⟨v, hpart, (hput other).trans (if_pos rfl)⟩
    · obtain ⟨w, hw, hmark⟩ := h.read other (hother.resolve_left heq)
      refine ⟨w, hw, ?_⟩
      rw [hput other, if_neg heq, hmark]
      split <;> rfl
  passed := by
    intro other hne hnot hbelow
    obtain ⟨hneq, hnew⟩ := not_or.1 hnot
    rw [hput other, if_neg hneq]
    by_cases hold : ∃ part, isRead part ∧ other <+: part
    · rw [h.passed other hne hnew hold]
      split <;> rfl
    · -- nothing below it was read before, so it is on the way to the new part
      have hprefix : other <+: path := by
        obtain ⟨part, rfl | hpart, hprefix⟩ := hbelow
        · exact hprefix
        · exact absurd ⟨part, hpart, hprefix⟩ hold
      rw [if_pos ⟨hne, hprefix⟩, h.fresh other hnew hold]
      rfl
  fresh := by
    intro other hnot hnone
    obtain ⟨hneq, hnew⟩ := not_or.1 hnot
    rw [hput other, if_neg hneq,
      if_neg (fun hway => hnone ⟨path, .inl rfl, hway.2⟩)]
    exact h.fresh other hnew fun ⟨part, hpart, hprefix⟩ => hnone ⟨part, .inr hpart, hprefix⟩

/-- A table that has not been read can be opened by its header. -/
theorem openTable (h : HasRead table isRead root) {path : List String} {key : String}
    {inner : List (String × Value)} {inline : Bool}
    (hpart : partAt (path ++ [key]) table = some (.table inner inline))
    (hnew : ¬ isRead (path ++ [key])) :
    ∃ root', within (Toml.openTable key) path root = some root' ∧
      HasRead table (fun other => other = path ++ [key] ∨ isRead other) root' := by
  obtain ⟨root', hwithin, hput⟩ := exists_openTable (h.isOpenWay hpart)
    ((h.markAt_of_not_read hpart hnew).imp_right And.left)
  exact ⟨root', hwithin, h.put hpart hput⟩

/-- A value that is no table and has not been read can be given to its key. -/
theorem assign (h : HasRead table isRead root) {path : List String} {key : String} {v : Value}
    (sectionNumber : Nat) (hpart : partAt (path ++ [key]) table = some v)
    (hleaf : v.isTable = false) (hnew : ¬ isRead (path ++ [key])) :
    ∃ root', within (Toml.assign sectionNumber v [key]) path root = some root' ∧
      HasRead table (fun other => other = path ++ [key] ∨ isRead other) root' := by
  have hmark : readMark v = .value v := by
    cases v <;> first | rfl | cases hleaf
  have hnone : markAt (path ++ [key]) root = none := by
    rcases h.markAt_of_not_read hpart hnew with hnone | ⟨-, htable⟩
    · exact hnone
    · rw [hleaf] at htable
      cases htable
  obtain ⟨root', hwithin, hput⟩ := exists_assign sectionNumber v (h.isOpenWay hpart) hnone
  exact ⟨root', hwithin, h.put hpart (hmark.symm ▸ hput)⟩

end HasRead

/-! ## Complete tables -/

/-- What stands at a path of a table under construction is what stands at a path of a table. -/
inductive Shows : Option Mark → Option Value → Prop
  | nothing : Shows none none
  | value {v : Value} (h : v.isTable = false) : Shows (some (.value v)) (some v)
  | table (origin : Origin) (fields : List (String × Value)) (inline : Bool) :
      Shows (some (.table origin)) (some (.table fields inline))

theorem Shows.eq_none_iff {mark : Option Mark} {value : Option Value} (h : Shows mark value) :
    mark = none ↔ value = none := by
  cases h <;> simp

theorem lookup_finishFields (fields : Fields) (key : String) :
    (finishFields fields).lookup key = (fields.lookup key).map Draft.finish := by
  induction fields with
  | nil => rfl
  | cons field rest ih =>
    obtain ⟨k, draft⟩ := field
    rw [finishFields, List.lookup_cons, List.lookup_cons, ih]
    split <;> rfl

theorem depthOfFields_lt_of_mem {fields inner : List (String × Value)} {key : String}
    {inline : Bool} (h : (key, .table inner inline) ∈ fields) :
    depthOfFields inner < depthOfFields fields := by
  induction fields with
  | nil => cases h
  | cons field rest ih =>
    rw [depthOfFields]
    rcases List.mem_cons.1 h with rfl | hlater
    · rw [depth]
      omega
    · have hrest := ih hlater
      omega

/-- A table matches one when the same stands at all paths. -/
theorem matches_of_shows {fields : List (String × Value)} {root : Fields}
    (h : ∀ path, Shows (markAt path root) (partAt path fields)) (inline inline' : Bool) :
    Value.Matches (.table (finishFields root) inline) (.table fields inline') := by
  induction hdepth : depthOfFields fields using Nat.strongRecOn
    generalizing fields root inline inline' with
  | _ n ih =>
    have hshows : ∀ key, Shows ((root.lookup key).map Draft.mark) (fields.lookup key) := fun key =>
      h [key]
    refine .table ?_ ?_
    · intro key
      rw [lookup_finishFields, Option.map_eq_none_iff, ← (hshows key).eq_none_iff,
        Option.map_eq_none_iff]
    · intro key v w hv hw
      rw [lookup_finishFields] at hv
      have hkey := hshows key
      cases hlookup : root.lookup key with
      | none =>
        rw [hlookup] at hv
        cases hv
      | some draft =>
        rw [hlookup] at hv hkey
        obtain rfl : draft.finish = v := Option.some.inj hv
        rw [hw] at hkey
        cases draft with
        | value v =>
          cases hkey with
          | value hleaf => exact .same hleaf
        | table origin inner =>
          cases w with
          | table fields' inline' =>
            -- what stands below the key stands in the inner tables
            refine ih _ (hdepth ▸ depthOfFields_lt_of_mem (mem_fields_of_lookup hw))
              (fun path => ?_) false inline' rfl
            cases path with
            | nil => exact .nothing
            | cons next rest =>
              have hpath := h (key :: next :: rest)
              simp only [markAt, partAt, hlookup, hw] at hpath
              exact hpath
          | _ => cases hkey
        | tables earlier last => cases hkey

/-- When all values that are no tables have been read, and of each table it or something in it, the
    table has been read. -/
theorem HasRead.complete {table : List (String × Value)} {isRead : List String → Prop}
    {root : Fields} (h : HasRead table isRead root)
    (hleaves : ∀ path v, partAt path table = some v → v.isTable = false → isRead path)
    (htables : ∀ path inner inline, partAt path table = some (.table inner inline) →
      ∃ other, isRead other ∧ path <+: other) (inline inline' : Bool) :
    Value.Matches (.table (finishFields root) inline) (.table table inline') := by
  refine matches_of_shows (fun path => ?_) inline inline'
  cases hpart : partAt path table with
  | none =>
    have hnot : ¬ isRead path := by
      intro hread
      obtain ⟨v, hv⟩ := h.exists_part hread
      rw [hpart] at hv
      cases hv
    by_cases hne : path = []
    · subst hne
      exact .nothing
    have hnone : ¬ ∃ other, isRead other ∧ path <+: other := by
      rintro ⟨other, hother, hprefix⟩
      obtain ⟨v, hv⟩ := h.exists_part hother
      have hproper : path ≠ other := by
        rintro rfl
        exact hnot hother
      obtain ⟨inner, inline, hinner⟩ := exists_partAt_of_prefix hv hprefix hne hproper
      rw [hpart] at hinner
      cases hinner
    rw [h.fresh path hnot hnone]
    exact .nothing
  | some v =>
    have hleaf : v.isTable = false → Shows (markAt path root) (some v) := by
      intro hleaf
      obtain ⟨w, hw, hmark⟩ := h.read path (hleaves path v hpart hleaf)
      obtain rfl : v = w := Option.some.inj (hpart.symm.trans hw)
      have hvalue : readMark v = .value v := by
        cases v <;> first | rfl | cases hleaf
      rw [hmark, hvalue]
      exact .value hleaf
    cases v with
    | table inner inline =>
      by_cases hread : isRead path
      · obtain ⟨w, hw, hmark⟩ := h.read path hread
        obtain rfl : Value.table inner inline = w := Option.some.inj (hpart.symm.trans hw)
        rw [hmark]
        exact .table _ _ _
      · have hne : path ≠ [] := by
          rintro rfl
          cases hpart
        rw [h.passed path hne hread (htables path inner inline hpart)]
        exact .table _ _ _
    | _ => exact hleaf rfl

end SourceOutline.Toml
