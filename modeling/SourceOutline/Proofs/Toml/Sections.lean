import SourceOutline.Proofs.Toml.Assembly

set_option autoImplicit false

/-! # The sections of a table

The sections of the layout come level by level, and each table in a table is one of them once: the
paths of the sections are distinct (`sectionsOf_spec`) and lead to all tables in the table
(`mem_sectionsOf`). -/

namespace SourceOutline.Toml

/-! ## Plain tables -/

namespace IsPlainTable

variable {fields inner : List (String × Value)} {key : String} {value : Value} {inline : Bool}

theorem distinct (h : IsPlainTable fields) : (fields.map Prod.fst).Nodup := by
  obtain ⟨hdistinct, -, -⟩ := h
  exact hdistinct

theorem plainKey (h : IsPlainTable fields) (hmem : (key, value) ∈ fields) : IsPlainKey key := by
  obtain ⟨-, hkeys, -⟩ := h
  exact hkeys _ hmem

theorem plainValue (h : IsPlainTable fields) (hmem : (key, value) ∈ fields) :
    IsPlainValue value := by
  obtain ⟨-, -, hvalues⟩ := h
  exact hvalues _ hmem

theorem plainItem (h : IsPlainTable fields) (hmem : (key, value) ∈ fields)
    (hleaf : value.isTable = false) : IsPlainItem value := by
  cases h.plainValue hmem with
  | item hitem => exact hitem
  | table _ => cases hleaf

theorem of_cons {field : String × Value} (h : IsPlainTable (field :: fields)) :
    IsPlainTable fields :=
  .intro (List.nodup_cons.1 h.distinct).2
    (fun _ hmem => h.plainKey (List.mem_cons_of_mem _ hmem))
    fun _ hmem => h.plainValue (List.mem_cons_of_mem _ hmem)

end IsPlainTable

theorem isPlainValue_table_iff {fields : List (String × Value)} {inline : Bool} :
    IsPlainValue (.table fields inline) ↔ IsPlainTable fields := by
  refine ⟨fun h => ?_, .table⟩
  cases h with
  | item hitem => cases hitem
  | table htable => exact htable

theorem IsPlainTable.tableAt {fields inner : List (String × Value)} (h : IsPlainTable fields)
    {path : List String} (htable : SourceOutline.tableAt path fields = some inner) :
    IsPlainTable inner ∧ ∀ key ∈ path, IsPlainKey key := by
  induction path generalizing fields with
  | nil =>
    cases htable
    exact ⟨h, fun _ hkey => absurd hkey List.not_mem_nil⟩
  | cons first rest ih =>
    rw [SourceOutline.tableAt] at htable
    split at htable
    case h_1 heq =>
      have hmem := mem_fields_of_lookup heq
      obtain ⟨hinner, hrest⟩ := ih (isPlainValue_table_iff.1 (h.plainValue hmem)) htable
      refine ⟨hinner, fun key hkey => ?_⟩
      rcases List.mem_cons.1 hkey with rfl | hlater
      · exact h.plainKey hmem
      · exact hrest key hlater
    case h_2 => cases htable

/-! ## Tables below tables -/

theorem tablesIn_cons_of_not_table {key : String} {value : Value} (h : value.isTable = false)
    (rest : List (String × Value)) : tablesIn ((key, value) :: rest) = tablesIn rest := by
  cases value with
  | table fields inline => cases h
  | _ => rfl

theorem mem_tablesIn {fields inner : List (String × Value)} {key : String} :
    (key, inner) ∈ tablesIn fields ↔ ∃ inline, (key, .table inner inline) ∈ fields := by
  induction fields with
  | nil => simp [tablesIn]
  | cons field rest ih =>
    obtain ⟨k, v⟩ := field
    cases hv : v.isTable with
    | true =>
      cases v with
      | table fields' inline' => simp [tablesIn, ih, exists_or]
      | _ => cases hv
    | false =>
      rw [tablesIn_cons_of_not_table hv, ih]
      refine exists_congr fun inline => ?_
      have hne : (key, Value.table inner inline) ≠ (k, v) := by
        rintro heq
        rw [← (Prod.mk.inj heq).2] at hv
        cases hv
      simp [hne]

theorem sublist_tablesIn (fields : List (String × Value)) :
    ((tablesIn fields).map Prod.fst).Sublist (fields.map Prod.fst) := by
  induction fields with
  | nil => exact List.Sublist.slnil
  | cons field rest ih =>
    obtain ⟨k, v⟩ := field
    cases v with
    | table fields' inline' => exact ih.cons_cons k
    | _ => exact ih.cons k

theorem exists_of_mem_below {part other : Section} (h : other ∈ part.below) :
    ∃ key, (key, other.fields) ∈ tablesIn part.fields ∧ other.path = part.path ++ [key] := by
  obtain ⟨⟨key, inner⟩, hmem, rfl⟩ := List.mem_map.1 h
  exact ⟨key, hmem, rfl⟩

theorem nodup_flatMap_below {level : List Section} (h : (level.map Section.path).Nodup)
    (hkeys : ∀ part ∈ level, (part.fields.map Prod.fst).Nodup) :
    ((level.flatMap Section.below).map Section.path).Nodup := by
  induction level with
  | nil => exact List.nodup_nil
  | cons part rest ih =>
    obtain ⟨hnew, hrest⟩ := List.nodup_cons.1 h
    rw [List.flatMap_cons, List.map_append, List.nodup_append]
    refine ⟨?_, ih hrest fun other hother => hkeys other (List.mem_cons_of_mem _ hother), ?_⟩
    · have hbelow := (sublist_tablesIn part.fields).nodup (hkeys part List.mem_cons_self)
      unfold List.Nodup at hbelow ⊢
      rw [List.pairwise_map] at hbelow
      rw [Section.below, List.map_map, List.pairwise_map]
      refine hbelow.imp fun {a b} hne heq => hne ?_
      exact (List.singleton_inj.1 (List.append_cancel_left heq))
    · intro path hpath path' hpath' heq
      subst heq
      obtain ⟨below, hbelow, rfl⟩ := List.mem_map.1 hpath
      obtain ⟨below', hbelow', hpaths⟩ := List.mem_map.1 hpath'
      obtain ⟨other, hother, hin⟩ := List.mem_flatMap.1 hbelow'
      obtain ⟨key, -, hkey⟩ := exists_of_mem_below hbelow
      obtain ⟨key', -, hkey'⟩ := exists_of_mem_below hin
      rw [hkey, hkey'] at hpaths
      exact hnew (List.mem_map.2 ⟨other, hother, (List.append_inj' hpaths rfl).1⟩)

theorem tableAt_of_mem_below {table : List (String × Value)} {part other : Section}
    (h : IsPlainTable part.fields) (hpart : tableAt part.path table = some part.fields)
    (hother : other ∈ part.below) :
    other.path ≠ [] ∧ tableAt other.path table = some other.fields := by
  obtain ⟨key, hmem, hpath⟩ := exists_of_mem_below hother
  obtain ⟨inline, hfield⟩ := mem_tablesIn.1 hmem
  have hlookup := lookup_eq_some_of_mem h.distinct hfield
  refine ⟨by rw [hpath]; simp, ?_⟩
  rw [hpath, tableAt_append, hpart, Option.bind_some, tableAt, hlookup]
  rfl

/-! ## Levels -/

theorem levelsFrom_nil (count : Nat) : levelsFrom count [] = [] := by
  induction count with
  | zero => rfl
  | succ count ih => rw [levelsFrom, List.flatMap_nil, ih]; rfl

/-- There are no more levels than tables nest. -/
theorem levelsFrom_eq_of_le {level : List Section} {count more : Nat}
    (h : ∀ part ∈ level, depthOfFields part.fields < count) (hle : count ≤ more) :
    levelsFrom more level = levelsFrom count level := by
  induction count generalizing level more with
  | zero =>
    obtain rfl : level = [] := List.eq_nil_iff_forall_not_mem.2 fun part hpart =>
      absurd (h part hpart) (Nat.not_lt_zero _)
    exact levelsFrom_nil more
  | succ count ih =>
    obtain ⟨n, rfl⟩ : ∃ n, more = n + 1 := ⟨more - 1, by omega⟩
    rw [levelsFrom, levelsFrom, ih (fun part hpart => ?_) (Nat.le_of_succ_le_succ hle)]
    obtain ⟨outer, houter, hin⟩ := List.mem_flatMap.1 hpart
    obtain ⟨key, hmem, -⟩ := exists_of_mem_below hin
    obtain ⟨inline, hfield⟩ := mem_tablesIn.1 hmem
    exact Nat.lt_of_lt_of_le (depthOfFields_lt_of_mem hfield) (Nat.le_of_lt_succ (h outer houter))

/-- As long as a path leads to tables, the table nests at least as deep. -/
theorem length_add_depth_le {path : List String} {fields inner : List (String × Value)}
    (h : tableAt path fields = some inner) :
    path.length + depthOfFields inner ≤ depthOfFields fields := by
  induction path generalizing fields with
  | nil =>
    cases h
    simp
  | cons key rest ih =>
    rw [tableAt] at h
    split at h
    case h_1 hlookup =>
      have hrest := ih h
      have hlt := depthOfFields_lt_of_mem (mem_fields_of_lookup hlookup)
      rw [List.length_cons]
      omega
    case h_2 => cases h

/-- Every table below a section is a section on one of the levels below. -/
theorem mem_levelsFrom {level : List Section} {part : Section} (hpart : part ∈ level)
    {more : List String} {inner : List (String × Value)}
    (h : tableAt more part.fields = some inner) {count : Nat} (hcount : more.length < count) :
    ⟨part.path ++ more, inner⟩ ∈ levelsFrom count level := by
  induction more generalizing level part count with
  | nil =>
    obtain ⟨n, rfl⟩ : ∃ n, count = n + 1 := ⟨count - 1, by simp at hcount; omega⟩
    cases h
    rw [List.append_nil, levelsFrom]
    exact List.mem_append_left _ hpart
  | cons key rest ih =>
    obtain ⟨n, rfl⟩ : ∃ n, count = n + 1 := ⟨count - 1, by omega⟩
    rw [tableAt] at h
    split at h
    case h_1 fields inline hlookup =>
      have hbelow : ⟨part.path ++ [key], fields⟩ ∈ part.below :=
        List.mem_map.2 ⟨(key, fields), mem_tablesIn.2 ⟨inline, mem_fields_of_lookup hlookup⟩, rfl⟩
      have hrest := ih (List.mem_flatMap.2 ⟨part, hpart, hbelow⟩) h
        (Nat.lt_of_succ_lt_succ hcount)
      rw [levelsFrom]
      refine List.mem_append_right _ ?_
      rwa [List.append_assoc, List.singleton_append] at hrest
    case h_2 => cases h

/-- On the levels from one on whose paths are distinct and of one length, paths are distinct and not
    shorter, and all sections are tables of the table. -/
theorem levelsFrom_spec {table : List (String × Value)} (h : IsPlainTable table) {length : Nat}
    {level : List Section}
    (hlevel : ∀ part ∈ level, tableAt part.path table = some part.fields ∧
      part.path.length = length)
    (hdistinct : (level.map Section.path).Nodup) (count : Nat) :
    ((levelsFrom count level).map Section.path).Nodup ∧ ∀ part ∈ levelsFrom count level,
      tableAt part.path table = some part.fields ∧ length ≤ part.path.length := by
  induction count generalizing level length with
  | zero => exact ⟨List.nodup_nil, nofun⟩
  | succ count ih =>
    have hbelow : ∀ part ∈ level.flatMap Section.below,
        tableAt part.path table = some part.fields ∧ part.path.length = length + 1 := by
      intro part hpart
      obtain ⟨outer, houter, hin⟩ := List.mem_flatMap.1 hpart
      obtain ⟨htable, hlength⟩ := hlevel outer houter
      obtain ⟨key, -, hpath⟩ := exists_of_mem_below hin
      refine ⟨(tableAt_of_mem_below (h.tableAt htable).1 htable hin).2, ?_⟩
      rw [hpath, List.length_append, hlength, List.length_singleton]
    have hkeys : ∀ part ∈ level, (part.fields.map Prod.fst).Nodup := fun part hpart =>
      (h.tableAt (hlevel part hpart).1).1.distinct
    obtain ⟨hnodup, hparts⟩ := ih hbelow (nodup_flatMap_below hdistinct hkeys)
    rw [levelsFrom, List.map_append, List.nodup_append]
    refine ⟨⟨hdistinct, hnodup, ?_⟩, ?_⟩
    · rintro path hpath _ hlower rfl
      obtain ⟨part, hpart, rfl⟩ := List.mem_map.1 hpath
      obtain ⟨other, hother, heq⟩ := List.mem_map.1 hlower
      have hlength := (hlevel part hpart).2
      have hlonger := (hparts other hother).2
      rw [heq] at hlonger
      omega
    · intro part hpart
      rcases List.mem_append.1 hpart with hhere | hlower
      · exact ⟨(hlevel part hhere).1, Nat.le_of_eq (hlevel part hhere).2.symm⟩
      · exact ⟨(hparts part hlower).1, Nat.le_of_succ_le (hparts part hlower).2⟩

theorem sectionsOf_spec {table : List (String × Value)} (h : IsPlainTable table) :
    ((sectionsOf table).map Section.path).Nodup ∧ ∀ part ∈ sectionsOf table,
      part.path ≠ [] ∧ tableAt part.path table = some part.fields := by
  have hbelow : ∀ part ∈ Section.below ⟨[], table⟩,
      tableAt part.path table = some part.fields ∧ part.path.length = 1 := by
    intro part hpart
    obtain ⟨key, -, hpath⟩ := exists_of_mem_below hpart
    exact ⟨(tableAt_of_mem_below h rfl hpart).2, by rw [hpath]; rfl⟩
  have hone : (([⟨[], table⟩] : List Section).map Section.path).Nodup :=
    List.nodup_cons.2 ⟨List.not_mem_nil, List.nodup_nil⟩
  have hdistinct := nodup_flatMap_below hone fun part hpart =>
    List.mem_singleton.1 hpart ▸ h.distinct
  rw [List.flatMap_singleton] at hdistinct
  obtain ⟨hpaths, hparts⟩ := levelsFrom_spec h hbelow hdistinct (depthOfFields table)
  refine ⟨hpaths, fun part hpart => ?_⟩
  obtain ⟨htable, hlength⟩ := hparts part hpart
  exact ⟨List.ne_nil_of_length_pos hlength, htable⟩

/-- Every table in a table is one of its sections. -/
theorem mem_sectionsOf {table inner : List (String × Value)} {path : List String} (hne : path ≠ [])
    (h : tableAt path table = some inner) : ⟨path, inner⟩ ∈ sectionsOf table := by
  have hdepth := length_add_depth_le h
  have htop : (⟨[], table⟩ : Section) ∈ [⟨[], table⟩] := List.mem_cons_self
  have hmem := mem_levelsFrom htop h (by omega : path.length < depthOfFields table + 1)
  rw [levelsFrom, List.flatMap_singleton, List.nil_append] at hmem
  rcases List.mem_append.1 hmem with heq | hbelow
  · exact absurd (congrArg Section.path (List.mem_singleton.1 heq)) hne
  · exact hbelow

end SourceOutline.Toml
