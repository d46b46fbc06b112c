import SourceOutline.Proofs.Toml.Quoting
import SourceOutline.Proofs.Toml.Sections
import SourceOutline.Toml.Package

set_option autoImplicit false

/-! # The package writes the layout

The package goes through a table level by level. The tables in a table wait under their written
paths while the values of the level are written, and then make up the next level. Since the paths
are distinct, no table takes the place of another, and what comes out is the document of the layout
(`package_dump_eq`), for plain tables whose texts and integers are written as they should be. -/

namespace SourceOutline.Toml

/-- A plain table in which all values are written as they should be. -/
structure IsWritable (fields : List (String × Value)) : Prop where
  plain : IsPlainTable fields
  lacks : ∀ field ∈ fields, LacksHexEscape field.1.toList
  exact : ∀ field ∈ fields, IsExact field.2

namespace IsWritable

variable {fields inner : List (String × Value)} {key : String} {value : Value} {inline : Bool}

theorem writeKey (h : IsWritable fields) (hmem : (key, value) ∈ fields) :
    Toml.writeKey key = .ok (keyText key) :=
  writeKey_eq (h.plain.plainKey hmem) (h.lacks _ hmem)

theorem below (h : IsWritable fields) (hmem : (key, .table inner inline) ∈ fields) :
    IsWritable inner := by
  have hplain := isPlainValue_table_iff.1 (h.plain.plainValue hmem)
  cases h.exact _ hmem with
  | table hkeys hvalues => exact ⟨hplain, hkeys, hvalues⟩

theorem tableAt (h : IsWritable fields) {path : List String}
    (htable : SourceOutline.tableAt path fields = some inner) : IsWritable inner := by
  induction path generalizing fields with
  | nil =>
    cases htable
    exact h
  | cons first rest ih =>
    rw [SourceOutline.tableAt] at htable
    split at htable
    case h_1 heq => exact ih (h.below (mem_fields_of_lookup heq)) htable
    case h_2 => cases htable

end IsWritable

/-! ## Waiting tables -/

/-- Tables that wait for their sections. -/
def waitingFor (sections : List Section) : Waiting :=
  sections.map fun part => (pathText part.path, entriesOf part.fields)

theorem setWaiting_of_notMem {key : List Char} {entries : Entries} {waiting : Waiting}
    (h : key ∉ waiting.map Prod.fst) :
    setWaiting key entries waiting = waiting ++ [(key, entries)] := by
  induction waiting with
  | nil => rfl
  | cons first rest ih =>
    obtain ⟨k, old⟩ := first
    rw [List.map_cons, List.mem_cons, not_or] at h
    rw [setWaiting, if_neg (Ne.symm h.1), ih h.2, List.cons_append]

/-- A table that is waiting already is not put once more. -/
theorem setWaiting_of_mem {key : List Char} {entries : Entries} {waiting : Waiting}
    (h : (waiting.map Prod.fst).Nodup) (hmem : (key, entries) ∈ waiting) :
    setWaiting key entries waiting = waiting := by
  induction waiting with
  | nil => cases hmem
  | cons first rest ih =>
    obtain ⟨k, old⟩ := first
    obtain ⟨hnew, hrest⟩ := List.nodup_cons.1 h
    rw [setWaiting]
    rcases List.mem_cons.1 hmem with heq | hlater
    · rw [(Prod.mk.inj heq).1, (Prod.mk.inj heq).2, if_pos rfl]
    · rw [if_neg, ih hrest hlater]
      rintro rfl
      exact hnew (List.mem_map.2 ⟨_, hlater, rfl⟩)

theorem foldl_setWaiting {known new : Waiting} (h : ((known ++ new).map Prod.fst).Nodup) :
    new.foldl (fun known (key, entries) => setWaiting key entries known) known = known ++ new := by
  induction new generalizing known with
  | nil => rw [List.foldl_nil, List.append_nil]
  | cons first rest ih =>
    obtain ⟨key, entries⟩ := first
    have hkey : key ∉ known.map Prod.fst := by
      rw [List.map_append, List.nodup_append] at h
      exact fun hmem => h.2.2 key hmem key List.mem_cons_self rfl
    have hrest : ((known ++ [(key, entries)] ++ rest).map Prod.fst).Nodup := by
      rwa [List.append_assoc, List.singleton_append]
    rw [List.foldl_cons]
    simp only [setWaiting_of_notMem hkey]
    rw [ih hrest, List.append_assoc, List.singleton_append]

theorem nodup_waitingFor {sections : List Section} (h : (sections.map Section.path).Nodup)
    (hplain : ∀ part ∈ sections, part.path ≠ [] ∧ ∀ key ∈ part.path, IsPlainKey key) :
    ((waitingFor sections).map Prod.fst).Nodup := by
  unfold List.Nodup at h ⊢
  rw [List.pairwise_map] at h
  rw [waitingFor, List.map_map, List.pairwise_map]
  refine h.imp_of_mem fun {a b} ha hb hne heq => hne ?_
  exact pathText_inj (hplain a ha).1 (hplain b hb).1 (hplain a ha).2 (hplain b hb).2 heq

theorem addSubtables_eq {part : Section} (next : List Section) (hne : part.path ≠ [])
    (hdistinct : ((next ++ part.below).map Section.path).Nodup)
    (hplain : ∀ other ∈ next ++ part.below,
      other.path ≠ [] ∧ ∀ key ∈ other.path, IsPlainKey key) :
    addSubtables (pathText part.path)
        ((tablesIn part.fields).map fun (key, inner) => (keyText key, entriesOf inner))
        (waitingFor next)
      = waitingFor (next ++ part.below) := by
  have hbelow : waitingFor part.below
      = ((tablesIn part.fields).map fun (key, inner) => (keyText key, entriesOf inner)).map
          fun (key, entries) => (pathText part.path ++ '.' :: key, entries) := by
    rw [waitingFor, Section.below, List.map_map, List.map_map]
    refine List.map_congr_left fun table _ => ?_
    simp only [Function.comp_apply, pathText_append hne]
  have hnodup := nodup_waitingFor hdistinct hplain
  have hsplit : waitingFor (next ++ part.below) = waitingFor next ++ waitingFor part.below :=
    List.map_append
  rw [hsplit] at hnodup ⊢
  rw [← foldl_setWaiting hnodup, hbelow, List.foldl_map]
  rfl

theorem nodup_keyTexts {table : List (String × Value)} (h : IsPlainTable table) :
    (((tablesIn table).map fun (key, inner) => (keyText key, entriesOf inner)).map
      Prod.fst).Nodup := by
  have hkeys := (sublist_tablesIn table).nodup h.distinct
  unfold List.Nodup at hkeys ⊢
  rw [List.pairwise_map] at hkeys
  rw [List.map_map, List.pairwise_map]
  refine hkeys.imp_of_mem fun {a b} ha hb hne heq => hne ?_
  have hplain : ∀ {entry}, entry ∈ tablesIn table → ∀ key ∈ [entry.1], IsPlainKey key := by
    intro entry hentry key hkey
    obtain ⟨inline, hmem⟩ := mem_tablesIn.1 hentry
    exact List.mem_singleton.1 hkey ▸ h.plainKey hmem
  exact List.singleton_inj.1 (pathText_inj (List.cons_ne_nil a.1 [])
    (List.cons_ne_nil b.1 []) (hplain ha) (hplain hb) heq)

/-! ## Entries -/

theorem writeEntries_table {budget : Nat} {path : List Char} {written : Written} {key : String}
    {inner : List (String × Value)} {inline : Bool} {rest : Entries}
    (hkey : writeKey key = .ok (keyText key)) :
    writeEntries budget path written ((key, some (.table inner inline)) :: rest)
      = writeEntries budget path { written with
          subtables := setWaiting (keyText key) (entriesOf inner) written.subtables } rest := by
  rw [writeEntries, hkey]
  rfl

theorem writeEntries_plain {budget : Nat} {path text : List Char} {written : Written} {key : String}
    {value : Value} {rest : Entries} (hkey : writeKey key = .ok (keyText key))
    (hitem : IsPlainItem value) (htext : writeValue value = .ok text) :
    writeEntries budget path written ((key, some value) :: rest)
      = writeEntries budget path (written.addPlain (keyText key) text) rest := by
  rw [writeEntries, hkey]
  cases hitem with
  | @list items hitems =>
    have hnone : holdsTable items = false := by
      rw [holdsTable, List.any_eq_false]
      intro item hmem
      cases hitems item hmem <;> simp
    simp only [bind, Except.bind, hnone, if_neg Bool.false_ne_true, htext, pure, Except.pure]
  | _ => simp only [bind, Except.bind, htext, pure, Except.pure]

/-- What is written of the fields of a table: the lines of its values, and the tables wait under
    their keys. -/
theorem writeEntries_eq {table fields : List (String × Value)} (h : IsWritable table) (budget : Nat)
    (path : List Char) {written : Written} (hfields : ∀ field ∈ fields, field ∈ table)
    (hdistinct : ((written.subtables ++ (tablesIn fields).map
      fun (key, inner) => (keyText key, entriesOf inner)).map Prod.fst).Nodup) :
    writeEntries budget path written (entriesOf fields) = .ok { written with
      plain := written.plain ++ linesText fields
      subtables := written.subtables ++ (tablesIn fields).map
        fun (key, inner) => (keyText key, entriesOf inner) } := by
  induction fields generalizing written with
  | nil =>
    rw [entriesOf, List.map_nil, writeEntries]
    simp [tablesIn, linesText]
  | cons field rest ih =>
    obtain ⟨key, value⟩ := field
    have hmem := hfields _ List.mem_cons_self
    have hrest : ∀ field ∈ rest, field ∈ table := fun field hfield =>
      hfields field (List.mem_cons_of_mem _ hfield)
    rw [entriesOf, List.map_cons]
    cases hleaf : value.isTable with
    | true =>
      cases value with
      | table inner inline =>
        have hkey : keyText key ∉ written.subtables.map Prod.fst := by
          rw [List.map_append, List.nodup_append] at hdistinct
          exact fun hin => hdistinct.2.2 _ hin _ List.mem_cons_self rfl
        have hlater := @ih
          { written with subtables := written.subtables ++ [(keyText key, entriesOf inner)] } hrest
          (by rw [List.append_assoc]; exact hdistinct)
        rw [writeEntries_table (h.writeKey hmem), setWaiting_of_notMem hkey]
        refine hlater.trans ?_
        rw [List.append_assoc]
        rfl
      | _ => cases hleaf
    | false =>
      have hitem := h.plain.plainItem hmem hleaf
      rw [tablesIn_cons_of_not_table hleaf] at hdistinct ⊢
      rw [writeEntries_plain (h.writeKey hmem) hitem (writeValue_eq hitem (h.exact _ hmem))]
      refine (@ih (written.addPlain (keyText key) (itemText value)) hrest hdistinct).trans ?_
      simp [Written.addPlain, linesText, hleaf]

/-- What is written of a table: its lines, and the tables in it wait. -/
theorem exists_writeEntries {table : List (String × Value)} (h : IsWritable table) (budget : Nat)
    (path : List Char) :
    ∃ written, writeEntries budget path {} (entriesOf table) = .ok written ∧
      written.text = linesText table ∧
      written.subtables
        = (tablesIn table).map fun (key, inner) => (keyText key, entriesOf inner) := by
  refine ⟨_, writeEntries_eq h budget path (fun _ hfield => hfield) ?_, ?_, ?_⟩
  · rw [List.nil_append]
    exact nodup_keyTexts h.plain
  · simp [Written.text]
  · simp

/-! ## Levels -/

theorem linesText_eq_nil_iff {fields : List (String × Value)} :
    linesText fields = [] ↔ ∀ field ∈ fields, field.2.isTable = true := by
  induction fields with
  | nil => simp [linesText]
  | cons field rest ih =>
    obtain ⟨key, value⟩ := field
    rw [linesText]
    cases hleaf : value.isTable with
    | true => simp [hleaf, ih]
    | false => simp [hleaf]

/-- There is something to write below a header, or no table in the section, exactly if the section
    has a header. -/
theorem Section.hasHeader_iff (part : Section) :
    (!(linesText part.fields).isEmpty || (tablesIn part.fields).isEmpty) = true ↔
      part.HasHeader := by
  have hleaf : linesText part.fields ≠ [] ↔ ∃ field ∈ part.fields, field.2.isTable = false := by
    rw [Ne, linesText_eq_nil_iff]
    simp
  rw [Bool.or_eq_true, Bool.not_eq_true', List.isEmpty_eq_false_iff, List.isEmpty_iff, hleaf]
  constructor
  · rintro (hsome | hnone)
    · exact .inl hsome
    · cases hfields : part.fields with
      | nil => exact .inr hfields
      | cons field rest =>
        obtain ⟨key, value⟩ := field
        refine .inl ⟨(key, value), by rw [hfields]; exact List.mem_cons_self, ?_⟩
        cases value with
        | table inner inline =>
          rw [hfields] at hnone
          cases hnone
        | _ => rfl
  · rintro (hsome | hnil)
    · exact .inl hsome
    · exact .inr (by rw [hnil]; rfl)

section

variable {table : List (String × Value)} {level next : List Section}

/-- One level of sections is added to a document, and the tables in them wait. -/
theorem writeLevel_eq (h : IsWritable table) (budget : Nat) (text : List Char)
    (hlevel : ∀ part ∈ level, part.path ≠ [] ∧ tableAt part.path table = some part.fields)
    (hnext : ∀ part ∈ next, part.path ≠ [] ∧ tableAt part.path table = some part.fields)
    (hdistinct : ((next ++ level.flatMap Section.below).map Section.path).Nodup) :
    writeLevel budget text (waitingFor next) (waitingFor level)
      = .ok (level.foldl addSection text, waitingFor (next ++ level.flatMap Section.below)) := by
  induction level generalizing next text with
  | nil =>
    rw [List.flatMap_nil, List.append_nil]
    rfl
  | cons part rest ih =>
    obtain ⟨hne, hpart⟩ := hlevel part List.mem_cons_self
    have hnext' : ∀ other ∈ next ++ part.below,
        other.path ≠ [] ∧ tableAt other.path table = some other.fields := by
      intro other hother
      rcases List.mem_append.1 hother with hold | hbelow
      · exact hnext other hold
      · exact tableAt_of_mem_below (h.tableAt hpart).plain hpart hbelow
    rw [List.flatMap_cons, ← List.append_assoc] at hdistinct ⊢
    have hlater := ih (addSection text part)
      (fun other hother => hlevel other (List.mem_cons_of_mem _ hother)) hnext' hdistinct
    obtain ⟨written, hwritten, htext, hsubtables⟩ :=
      exists_writeEntries (h.tableAt hpart) budget (pathText part.path)
    have hadd := addSubtables_eq next hne
      (by rw [List.map_append] at hdistinct; exact (List.nodup_append.1 hdistinct).1)
      fun other hother => ⟨(hnext' other hother).1, (h.plain.tableAt (hnext' other hother).2).2⟩
    have hadded : (if (!(linesText part.fields).isEmpty || (tablesIn part.fields).isEmpty) = true
        then text ++ sectionBreak text ++ '[' :: pathText part.path ++ "]\n".toList
          ++ linesText part.fields
        else text) = addSection text part := by
      simp only [part.hasHeader_iff, addSection]
    rw [List.foldl_cons, ← hlater, ← hadded, ← hadd]
    simp only [waitingFor, List.map_cons, writeLevel, hwritten, bind, Except.bind, htext,
      hsubtables, List.isEmpty_map]

theorem writeLevels_eq (h : IsWritable table) (nesting budget : Nat) (text : List Char)
    (hlevel : ∀ part ∈ level, part.path ≠ [] ∧ tableAt part.path table = some part.fields)
    (hdistinct : (level.map Section.path).Nodup) :
    writeLevels nesting budget text (waitingFor level)
      = .ok ((levelsFrom budget level).foldl addSection text) := by
  induction budget generalizing level text with
  | zero => cases level <;> rfl
  | succ budget ih =>
    cases level with
    | nil =>
      rw [levelsFrom_nil]
      rfl
    | cons part rest =>
      have hkeys : ∀ other ∈ part :: rest, (other.fields.map Prod.fst).Nodup :=
        fun other hother => (h.tableAt (hlevel other hother).2).plain.distinct
      have hbelow := nodup_flatMap_below hdistinct hkeys
      have hone := writeLevel_eq h nesting text hlevel
        (fun other hother => absurd hother List.not_mem_nil) hbelow
      have hmore := ih ((part :: rest).foldl addSection text) (fun other hother => by
        obtain ⟨outer, houter, hin⟩ := List.mem_flatMap.1 hother
        exact tableAt_of_mem_below (h.tableAt (hlevel outer houter).2).plain
          (hlevel outer houter).2 hin) hbelow
      rw [levelsFrom, List.foldl_append]
      exact bind_eq_ok_iff.2 ⟨_, hone, hmore⟩

end

/-! ## Documents -/

theorem entriesOfPairs_ofFields {fields : List (String × Value)}
    (h : (fields.map Prod.fst).Nodup) :
    entriesOfPairs (Pairs.ofFields fields) = entriesOf fields := by
  rw [entriesOfPairs, Pairs.fields_ofFields, Pairs.ofFields, entriesOf, List.map_map]
  refine List.map_congr_left fun field hfield => ?_
  simp only [Function.comp_apply, Value.shown]
  rw [lookup_eq_some_of_mem h hfield]

/-- The package dumps a plain table as the document of the layout, if no text in it holds a
    backslash right before an `x`, and all of its integers have texts. -/
theorem package_dump_eq {fields inner : List (String × Value)} {key : String} {inline : Bool}
    (h : IsPlainTable fields) (hexact : IsExact (.table fields))
    (hkey : fields.lookup key = some (.table inner inline)) :
    package.dump fields key (Pairs.ofFields inner) = .ok (layout fields) := by
  have hwritable : IsWritable fields := by
    cases hexact with
    | table hkeys hvalues => exact ⟨h, hkeys, hvalues⟩
  have hmem := mem_fields_of_lookup hkey
  obtain ⟨written, hwritten, htext, hsubtables⟩ :=
    exists_writeEntries hwritable (2 * depthOfFields fields + 2) []
  have hwaiting : written.subtables = waitingFor (Section.below ⟨[], fields⟩) := by
    rw [hsubtables, waitingFor, Section.below, List.map_map]
    rfl
  -- the table that is given apart waits already
  have hsame : setWaiting (keyText key) (entriesOf inner) written.subtables
      = written.subtables := by
    refine setWaiting_of_mem (hsubtables ▸ nodup_keyTexts h) ?_
    rw [hsubtables]
    exact List.mem_map.2 ⟨(key, inner), mem_tablesIn.2 ⟨inline, hmem⟩, rfl⟩
  have htop : (([⟨[], fields⟩] : List Section).map Section.path).Nodup :=
    List.nodup_cons.2 ⟨List.not_mem_nil, List.nodup_nil⟩
  have hdistinct := nodup_flatMap_below htop fun part hpart =>
    List.mem_singleton.1 hpart ▸ h.distinct
  rw [List.flatMap_singleton] at hdistinct
  have hlevels := writeLevels_eq hwritable (2 * depthOfFields fields + 2)
    (2 * depthOfFields fields + 2) (linesText fields)
    (fun part hpart => tableAt_of_mem_below h rfl hpart) hdistinct
  have hdepth : ∀ part ∈ Section.below ⟨[], fields⟩,
      depthOfFields part.fields < depthOfFields fields := by
    intro part hpart
    obtain ⟨name, hin, -⟩ := exists_of_mem_below hpart
    obtain ⟨inline, hfield⟩ := mem_tablesIn.1 hin
    exact depthOfFields_lt_of_mem hfield
  rw [levelsFrom_eq_of_le hdepth (by omega), ← hwaiting, ← htext, ← hsame] at hlevels
  simp only [package, write, hwritten, hwritable.writeKey hmem,
    entriesOfPairs_ofFields (hwritable.below hmem).plain.distinct, bind, Except.bind, hlevels]
  rw [htext]
  rfl

end SourceOutline.Toml
