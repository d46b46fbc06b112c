import SourceOutline.Proofs.Toml.Lines
import SourceOutline.Proofs.Toml.Sections

set_option autoImplicit false

/-! # Documents of the layout are read back

The sections of a table name each value in it that is no table once, and each table that has a
header. So while the lines of its document are read, no part is named a second time, and each can be
read (`exists_reads_addSection`). In the end all values have been read, and a table without a header
has come about on the way to what is in it: what is read matches the table
(`exists_read?_layout`). -/

namespace SourceOutline.Toml

/-! ## Reading sections -/

/-- A section names its table if it has a header and is not the whole document, and each of its
    values that is no table. -/
def Section.Names (part : Section) (path : List String) : Prop :=
  part.HasHeader ∧ part.path ≠ [] ∧ path = part.path ∨
    ∃ field ∈ part.fields, field.2.isTable = false ∧ path = part.path ++ [field.1]

/-- One of some sections names a part. -/
def AreNamed (sections : List Section) (path : List String) : Prop :=
  ∃ part ∈ sections, part.Names path

theorem areNamed_append_singleton {before : List Section} {part : Section} {path : List String} :
    AreNamed (before ++ [part]) path ↔ AreNamed before path ∨ part.Names path := by
  simp [AreNamed, or_and_right, exists_or]

theorem HasRead.congr {table : List (String × Value)} {isRead isRead' : List String → Prop}
    {root : Fields} (h : HasRead table isRead root) (hsame : ∀ path, isRead path ↔ isRead' path) :
    HasRead table isRead' root := by
  obtain rfl : isRead = isRead' := funext fun path => propext (hsame path)
  exact h

/-- Lines give the values of fields to the keys of the section that is read, if none of them has
    been read before. -/
theorem exists_reads_linesText {table fields : List (String × Value)} {path : List String}
    {nesting : Nat} {isRead : List String → Prop} {document : Document}
    (hheader : document.header = path) (h : HasRead table isRead document.root)
    (hplain : IsPlainTable fields)
    (hparts : ∀ field ∈ fields, partAt (path ++ [field.1]) table = some field.2)
    (hnew : ∀ field ∈ fields, field.2.isTable = false → ¬ isRead (path ++ [field.1]))
    (hnesting : (linesText fields).length ≤ nesting) :
    ∃ after, Reads nesting document (linesText fields) after ∧ HasRead table (fun other =>
      (∃ field ∈ fields, field.2.isTable = false ∧ other = path ++ [field.1]) ∨ isRead other)
      after.root := by
  induction fields generalizing isRead document with
  | nil => exact ⟨document, .nil, h.congr fun _ => by simp⟩
  | cons field rest ih =>
    obtain ⟨key, value⟩ := field
    have hrest : IsPlainTable rest := hplain.of_cons
    have hpartsRest := fun field hfield => hparts field (List.mem_cons_of_mem _ hfield)
    have hnewRest := fun field hfield => hnew field (List.mem_cons_of_mem _ hfield)
    rw [linesText] at hnesting ⊢
    cases hleaf : value.isTable with
    | true =>
      rw [hleaf, if_pos rfl] at hnesting
      obtain ⟨after, hreads, hread⟩ := ih hheader h hrest hpartsRest hnewRest hnesting
      refine ⟨after, by rwa [if_pos rfl], hread.congr fun _ => by simp [hleaf]⟩
    | false =>
      rw [hleaf, if_neg Bool.false_ne_true] at hnesting
      rw [if_neg Bool.false_ne_true]
      have hvalue := readsAs_itemText (hplain.plainItem List.mem_cons_self hleaf)
      obtain ⟨root, hassign, hroot⟩ := h.assign document.sectionNumber
        (hparts _ List.mem_cons_self) hleaf (hnew _ List.mem_cons_self hleaf)
      have hset : document.set [key] value = some { document with root } := by
        simp only [Document.set, hheader, hassign, bind, Option.bind, pure]
      simp only [List.length_append, List.length_cons] at hnesting
      have hother : key ∉ rest.map Prod.fst := (List.nodup_cons.1 hplain.distinct).1
      obtain ⟨after, hreads, hread⟩ := @ih _ { document with root } hheader hroot hrest hpartsRest
        (by
          intro field hfield hfieldLeaf hreadBefore
          rcases hreadBefore with hsame | hbefore
          · have hkey := List.singleton_inj.1 (List.append_cancel_left hsame)
            exact hother (List.mem_map.2 ⟨field, hfield, hkey⟩)
          · exact hnewRest field hfield hfieldLeaf hbefore)
        (by omega)
      have hline : Reads nesting document _ _ :=
        .line (hplain.plainKey List.mem_cons_self) hvalue (by omega) hset
      refine ⟨after, ?_, hread.congr fun other => ?_⟩
      · have hsplit : keyText key ++ " = ".toList ++ itemText value ++ '\n' :: linesText rest
            = keyText key ++ " = ".toList ++ itemText value ++ ['\n'] ++ linesText rest := by simp
        rw [hsplit]
        exact hline.append hreads
      · simp [hleaf, or_assoc, or_left_comm]

theorem partAt_of_mem_fields {table : List (String × Value)} (h : IsPlainTable table)
    {part : Section} (htable : tableAt part.path table = some part.fields)
    {field : String × Value} (hfield : field ∈ part.fields) :
    partAt (part.path ++ [field.1]) table = some field.2 := by
  rw [partAt_append_key, htable]
  exact lookup_eq_some_of_mem (h.tableAt htable).1.distinct hfield

section

variable {table : List (String × Value)} {before : List Section} {part : Section}

theorem not_areNamed_path (h : IsPlainTable table)
    (hbefore : ∀ other ∈ before, tableAt other.path table = some other.fields)
    (hapart : ∀ other ∈ before, other.path ≠ part.path) (hne : part.path ≠ [])
    (htable : tableAt part.path table = some part.fields) : ¬ AreNamed before part.path := by
  rintro ⟨other, hother, ⟨-, -, hpath⟩ | ⟨field, hfield, hleaf, hpath⟩⟩
  · exact hapart other hother hpath.symm
  · have hvalue := partAt_of_mem_fields h (hbefore other hother) hfield
    obtain ⟨inline, hinner⟩ := (tableAt_eq_some_iff hne).1 htable
    rw [← hpath, hinner] at hvalue
    rw [← Option.some.inj hvalue] at hleaf
    cases hleaf

theorem not_areNamed_value (h : IsPlainTable table)
    (hbefore : ∀ other ∈ before, tableAt other.path table = some other.fields)
    (hapart : ∀ other ∈ before, other.path ≠ part.path)
    (htable : tableAt part.path table = some part.fields) {field : String × Value}
    (hfield : field ∈ part.fields) (hleaf : field.2.isTable = false) :
    ¬ AreNamed before (part.path ++ [field.1]) := by
  rintro ⟨other, hother, ⟨-, -, hpath⟩ | ⟨field', -, -, hpath⟩⟩
  · have hvalue := partAt_of_mem_fields h htable hfield
    have hne : other.path ≠ [] := by
      rw [← hpath]
      simp
    obtain ⟨inline, hinner⟩ := (tableAt_eq_some_iff hne).1 (hbefore other hother)
    rw [hpath, hinner] at hvalue
    rw [← Option.some.inj hvalue] at hleaf
    cases hleaf
  · exact hapart other hother (List.append_inj' hpath rfl).1.symm

theorem exists_reads_header (h : IsPlainTable table) {isRead : List String → Prop}
    {document : Document} (hread : HasRead table isRead document.root) (hne : part.path ≠ [])
    (htable : tableAt part.path table = some part.fields) (hnew : ¬ isRead part.path)
    {nesting : Nat} (hnesting : (pathText part.path).length ≤ nesting) :
    ∃ opened, Reads nesting document ('[' :: pathText part.path ++ "]\n".toList) opened ∧
      opened.header = part.path ∧
      HasRead table (fun other => other = part.path ∨ isRead other) opened.root := by
  obtain ⟨inline, hinner⟩ := (tableAt_eq_some_iff hne).1 htable
  have hpath : part.path.dropLast ++ [part.path.getLast hne] = part.path :=
    List.dropLast_concat_getLast hne
  rw [← hpath] at hinner hnew
  obtain ⟨root, hopen, hroot⟩ := hread.openTable hinner hnew
  rw [hpath] at hroot
  refine ⟨{ root, header := part.path, sectionNumber := document.sectionNumber + 1 },
    .header hne (h.tableAt htable).2 hnesting ?_, rfl, hroot⟩
  simp only [Document.openSection, List.getLast?_eq_some_getLast hne, hopen, bind, Option.bind,
    pure]

/-- When a section of a table is added to a document, its header and its lines are read after the
    document. -/
theorem exists_reads_addSection (h : IsPlainTable table) {text : List Char} {nesting : Nat}
    {middle : Document} (hreads : Reads nesting {} text middle)
    (hread : HasRead table (AreNamed before) middle.root)
    (hbefore : ∀ other ∈ before, tableAt other.path table = some other.fields)
    (hapart : ∀ other ∈ before, other.path ≠ part.path) (hne : part.path ≠ [])
    (htable : tableAt part.path table = some part.fields)
    (hnesting : (addSection text part).length ≤ nesting) :
    ∃ after, Reads nesting {} (addSection text part) after ∧
      HasRead table (AreNamed (before ++ [part])) after.root := by
  unfold addSection at hnesting ⊢
  by_cases hheader : part.HasHeader
  · rw [if_pos hheader] at hnesting ⊢
    simp only [List.length_append, List.length_cons] at hnesting
    obtain ⟨opened, hreadsHeader, hheaderPath, hroot⟩ := exists_reads_header h hread hne htable
      (not_areNamed_path h hbefore hapart hne htable)
      (by omega : (pathText part.path).length ≤ nesting)
    have hnew : ∀ field ∈ part.fields, field.2.isTable = false →
        ¬ (part.path ++ [field.1] = part.path ∨ AreNamed before (part.path ++ [field.1])) := by
      rintro field hfield hleaf (hsame | hnamed)
      · exact absurd hsame (by simp)
      · exact not_areNamed_value h hbefore hapart htable hfield hleaf hnamed
    obtain ⟨after, hreadsLines, hreadLines⟩ := exists_reads_linesText hheaderPath hroot
      (h.tableAt htable).1 (fun _ => partAt_of_mem_fields h htable) hnew
      (by omega : (linesText part.fields).length ≤ nesting)
    have hreadsBlank : Reads nesting middle (sectionBreak text) middle := by
      unfold sectionBreak
      split
      · exact .nil
      · exact .blank
    refine ⟨after, ?_, hreadLines.congr fun path => ?_⟩
    · have hsplit : text ++ sectionBreak text ++ '[' :: pathText part.path ++ "]\n".toList
            ++ linesText part.fields
          = text ++ sectionBreak text ++ ('[' :: pathText part.path ++ "]\n".toList)
            ++ linesText part.fields := by simp
      rw [hsplit]
      exact ((hreads.append hreadsBlank).append hreadsHeader).append hreadsLines
    · have hnames : part.Names path ↔ path = part.path ∨
          ∃ field ∈ part.fields, field.2.isTable = false ∧ path = part.path ++ [field.1] := by
        simp [Section.Names, hheader, hne]
      rw [areNamed_append_singleton, hnames, or_comm, or_assoc, or_left_comm]
  · rw [if_neg hheader] at hnesting ⊢
    refine ⟨middle, hreads, hread.congr fun path => ?_⟩
    -- without a header there are no values of its own, so nothing more is named
    have hnone : ¬ part.Names path := by
      rintro (⟨hhas, -⟩ | ⟨field, hfield, hleaf, -⟩)
      · exact hheader hhas
      · exact hheader (.inl ⟨field, hfield, hleaf⟩)
    simp [areNamed_append_singleton, hnone]

theorem length_le_foldl_addSection (sections : List Section) (text : List Char) :
    text.length ≤ (sections.foldl addSection text).length := by
  induction sections generalizing text with
  | nil => exact Nat.le_refl _
  | cons part rest ih =>
    have hone : text.length ≤ (addSection text part).length := by
      unfold addSection
      split
      · simp
      · exact Nat.le_refl _
    exact Nat.le_trans hone (ih _)

/-- A document to which sections of a table are added is read part by part, if each section comes
    once. -/
theorem exists_reads_foldl (h : IsPlainTable table) {sections : List Section} {text : List Char}
    {nesting : Nat} {middle : Document} (hreads : Reads nesting {} text middle)
    (hread : HasRead table (AreNamed before) middle.root)
    (hbefore : ∀ other ∈ before, tableAt other.path table = some other.fields)
    (hsections : ∀ part ∈ sections, part.path ≠ [] ∧ tableAt part.path table = some part.fields)
    (hdistinct : ((before ++ sections).map Section.path).Nodup)
    (hnesting : (sections.foldl addSection text).length ≤ nesting) :
    ∃ after, Reads nesting {} (sections.foldl addSection text) after ∧
      HasRead table (AreNamed (before ++ sections)) after.root := by
  induction sections generalizing before text middle with
  | nil =>
    rw [List.append_nil]
    exact ⟨middle, hreads, hread⟩
  | cons part rest ih =>
    obtain ⟨hne, htable⟩ := hsections part List.mem_cons_self
    have hapart : ∀ other ∈ before, other.path ≠ part.path := by
      rw [List.map_append, List.nodup_append] at hdistinct
      exact fun other hother => hdistinct.2.2 _ (List.mem_map_of_mem hother) _ List.mem_cons_self
    obtain ⟨after, hreadsOne, hreadOne⟩ := exists_reads_addSection h hreads hread hbefore hapart hne
      htable (Nat.le_trans (length_le_foldl_addSection rest _) hnesting)
    rw [← List.singleton_append, ← List.append_assoc] at hdistinct ⊢
    refine ih hreadsOne hreadOne (fun other hother => ?_)
      (fun other hother => hsections other (List.mem_cons_of_mem _ hother)) hdistinct hnesting
    rcases List.mem_append.1 hother with hold | hnew
    · exact hbefore other hold
    · rw [List.mem_singleton.1 hnew]
      exact htable

end

/-! ## No carriage returns -/

theorem return_notMem_keyText {key : String} (h : IsPlainKey key) : '\r' ∉ keyText key := by
  unfold keyText
  split
  case isTrue =>
    intro hmem
    have hprintable := h.printable _ hmem
    revert hprintable
    decide +kernel
  case isFalse => exact return_notMem_inQuotes h.isPlainText

theorem return_notMem_pathText {path : List String} (h : ∀ key ∈ path, IsPlainKey key) :
    '\r' ∉ pathText path := by
  induction path with
  | nil => exact List.not_mem_nil
  | cons key rest ih =>
    have hkey := return_notMem_keyText (h key List.mem_cons_self)
    have hrest := ih fun k hk => h k (List.mem_cons_of_mem _ hk)
    cases rest with
    | nil => exact hkey
    | cons next others =>
      have hpath : pathText (key :: next :: others)
          = keyText key ++ '.' :: pathText (next :: others) := rfl
      rw [hpath]
      simp [hkey, hrest]

theorem return_notMem_linesText {fields : List (String × Value)} (h : IsPlainTable fields) :
    '\r' ∉ linesText fields := by
  induction fields with
  | nil => exact List.not_mem_nil
  | cons field rest ih =>
    obtain ⟨key, value⟩ := field
    have hrest := ih h.of_cons
    rw [linesText]
    split
    case isTrue => exact hrest
    case isFalse hleaf =>
      have hkey := return_notMem_keyText (h.plainKey List.mem_cons_self)
      have hvalue := (readsAs_itemText
        (h.plainItem List.mem_cons_self (Bool.eq_false_iff.2 hleaf))).noReturn
      simp [hkey, hvalue, hrest]

theorem return_notMem_addSection {text : List Char} {part : Section} (htext : '\r' ∉ text)
    (hkeys : ∀ key ∈ part.path, IsPlainKey key) (hfields : IsPlainTable part.fields) :
    '\r' ∉ addSection text part := by
  have hbreak : '\r' ∉ sectionBreak text := by
    unfold sectionBreak
    split <;> decide
  unfold addSection
  split
  · simp [htext, hbreak, return_notMem_pathText hkeys, return_notMem_linesText hfields]
  · exact htext

theorem return_notMem_foldl_addSection {table : List (String × Value)} (h : IsPlainTable table)
    {sections : List Section} {text : List Char} (htext : '\r' ∉ text)
    (hsections : ∀ part ∈ sections, tableAt part.path table = some part.fields) :
    '\r' ∉ sections.foldl addSection text := by
  induction sections generalizing text with
  | nil => exact htext
  | cons part rest ih =>
    obtain ⟨hfields, hkeys⟩ := h.tableAt (hsections part List.mem_cons_self)
    exact ih (return_notMem_addSection htext hkeys hfields)
      fun other hother => hsections other (List.mem_cons_of_mem _ hother)

theorem return_notMem_layout {table : List (String × Value)} (h : IsPlainTable table) :
    '\r' ∉ layout table :=
  return_notMem_foldl_addSection h (return_notMem_linesText h)
    fun part hpart => ((sectionsOf_spec h).2 part hpart).2

/-! ## Whole tables -/

/-- The sections of a table, with the table itself in front of them. -/
def allSections (table : List (String × Value)) : List Section :=
  ⟨[], table⟩ :: sectionsOf table

section

variable {table : List (String × Value)}

theorem nodup_allSections (h : IsPlainTable table) :
    ((allSections table).map Section.path).Nodup := by
  obtain ⟨hpaths, hsections⟩ := sectionsOf_spec h
  refine List.nodup_cons.2 ⟨fun hmem => ?_, hpaths⟩
  obtain ⟨part, hpart, hpath⟩ := List.mem_map.1 hmem
  exact (hsections part hpart).1 hpath

theorem mem_allSections {path : List String} {inner : List (String × Value)}
    (h : tableAt path table = some inner) : ⟨path, inner⟩ ∈ allSections table := by
  by_cases hne : path = []
  · subst hne
    cases h
    exact List.mem_cons_self
  · exact List.mem_cons_of_mem _ (mem_sectionsOf hne h)

/-- Each value of a table that is no table is named by one of its sections. -/
theorem areNamed_allSections_value {path : List String} {value : Value}
    (h : partAt path table = some value) (hleaf : value.isTable = false) (hne : path ≠ []) :
    AreNamed (allSections table) path := by
  rw [← List.dropLast_concat_getLast hne, partAt_append_key] at h
  obtain ⟨inner, htable, hlookup⟩ := Option.bind_eq_some_iff.1 h
  exact ⟨_, mem_allSections htable, .inr ⟨_, mem_fields_of_lookup hlookup, hleaf,
    (List.dropLast_concat_getLast hne).symm⟩⟩

/-- Each table in a table is named by one of its sections, or something in it is. -/
theorem exists_areNamed_allSections_below (h : IsPlainTable table) {path : List String}
    (hne : path ≠ []) {inner : List (String × Value)} (htable : tableAt path table = some inner) :
    ∃ other, AreNamed (allSections table) other ∧ path <+: other := by
  induction hdepth : depthOfFields inner using Nat.strongRecOn generalizing path inner with
  | _ n ih =>
    by_cases hheader : Section.HasHeader ⟨path, inner⟩
    · exact ⟨path, ⟨_, mem_allSections htable, .inl ⟨hheader, hne, rfl⟩⟩, List.prefix_rfl⟩
    · -- without a header there is a first table in it
      cases hfields : inner with
      | nil => exact absurd (.inr hfields) hheader
      | cons field rest =>
        obtain ⟨key, value⟩ := field
        have hfield : (key, value) ∈ inner := hfields ▸ List.mem_cons_self
        cases value with
        | table below inline =>
          have hlookup := lookup_eq_some_of_mem (h.tableAt htable).1.distinct hfield
          have hbelow : tableAt (path ++ [key]) table = some below := by
            rw [tableAt_append, htable, Option.bind_some, tableAt, hlookup]
            rfl
          obtain ⟨other, hother, hprefix⟩ := ih _ (hdepth ▸ depthOfFields_lt_of_mem hfield)
            (List.append_ne_nil_of_right_ne_nil _ (List.cons_ne_nil _ _)) hbelow rfl
          exact ⟨other, hother, (List.prefix_append _ _).trans hprefix⟩
        | _ => exact absurd (.inl ⟨_, hfield, rfl⟩) hheader

theorem ne_nil_of_partAt {path : List String} {value : Value}
    (h : partAt path table = some value) : path ≠ [] := by
  rintro rfl
  cases h

/-- The document of a plain table is read as a table that matches it. -/
theorem exists_read?_layout (h : IsPlainTable table) :
    ∃ fields, read? none (layout table) = some fields ∧
      Value.Matches (.table fields) (.table table) := by
  have htop : ∀ part ∈ [(⟨[], table⟩ : Section)], tableAt part.path table = some part.fields :=
    fun part hpart => List.mem_singleton.1 hpart ▸ rfl
  have hnesting : (layout table).length ≤ 2 * (layout table).length + 2 := by omega
  -- first the lines of the table itself, then its sections
  obtain ⟨middle, hreadsLines, hreadLines⟩ := exists_reads_linesText
    (rfl : ({} : Document).header = []) (.nothing : HasRead table (fun _ => False) []) h
    (fun _ => partAt_of_mem_fields h (htop _ List.mem_cons_self)) (fun _ _ _ => not_false)
    (Nat.le_trans (length_le_foldl_addSection (sectionsOf table) _) hnesting)
  have hread : HasRead table (AreNamed [⟨[], table⟩]) middle.root :=
    hreadLines.congr fun path => by simp [AreNamed, Section.Names]
  obtain ⟨after, hreads, hread⟩ := exists_reads_foldl h hreadsLines hread htop
    (sectionsOf_spec h).2 (nodup_allSections h) hnesting
  refine ⟨finishFields after.root, ?_, hread.complete
    (fun path value hpart hleaf => areNamed_allSections_value hpart hleaf (ne_nil_of_partAt hpart))
    (fun path inner inline hpart => ?_) _ _⟩
  · have hlines := hreads.readLines?_eq
      (by omega : (layout table).length + 1 ≤ 2 * (layout table).length + 2)
    simp only [read?, layout, bind, Option.bind, pure] at hlines ⊢
    rw [hlines]
  · have hne := ne_nil_of_partAt hpart
    exact exists_areNamed_allSections_below h hne ((tableAt_eq_some_iff hne).2 ⟨inline, hpart⟩)

end

end SourceOutline.Toml
