import SourceOutline.Config.Store
import SourceOutline.Proofs.Config.Fields
import SourceOutline.Proofs.Result

set_option autoImplicit false

/-! # Where settings come from

Settings are put together from the defaults, the table of a configuration file and overrides. Of
the named values that a source gives, settings are what the last one of each name tells
(`Settings.ofFields_eq_ok_iff`). What is merged has the names to exclude of all sources, and under
any other name the value of an override, or else that of the table (`MergesAs.lastField?_plain`,
`MergesAs.rel_lastField?_extensions`). -/

namespace SourceOutline

variable {settings : Settings} {fields table overrides overriding : List (String × Value)}
variable {extra : Value}

/-! ## Tables by their keys -/

/-- With distinct keys it does not matter from which end a table is looked through. -/
theorem lookup_reverse {α : Type} {fields : List (String × α)} (h : (fields.map Prod.fst).Nodup)
    (key : String) : fields.reverse.lookup key = fields.lookup key := by
  have hreversed : (fields.reverse.map Prod.fst).Nodup := by
    rw [List.map_reverse]
    exact (List.reverse_perm _).nodup_iff.2 h
  cases hlookup : fields.lookup key with
  | some value =>
    refine lookup_eq_some_of_mem hreversed ?_
    exact List.mem_reverse.2 (mem_fields_of_lookup hlookup)
  | none =>
    rw [List.lookup_eq_none_iff] at hlookup ⊢
    exact fun field hfield => hlookup field (List.mem_reverse.1 hfield)

/-- Of two tables with distinct keys, one after the other, the last value is that of the second one
    if it has one. -/
theorem lastField?_append {first second : List (String × Value)}
    (hfirst : (first.map Prod.fst).Nodup) (hsecond : (second.map Prod.fst).Nodup) (name : String) :
    lastField? (first ++ second) name = (second.lookup name).or (first.lookup name) := by
  rw [lastField?, List.reverse_append, List.lookup_append, lookup_reverse hfirst,
    lookup_reverse hsecond]

/-! ## Settings that named values make -/

/-- Settings that are told by the values given for their names: numbers are checked for their
    range, the items of the value under `exclude` are simple, and what is not given has its
    default. -/
structure Settings.IsGiven (given : String → Option Value) (settings : Settings) : Prop where
  snippetLines : (given "snippet_lines").elim (.ok ({} : Settings).snippetLines)
    (Value.asQuantity "snippet_lines" 0) = .ok settings.snippetLines
  tabWidth : (given "tab_width").elim (.ok ({} : Settings).tabWidth)
    (Value.asQuantity "tab_width" 1) = .ok settings.tabWidth
  exclude : (given "exclude").elim (.ok ({} : Settings).exclude) Value.items = .ok settings.exclude
  simple : checkSimple settings.exclude = .ok ()
  extensions : settings.extensions = (given "extensions").getD ({} : Settings).extensions
  encoding : settings.encoding = (given "encoding").getD ({} : Settings).encoding
  followLinks : settings.followLinks = (given "follow_symlinks").getD ({} : Settings).followLinks

/-- Without stray names, settings are checked step by step. -/
theorem Settings.ofFields_eq (hstray : strayField? fields = none) :
    Settings.ofFields fields = (do
      let given := lastField? fields
      let base : Settings := {}
      let snippetLines ← (given "snippet_lines").elim (.ok base.snippetLines)
        (Value.asQuantity "snippet_lines" 0)
      let tabWidth ← (given "tab_width").elim (.ok base.tabWidth) (Value.asQuantity "tab_width" 1)
      let exclude ← (given "exclude").elim (.ok base.exclude) Value.items
      checkSimple exclude
      return {
        exclude, snippetLines, tabWidth,
        extensions := (given "extensions").getD base.extensions,
        encoding := (given "encoding").getD base.encoding,
        followLinks := (given "follow_symlinks").getD base.followLinks }) := by
  simp only [Settings.ofFields, hstray]
  cases lastField? fields "snippet_lines" <;> cases lastField? fields "tab_width" <;>
    cases lastField? fields "exclude" <;> rfl

/-- Named values make settings if no name is stray and the settings are told by the last value of
    each name. -/
theorem Settings.ofFields_eq_ok_iff :
    Settings.ofFields fields = .ok settings ↔
      strayField? fields = none ∧ settings.IsGiven (lastField? fields) := by
  cases hstray : strayField? fields with
  | some fault =>
    simp only [Settings.ofFields, hstray]
    exact iff_of_false nofun nofun
  | none =>
    rw [ofFields_eq hstray]
    simp only [bind_eq_ok_iff, true_and]
    constructor
    · rintro ⟨snippetLines, hsnippet, tabWidth, htab, exclude, hexclude, ⟨⟩, hsimple, h⟩
      cases h
      exact ⟨hsnippet, htab, hexclude, hsimple, rfl, rfl, rfl⟩
    · rintro ⟨hsnippet, htab, hexclude, hsimple, hextensions, hencoding, hlinks⟩
      refine ⟨_, hsnippet, _, htab, _, hexclude, (), hsimple, ?_⟩
      rw [← hextensions, ← hencoding, ← hlinks]
      rfl

theorem strayField?_eq_none (h : ∀ name ∈ fields.map Prod.fst, name ∈ settingNames) :
    strayField? fields = none := by
  refine List.findSome?_eq_none_iff.2 fun (name, value) hfield => ?_
  have hname : name ∈ settingNames := h _ (List.mem_map_of_mem hfield)
  exact if_pos (List.contains_iff_mem.2 hname)

/-! ## What the sources give -/

/-- The value that overrides give for a setting; one that is missing is none. -/
def override? (overrides : List (String × Value)) (name : String) : Option Value :=
  match overrides.lookup name with
  | none | some .null => none
  | some value => some value

/-- The value for a setting other than `exclude`: that of an override, or else that of the table. -/
def chosen? (table overrides : List (String × Value)) (name : String) : Option Value :=
  (override? overrides name).or (table.lookup name)

/-- A value as it is merged: extensions are spelled as settings use them. -/
def asMerged (name : String) (value : Value) : Except SettingsFault Value :=
  if name = "extensions" then value.asExtensions else .ok value

theorem overrideFields_cons {name : String} {value : Value} (h : value ≠ .null) :
    overrideFields ((name, value) :: overrides) = (do
      let value ← asMerged name value
      return (name, value) :: (← overrideFields overrides)) := by
  rw [overrideFields, asMerged]
  · split <;> rfl
  · exact fun hnull => h hnull

theorem sublist_of_overrideFields (h : overrideFields overrides = .ok overriding) :
    (overriding.map Prod.fst).Sublist (overrides.map Prod.fst) := by
  induction overrides generalizing overriding with
  | nil =>
    cases h
    exact .slnil
  | cons first rest ih =>
    obtain ⟨name, value⟩ := first
    by_cases hnull : value = .null
    · subst hnull
      exact (ih h).cons _
    · rw [overrideFields_cons hnull] at h
      obtain ⟨merged, -, h⟩ := bind_eq_ok_iff.1 h
      obtain ⟨later, hlater, h⟩ := bind_eq_ok_iff.1 h
      cases h
      exact (ih hlater).cons_cons _

theorem rel_lookup_of_overrideFields (hdistinct : (overrides.map Prod.fst).Nodup)
    (h : overrideFields overrides = .ok overriding) (name : String) :
    Option.Rel (fun value merged => asMerged name value = .ok merged) (override? overrides name)
      (overriding.lookup name) := by
  induction overrides generalizing overriding with
  | nil =>
    cases h
    exact .none
  | cons first rest ih =>
    obtain ⟨k, value⟩ := first
    obtain ⟨hnew, hrest⟩ := List.nodup_cons.1 hdistinct
    by_cases hnull : value = .null
    · subst hnull
      have hrel := ih hrest h
      unfold override? at hrel ⊢
      rw [List.lookup_cons]
      by_cases hname : name = k
      · subst hname
        -- a missing value does not hide a later one, for the name comes once only
        have hnone : rest.lookup name = none := by
          refine List.lookup_eq_none_iff.2 fun field hfield => bne_iff_ne.2 fun heq => hnew ?_
          exact List.mem_map.2 ⟨field, hfield, heq.symm⟩
        rw [hnone] at hrel
        rw [beq_self_eq_true]
        exact hrel
      · rw [beq_eq_false_iff_ne.2 hname]
        exact hrel
    · rw [overrideFields_cons hnull] at h
      obtain ⟨merged, hmerged, h⟩ := bind_eq_ok_iff.1 h
      obtain ⟨later, hlater, h⟩ := bind_eq_ok_iff.1 h
      cases h
      have hrel := ih hrest hlater
      unfold override? at hrel ⊢
      rw [List.lookup_cons, List.lookup_cons]
      by_cases hname : name = k
      · subst hname
        rw [beq_self_eq_true]
        cases value with
        | null => exact absurd rfl hnull
        | _ => exact .some hmerged
      · rw [beq_eq_false_iff_ne.2 hname]
        exact hrel

theorem overrideFields_isOk (h : ∀ value, ("extensions", value) ∈ overrides → value ≠ .null →
    ∃ extensions, value.asExtensions = .ok extensions) :
    ∃ overriding, overrideFields overrides = .ok overriding := by
  induction overrides with
  | nil => exact ⟨[], rfl⟩
  | cons first rest ih =>
    obtain ⟨name, value⟩ := first
    obtain ⟨later, hlater⟩ := ih fun value hvalue => h value (List.mem_cons_of_mem _ hvalue)
    by_cases hnull : value = .null
    · subst hnull
      exact ⟨later, hlater⟩
    · rw [overrideFields_cons hnull]
      obtain ⟨merged, hmerged⟩ : ∃ merged, asMerged name value = .ok merged := by
        unfold asMerged
        split
        case isTrue hname =>
          subst hname
          exact h value List.mem_cons_self hnull
        case isFalse => exact ⟨value, rfl⟩
      exact ⟨_, bind_eq_ok_iff.2 ⟨merged, hmerged, bind_eq_ok_iff.2 ⟨later, hlater, rfl⟩⟩⟩

/-! ## Merging -/

/-- The names of the settings that a table gives as they are. -/
def plainNames : List String :=
  ["snippet_lines", "tab_width", "encoding", "follow_symlinks"]

theorem lookup_filterMap_names (names : List String) (value? : String → Option Value)
    (name : String) :
    (names.filterMap fun name => (value? name).map fun value => (name, value)).lookup name
      = if name ∈ names then value? name else none := by
  induction names with
  | nil => rfl
  | cons first rest ih =>
    rw [List.filterMap_cons]
    by_cases hname : name = first
    · subst hname
      rw [if_pos List.mem_cons_self]
      cases hvalue : value? name with
      | some value => simp
      | none => simp [ih, hvalue]
    · have hmem : name ∈ first :: rest ↔ name ∈ rest := by simp [hname]
      simp only [hmem]
      cases value? first with
      | some value => simp [List.lookup_cons, beq_eq_false_iff_ne.2 hname, ih]
      | none => simp [ih]

/-- The fields of a table other than `exclude` and `extensions` have the values that they have
    there. -/
theorem lookup_plainFields (table : List (String × Value)) (name : String) :
    (plainFields table).lookup name = if name ∈ plainNames then table.lookup name else none :=
  lookup_filterMap_names plainNames _ name

theorem sublist_plainFields (table : List (String × Value)) :
    ((plainFields table).map Prod.fst).Sublist plainNames := by
  have hnames : ∀ names : List String, ((names.filterMap fun name =>
      (table.lookup name).map fun value => (name, value)).map Prod.fst).Sublist names := by
    intro names
    induction names with
    | nil => exact .slnil
    | cons first rest ih =>
      rw [List.filterMap_cons]
      cases table.lookup first with
      | some value => exact ih.cons_cons _
      | none => exact ih.cons _
  exact hnames plainNames

/-- The extensions that a table gives, as a field. -/
def tableExtensions (table : List (String × Value)) :
    Except SettingsFault (List (String × Value)) :=
  (table.lookup "extensions").elim (.ok []) fun value => do
    return [("extensions", ← value.asExtensions)]

/-- The field has the name of the extensions, and their value in the table as it is merged. -/
theorem tableExtensions_spec {extensions : List (String × Value)}
    (h : tableExtensions table = .ok extensions) :
    (extensions.map Prod.fst).Sublist ["extensions"] ∧
      Option.Rel (fun value merged => value.asExtensions = .ok merged)
        (table.lookup "extensions") (extensions.lookup "extensions") := by
  unfold tableExtensions at h
  cases htable : table.lookup "extensions" with
  | none =>
    rw [htable] at h
    cases h
    exact ⟨List.nil_sublist _, .none⟩
  | some value =>
    rw [htable] at h
    obtain ⟨merged, hmerged, h⟩ := bind_eq_ok_iff.1 h
    cases h
    exact ⟨.refl _, .some hmerged⟩

/-- The names to exclude come first, the overrides last. -/
theorem mergeFields_eq : mergeFields table extra overrides = (do
    let listed ← ((table.lookup "exclude").getD (.list [])).items
    let further ← extra.items
    let extensions ← tableExtensions table
    let overriding ← overrideFields overrides
    return (("exclude", .list (appendNew (defaultExcludes.map .text) (listed ++ further)))
      :: extensions ++ plainFields table) ++ overriding) := by
  unfold mergeFields tableExtensions
  cases table.lookup "extensions" with
  | none => rfl
  | some value =>
    simp only [Option.elim_some, bind_assoc, pure_bind]

/-- What sources give when they can be merged: the names to exclude that a table lists, the further
    ones, the extensions of the table and the overrides. -/
structure MergesAs (table : List (String × Value)) (extra : Value)
    (overrides : List (String × Value)) (listed further : List Value)
    (extensions overriding : List (String × Value)) : Prop where
  listed : ((table.lookup "exclude").getD (.list [])).items = .ok listed
  further : extra.items = .ok further
  extensions : tableExtensions table = .ok extensions
  overriding : overrideFields overrides = .ok overriding

/-- Sources are merged if each gives what it has to. -/
theorem mergeFields_eq_ok_iff : mergeFields table extra overrides = .ok fields ↔
    ∃ listed further extensions overriding,
      MergesAs table extra overrides listed further extensions overriding ∧
      fields = (("exclude", .list (appendNew (defaultExcludes.map .text) (listed ++ further)))
        :: extensions ++ plainFields table) ++ overriding := by
  rw [mergeFields_eq]
  simp only [bind_eq_ok_iff]
  constructor
  · rintro ⟨listed, hlisted, further, hfurther, extensions, hextensions, overriding, hoverriding, h⟩
    cases h
    exact ⟨_, _, _, _, ⟨hlisted, hfurther, hextensions, hoverriding⟩, rfl⟩
  · rintro ⟨listed, further, extensions, overriding, h, rfl⟩
    exact ⟨_, h.listed, _, h.further, _, h.extensions, _, h.overriding, rfl⟩

section

variable {listed further : List Value} {extensions : List (String × Value)}

theorem MergesAs.sublist_names
    (h : MergesAs table extra overrides listed further extensions overriding) (exclude : Value) :
    ((("exclude", exclude) :: extensions ++ plainFields table).map Prod.fst).Sublist
      settingNames := by
  rw [List.cons_append, List.map_cons, List.map_append]
  exact .cons_cons _ ((tableExtensions_spec h.extensions).1.append (sublist_plainFields table))

/-- The last value that is merged under a name: that of an override, or else that of the table, or
    else the names to exclude. -/
theorem MergesAs.lastField?_eq
    (h : MergesAs table extra overrides listed further extensions overriding)
    (hdistinct : (overrides.map Prod.fst).Nodup) (exclude : Value) (name : String) :
    lastField? ((("exclude", exclude) :: extensions ++ plainFields table) ++ overriding) name
      = (overriding.lookup name).or (if name = "exclude" then some exclude
          else (extensions.lookup name).or ((plainFields table).lookup name)) := by
  have hfirst := (h.sublist_names exclude).nodup (by decide)
  have hsecond := (sublist_of_overrideFields h.overriding).nodup hdistinct
  rw [lastField?_append hfirst hsecond, List.cons_append, List.lookup_cons]
  by_cases hname : name = "exclude"
  · subst hname
    rfl
  · rw [if_neg hname, beq_eq_false_iff_ne.2 hname, List.lookup_append]

/-- Without an override the names to exclude are those of all sources. -/
theorem MergesAs.lastField?_exclude
    (h : MergesAs table extra overrides listed further extensions overriding)
    (hdistinct : (overrides.map Prod.fst).Nodup) (exclude : Value)
    (hnot : "exclude" ∉ overrides.map Prod.fst) :
    lastField? ((("exclude", exclude) :: extensions ++ plainFields table) ++ overriding) "exclude"
      = some exclude := by
  have hnone : overriding.lookup "exclude" = none := by
    refine List.lookup_eq_none_iff.2 fun field hfield => bne_iff_ne.2 fun heq => hnot ?_
    rw [heq]
    exact (sublist_of_overrideFields h.overriding).subset (List.mem_map_of_mem hfield)
  rw [h.lastField?_eq hdistinct, hnone]
  rfl

/-- Under a name other than `exclude` that the table gives as it is, the last value is that of an
    override, or else that of the table. -/
theorem MergesAs.lastField?_plain
    (h : MergesAs table extra overrides listed further extensions overriding)
    (hdistinct : (overrides.map Prod.fst).Nodup) (exclude : Value) {name : String}
    (hname : name ∈ plainNames) :
    lastField? ((("exclude", exclude) :: extensions ++ plainFields table) ++ overriding) name
      = chosen? table overrides name := by
  have hother : name ≠ "exclude" ∧ name ≠ "extensions" := by
    revert name
    decide
  have hnone : extensions.lookup name = none := by
    refine List.lookup_eq_none_iff.2 fun field hfield => bne_iff_ne.2 fun heq => hother.2 ?_
    have hmem := (tableExtensions_spec h.extensions).1.subset (List.mem_map_of_mem hfield)
    rw [heq]
    exact List.mem_singleton.1 hmem
  have hrel := rel_lookup_of_overrideFields hdistinct h.overriding name
  have hoverride : overriding.lookup name = override? overrides name := by
    generalize override? overrides name = given, overriding.lookup name = merged at hrel ⊢
    cases hrel with
    | none => rfl
    | some hmerged =>
      rw [asMerged, if_neg hother.2] at hmerged
      exact congrArg some (Except.ok.inj hmerged).symm
  rw [h.lastField?_eq hdistinct, if_neg hother.1, hnone, lookup_plainFields, if_pos hname,
    hoverride]
  rfl

/-- The last extensions are those of an override, or else those of the table, as they are
    merged. -/
theorem MergesAs.rel_lastField?_extensions
    (h : MergesAs table extra overrides listed further extensions overriding)
    (hdistinct : (overrides.map Prod.fst).Nodup) (exclude : Value) :
    Option.Rel (fun value merged => value.asExtensions = .ok merged)
      (chosen? table overrides "extensions")
      (lastField? ((("exclude", exclude) :: extensions ++ plainFields table) ++ overriding)
        "extensions") := by
  have hplain : (plainFields table).lookup "extensions" = none := by
    rw [lookup_plainFields, if_neg (by decide)]
  rw [h.lastField?_eq hdistinct, if_neg (by decide), hplain, Option.or_none, chosen?]
  have htable := (tableExtensions_spec h.extensions).2
  have hoverride := rel_lookup_of_overrideFields hdistinct h.overriding "extensions"
  generalize override? overrides "extensions" = given at hoverride
  generalize overriding.lookup "extensions" = merged at hoverride
  cases hoverride with
  | none => exact htable
  | some hmerged => exact .some hmerged

end

end SourceOutline
