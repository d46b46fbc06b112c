import SourceOutline.Toml.Draft

set_option autoImplicit false

/-! # What stands at a path of a table under construction

A header opens the table at its path, and a line of a section gives a value to a path one key
longer. Both leave everything else as it was, but that tables appear on the way where there was
nothing yet (`IsPut`). Both are possible if only tables or nothing is on the way, and at the path
itself there is nothing, or for a header at most a table that other headers have passed through
(`exists_openTable`, `exists_assign`). -/

namespace SourceOutline.Toml

/-! ## Marks -/

/-- What is known of a draft without going into it. -/
inductive Mark where
  | value (v : Value)
  | table (origin : Origin)
  | tables

/-- The mark of a draft. -/
def Draft.mark : Draft → Mark
  | .value v => .value v
  | .table origin _ => .table origin
  | .tables _ _ => .tables

/-- The mark of what stands at a path. Arrays of tables are not gone into. -/
def markAt : List String → Fields → Option Mark
  | [], _ => none
  | [key], fields => (fields.lookup key).map Draft.mark
  | key :: next :: rest, fields =>
    match fields.lookup key with
    | some (.table _ inner) => markAt (next :: rest) inner
    | _ => none

theorem markAt_of_lookup_eq_none {key : String} {fields : Fields} (h : fields.lookup key = none)
    (rest : List String) : markAt (key :: rest) fields = none := by
  cases rest with
  | nil => rw [markAt, h]; rfl
  | cons next others => simp only [markAt, h]

theorem markAt_nil (path : List String) : markAt path [] = none := by
  cases path with
  | nil => rfl
  | cons key rest => exact markAt_of_lookup_eq_none rfl rest

theorem markAt_of_lookup_eq_table {key : String} {fields inner : Fields} {origin : Origin}
    (h : fields.lookup key = some (.table origin inner)) {rest : List String} (hne : rest ≠ []) :
    markAt (key :: rest) fields = markAt rest inner := by
  cases rest with
  | nil => exact absurd rfl hne
  | cons next others => simp only [markAt, h]

/-- What stands at a path depends on its first key alone. -/
theorem markAt_congr {key : String} {fields other : Fields}
    (h : fields.lookup key = other.lookup key) (rest : List String) :
    markAt (key :: rest) fields = markAt (key :: rest) other := by
  cases rest with
  | nil => simp only [markAt, h]
  | cons next others => simp only [markAt, h]

/-! ## Single keys -/

theorem lookup_append_field {key : String} {fields : Fields} (h : fields.lookup key = none)
    (draft : Draft) (other : String) :
    (fields ++ [(key, draft)]).lookup other
      = if other = key then some draft else fields.lookup other := by
  rw [List.lookup_append, List.lookup_cons, List.lookup_nil]
  split
  case h_1 heq => rw [if_pos (eq_of_beq heq), eq_of_beq heq, h]; rfl
  case h_2 hne => rw [if_neg (beq_eq_false_iff_ne.1 hne), Option.or_none]

theorem lookup_replaceField {key : String} {fields : Fields} {old : Draft}
    (h : fields.lookup key = some old) (draft : Draft) (other : String) :
    (replaceField key draft fields).lookup other
      = if other = key then some draft else fields.lookup other := by
  induction fields with
  | nil => cases h
  | cons field rest ih =>
    obtain ⟨k, d⟩ := field
    rw [replaceField]
    split
    case isTrue hk =>
      rw [List.lookup_cons, List.lookup_cons, hk]
      split
      case h_1 heq => rw [if_pos (eq_of_beq heq)]
      case h_2 hne => rw [if_neg (beq_eq_false_iff_ne.1 hne)]
    case isFalse hk =>
      have hrest : rest.lookup key = some old := by
        rwa [List.lookup_cons, beq_eq_false_iff_ne.2 (Ne.symm hk)] at h
      rw [List.lookup_cons, List.lookup_cons, ih hrest]
      split
      case h_1 heq => rw [if_neg (fun hkey => hk ((eq_of_beq heq).symm.trans hkey))]
      case h_2 => rfl

/-! ## Putting something at a path -/

/-- Something has been put at a path: tables have appeared on the way where there was nothing, and
    everything else is as before. -/
def IsPut (path : List String) (mark : Mark) (before after : Fields) : Prop :=
  ∀ other, markAt other after
    = if other = path then some mark
      else if other ≠ [] ∧ other <+: path then (markAt other before).or (some (.table .passed))
      else markAt other before

/-- Something has been put at a key if it is looked up there with what stood below before. -/
theorem isPut_key {key : String} {draft : Draft} {before after : Fields}
    (hlookup : ∀ other, after.lookup other
      = if other = key then some draft else before.lookup other)
    (hbelow : ∀ rest, rest ≠ [] → markAt (key :: rest) after = markAt (key :: rest) before) :
    IsPut [key] draft.mark before after := by
  intro other
  cases other with
  | nil => rfl
  | cons k rest =>
    by_cases hk : k = key
    · subst hk
      by_cases hrest : rest = []
      · subst hrest
        rw [if_pos rfl, markAt, hlookup, if_pos rfl]
        rfl
      · rw [hbelow rest hrest, if_neg (by simpa using hrest), if_neg (by simp [hrest])]
    · have hsame : after.lookup k = before.lookup k := (hlookup k).trans (if_neg hk)
      rw [markAt_congr hsame, if_neg (by simp [hk]), if_neg (by simp [hk])]

/-- Something has been put below a key if it has been put into the table of the key, which may be a
    new one. -/
theorem IsPut.below {key : String} {rest : List String} {mark : Mark} {origin : Origin}
    {before after inner inner' : Fields} (h : IsPut rest mark inner inner') (hne : rest ≠ [])
    (hbefore : before.lookup key = some (.table origin inner) ∨
      before.lookup key = none ∧ origin = .passed ∧ inner = [])
    (hafter : ∀ other, after.lookup other
      = if other = key then some (.table origin inner') else before.lookup other) :
    IsPut (key :: rest) mark before after := by
  have hkey : after.lookup key = some (.table origin inner') := (hafter key).trans (if_pos rfl)
  intro other
  cases other with
  | nil => rfl
  | cons k more =>
    by_cases hk : k = key
    · subst hk
      by_cases hmore : more = []
      · subst hmore
        rw [if_neg (by simpa using hne.symm), if_pos (by simp), markAt, hkey]
        rcases hbefore with htable | ⟨hnone, rfl, -⟩
        · rw [markAt, htable]
          rfl
        · rw [markAt, hnone]
          rfl
      · have hinner : markAt (k :: more) before = markAt more inner := by
          rcases hbefore with htable | ⟨hnone, -, rfl⟩
          · exact markAt_of_lookup_eq_table htable hmore
          · rw [markAt_of_lookup_eq_none hnone, markAt_nil]
        rw [markAt_of_lookup_eq_table hkey hmore, hinner, h more]
        simp [hmore]
    · have hsame : after.lookup k = before.lookup k := (hafter k).trans (if_neg hk)
      rw [markAt_congr hsame, if_neg (by simp [hk]), if_neg (by simp [hk])]

/-! ## On the way -/

/-- On the way along a path there are only tables or nothing. -/
def IsOpenWay (path : List String) (fields : Fields) : Prop :=
  ∀ part, part ≠ [] → part <+: path →
    markAt part fields = none ∨ ∃ origin, markAt part fields = some (.table origin)

theorem IsOpenWay.of_cons {key : String} {rest : List String} {fields inner : Fields}
    {origin : Origin} (h : IsOpenWay (key :: rest) fields)
    (htable : fields.lookup key = some (.table origin inner)) : IsOpenWay rest inner := by
  intro part hne hpart
  have hway := h (key :: part) (List.cons_ne_nil _ _) (List.cons_prefix_cons.2 ⟨rfl, hpart⟩)
  rwa [markAt_of_lookup_eq_table htable hne] at hway

/-- A change that puts something at a key of any table puts it below a path, if the way is open and
    the change admits what is there. -/
theorem exists_within {change : Fields → Option Fields} {key : String} {mark : Mark}
    (admits : Option Mark → Prop)
    (hchange : ∀ inner, admits (markAt [key] inner) →
      ∃ inner', change inner = some inner' ∧ IsPut [key] mark inner inner')
    {path : List String} {fields : Fields} (hway : IsOpenWay path fields)
    (hadmits : admits (markAt (path ++ [key]) fields)) :
    ∃ fields', within change path fields = some fields' ∧
      IsPut (path ++ [key]) mark fields fields' := by
  induction path generalizing fields with
  | nil => exact hchange fields hadmits
  | cons k rest ih =>
    have hne : rest ++ [key] ≠ [] := List.append_ne_nil_of_right_ne_nil _ (List.cons_ne_nil _ _)
    rw [List.cons_append] at hadmits
    cases hlookup : fields.lookup k with
    | none =>
      have hnothing : IsOpenWay rest [] := fun part _ _ => .inl (markAt_nil part)
      rw [markAt_of_lookup_eq_none hlookup, ← markAt_nil (rest ++ [key])] at hadmits
      obtain ⟨inner', hwithin, hput⟩ := ih hnothing hadmits
      refine ⟨fields ++ [(k, .table .passed inner')], ?_, ?_⟩
      · simp only [within, hlookup, hwithin, bind, Option.bind, pure]
      · exact hput.below hne (.inr ⟨hlookup, rfl, rfl⟩) (lookup_append_field hlookup _)
    | some draft =>
      have hfirst := hway [k] (List.cons_ne_nil _ _)
        (List.cons_prefix_cons.2 ⟨rfl, List.nil_prefix⟩)
      rw [markAt, hlookup] at hfirst
      cases draft with
      | table origin inner =>
        rw [markAt_of_lookup_eq_table hlookup hne] at hadmits
        obtain ⟨inner', hwithin, hput⟩ := ih (hway.of_cons hlookup) hadmits
        refine ⟨replaceField k (.table origin inner') fields, ?_, ?_⟩
        · simp only [within, hlookup, hwithin, bind, Option.bind, pure]
        · exact hput.below hne (.inl hlookup) (lookup_replaceField hlookup _)
      | value v => simp [Draft.mark] at hfirst
      | tables earlier last => simp [Draft.mark] at hfirst

/-- A header opens the table at its path, if nothing is there or a table that headers have passed
    through. -/
theorem exists_openTable {path : List String} {key : String} {fields : Fields}
    (hway : IsOpenWay path fields)
    (h : markAt (path ++ [key]) fields = none ∨
      markAt (path ++ [key]) fields = some (.table .passed)) :
    ∃ fields', within (openTable key) path fields = some fields' ∧
      IsPut (path ++ [key]) (.table .opened) fields fields' := by
  refine exists_within (fun mark => mark = none ∨ mark = some (.table .passed)) ?_ hway h
  intro inner hinner
  cases hlookup : inner.lookup key with
  | none =>
    refine ⟨inner ++ [(key, .table .opened [])], by simp only [openTable, hlookup], ?_⟩
    have hafter := lookup_append_field hlookup (.table .opened [])
    refine isPut_key hafter fun rest hne => ?_
    rw [markAt_of_lookup_eq_table ((hafter key).trans (if_pos rfl)) hne, markAt_nil,
      markAt_of_lookup_eq_none hlookup]
  | some draft =>
    rw [markAt, hlookup] at hinner
    cases draft with
    | table origin fields =>
      obtain rfl : origin = .passed := by
        rcases hinner with hnone | hsome
        · cases hnone
        · cases hsome
          rfl
      refine ⟨replaceField key (.table .opened fields) inner, by simp only [openTable, hlookup], ?_⟩
      have hafter := lookup_replaceField hlookup (.table .opened fields)
      refine isPut_key hafter fun rest hne => ?_
      rw [markAt_of_lookup_eq_table ((hafter key).trans (if_pos rfl)) hne,
        markAt_of_lookup_eq_table hlookup hne]
    | value v => simp [Draft.mark] at hinner
    | tables earlier last => simp [Draft.mark] at hinner

theorem exists_assign {path : List String} {key : String} {fields : Fields} (sectionNumber : Nat)
    (v : Value) (hway : IsOpenWay path fields) (h : markAt (path ++ [key]) fields = none) :
    ∃ fields', within (assign sectionNumber v [key]) path fields = some fields' ∧
      IsPut (path ++ [key]) (.value v) fields fields' := by
  refine exists_within (fun mark => mark = none) ?_ hway h
  intro inner hinner
  have hlookup : inner.lookup key = none := Option.map_eq_none_iff.1 hinner
  refine ⟨inner ++ [(key, .value v)], by simp only [assign, hlookup], ?_⟩
  have hafter := lookup_append_field hlookup (.value v)
  refine isPut_key hafter fun rest hne => ?_
  have hkey := (hafter key).trans (if_pos rfl)
  obtain ⟨next, others, rfl⟩ := List.exists_cons_of_ne_nil hne
  simp only [markAt, hkey, hlookup]

end SourceOutline.Toml
