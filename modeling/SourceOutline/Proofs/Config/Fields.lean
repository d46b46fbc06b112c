import SourceOutline.Config.Value

set_option autoImplicit false

/-! # Tables by their keys

What matters about a table is which value each key has. A path of keys leads through tables to a
part of a table (`partAt`). Two values match if they are the same but for the order of keys and the
way in which tables are written (`Value.Matches`). -/

namespace SourceOutline

/-! ## Setting fields -/

theorem Value.lookup_setField (fields : List (String × Value)) (key : String) (value : Value)
    (other : String) :
    (Value.setField fields key value).lookup other
      = if other = key then some value else fields.lookup other := by
  induction fields with
  | nil =>
    rw [Value.setField, List.lookup_cons]
    split
    case h_1 heq => rw [if_pos (eq_of_beq heq)]
    case h_2 hne => rw [if_neg (beq_eq_false_iff_ne.1 hne)]
  | cons field rest ih =>
    obtain ⟨k, v⟩ := field
    rw [Value.setField]
    split
    case isTrue hk =>
      rw [List.lookup_cons, List.lookup_cons, hk]
      split
      case h_1 heq => rw [if_pos (eq_of_beq heq)]
      case h_2 hne => rw [if_neg (beq_eq_false_iff_ne.1 hne)]
    case isFalse hk =>
      rw [List.lookup_cons, List.lookup_cons, ih]
      split
      case h_1 heq => rw [if_neg (fun hkey => hk ((eq_of_beq heq).symm.trans hkey))]
      case h_2 => rfl

theorem Value.mem_setField {fields : List (String × Value)} {key : String} {value : Value}
    {field : String × Value} (h : field ∈ Value.setField fields key value) :
    field ∈ fields ∨ field = (key, value) := by
  induction fields with
  | nil => exact .inr (List.mem_singleton.1 h)
  | cons first rest ih =>
    obtain ⟨k, v⟩ := first
    rw [Value.setField] at h
    split at h
    case isTrue hk =>
      rcases List.mem_cons.1 h with rfl | hrest
      · exact .inr (by rw [hk])
      · exact .inl (List.mem_cons_of_mem _ hrest)
    case isFalse =>
      rcases List.mem_cons.1 h with rfl | hrest
      · exact .inl List.mem_cons_self
      · exact (ih hrest).imp_left (List.mem_cons_of_mem _)

theorem Value.nodup_setField {fields : List (String × Value)} (key : String) (value : Value)
    (h : (fields.map Prod.fst).Nodup) :
    ((Value.setField fields key value).map Prod.fst).Nodup := by
  induction fields with
  | nil => exact List.nodup_cons.2 ⟨List.not_mem_nil, List.nodup_nil⟩
  | cons first rest ih =>
    obtain ⟨k, v⟩ := first
    obtain ⟨hnew, hrest⟩ := List.nodup_cons.1 h
    rw [Value.setField]
    split
    case isTrue => exact h
    case isFalse hk =>
      refine List.nodup_cons.2 ⟨?_, ih hrest⟩
      intro hin
      obtain ⟨field, hfield, hkey⟩ := List.mem_map.1 hin
      rcases Value.mem_setField hfield with hold | rfl
      · exact hnew (List.mem_map.2 ⟨field, hold, hkey⟩)
      · exact hk hkey.symm

theorem lookup_eq_some_of_mem {κ α : Type} [BEq κ] [LawfulBEq κ] {fields : List (κ × α)} {key : κ}
    {a : α} (h : (fields.map Prod.fst).Nodup) (hmem : (key, a) ∈ fields) :
    fields.lookup key = some a := by
  induction fields with
  | nil => cases hmem
  | cons first rest ih =>
    obtain ⟨k, b⟩ := first
    obtain ⟨hnew, hrest⟩ := List.nodup_cons.1 h
    rw [List.lookup_cons]
    rcases List.mem_cons.1 hmem with heq | hlater
    · obtain ⟨rfl, rfl⟩ := Prod.mk.inj heq
      rw [beq_self_eq_true]
    · have hne : key ≠ k := by
        rintro rfl
        exact hnew (List.mem_map.2 ⟨_, hlater, rfl⟩)
      rw [beq_eq_false_iff_ne.2 hne]
      exact ih hrest hlater

theorem mem_fields_of_lookup {α : Type} {fields : List (String × α)} {key : String} {a : α}
    (h : fields.lookup key = some a) : (key, a) ∈ fields := by
  obtain ⟨before, after, rfl, -⟩ := List.lookup_eq_some_iff.1 h
  exact List.mem_append_right _ List.mem_cons_self

/-! ## Parts -/

/-- The fields of the table at a path. -/
def tableAt : List String → List (String × Value) → Option (List (String × Value))
  | [], fields => some fields
  | key :: rest, fields =>
    match fields.lookup key with
    | some (.table inner _) => tableAt rest inner
    | _ => none

/-- The value at a path of keys, of which there is at least one. -/
def partAt : List String → List (String × Value) → Option Value
  | [], _ => none
  | [key], fields => fields.lookup key
  | key :: next :: rest, fields =>
    match fields.lookup key with
    | some (.table inner _) => partAt (next :: rest) inner
    | _ => none

/-- A part stands under the last key of its path in the table at the keys before. -/
theorem partAt_append_key (path : List String) (key : String) (fields : List (String × Value)) :
    partAt (path ++ [key]) fields = (tableAt path fields).bind (·.lookup key) := by
  induction path generalizing fields with
  | nil => rfl
  | cons k rest ih =>
    obtain ⟨next, others, hrest⟩ := List.exists_cons_of_ne_nil
      (List.append_ne_nil_of_right_ne_nil rest (List.cons_ne_nil key []))
    simp only [hrest] at ih
    rw [List.cons_append, hrest, partAt, tableAt]
    split
    case h_1 => exact ih _
    case h_2 => rfl

theorem tableAt_append (path more : List String) (fields : List (String × Value)) :
    tableAt (path ++ more) fields = (tableAt path fields).bind (tableAt more) := by
  induction path generalizing fields with
  | nil => rfl
  | cons k rest ih =>
    rw [List.cons_append, tableAt, tableAt]
    split
    case h_1 => exact ih _
    case h_2 => rfl

theorem tableAt_eq_some_iff {path : List String} (hne : path ≠ [])
    {fields inner : List (String × Value)} :
    tableAt path fields = some inner ↔
      ∃ inline, partAt path fields = some (.table inner inline) := by
  obtain ⟨before, key, rfl⟩ : ∃ before key, path = before ++ [key] :=
    ⟨path.dropLast, path.getLast hne, (List.dropLast_concat_getLast hne).symm⟩
  rw [tableAt_append, partAt_append_key]
  cases tableAt before fields with
  | none => simp
  | some outer =>
    simp only [Option.bind_some, tableAt]
    split
    case h_1 inner' inline hlookup =>
      rw [hlookup]
      constructor
      · intro h
        exact ⟨inline, by rw [Option.some.inj h]⟩
      · rintro ⟨_, h⟩
        cases h
        rfl
    case h_2 hother =>
      constructor
      · nofun
      · rintro ⟨inline, h⟩
        exact absurd h (hother inner inline)

theorem exists_partAt_of_prefix {path part : List String} {fields : List (String × Value)}
    {value : Value} (h : partAt path fields = some value) (hpart : part <+: path)
    (hne : part ≠ []) (hproper : part ≠ path) :
    ∃ inner inline, partAt part fields = some (.table inner inline) := by
  obtain ⟨more, rfl⟩ := hpart
  have hmore : more ≠ [] := by
    rintro rfl
    exact hproper (List.append_nil part).symm
  rw [← List.dropLast_concat_getLast hmore, ← List.append_assoc, partAt_append_key,
    tableAt_append] at h
  cases htable : tableAt part fields with
  | none =>
    rw [htable] at h
    cases h
  | some inner => exact ⟨inner, (tableAt_eq_some_iff hne).1 htable⟩

/-! ## Matching -/

/-- Two values are the same but for the order of keys and the way in which tables are written:
    tables match if they have the same keys and the values of these match. -/
inductive Value.Matches : Value → Value → Prop
  | same {v : Value} (h : v.isTable = false) : Matches v v
  | table {fields others : List (String × Value)} {inline inline' : Bool}
      (hkeys : ∀ key, fields.lookup key = none ↔ others.lookup key = none)
      (hfields : ∀ key v w, fields.lookup key = some v → others.lookup key = some w →
        Matches v w) :
      Matches (.table fields inline) (.table others inline')

theorem Value.Matches.rel_lookup {fields others : List (String × Value)} {inline inline' : Bool}
    (h : Value.Matches (.table fields inline) (.table others inline')) (key : String) :
    Option.Rel Value.Matches (fields.lookup key) (others.lookup key) := by
  cases h with
  | same htable => cases htable
  | table hkeys hfields =>
    cases hfirst : fields.lookup key with
    | none =>
      rw [(hkeys key).1 hfirst]
      exact .none
    | some v =>
      cases hsecond : others.lookup key with
      | none =>
        rw [(hkeys key).2 hsecond] at hfirst
        cases hfirst
      | some w => exact .some (hfields key v w hfirst hsecond)

theorem Value.Matches.of_rel {fields others : List (String × Value)}
    (h : ∀ key, Option.Rel Value.Matches (fields.lookup key) (others.lookup key))
    (inline inline' : Bool) : Value.Matches (.table fields inline) (.table others inline') := by
  refine .table (fun key => ?_) fun key v w hv hw => ?_
  · have hkey := h key
    generalize fields.lookup key = found, others.lookup key = other at hkey
    cases hkey <;> simp
  · have hkey := h key
    rw [hv, hw] at hkey
    cases hkey with
    | some hvalue => exact hvalue

/-- Where a table has a table under a key, a matching one has a table there that matches it. -/
theorem Value.Matches.exists_table_lookup {fields others : List (String × Value)}
    {inline inline' : Bool}
    (h : Value.Matches (.table fields inline) (.table others inline')) {key : String}
    {inner : List (String × Value)} {innerInline : Bool}
    (hlookup : others.lookup key = some (.table inner innerInline)) :
    ∃ found foundInline, fields.lookup key = some (.table found foundInline) ∧
      Value.Matches (.table found foundInline) (.table inner innerInline) := by
  have hrel := h.rel_lookup key
  rw [hlookup] at hrel
  generalize fields.lookup key = found at hrel
  cases hrel with
  | some hvalue =>
    cases hvalue with
    | same htable => cases htable
    | table hkeys hfields => exact ⟨_, _, rfl, .table hkeys hfields⟩

end SourceOutline
