import SourceOutline.Proofs.Toml.Distinct
import SourceOutline.Proofs.Toml.Sections

set_option autoImplicit false

/-! # What stays plain

A plain table stays plain when plain values are set in it, and a table that matches a plain one is
plain too if each key stands in it once (`IsPlainValue.of_matches`), as it does in a table that has
been read. -/

namespace SourceOutline

theorem exists_lookup_of_mem {fields others : List (String × Value)}
    (hkeys : ∀ key, fields.lookup key = none ↔ others.lookup key = none)
    (hdistinct : (fields.map Prod.fst).Nodup) {field : String × Value} (hfield : field ∈ fields) :
    fields.lookup field.1 = some field.2 ∧ ∃ other, others.lookup field.1 = some other := by
  have hlookup := lookup_eq_some_of_mem hdistinct hfield
  refine ⟨hlookup, Option.ne_none_iff_exists'.1 fun hnone => ?_⟩
  rw [(hkeys field.1).2 hnone] at hlookup
  cases hlookup

namespace Toml

variable {fields : List (String × Value)} {key : String} {value : Value}

theorem isPlainTable_nil : IsPlainTable [] :=
  .intro List.nodup_nil nofun nofun

theorem IsPlainTable.setField (h : IsPlainTable fields) (hkey : IsPlainKey key)
    (hvalue : IsPlainValue value) : IsPlainTable (Value.setField fields key value) := by
  refine .intro (Value.nodup_setField key value h.distinct) (fun field hfield => ?_)
    fun field hfield => ?_
  · rcases Value.mem_setField hfield with hold | rfl
    · exact h.plainKey hold
    · exact hkey
  · rcases Value.mem_setField hfield with hold | rfl
    · exact h.plainValue hold
    · exact hvalue

theorem isPlainTable_singleton (hkey : IsPlainKey key) (hvalue : IsPlainValue value) :
    IsPlainTable [(key, value)] :=
  isPlainTable_nil.setField hkey hvalue

theorem isPlainValue_texts_iff {texts : List String} :
    IsPlainValue (.list (texts.map .text)) ↔ ∀ text ∈ texts, IsPlainText text.toList := by
  constructor
  · intro hplain text htext
    cases hplain with
    | item hitem =>
      cases hitem with
      | list hitems =>
        cases hitems _ (List.mem_map_of_mem htext) with
        | text hplain => exact hplain
  · intro hplain
    refine .item (.list fun item hitem => ?_)
    obtain ⟨text, htext, rfl⟩ := List.mem_map.1 hitem
    exact .text (hplain text htext)

/-- A value in which each key stands once is plain if it matches a plain one. -/
theorem IsPlainValue.of_matches {v w : Value} (hplain : IsPlainValue w) (h : v.Matches w)
    (hkeyed : v.IsKeyed) : IsPlainValue v := by
  induction h with
  | same => exact hplain
  | table hkeys _ ih =>
    have hothers := isPlainValue_table_iff.1 hplain
    cases hkeyed with
    | plain hleaf => cases hleaf
    | table hdistinct hvalues =>
      refine .table (.intro hdistinct (fun field hfield => ?_) fun field hfield => ?_)
      · obtain ⟨-, other, hother⟩ := exists_lookup_of_mem hkeys hdistinct hfield
        exact hothers.plainKey (mem_fields_of_lookup hother)
      · obtain ⟨hlookup, other, hother⟩ := exists_lookup_of_mem hkeys hdistinct hfield
        exact ih _ _ _ hlookup hother (hothers.plainValue (mem_fields_of_lookup hother))
          (hvalues field hfield)

end Toml

end SourceOutline
