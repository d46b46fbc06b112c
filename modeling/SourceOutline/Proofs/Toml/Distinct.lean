import Mathlib.Data.List.Nodup
import Mathlib.Data.Option.Basic
import SourceOutline.Proofs.Config.Fields
import SourceOutline.Toml.Reader

set_option autoImplicit false

/-! # Each key is read once

A value is given to a key, and a table is opened under one, only if nothing stands there yet; what
stands there already is replaced in its place. So each step of reading leaves the keys of every
table distinct, and in a document that has been read each key stands once (`read?_isKeyed`). Arrays
are not gone into. -/

namespace SourceOutline

/-- A value that is no table, or a table in which each key stands once, with such values. -/
inductive Value.IsKeyed : Value → Prop
  | plain {v : Value} (h : v.isTable = false) : IsKeyed v
  | table {fields : List (String × Value)} {inline : Bool}
      (hdistinct : (fields.map Prod.fst).Nodup) (hvalues : ∀ field ∈ fields, IsKeyed field.2) :
      IsKeyed (.table fields inline)

namespace Toml

variable {fields fields' : Fields} {key : String} {draft : Draft} {v : Value}

/-! ## Tables under construction -/

/-- A draft in which each key of a table stands once. -/
inductive Draft.IsKeyed : Draft → Prop
  | value {v : Value} (h : v.IsKeyed) : IsKeyed (.value v)
  | table {origin : Origin} {fields : Fields} (hdistinct : (fields.map Prod.fst).Nodup)
      (hdrafts : ∀ field ∈ fields, IsKeyed field.2) : IsKeyed (.table origin fields)
  | tables (earlier : List Fields) (last : Fields) : IsKeyed (.tables earlier last)

/-- The fields of a table in which each key stands once, with such drafts. -/
structure AreKeyed (fields : Fields) : Prop where
  distinct : (fields.map Prod.fst).Nodup
  drafts : ∀ field ∈ fields, field.2.IsKeyed

namespace AreKeyed

theorem nil : AreKeyed [] :=
  ⟨List.nodup_nil, nofun⟩

theorem table (h : AreKeyed fields) (origin : Origin) : (Draft.table origin fields).IsKeyed :=
  .table h.distinct h.drafts

theorem of_lookup (h : AreKeyed fields) {origin : Origin} {inner : Fields}
    (hlookup : fields.lookup key = some (.table origin inner)) : AreKeyed inner := by
  cases h.drafts _ (mem_fields_of_lookup hlookup) with
  | table hdistinct hdrafts => exact ⟨hdistinct, hdrafts⟩

theorem append (h : AreKeyed fields) (hnew : fields.lookup key = none) (hdraft : draft.IsKeyed) :
    AreKeyed (fields ++ [(key, draft)]) := by
  constructor
  · rw [List.map_append, List.map_singleton, List.nodup_append_comm, List.singleton_append]
    refine List.nodup_cons.2 ⟨fun hmem => ?_, h.distinct⟩
    obtain ⟨field, hfield, rfl⟩ := List.mem_map.1 hmem
    exact bne_iff_ne.1 (List.lookup_eq_none_iff.1 hnew field hfield) rfl
  · intro field hfield
    rcases List.mem_append.1 hfield with hold | hlast
    · exact h.drafts field hold
    · rw [List.mem_singleton.1 hlast]
      exact hdraft

end AreKeyed

theorem map_fst_replaceField (key : String) (draft : Draft) (fields : Fields) :
    (replaceField key draft fields).map Prod.fst = fields.map Prod.fst := by
  induction fields with
  | nil => rfl
  | cons field rest ih =>
    rw [replaceField]
    split
    case isTrue => rfl
    case isFalse => rw [List.map_cons, List.map_cons, ih]

theorem mem_replaceField {field : String × Draft} (h : field ∈ replaceField key draft fields) :
    field ∈ fields ∨ field.2 = draft := by
  induction fields with
  | nil => exact .inl h
  | cons first rest ih =>
    rw [replaceField] at h
    split at h
    case isTrue =>
      rcases List.mem_cons.1 h with rfl | hrest
      · exact .inr rfl
      · exact .inl (List.mem_cons_of_mem _ hrest)
    case isFalse =>
      rcases List.mem_cons.1 h with rfl | hrest
      · exact .inl List.mem_cons_self
      · exact (ih hrest).imp_left (List.mem_cons_of_mem _)

namespace AreKeyed

theorem replaceField (h : AreKeyed fields) (key : String) (hdraft : draft.IsKeyed) :
    AreKeyed (replaceField key draft fields) := by
  refine ⟨(map_fst_replaceField key draft fields).symm ▸ h.distinct, fun field hfield => ?_⟩
  rcases mem_replaceField hfield with hold | hnew
  · exact h.drafts field hold
  · exact hnew ▸ hdraft

theorem within {change : Fields → Option Fields}
    (hchange : ∀ {inner inner'}, AreKeyed inner → change inner = some inner' → AreKeyed inner')
    {path : List String} (h : AreKeyed fields)
    (hwithin : within change path fields = some fields') : AreKeyed fields' := by
  induction path generalizing fields fields' with
  | nil => exact hchange h hwithin
  | cons key rest ih =>
    rw [Toml.within] at hwithin
    split at hwithin
    case h_1 hnone =>
      obtain ⟨inner, hinner, heq⟩ := Option.bind_eq_some_iff.1 hwithin
      cases heq
      exact h.append hnone ((ih nil hinner).table _)
    case h_2 origin inner htable =>
      obtain ⟨inner', hinner, heq⟩ := Option.bind_eq_some_iff.1 hwithin
      cases heq
      exact h.replaceField key ((ih (h.of_lookup htable) hinner).table _)
    case h_3 =>
      obtain ⟨last, -, heq⟩ := Option.bind_eq_some_iff.1 hwithin
      cases heq
      exact h.replaceField key (.tables _ _)
    case h_4 => cases hwithin

theorem openTable (h : AreKeyed fields) (hopen : openTable key fields = some fields') :
    AreKeyed fields' := by
  unfold Toml.openTable at hopen
  split at hopen
  case h_1 hnone =>
    cases hopen
    exact h.append hnone (nil.table _)
  case h_2 htable =>
    cases hopen
    exact h.replaceField key ((h.of_lookup htable).table _)
  case h_3 => cases hopen

theorem openElement (h : AreKeyed fields) (hopen : openElement key fields = some fields') :
    AreKeyed fields' := by
  unfold Toml.openElement at hopen
  split at hopen
  case h_1 hnone =>
    cases hopen
    exact h.append hnone (.tables _ _)
  case h_2 =>
    cases hopen
    exact h.replaceField key (.tables _ _)
  case h_3 => cases hopen

theorem assign (hv : v.IsKeyed) {sectionNumber : Nat} {keys : List String} (h : AreKeyed fields)
    (hassign : assign sectionNumber v keys fields = some fields') : AreKeyed fields' := by
  induction keys generalizing fields fields' with
  | nil => cases hassign
  | cons key rest ih =>
    cases rest with
    | nil =>
      rw [Toml.assign] at hassign
      split at hassign
      case h_1 hnone =>
        cases hassign
        exact h.append hnone (.value hv)
      case h_2 => cases hassign
    | cons next others =>
      rw [Toml.assign] at hassign
      · split at hassign
        case h_1 hnone =>
          obtain ⟨inner, hinner, heq⟩ := Option.bind_eq_some_iff.1 hassign
          cases heq
          exact h.append hnone ((ih nil hinner).table _)
        case h_2 htable =>
          split at hassign
          case isTrue =>
            obtain ⟨inner, hinner, heq⟩ := Option.bind_eq_some_iff.1 hassign
            cases heq
            exact h.replaceField key ((ih (h.of_lookup htable) hinner).table _)
          case isFalse => cases hassign
        case h_3 => cases hassign
      · exact fun hrest => List.cons_ne_nil _ _ hrest

end AreKeyed

/-! ## Finished tables -/

theorem map_fst_finishFields (fields : Fields) :
    (finishFields fields).map Prod.fst = fields.map Prod.fst := by
  induction fields with
  | nil => rfl
  | cons field rest ih => rw [finishFields, List.map_cons, List.map_cons, ih]

theorem exists_of_mem_finishFields {field : String × Value} (h : field ∈ finishFields fields) :
    ∃ draft, (field.1, draft) ∈ fields ∧ field.2 = draft.finish := by
  induction fields with
  | nil => cases h
  | cons first rest ih =>
    rw [finishFields] at h
    rcases List.mem_cons.1 h with rfl | hrest
    · exact ⟨first.2, List.mem_cons_self, rfl⟩
    · obtain ⟨draft, hdraft, hvalue⟩ := ih hrest
      exact ⟨draft, List.mem_cons_of_mem _ hdraft, hvalue⟩

theorem isKeyed_finishFields (hdistinct : (fields.map Prod.fst).Nodup)
    (hdrafts : ∀ field ∈ fields, field.2.finish.IsKeyed) (inline : Bool) :
    (Value.table (finishFields fields) inline).IsKeyed := by
  refine .table ((map_fst_finishFields fields).symm ▸ hdistinct) fun field hfield => ?_
  obtain ⟨draft, hdraft, hvalue⟩ := exists_of_mem_finishFields hfield
  exact hvalue ▸ hdrafts _ hdraft

theorem Draft.IsKeyed.finish (h : draft.IsKeyed) : draft.finish.IsKeyed := by
  induction h with
  | value h => exact h
  | table hdistinct _ ih => exact isKeyed_finishFields hdistinct ih false
  | tables => exact .plain rfl

theorem AreKeyed.finish (h : AreKeyed fields) (inline : Bool) :
    (Value.table (finishFields fields) inline).IsKeyed :=
  isKeyed_finishFields h.distinct (fun field hfield => (h.drafts field hfield).finish) inline

/-! ## Values -/

theorem isTable_of_readNumber? {limit : Option Nat} {text rest : List Char}
    (h : readNumber? limit text = some (v, rest)) : v.isTable = false := by
  have hbase : ∀ {base text}, readInBase base text = some (v, rest) → v.isTable = false := by
    intro base text h
    obtain ⟨⟨digits, after⟩, -, heq⟩ := Option.bind_eq_some_iff.1 h
    cases heq
    rfl
  unfold readNumber? at h
  split at h
  case h_1 => exact hbase h
  case h_2 => exact hbase h
  case h_3 => exact hbase h
  case h_4 =>
    simp only at h
    split at h
    case h_1 => cases h; rfl
    case h_2 => cases h; rfl
    case h_3 =>
      obtain ⟨⟨whole, after⟩, -, h⟩ := Option.bind_eq_some_iff.1 h
      simp only at h
      split at h
      case isTrue =>
        obtain ⟨-, -, heq⟩ := Option.bind_eq_some_iff.1 h
        cases heq
        rfl
      case isFalse => cases h; rfl

/-- A value that is read has each key once, and so has an inline table after any of its fields. -/
theorem isKeyed_of_read (limit : Option Nat) (budget : Nat) :
    (∀ {text rest v}, readValue? limit budget text = some (v, rest) → v.IsKeyed) ∧
    ∀ {text rest fields fields'}, AreKeyed fields →
      readFields? limit budget fields text = some (fields', rest) → AreKeyed fields' := by
  induction budget with
  | zero => exact ⟨nofun, nofun⟩
  | succ budget ih =>
    obtain ⟨ihValue, ihFields⟩ := ih
    constructor
    · intro text rest v h
      unfold readValue? at h
      split at h
      case h_1 => cases h; exact .plain rfl
      case h_2 => cases h; exact .plain rfl
      case h_3 =>
        obtain ⟨⟨items, after⟩, -, heq⟩ := Option.bind_eq_some_iff.1 h
        cases heq
        exact .plain rfl
      case h_4 =>
        split at h
        case h_1 => cases h; exact .table List.nodup_nil nofun
        case h_2 =>
          obtain ⟨⟨fields, after⟩, hfields, heq⟩ := Option.bind_eq_some_iff.1 h
          cases heq
          exact (ihFields .nil hfields).finish true
      case h_5 =>
        obtain ⟨⟨s, after⟩, -, heq⟩ := Option.map_eq_some_iff.1 h
        cases heq
        exact .plain rfl
      case h_6 =>
        obtain ⟨⟨s, after⟩, -, heq⟩ := Option.map_eq_some_iff.1 h
        cases heq
        exact .plain rfl
      case h_7 =>
        split at h
        case h_1 => cases h; exact .plain rfl
        case h_2 => exact .plain (isTable_of_readNumber? h)
    · intro text rest fields fields' hfields h
      unfold readFields? at h
      obtain ⟨⟨key, afterKey⟩, -, h⟩ := Option.bind_eq_some_iff.1 h
      split at h
      case h_1 =>
        obtain ⟨⟨v, after⟩, hvalue, h⟩ := Option.bind_eq_some_iff.1 h
        obtain ⟨more, hassign, h⟩ := Option.bind_eq_some_iff.1 h
        have hmore := hfields.assign (ihValue hvalue) hassign
        split at h
        case h_1 => exact ihFields hmore h
        case h_2 => cases h; exact hmore
        case h_3 => cases h
      case h_2 => cases h

/-! ## Documents -/

section

variable {document document' : Document} {text rest : List Char}

theorem AreKeyed.openSection {openLast : String → Fields → Option Fields} {header : List String}
    (hopen : ∀ {key inner inner'}, AreKeyed inner → openLast key inner = some inner' →
      AreKeyed inner')
    (h : AreKeyed document.root)
    (hsection : document.openSection openLast header = some document') :
    AreKeyed document'.root := by
  obtain ⟨key, -, hsection⟩ := Option.bind_eq_some_iff.1 hsection
  obtain ⟨root, hroot, heq⟩ := Option.bind_eq_some_iff.1 hsection
  cases heq
  exact h.within hopen hroot

theorem AreKeyed.readStatement? {limit : Option Nat} {budget : Nat} (h : AreKeyed document.root)
    (hread : readStatement? limit budget document text = some (document', rest)) :
    AreKeyed document'.root := by
  unfold Toml.readStatement? at hread
  split at hread
  case h_1 =>
    obtain ⟨⟨header, after⟩, -, hread⟩ := Option.bind_eq_some_iff.1 hread
    split at hread
    case h_1 =>
      obtain ⟨opened, hopened, heq⟩ := Option.bind_eq_some_iff.1 hread
      cases heq
      exact h.openSection .openElement hopened
    case h_2 => cases hread
  case h_2 =>
    obtain ⟨⟨header, after⟩, -, hread⟩ := Option.bind_eq_some_iff.1 hread
    split at hread
    case h_1 =>
      obtain ⟨opened, hopened, heq⟩ := Option.bind_eq_some_iff.1 hread
      cases heq
      exact h.openSection .openTable hopened
    case h_2 => cases hread
  case h_3 =>
    obtain ⟨⟨key, after⟩, -, hread⟩ := Option.bind_eq_some_iff.1 hread
    split at hread
    case h_1 =>
      obtain ⟨⟨v, afterValue⟩, hvalue, hread⟩ := Option.bind_eq_some_iff.1 hread
      obtain ⟨next, hnext, heq⟩ := Option.bind_eq_some_iff.1 hread
      cases heq
      obtain ⟨root, hroot, heq⟩ := Option.bind_eq_some_iff.1 hnext
      cases heq
      exact h.within (.assign ((isKeyed_of_read limit budget).1 hvalue)) hroot
    case h_2 => cases hread

theorem AreKeyed.readLines? {limit : Option Nat} {nesting budget : Nat} (h : AreKeyed document.root)
    (hread : readLines? limit nesting budget document text = some document') :
    AreKeyed document'.root := by
  induction budget generalizing document text with
  | zero => cases hread
  | succ budget ih =>
    unfold Toml.readLines? at hread
    split at hread
    case h_1 => cases hread; exact h
    case h_2 => exact ih h hread
    case h_3 =>
      obtain ⟨after, -, hread⟩ := Option.bind_eq_some_iff.1 hread
      exact ih h hread
    case h_4 =>
      obtain ⟨⟨next, after⟩, hnext, hread⟩ := Option.bind_eq_some_iff.1 hread
      obtain ⟨after', -, hread⟩ := Option.bind_eq_some_iff.1 hread
      exact ih (h.readStatement? hnext) hread

end

/-- In a document that is read each key stands once, in every table that stands in no array. -/
theorem read?_isKeyed {limit : Option Nat} {text : List Char} {table : List (String × Value)}
    (inline : Bool)
    (h : read? limit text = some table) : (Value.table table inline).IsKeyed := by
  obtain ⟨document, hdocument, heq⟩ := Option.bind_eq_some_iff.1 h
  cases heq
  have hstart : AreKeyed ({} : Document).root := .nil
  exact (hstart.readLines? hdocument).finish inline

end Toml

end SourceOutline
