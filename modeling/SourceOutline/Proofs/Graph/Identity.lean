import SourceOutline.Graph.Node
import SourceOutline.Proofs.Outline.DefinitionLine
import SourceOutline.Proofs.Text.Decimal

set_option autoImplicit false

/-! # What an id tells

The id of a node is its kind, its path and, for a definition, its line and its name, with colons
between them. A path may hold colons of its own, so an id has to be read from both ends: neither a
kind nor a line nor a name holds one, and what is left in the middle is the path. Hence two nodes
share an id only if they stand at the same path (`IsIdAt.path_eq`), and two definitions only if they
stand on the same line as well (`definitionId_inj`). So an id tells what it was made of
(`nodeIds_unambiguous`), as long as its name is one that a line can announce. -/

namespace SourceOutline

/-! ## Reading up to a separator -/

/-- Texts that are equal up to their last separator and after it are equal on both sides of it. -/
theorem append_cons_inj_of_notMem_right {α : Type} {c : α} {xs ys xs' ys' : List α}
    (hys : c ∉ ys) (hys' : c ∉ ys') (h : xs ++ c :: ys = xs' ++ c :: ys') :
    xs = xs' ∧ ys = ys' := by
  rcases List.append_eq_append_iff.1 h with ⟨between, hxs', hys_eq⟩ | ⟨between, hxs, hys'_eq⟩
  · cases between with
    | nil => simp_all
    | cons a rest =>
      have htail : ys = rest ++ c :: ys' := (List.cons.inj hys_eq).2
      exact absurd (htail ▸ by simp) hys
  · cases between with
    | nil => simp_all
    | cons a rest =>
      have htail : ys' = rest ++ c :: ys := (List.cons.inj hys'_eq).2
      exact absurd (htail ▸ by simp) hys'

theorem append_cons_inj_of_notMem_left {α : Type} {c : α} {xs ys xs' ys' : List α}
    (hxs : c ∉ xs) (hxs' : c ∉ xs') (h : xs ++ c :: ys = xs' ++ c :: ys') :
    xs = xs' ∧ ys = ys' := by
  have hreverse : ys.reverse ++ c :: xs.reverse = ys'.reverse ++ c :: xs'.reverse := by
    simpa using congrArg List.reverse h
  obtain ⟨hys, hxs⟩ :=
    append_cons_inj_of_notMem_right (by simpa using hxs) (by simpa using hxs') hreverse
  exact ⟨List.reverse_inj.1 hxs, List.reverse_inj.1 hys⟩

/-! ## The parts of an id that hold no colon -/

theorem colon_notMem_toString (n : Nat) : ':' ∉ (toString (n : Int)).toList := by
  rw [toList_toString_natCast]
  exact fun hmem => absurd (isDigit_of_mem_toDigits hmem) (by decide)

theorem toString_natCast_inj {m n : Nat} (h : toString (m : Int) = toString (n : Int)) :
    m = n := by
  have hdigits : Nat.toDigits 10 m = Nat.toDigits 10 n := by
    rw [← toList_toString_natCast, ← toList_toString_natCast, h]
  rw [← Nat.ofDigitChars_ten_toDigits (n := m), hdigits, Nat.ofDigitChars_ten_toDigits]

theorem DefinitionKind.colon_notMem_label (kind : DefinitionKind) :
    ':' ∉ kind.label.toList := by
  cases kind <;> decide

/-- The name that a line announces is made of word characters, so it holds no colon. -/
theorem Definition.colon_notMem_name {line : Line} {definition : Definition}
    (h : Definition.ofLine? line = some definition) : ':' ∉ definition.name.toList := by
  obtain ⟨blanks, rest, hopened⟩ := ofLine?_eq_some_iff.1 h
  exact fun hcolon => (not_separator_of_isWord (hopened.word ':' hcolon)).2.1 rfl

theorem DefinitionKind.label_ne (kind : DefinitionKind) :
    kind.label ≠ folderKind ∧ kind.label ≠ fileKind := by
  cases kind <;> decide

/-! ## Reading an id -/

/-- What stands before the first colon and what stands after it are known from a text. -/
theorem kind_inj {kind kind' rest rest' : String} (hkind : ':' ∉ kind.toList)
    (hkind' : ':' ∉ kind'.toList) (h : kind ++ ":" ++ rest = kind' ++ ":" ++ rest') :
    kind = kind' ∧ rest = rest' := by
  have hlists : kind.toList ++ ':' :: rest.toList = kind'.toList ++ ':' :: rest'.toList := by
    simpa using congrArg String.toList h
  obtain ⟨hkinds, hrests⟩ := append_cons_inj_of_notMem_left hkind hkind' hlists
  exact ⟨String.toList_inj.1 hkinds, String.toList_inj.1 hrests⟩

/-- What stands before the last colon and what stands after it are known from a text. -/
theorem name_inj {rest rest' name name' : String} (hname : ':' ∉ name.toList)
    (hname' : ':' ∉ name'.toList) (h : rest ++ ":" ++ name = rest' ++ ":" ++ name') :
    rest = rest' ∧ name = name' := by
  have hlists : rest.toList ++ ':' :: name.toList = rest'.toList ++ ':' :: name'.toList := by
    simpa using congrArg String.toList h
  obtain ⟨hrests, hnames⟩ := append_cons_inj_of_notMem_right hname hname' hlists
  exact ⟨String.toList_inj.1 hrests, String.toList_inj.1 hnames⟩

theorem definitionId_inj {kind kind' : DefinitionKind} {path path' name name' : String}
    {line line' : Nat} (hname : ':' ∉ name.toList) (hname' : ':' ∉ name'.toList)
    (h : definitionId kind.label path line name = definitionId kind'.label path' line' name') :
    kind.label = kind'.label ∧ path = path' ∧ line = line' ∧ name = name' := by
  simp only [definitionId] at h
  obtain ⟨hplace, hnames⟩ := name_inj hname hname' h
  obtain ⟨hpath, hlines⟩ :=
    name_inj (colon_notMem_toString line) (colon_notMem_toString line') hplace
  obtain ⟨hkinds, hpaths⟩ := kind_inj kind.colon_notMem_label kind'.colon_notMem_label hpath
  exact ⟨hkinds, hpaths, toString_natCast_inj hlines, hnames⟩

/-- The id of a folder, a file or a definition at a path. -/
inductive IsIdAt (path : String) : String → Prop
  | folder : IsIdAt path (folderId path)
  | file : IsIdAt path (fileId path)
  | definition (kind : DefinitionKind) (line : Nat) {name : String} (hname : ':' ∉ name.toList) :
      IsIdAt path (definitionId kind.label path line name)

theorem definitionId_eq (kind path : String) (line : Int) (name : String) :
    definitionId kind path line name
      = kind ++ ":" ++ (path ++ ":" ++ toString line ++ ":" ++ name) := by
  simp only [definitionId, String.append_assoc]

theorem definitionId_ne_folderId (kind : DefinitionKind) (path path' name : String) (line : Nat) :
    definitionId kind.label path line name ≠ folderId path' := by
  rw [definitionId_eq]
  intro h
  exact kind.label_ne.1 (kind_inj kind.colon_notMem_label (by decide) h).1

theorem definitionId_ne_fileId (kind : DefinitionKind) (path path' name : String) (line : Nat) :
    definitionId kind.label path line name ≠ fileId path' := by
  rw [definitionId_eq]
  intro h
  exact kind.label_ne.2 (kind_inj kind.colon_notMem_label (by decide) h).1

theorem folderId_ne_fileId (path path' : String) : folderId path ≠ fileId path' := by
  intro h
  have hkinds : folderKind = fileKind := (kind_inj (by decide) (by decide) h).1
  exact absurd hkinds (by decide)

/-- An id tells the path at which its node stands. -/
theorem IsIdAt.path_eq {path path' id : String} (h : IsIdAt path id) (h' : IsIdAt path' id) :
    path = path' := by
  generalize hid : id = id' at h'
  cases h with
  | folder =>
    cases h' with
    | folder => exact (kind_inj (by decide) (by decide) hid).2
    | file => exact absurd hid (folderId_ne_fileId _ _)
    | definition kind line hname => exact absurd hid.symm (definitionId_ne_folderId _ _ _ _ _)
  | file =>
    cases h' with
    | folder => exact absurd hid.symm (folderId_ne_fileId _ _)
    | file => exact (kind_inj (by decide) (by decide) hid).2
    | definition kind line hname => exact absurd hid.symm (definitionId_ne_fileId _ _ _ _ _)
  | definition kind line hname =>
    cases h' with
    | folder => exact absurd hid (definitionId_ne_folderId _ _ _ _ _)
    | file => exact absurd hid (definitionId_ne_fileId _ _ _ _ _)
    | definition kind' line' hname' => exact (definitionId_inj hname hname' hid).2.1

/-! ## Ids and what they are made of -/

theorem folderId_injective : Function.Injective folderId := by
  intro path path' h
  exact (kind_inj (by decide) (by decide) h).2

theorem fileId_injective : Function.Injective fileId := by
  intro path path' h
  exact (kind_inj (by decide) (by decide) h).2

theorem DefinitionKind.label_injective : Function.Injective DefinitionKind.label := by
  intro kind kind' h
  cases kind <;> cases kind' <;> first | rfl | exact absurd h (by decide)

/-- A name that a line can announce. -/
def IsAnnounced (name : String) : Prop :=
  ∃ line definition, Definition.ofLine? line = some definition ∧ definition.name = name

theorem IsAnnounced.colon_notMem {name : String} (h : IsAnnounced name) : ':' ∉ name.toList := by
  obtain ⟨line, definition, hopens, rfl⟩ := h
  exact Definition.colon_notMem_name hopens

/-- **Ids are unambiguous.** Whatever paths hold, the id of a definition whose name a line can
    announce tells its kind, its path, its line and its name, the ids of folders and of files tell
    their paths, and no id belongs to two of folders, files and definitions. -/
theorem nodeIds_unambiguous :
    (∀ (kind kind' : DefinitionKind) (path path' : String) (line line' : Nat)
      (name name' : String), IsAnnounced name → IsAnnounced name' →
      definitionId kind.label path line name = definitionId kind'.label path' line' name' →
      kind = kind' ∧ path = path' ∧ line = line' ∧ name = name') ∧
    Function.Injective folderId ∧ Function.Injective fileId ∧
    ∀ path path' : String, folderId path ≠ fileId path' ∧
      ∀ (kind : DefinitionKind) (line : Nat) (name : String),
        definitionId kind.label path line name ≠ folderId path' ∧
        definitionId kind.label path line name ≠ fileId path' := by
  refine ⟨?_, folderId_injective, fileId_injective, fun path path' => ?_⟩
  · intro kind kind' path path' line line' name name' hname hname' hid
    obtain ⟨hkind, hpath, hline, hnames⟩ :=
      definitionId_inj hname.colon_notMem hname'.colon_notMem hid
    exact ⟨DefinitionKind.label_injective hkind, hpath, hline, hnames⟩
  · refine ⟨folderId_ne_fileId path path', fun kind line name => ?_⟩
    exact ⟨definitionId_ne_folderId kind path path' name line,
      definitionId_ne_fileId kind path path' name line⟩

/-- With a colon in a name, two definitions at different paths could have the same id. -/
example : definitionId "class" "/a" 1 "B:2:C" = definitionId "class" "/a:1:B" 2 "C" := by decide

end SourceOutline
