import SourceOutline.Outline.Scan
import SourceOutline.Proofs.Graph.Identity

set_option autoImplicit false

/-! # What the nodes of an outline are

Every node of an outline is made of the definition on some line, and its block ends within the text
(`exists_toNode_of_mem_outlineFrom`). Its parent is the file or a definition on an earlier line of
the same text (`exists_parent_of_mem_outline`). Both hold however depths are measured, since they
are read off the one pass that makes the outline and not off the depths. -/

namespace SourceOutline

/-! ## Open scopes -/

namespace ScopeStack

variable {δ : Type} {stack : ScopeStack δ}

theorem top_mem_toList (stack : ScopeStack δ) : stack.top ∈ stack.toList := by
  obtain ⟨inner, bottom⟩ := stack
  cases inner with
  | nil => simp [top, toList]
  | cons scope inner => simp [top, toList]

theorem mem_toList_of_closeTo [LE δ] [DecidableLE δ] {depth : δ} {scope : Scope δ}
    (h : scope ∈ (stack.closeTo depth).toList) : scope ∈ stack.toList := by
  simp only [toList, closeTo, List.mem_cons, List.mem_reverse] at h ⊢
  exact h.imp_right fun hinner => (List.dropWhile_sublist _).subset hinner

theorem mem_toList_push {scope other : Scope δ} :
    other ∈ (stack.push scope).toList ↔ other ∈ stack.toList ∨ other = scope := by
  simp only [toList, push, List.reverse_cons, List.mem_cons, List.mem_append, List.not_mem_nil,
    or_false, or_assoc]

end ScopeStack

/-! ## Nodes and their lines -/

section Outline

variable {δ : Type} (context : ScanContext δ) (lines : List Line)
variable [Add δ] [LE δ] [DecidableLE δ]

/-- A node of the lines from `index` on is made of a definition on one of them, and its block ends
    there. -/
theorem exists_toNode_of_mem_outlineFrom (after : List Line) :
    ∀ (index : Nat) (scopes : ScopeStack δ),
      ∀ node ∈ outlineFrom context lines index scopes after,
        ∃ (definition : Definition) (i length : Nat) (parentId : String),
          ':' ∉ definition.name.toList ∧ index ≤ i ∧ i + length < index + after.length ∧
            node = definition.toNode context lines i length parentId := by
  induction after with
  | nil => exact fun _ _ node hnode => absurd hnode List.not_mem_nil
  | cons line after ih =>
    intro index scopes node hnode
    -- what is found of a node on the later lines holds from this line on
    have hlater : ∀ scopes : ScopeStack δ,
        node ∈ outlineFrom context lines (index + 1) scopes after →
        ∃ (definition : Definition) (i length : Nat) (parentId : String),
          ':' ∉ definition.name.toList ∧ index ≤ i ∧ i + length < index + (line :: after).length ∧
            node = definition.toNode context lines i length parentId := by
      intro scopes hnode
      obtain ⟨definition, i, length, parentId, hname, hle, hlt, heq⟩ :=
        ih (index + 1) scopes node hnode
      rw [List.length_cons]
      exact ⟨definition, i, length, parentId, hname, by omega, by omega, heq⟩
    rw [outlineFrom] at hnode
    cases hopens : Definition.ofLine? line with
    | none =>
      rw [hopens] at hnode
      exact hlater scopes hnode
    | some definition =>
      rw [hopens] at hnode
      rcases List.mem_cons.1 hnode with rfl | hrest
      · have hblock := blockLength_le context.ruler (context.ruler.indentation line) after
        refine ⟨definition, index, _, _, Definition.colon_notMem_name hopens, Nat.le_refl _, ?_,
          rfl⟩
        rw [List.length_cons]
        omega
      · exact hlater _ hrest

/-- The parent of a node of the lines from `index` on is an open scope or the definition on an
    earlier one of these lines. -/
theorem exists_parent_of_mem_outlineFrom (after : List Line) :
    ∀ (index : Nat) (scopes : ScopeStack δ),
      ∀ node ∈ outlineFrom context lines index scopes after,
        (∃ scope ∈ scopes.toList, node.parentId = some scope.id) ∨
        ∃ parent ∈ outlineFrom context lines index scopes after,
          node.parentId = some parent.id ∧ parent.startLine < node.startLine := by
  induction after with
  | nil => exact fun _ _ node hnode => absurd hnode List.not_mem_nil
  | cons line after ih =>
    intro index scopes node hnode
    rw [outlineFrom] at hnode ⊢
    cases hopens : Definition.ofLine? line with
    | none =>
      rw [hopens] at hnode
      exact ih (index + 1) scopes node hnode
    | some definition =>
      rw [hopens] at hnode
      rcases List.mem_cons.1 hnode with rfl | hrest
      · exact .inl ⟨_, ScopeStack.mem_toList_of_closeTo (ScopeStack.top_mem_toList _), rfl⟩
      rcases ih (index + 1) _ node hrest with ⟨scope, hscope, hparent⟩ | ⟨parent, hmem, hparent⟩
      · rcases ScopeStack.mem_toList_push.1 hscope with hopen | rfl
        · exact .inl ⟨scope, ScopeStack.mem_toList_of_closeTo hopen, hparent⟩
        · -- the scope that this line opens
          obtain ⟨other, i, length, parentId, -, hle, -, rfl⟩ :=
            exists_toNode_of_mem_outlineFrom context lines after (index + 1) _ node hrest
          refine .inr ⟨_, List.mem_cons_self, hparent, ?_⟩
          simp only [Definition.toNode]
          omega
      · exact .inr ⟨parent, List.mem_cons_of_mem _ hmem, hparent⟩

/-- The parent of a definition in a text is the file or the definition on an earlier line. -/
theorem exists_parent_of_mem_outline {source : String} {node : Node}
    (h : node ∈ outline context source) :
    node.parentId = some context.fileId ∨
      ∃ parent ∈ outline context source,
        node.parentId = some parent.id ∧ parent.startLine < node.startLine := by
  refine (exists_parent_of_mem_outlineFrom context _ _ 0 _ node h).imp_left ?_
  rintro ⟨scope, hscope, hparent⟩
  rw [List.mem_singleton.1 hscope] at hparent
  exact hparent

end Outline

/-! ## Definitions in a text -/

/-- A node is that of a definition in a text: its block runs from one line to another, and its
    snippet shows the first lines of the block. -/
structure Node.IsDefinitionIn (sourcePath : String) (lines : List Line) (snippetLines : Int)
    (node : Node) : Prop where
  sourcePath_eq : node.sourcePath = sourcePath
  exists_kind : ∃ kind : DefinitionKind, node.kind = kind.label
  exists_id : ∃ (kind : DefinitionKind) (line : Nat) (name : String),
    ':' ∉ name.toList ∧ node.id = definitionId kind.label sourcePath line name
  exists_range : ∃ first last : Nat, node.startLine = first ∧ node.endLine = some (last : Int) ∧
    first ≤ last ∧ last < lines.length ∧
      node.snippet = some (snippetOf lines snippetLines first last)

theorem isDefinitionIn_of_mem_outline {δ : Type} [Add δ] [LE δ] [DecidableLE δ]
    (context : ScanContext δ) {source : String} {node : Node} (h : node ∈ outline context source) :
    node.IsDefinitionIn context.sourcePath (splitLines source.toList) context.snippetLines := by
  obtain ⟨definition, i, length, parentId, hname, -, hlt, rfl⟩ :=
    exists_toNode_of_mem_outlineFrom context _ _ 0 _ node h
  rw [Nat.zero_add] at hlt
  exact ⟨rfl, ⟨definition.kind, rfl⟩, ⟨definition.kind, i, definition.name, hname, rfl⟩,
    ⟨i, i + length, rfl, by simp [Definition.toNode], Nat.le_add_right _ _, hlt,
      by simp [Definition.toNode]⟩⟩

end SourceOutline
