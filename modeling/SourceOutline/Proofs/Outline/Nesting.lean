import SourceOutline.Outline.Scan

set_option autoImplicit false

/-! # Nesting

The outline of a text is made in one pass with a stack of open scopes. Read line by line it is
simpler, if quadratic: there is a node for every line that opens a definition, and the parent of the
one on line `i` is the definition on the last earlier line that is indented less, or the file if no
earlier line is (`IsEnclosing`). Main statement: the two agree.

The stack is never described frame by frame. What matters of it is which id it gives as the parent
at a depth, for every depth that could come next, and that is the last shallower definition so far
(`Mirrors`). Closing scopes for one depth loses nothing that a smaller depth could ask for. -/

namespace SourceOutline

/-! ## Closing and opening scopes -/

theorem dropWhile_dropWhile_of_imp {α : Type} {p q : α → Bool} (h : ∀ x, q x = true → p x = true)
    (items : List α) : (items.dropWhile q).dropWhile p = items.dropWhile p := by
  induction items with
  | nil => rfl
  | cons x rest ih =>
    cases hq : q x with
    | true => simp only [List.dropWhile_cons, hq, h x hq, if_true, ih]
    | false => simp only [List.dropWhile_cons, hq, Bool.false_eq_true, if_false]

namespace ScopeStack

variable (stack : ScopeStack Int) {depth least : Int}

/-- Closing to a depth and then to a smaller one is closing to the smaller one. -/
theorem closeTo_closeTo (h : least ≤ depth) :
    (stack.closeTo depth).closeTo least = stack.closeTo least := by
  simp only [closeTo]
  rw [dropWhile_dropWhile_of_imp]
  intro scope hscope
  simp only [decide_eq_true_eq] at hscope ⊢
  omega

theorem closeTo_push_of_le {scope : Scope Int} (h : least ≤ scope.depth) :
    (stack.push scope).closeTo least = stack.closeTo least := by
  simp [closeTo, push, h]

/-- A scope that has been opened encloses what is deeper. -/
theorem top_closeTo_push_of_lt {scope : Scope Int} (h : scope.depth < least) :
    ((stack.push scope).closeTo least).top = scope := by
  have hkept : ¬ least ≤ scope.depth := by omega
  simp [closeTo, push, top, hkept]

end ScopeStack

/-! ## Definition lines -/

/-- The definition that the line at an index opens. -/
def definitionAt? (lines : List Line) (i : Nat) : Option Definition :=
  lines[i]?.bind Definition.ofLine?

/-- The indices of the lines that open a definition, in order. -/
def definitionLines (lines : List Line) : List Nat :=
  (List.range lines.length).filter fun i => (definitionAt? lines i).isSome

theorem lt_length_of_definitionAt? {lines : List Line} {i : Nat}
    (h : (definitionAt? lines i).isSome) : i < lines.length := by
  refine Nat.lt_of_not_le fun hbeyond => ?_
  simp [definitionAt?, List.getElem?_eq_none hbeyond] at h

/-- The depth of the line at an index. -/
def depthAt (ruler : Ruler Int) (lines : List Line) (i : Nat) : Int :=
  ruler.indentation (lines.getD i [])

theorem depthAt_eq {ruler : Ruler Int} {lines : List Line} {i : Nat} {line : Line}
    (h : lines[i]? = some line) : depthAt ruler lines i = ruler.indentation line := by
  rw [depthAt, List.getD_eq_getElem?_getD, h, Option.getD_some]

/-- Line `j` encloses line `i`: of the lines before `i` that open a definition and are indented
    less, it is the last. -/
structure IsEnclosing (ruler : Ruler Int) (lines : List Line) (j i : Nat) : Prop where
  before : j < i
  opens : (definitionAt? lines j).isSome
  shallower : depthAt ruler lines j < depthAt ruler lines i
  last : ∀ k, j < k → k < i → (definitionAt? lines k).isSome →
    depthAt ruler lines i ≤ depthAt ruler lines k

/-- The last of the lines before `i` that opens a definition and is indented by less than a
    depth. -/
def enclosingLine? (ruler : Ruler Int) (lines : List Line) (depth : Int) (i : Nat) : Option Nat :=
  ((List.range i).filter fun j =>
    (definitionAt? lines j).isSome && decide (depthAt ruler lines j < depth)).getLast?

section EnclosingLine

variable {ruler : Ruler Int} {lines : List Line} {depth : Int} {i j : Nat}

theorem enclosingLine?_succ_of_shallower (hopens : (definitionAt? lines i).isSome)
    (hdepth : depthAt ruler lines i < depth) :
    enclosingLine? ruler lines depth (i + 1) = some i := by
  simp [enclosingLine?, List.range_succ, List.filter_append, hopens, hdepth]

theorem enclosingLine?_succ_of_not
    (h : (definitionAt? lines i).isSome → depth ≤ depthAt ruler lines i) :
    enclosingLine? ruler lines depth (i + 1) = enclosingLine? ruler lines depth i := by
  have hskip :
      ((definitionAt? lines i).isSome && decide (depthAt ruler lines i < depth)) = false := by
    cases hopens : (definitionAt? lines i).isSome with
    | false => rfl
    | true =>
      have hle := h hopens
      simpa using hle
  simp [enclosingLine?, List.range_succ, List.filter_append, hskip]

/-- The line sought is the last that meets the conditions. -/
theorem enclosingLine?_eq_some_iff :
    enclosingLine? ruler lines depth i = some j ↔
      j < i ∧ (definitionAt? lines j).isSome ∧ depthAt ruler lines j < depth ∧
        ∀ k, j < k → k < i → (definitionAt? lines k).isSome → depth ≤ depthAt ruler lines k := by
  induction i with
  | zero => simp [enclosingLine?]
  | succ i ih =>
    by_cases hnext : (definitionAt? lines i).isSome ∧ depthAt ruler lines i < depth
    · rw [enclosingLine?_succ_of_shallower hnext.1 hnext.2, Option.some.injEq]
      constructor
      · rintro rfl
        exact ⟨Nat.lt_succ_self i, hnext.1, hnext.2, fun k hlow hhigh => by omega⟩
      · rintro ⟨hj, -, -, hlast⟩
        rcases Nat.lt_succ_iff_lt_or_eq.1 hj with hlt | rfl
        · -- an earlier line is not the last, since `i` itself meets the conditions
          exact absurd (hlast i hlt (Nat.lt_succ_self i) hnext.1) (Int.not_le.2 hnext.2)
        · rfl
    · have hskip : (definitionAt? lines i).isSome → depth ≤ depthAt ruler lines i := by
        intro hopens
        exact Int.not_lt.1 fun hlt => hnext ⟨hopens, hlt⟩
      rw [enclosingLine?_succ_of_not hskip, ih]
      constructor
      · rintro ⟨hj, hopens, hdepth, hlast⟩
        refine ⟨by omega, hopens, hdepth, fun k hlow hhigh hk => ?_⟩
        rcases Nat.lt_succ_iff_lt_or_eq.1 hhigh with hlt | rfl
        · exact hlast k hlow hlt hk
        · exact hskip hk
      · rintro ⟨hj, hopens, hdepth, hlast⟩
        rcases Nat.lt_succ_iff_lt_or_eq.1 hj with hlt | rfl
        · exact ⟨hlt, hopens, hdepth, fun k hlow hhigh => hlast k hlow (by omega)⟩
        · exact absurd ⟨hopens, hdepth⟩ hnext

/-- The search for the line that encloses another finds it. -/
theorem enclosingLine?_depthAt_eq_some_iff :
    enclosingLine? ruler lines (depthAt ruler lines i) i = some j ↔
      IsEnclosing ruler lines j i := by
  rw [enclosingLine?_eq_some_iff]
  constructor
  · rintro ⟨hbefore, hopens, hshallower, hlast⟩
    exact ⟨hbefore, hopens, hshallower, hlast⟩
  · rintro ⟨hbefore, hopens, hshallower, hlast⟩
    exact ⟨hbefore, hopens, hshallower, hlast⟩

theorem exists_isEnclosing (hji : j < i) (hopens : (definitionAt? lines j).isSome)
    (hdepth : depthAt ruler lines j < depthAt ruler lines i) :
    ∃ k, IsEnclosing ruler lines k i := by
  cases hfound : enclosingLine? ruler lines (depthAt ruler lines i) i with
  | none =>
    have hnone := List.filter_eq_nil_iff.1 (List.getLast?_eq_none_iff.1 hfound) j
      (List.mem_range.2 hji)
    exact absurd (Bool.and_eq_true_iff.2 ⟨hopens, decide_eq_true hdepth⟩) hnone
  | some k => exact ⟨k, enclosingLine?_depthAt_eq_some_iff.1 hfound⟩

/-- The line that encloses another stands no higher than any shallower definition above it. -/
theorem IsEnclosing.le_of_shallower {k : Nat} (h : IsEnclosing ruler lines k i) (hji : j < i)
    (hopens : (definitionAt? lines j).isSome)
    (hdepth : depthAt ruler lines j < depthAt ruler lines i) : j ≤ k := by
  refine Nat.le_of_not_lt fun hkj => ?_
  have hdeeper := h.last j hkj hji hopens
  omega

end EnclosingLine

/-! ## The outline, line by line -/

variable (context : ScanContext Int) (lines : List Line)

/-- The id of the definition that the line at an index opens. -/
def idAt? (i : Nat) : Option String :=
  (definitionAt? lines i).map fun definition =>
    definitionId definition.kind.label context.sourcePath i definition.name

/-- The id of what encloses a definition at a depth on line `i`. -/
def enclosingId (depth : Int) (i : Nat) : String :=
  ((enclosingLine? context.ruler lines depth i).bind (idAt? context lines)).getD context.fileId

/-- The node of the definition that the line at an index opens. -/
def nodeAt? (i : Nat) : Option Node :=
  (definitionAt? lines i).map fun definition =>
    definition.toNode context lines i
      (blockLength context.ruler (depthAt context.ruler lines i) (lines.drop (i + 1)))
      (enclosingId context lines (depthAt context.ruler lines i) i)

/-- The scopes that are open before line `i` give the parent at every depth. -/
def Mirrors (i : Nat) (scopes : ScopeStack Int) : Prop :=
  ∀ depth, (scopes.closeTo depth).top.id = enclosingId context lines depth i

variable {context lines} {i : Nat} {scopes : ScopeStack Int}

theorem mirrors_ofFile (outside : Int) :
    Mirrors context lines 0 (ScopeStack.ofFile outside context.fileId) := by
  intro depth
  simp [ScopeStack.ofFile, ScopeStack.closeTo, ScopeStack.top, enclosingId, enclosingLine?]

/-- A line that opens no definition leaves the scopes as they are. -/
theorem Mirrors.skip (h : Mirrors context lines i scopes) (hline : definitionAt? lines i = none) :
    Mirrors context lines (i + 1) scopes := by
  intro depth
  rw [h depth, enclosingId, enclosingId, enclosingLine?_succ_of_not (by simp [hline])]

/-- A definition closes the scopes that do not enclose it and opens its own. -/
theorem Mirrors.push {scope : Scope Int} (h : Mirrors context lines i scopes)
    (hid : idAt? context lines i = some scope.id)
    (hdepth : scope.depth = depthAt context.ruler lines i) :
    Mirrors context lines (i + 1) ((scopes.closeTo scope.depth).push scope) := by
  intro depth
  have hopens : (definitionAt? lines i).isSome := by
    have hsome : (idAt? context lines i).isSome := by rw [hid]; rfl
    simpa [idAt?] using hsome
  rcases Int.lt_or_le scope.depth depth with hlt | hle
  · rw [ScopeStack.top_closeTo_push_of_lt _ hlt, enclosingId,
      enclosingLine?_succ_of_shallower hopens (hdepth ▸ hlt)]
    simp [hid]
  · rw [ScopeStack.closeTo_push_of_le _ hle, ScopeStack.closeTo_closeTo _ hle, h depth,
      enclosingId, enclosingId, enclosingLine?_succ_of_not fun _ => hdepth ▸ hle]

/-- The lines from `i` on give the nodes of the definitions among them, if the scopes mirror the
    lines before. -/
theorem outlineFrom_eq_filterMap (after : List Line) :
    ∀ (i : Nat) (scopes : ScopeStack Int), lines.drop i = after → Mirrors context lines i scopes →
      outlineFrom context lines i scopes after
        = (List.range' i after.length).filterMap (nodeAt? context lines) := by
  induction after with
  | nil =>
    intro i scopes _ _
    rfl
  | cons line after ih =>
    intro i scopes hdrop hscopes
    have hline : lines[i]? = some line := by
      rw [← List.head?_drop, hdrop]
      rfl
    have hafter : lines.drop (i + 1) = after := by
      rw [← List.tail_drop, hdrop]
      rfl
    have hdefinition : definitionAt? lines i = Definition.ofLine? line := by
      simp [definitionAt?, hline]
    have hdepth : depthAt context.ruler lines i = context.ruler.indentation line := by
      simp [depthAt, List.getD, hline]
    rw [List.length_cons, List.range'_succ, List.filterMap_cons, outlineFrom]
    cases hopens : Definition.ofLine? line with
    | none =>
      have hnode : nodeAt? context lines i = none := by simp [nodeAt?, hdefinition, hopens]
      rw [hnode]
      exact ih (i + 1) scopes hafter (hscopes.skip (hdefinition.trans hopens))
    | some definition =>
      have hnode : nodeAt? context lines i = some (definition.toNode context lines i
          (blockLength context.ruler (context.ruler.indentation line) after)
          (scopes.closeTo (context.ruler.indentation line)).top.id) := by
        rw [hscopes (context.ruler.indentation line)]
        simp [nodeAt?, hdefinition, hopens, hdepth, hafter]
      have hid : idAt? context lines i = some (definitionId definition.kind.label
          context.sourcePath i definition.name) := by
        simp [idAt?, hdefinition, hopens]
      rw [hnode]
      refine congrArg (_ :: ·) (ih (i + 1) _ hafter (hscopes.push ?_ hdepth.symm))
      exact hid

/-- The outline of a text has a node for each line that opens a definition, made of what stands on
    the line, below it, and enclosing it. -/
theorem outline_eq_filterMap (context : ScanContext Int) (source : String) :
    outline context source = (List.range (splitLines source.toList).length).filterMap
      (nodeAt? context (splitLines source.toList)) := by
  rw [List.range_eq_range']
  exact outlineFrom_eq_filterMap _ 0 _ (List.drop_zero) (mirrors_ofFile _)

/-- A node of an outline is the one of a line that opens a definition. -/
theorem mem_outline_iff {context : ScanContext Int} {source : String} {node : Node} :
    node ∈ outline context source ↔
      ∃ i, nodeAt? context (splitLines source.toList) i = some node := by
  rw [outline_eq_filterMap, List.mem_filterMap]
  constructor
  · rintro ⟨i, -, hi⟩
    exact ⟨i, hi⟩
  · rintro ⟨i, hi⟩
    refine ⟨i, List.mem_range.2 ?_, hi⟩
    -- beyond the last line there is no line that could open a definition
    rcases Nat.lt_or_ge i (splitLines source.toList).length with hlt | hge
    · exact hlt
    · simp [nodeAt?, definitionAt?, List.getElem?_eq_none hge] at hi

theorem map_startLine_outline (context : ScanContext Int) (source : String) :
    (outline context source).map (·.startLine)
      = (definitionLines (splitLines source.toList)).map fun i : Nat => (i : Int) := by
  rw [outline_eq_filterMap, List.map_filterMap, definitionLines]
  induction List.range (splitLines source.toList).length with
  | nil => rfl
  | cons i rest ih =>
    rw [List.filterMap_cons, List.filter_cons]
    cases hopens : definitionAt? (splitLines source.toList) i with
    | none => simpa [nodeAt?, hopens] using ih
    | some definition => simpa [nodeAt?, hopens, Definition.toNode] using ih

theorem pairwise_definitionLines (lines : List Line) :
    (definitionLines lines).Pairwise (· < ·) :=
  List.pairwise_lt_range.filter _

/-- The node of a line is made of the definition that the line opens. -/
theorem nodeAt?_eq_some_iff {node : Node} :
    nodeAt? context lines i = some node ↔ ∃ definition, definitionAt? lines i = some definition ∧
      definition.toNode context lines i
        (blockLength context.ruler (depthAt context.ruler lines i) (lines.drop (i + 1)))
        (enclosingId context lines (depthAt context.ruler lines i) i) = node :=
  Option.map_eq_some_iff

theorem exists_nodeAt? (context : ScanContext Int) (h : (definitionAt? lines i).isSome) :
    ∃ node, nodeAt? context lines i = some node := by
  obtain ⟨definition, hdefinition⟩ := Option.isSome_iff_exists.1 h
  exact ⟨_, nodeAt?_eq_some_iff.2 ⟨definition, hdefinition, rfl⟩⟩

theorem sourcePath_of_nodeAt? {node : Node} (h : nodeAt? context lines i = some node) :
    node.sourcePath = context.sourcePath := by
  obtain ⟨definition, -, rfl⟩ := Option.map_eq_some_iff.1 h
  rfl

theorem isSome_definitionAt?_of_nodeAt? {node : Node} (h : nodeAt? context lines i = some node) :
    (definitionAt? lines i).isSome := by
  obtain ⟨definition, hdefinition, -⟩ := nodeAt?_eq_some_iff.1 h
  rw [hdefinition]
  rfl

/-- The parent of the node on a line is the node on the line that encloses it. -/
theorem parentId_of_isEnclosing {node : Node} {j : Nat}
    (hnode : nodeAt? context lines i = some node) (h : IsEnclosing context.ruler lines j i) :
    ∃ parent, nodeAt? context lines j = some parent ∧ node.parentId = some parent.id := by
  obtain ⟨definition, -, rfl⟩ := nodeAt?_eq_some_iff.1 hnode
  obtain ⟨enclosing, henclosing⟩ := Option.isSome_iff_exists.1 h.opens
  refine ⟨_, nodeAt?_eq_some_iff.2 ⟨enclosing, henclosing, rfl⟩, ?_⟩
  simp [Definition.toNode, enclosingId, enclosingLine?_depthAt_eq_some_iff.2 h, idAt?, henclosing]

theorem parentId_of_not_isEnclosing {node : Node} (hnode : nodeAt? context lines i = some node)
    (h : ∀ j, ¬ IsEnclosing context.ruler lines j i) : node.parentId = some context.fileId := by
  obtain ⟨definition, -, rfl⟩ := nodeAt?_eq_some_iff.1 hnode
  have hnone : enclosingLine? context.ruler lines (depthAt context.ruler lines i) i = none :=
    Option.eq_none_iff_forall_ne_some.2 fun j hj =>
      h j (enclosingLine?_depthAt_eq_some_iff.1 hj)
  simp [Definition.toNode, enclosingId, hnone]

/-- **The outline nests by indentation.** Whatever a tab counts for, the outline of a text has one
    node for each line that opens a definition, from top to bottom; its parent is the node of the
    line that encloses it, and the file where none does. -/
theorem outline_nesting (tabWidth snippetLines : Int) (sourcePath fileId source : String) :
    let ruler := Ruler.ofTabWidth tabWidth
    let lines := splitLines source.toList
    let nodes := outline { ruler, snippetLines, sourcePath, fileId } source
    nodes.map (·.startLine) = (definitionLines lines).map (fun i : Nat => (i : Int)) ∧
    (nodes.map (·.startLine)).Pairwise (· < ·) ∧
    ∀ node ∈ nodes, ∃ (i : Nat) (definition : Definition), node.startLine = i ∧
      definitionAt? lines i = some definition ∧
      node.kind = definition.kind.label ∧ node.label = definition.name ∧
      (∀ j, IsEnclosing ruler lines j i →
        ∃ parent ∈ nodes, parent.startLine = j ∧ node.parentId = some parent.id) ∧
      ((∀ j, ¬ IsEnclosing ruler lines j i) → node.parentId = some fileId) := by
  intro ruler lines nodes
  have hstarts : nodes.map (·.startLine) = (definitionLines lines).map (fun i : Nat => (i : Int)) :=
    map_startLine_outline _ source
  refine ⟨hstarts, ?_, fun node hmem => ?_⟩
  · rw [hstarts, List.pairwise_map]
    exact (pairwise_definitionLines lines).imp Int.ofNat_lt.2
  · obtain ⟨i, hi⟩ := mem_outline_iff.1 hmem
    obtain ⟨definition, hdefinition, hnode⟩ := nodeAt?_eq_some_iff.1 hi
    refine ⟨i, definition, by rw [← hnode]; rfl, hdefinition, by rw [← hnode]; rfl,
      by rw [← hnode]; rfl, fun j henclosing => ?_, fun hnone => ?_⟩
    · obtain ⟨parent, hparent, hid⟩ := parentId_of_isEnclosing hi henclosing
      obtain ⟨opening, -, hopening⟩ := nodeAt?_eq_some_iff.1 hparent
      exact ⟨parent, mem_outline_iff.2 ⟨j, hparent⟩, by rw [← hopening]; rfl, hid⟩
    · exact parentId_of_not_isEnclosing hi hnone

end SourceOutline
