import SourceOutline.Proofs.Graph.Identity
import SourceOutline.Proofs.Outline.DefinitionLine
import SourceOutline.Proofs.Outline.Nesting

set_option autoImplicit false

/-! # How far blocks reach

A parent is found among the definitions alone, but the end of a block among all lines that hold
code. So the block of a node lies inside the block of its parent only while nothing has ended the
latter: a statement in between that is indented no deeper than the parent leaves it behind, and a
definition below that statement, if it is indented, still counts as a child. Main statement: this
is the only way in which a block can leave its parent's. -/

namespace SourceOutline

/-! ## The lines of a block -/

theorem lt_blockLength_iff (ruler : Ruler Int) (depth : Int) (after : List Line) (k : Nat) :
    k < blockLength ruler depth after ↔ k < after.length ∧
      ∀ m line, m ≤ k → after[m]? = some line → closesBlock ruler depth line = false := by
  induction after generalizing k with
  | nil => simp [blockLength]
  | cons first rest ih =>
    cases hcloses : closesBlock ruler depth first with
    | true =>
      have hempty : blockLength ruler depth (first :: rest) = 0 := by simp [blockLength, hcloses]
      rw [hempty]
      constructor
      · intro h
        exact absurd h (Nat.not_lt_zero k)
      · rintro ⟨-, hopen⟩
        exact absurd (hopen 0 first (Nat.zero_le k) rfl) (by simp [hcloses])
    | false =>
      have hlonger :
          blockLength ruler depth (first :: rest) = blockLength ruler depth rest + 1 := by
        simp [blockLength, hcloses]
      rw [hlonger]
      cases k with
      | zero =>
        constructor
        · intro _
          refine ⟨Nat.succ_pos _, fun m line hm hline => ?_⟩
          obtain rfl := Nat.le_zero.1 hm
          rw [← Option.some.inj hline, hcloses]
        · intro _
          exact Nat.succ_pos _
      | succ k =>
        rw [Nat.add_lt_add_iff_right, ih, List.length_cons, Nat.add_lt_add_iff_right]
        refine and_congr_right fun _ => ⟨fun h m line hm hline => ?_, fun h m line hm hline => ?_⟩
        · cases m with
          | zero => rw [← Option.some.inj hline, hcloses]
          | succ m => exact h m line (Nat.le_of_succ_le_succ hm) hline
        · exact h (m + 1) line (Nat.succ_le_succ hm) hline

theorem closesBlock_eq_true_iff {ruler : Ruler Int} {depth : Int} {line : Line} :
    closesBlock ruler depth line = true ↔
      isCode line = true ∧ ruler.indentation line ≤ depth := by
  simp only [closesBlock, Bool.and_eq_true, decide_eq_true_eq]

theorem closesBlock_of_le {ruler : Ruler Int} {depth deeper : Int} {line : Line}
    (hle : depth ≤ deeper) (h : closesBlock ruler depth line = true) :
    closesBlock ruler deeper line = true := by
  obtain ⟨hcode, hshallow⟩ := closesBlock_eq_true_iff.1 h
  exact closesBlock_eq_true_iff.2 ⟨hcode, Int.le_trans hshallow hle⟩

theorem closesBlock_eq_false_iff {ruler : Ruler Int} {depth : Int} {line : Line} :
    closesBlock ruler depth line = false ↔
      (isCode line = true → depth < ruler.indentation line) := by
  cases hcode : isCode line <;> simp [closesBlock, hcode]

theorem isCode_of_ofLine? {line : Line} {definition : Definition}
    (h : Definition.ofLine? line = some definition) : isCode line = true := by
  obtain ⟨blanks, rest, hopened⟩ := Definition.ofLine?_eq_some_iff.1 h
  rw [isCode, hopened.text_eq]
  cases definition.kind <;> rfl

theorem exists_line_of_definitionAt? {lines : List Line} {i : Nat}
    (h : (definitionAt? lines i).isSome) : ∃ line, lines[i]? = some line ∧ isCode line = true := by
  obtain ⟨definition, hdefinition⟩ := Option.isSome_iff_exists.1 h
  obtain ⟨line, hline, hopens⟩ := Option.bind_eq_some_iff.1 hdefinition
  exact ⟨line, hline, isCode_of_ofLine? hopens⟩

theorem isCode_getD_eq {lines : List Line} {i : Nat} {line : Line} (h : lines[i]? = some line) :
    isCode (lines.getD i []) = isCode line := by
  rw [List.getD_eq_getElem?_getD, h, Option.getD_some]

theorem isCode_getD_of_definitionAt? {lines : List Line} {i : Nat}
    (h : (definitionAt? lines i).isSome) : isCode (lines.getD i []) = true := by
  obtain ⟨line, hline, hcode⟩ := exists_line_of_definitionAt? h
  rw [isCode_getD_eq hline, hcode]

theorem exists_line_of_isCode {lines : List Line} {i : Nat} (h : isCode (lines.getD i []) = true) :
    ∃ line, lines[i]? = some line ∧ isCode line = true := by
  cases hline : lines[i]? with
  | none =>
    rw [List.getD_eq_getElem?_getD, hline] at h
    exact absurd h (by decide)
  | some line => exact ⟨line, rfl, isCode_getD_eq hline ▸ h⟩

/-- A later line is in the block that opens on another if no line after that one up to it ends the
    block. -/
theorem le_add_blockLength_iff {ruler : Ruler Int} {lines : List Line} {depth : Int} {i k : Nat}
    (h : i < k) :
    k ≤ i + blockLength ruler depth (lines.drop (i + 1)) ↔ k < lines.length ∧
      ∀ m line, i < m → m ≤ k → lines[m]? = some line → closesBlock ruler depth line = false := by
  have hoffset : k ≤ i + blockLength ruler depth (lines.drop (i + 1)) ↔
      k - (i + 1) < blockLength ruler depth (lines.drop (i + 1)) := by
    omega
  rw [hoffset, lt_blockLength_iff, List.length_drop]
  refine and_congr (by omega) ⟨fun h m line hlow hhigh hline => ?_, fun h m line hm hline => ?_⟩
  · refine h (m - (i + 1)) line (by omega) ?_
    rw [List.getElem?_drop, show i + 1 + (m - (i + 1)) = m by omega, hline]
  · rw [List.getElem?_drop] at hline
    exact h (i + 1 + m) line (by omega) (by omega) hline

section LastLine

variable {ruler : Ruler Int} {lines : List Line} {i j k : Nat}

/-- The index of the last line of the block that a line opens. -/
def lastLineAt (ruler : Ruler Int) (lines : List Line) (i : Nat) : Nat :=
  i + blockLength ruler (depthAt ruler lines i) (lines.drop (i + 1))

theorem le_lastLineAt (ruler : Ruler Int) (lines : List Line) (i : Nat) :
    i ≤ lastLineAt ruler lines i :=
  Nat.le_add_right i _

theorem le_lastLineAt_iff (h : i < k) :
    k ≤ lastLineAt ruler lines i ↔ k < lines.length ∧
      ∀ m line, i < m → m ≤ k → lines[m]? = some line →
        closesBlock ruler (depthAt ruler lines i) line = false :=
  le_add_blockLength_iff h

theorem lastLineAt_lt_length (ruler : Ruler Int) (h : i < lines.length) :
    lastLineAt ruler lines i < lines.length := by
  rcases Nat.eq_or_lt_of_le (le_lastLineAt ruler lines i) with heq | hlt
  · rwa [← heq]
  · exact ((le_lastLineAt_iff hlt).1 (Nat.le_refl _)).1

/-- A block that starts in another ends in it, if its first line holds code. -/
theorem lastLineAt_le_lastLineAt {line : Line} (hij : i < j) (hline : lines[j]? = some line)
    (hcode : isCode line = true) (hstart : j ≤ lastLineAt ruler lines i) :
    lastLineAt ruler lines j ≤ lastLineAt ruler lines i := by
  have hopen := ((le_lastLineAt_iff hij).1 hstart).2
  have hdeeper : depthAt ruler lines i ≤ depthAt ruler lines j := by
    have hlt := closesBlock_eq_false_iff.1 (hopen j line hij (Nat.le_refl j) hline) hcode
    simpa [depthAt, List.getD, hline] using Int.le_of_lt hlt
  rcases Nat.lt_or_ge j (lastLineAt ruler lines j) with hlt | hge
  · have hinner := (le_lastLineAt_iff hlt).1 (Nat.le_refl _)
    refine (le_lastLineAt_iff (Nat.lt_trans hij hlt)).2 ⟨hinner.1, fun m found hlow hhigh hm => ?_⟩
    rcases Nat.lt_or_ge j m with hinside | hbefore
    · -- the inner block goes on through `m`, so the outer one, which is less deep, does
      have hgoes := hinner.2 m found hinside hhigh hm
      refine Bool.eq_false_iff.2 fun hcloses => ?_
      exact Bool.eq_false_iff.1 hgoes (closesBlock_of_le hdeeper hcloses)
    · exact hopen m found hlow hbefore hm
  · exact Nat.le_trans hge hstart

end LastLine

/-! ## Blocks of nodes -/

/-- The block of a node lies inside the block of another and starts below its first line. -/
def Node.IsWithin (child parent : Node) : Prop :=
  parent.startLine < child.startLine ∧ ∃ last parentLast : Int,
    child.endLine = some last ∧ parent.endLine = some parentLast ∧ last ≤ parentLast

section Within

variable {context : ScanContext Int} {lines : List Line} {i j : Nat} {parent child : Node}

theorem range_of_nodeAt? (h : nodeAt? context lines i = some child) :
    child.startLine = i ∧ child.endLine = some (lastLineAt context.ruler lines i : Int) := by
  obtain ⟨definition, -, rfl⟩ := nodeAt?_eq_some_iff.1 h
  exact ⟨rfl, by simp [Definition.toNode, lastLineAt]⟩

/-- The snippet of the node on a line shows the first lines of its block. -/
theorem snippet_of_nodeAt? (h : nodeAt? context lines i = some child) :
    child.snippet
      = some (snippetOf lines context.snippetLines i (lastLineAt context.ruler lines i)) := by
  obtain ⟨definition, -, rfl⟩ := nodeAt?_eq_some_iff.1 h
  simp [Definition.toNode, lastLineAt]

theorem exists_line_of_nodeAt? (h : nodeAt? context lines i = some child) :
    ∃ line, lines[i]? = some line ∧ isCode line = true :=
  exists_line_of_definitionAt? (isSome_definitionAt?_of_nodeAt? h)

theorem isWithin_iff_le_lastLineAt (hparent : nodeAt? context lines i = some parent)
    (hchild : nodeAt? context lines j = some child) :
    child.IsWithin parent ↔ i < j ∧ j ≤ lastLineAt context.ruler lines i := by
  obtain ⟨hparentStart, hparentLast⟩ := range_of_nodeAt? hparent
  obtain ⟨hchildStart, hchildLast⟩ := range_of_nodeAt? hchild
  obtain ⟨line, hline, hcode⟩ := exists_line_of_nodeAt? hchild
  simp only [Node.IsWithin, hparentStart, hparentLast, hchildStart, hchildLast]
  constructor
  · rintro ⟨hij, last, parentLast, hlast, hparentLast, hle⟩
    cases hlast
    cases hparentLast
    refine ⟨Int.ofNat_lt.1 hij, Nat.le_trans ?_ (Int.ofNat_le.1 hle)⟩
    exact Nat.le_add_right j _
  · rintro ⟨hij, hstart⟩
    exact ⟨Int.ofNat_lt.2 hij, _, _, rfl, rfl,
      Int.ofNat_le.2 (lastLineAt_le_lastLineAt hij hline hcode hstart)⟩

/-- A later line is in a block if all code up to it is deeper than the line that opens the block. -/
theorem le_lastLineAt_iff_deeper {ruler : Ruler Int} (hij : i < j) (hj : j < lines.length) :
    j ≤ lastLineAt ruler lines i ↔ ∀ k line, i < k → k ≤ j → lines[k]? = some line →
      isCode line = true → depthAt ruler lines i < ruler.indentation line := by
  rw [le_lastLineAt_iff hij]
  constructor
  · rintro ⟨-, hopen⟩ k line hlow hhigh hline
    exact closesBlock_eq_false_iff.1 (hopen k line hlow hhigh hline)
  · intro hdeeper
    exact ⟨hj, fun k line hlow hhigh hline =>
      closesBlock_eq_false_iff.2 (hdeeper k line hlow hhigh hline)⟩

/-- A node whose parent is a definition, and not the file, stands below it and deeper. -/
theorem isEnclosing_of_parentId (hparent : nodeAt? context lines i = some parent)
    (hchild : nodeAt? context lines j = some child) (hid : child.parentId = some parent.id)
    (hfile : parent.id ≠ context.fileId) : IsEnclosing context.ruler lines i j := by
  by_cases henclosed : ∃ k, IsEnclosing context.ruler lines k j
  · obtain ⟨k, hk⟩ := henclosed
    obtain ⟨enclosing, henclosing, hid'⟩ := parentId_of_isEnclosing hchild hk
    have hids : parent.id = enclosing.id := Option.some.inj (hid.symm.trans hid')
    obtain ⟨definition, hdefinition, rfl⟩ := nodeAt?_eq_some_iff.1 hparent
    obtain ⟨definition', hdefinition', rfl⟩ := nodeAt?_eq_some_iff.1 henclosing
    obtain ⟨line, -, hopens⟩ := Option.bind_eq_some_iff.1 hdefinition
    obtain ⟨line', -, hopens'⟩ := Option.bind_eq_some_iff.1 hdefinition'
    obtain ⟨-, -, rfl, -⟩ := definitionId_inj (Definition.colon_notMem_name hopens)
      (Definition.colon_notMem_name hopens') hids
    exact hk
  · have hfileId := parentId_of_not_isEnclosing hchild fun k hk => henclosed ⟨k, hk⟩
    exact absurd (Option.some.inj (hid.symm.trans hfileId)) hfile

end Within

/-- **When a block stays in its parent's.** The block of a definition lies inside the block of the
    definition that is its parent exactly if all code from below the parent's first line to the
    child's own is indented deeper than the parent. The child's first line always is, and it always
    stands below, unless the parent has the id of the file. -/
theorem isWithin_parent_iff (tabWidth snippetLines : Int) (sourcePath fileId source : String)
    {parent child : Node}
    (hparent : parent ∈ outline
      { ruler := .ofTabWidth tabWidth, snippetLines, sourcePath, fileId } source)
    (hchild : child ∈ outline
      { ruler := .ofTabWidth tabWidth, snippetLines, sourcePath, fileId } source)
    (hid : child.parentId = some parent.id) :
    let ruler := Ruler.ofTabWidth tabWidth
    let lines := splitLines source.toList
    let parentDepth := depthAt ruler lines parent.startLine.toNat
    (child.IsWithin parent ↔ parent.startLine < child.startLine ∧
      ∀ (k : Nat) line, parent.startLine < k → k ≤ child.startLine → lines[k]? = some line →
        isCode line = true → parentDepth < ruler.indentation line) ∧
    (parent.id ≠ fileId → parent.startLine < child.startLine ∧
      parentDepth < depthAt ruler lines child.startLine.toNat) := by
  intro ruler lines parentDepth
  obtain ⟨i, hi⟩ := mem_outline_iff.1 hparent
  obtain ⟨j, hj⟩ := mem_outline_iff.1 hchild
  obtain ⟨line, hline, -⟩ := exists_line_of_nodeAt? hj
  have hlength : j < lines.length := (List.getElem?_eq_some_iff.1 hline).1
  have hi' : parent.startLine = i := (range_of_nodeAt? hi).1
  have hj' : child.startLine = j := (range_of_nodeAt? hj).1
  have hdepth : parentDepth = depthAt ruler lines i := by
    simp only [parentDepth, hi', Int.toNat_natCast]
  rw [hdepth, hi', hj']
  refine ⟨?_, fun hfile => ?_⟩
  · rw [isWithin_iff_le_lastLineAt hi hj, Int.ofNat_lt]
    refine and_congr_right fun hij => ?_
    rw [le_lastLineAt_iff_deeper hij hlength]
    simp only [Int.ofNat_lt, Int.ofNat_le]
    rfl
  · have henclosing := isEnclosing_of_parentId hi hj hid hfile
    exact ⟨Int.ofNat_lt.2 henclosing.before, by simpa using henclosing.shallower⟩

/-- A function below a condition that follows a class: the condition has ended the class, and
    still the class is the parent of the function. -/
theorem conditional_function_outside_parent :
    ∃ parent child : Node,
      outline { ruler := .ofTabWidth 4, snippetLines := 10, sourcePath := "/m.py",
                fileId := "file:/m.py" }
        "class A:\n    pass\n\nif ready:\n    def f():\n        pass\n" = [parent, child] ∧
      child.parentId = some parent.id ∧ ¬ child.IsWithin parent := by
  let parent : Node :=
    { id := "class:/m.py:0:A", label := "A", kind := "class", sourcePath := "/m.py"
      startLine := 0, endLine := some 2, parentId := some "file:/m.py"
      snippet := some "class A:\n    pass\n" }
  let child : Node :=
    { id := "function:/m.py:4:f", label := "f", kind := "function", sourcePath := "/m.py"
      startLine := 4, endLine := some 5, parentId := some "class:/m.py:0:A"
      snippet := some "    def f():\n        pass" }
  refine ⟨parent, child, by decide +kernel, rfl, ?_⟩
  rintro ⟨-, last, parentLast, hlast, hparentLast, hle⟩
  cases hlast
  cases hparentLast
  exact absurd hle (by decide)

/-- A handler at the depth of a class, with tabs: the function in it is outside its parent because
    of the line above it. -/
theorem isWithin_parent_handler :
    ∃ parent child : Node,
      outline { ruler := .ofTabWidth 8, snippetLines := 1, sourcePath := "/m.py",
                fileId := "file:/m.py" }
        "class A:\n\tx = 1\nexcept E:\n\tdef g(): pass\n" = [parent, child] ∧
      child.parentId = some parent.id ∧ ¬ child.IsWithin parent := by
  let parent : Node :=
    { id := "class:/m.py:0:A", label := "A", kind := "class", sourcePath := "/m.py"
      startLine := 0, endLine := some 1, parentId := some "file:/m.py"
      snippet := some "class A:" }
  let child : Node :=
    { id := "function:/m.py:3:g", label := "g", kind := "function", sourcePath := "/m.py"
      startLine := 3, endLine := some 3, parentId := some "class:/m.py:0:A"
      snippet := some "\tdef g(): pass" }
  have hnodes : outline { ruler := .ofTabWidth 8, snippetLines := 1, sourcePath := "/m.py",
                          fileId := "file:/m.py" }
      "class A:\n\tx = 1\nexcept E:\n\tdef g(): pass\n" = [parent, child] := by decide +kernel
  have hparent : parent ∈ [parent, child] := List.mem_cons_self
  have hchild : child ∈ [parent, child] := List.mem_cons_of_mem _ List.mem_cons_self
  rw [← hnodes] at hparent hchild
  refine ⟨parent, child, hnodes, rfl, fun hwithin => ?_⟩
  have hiff := (isWithin_parent_iff 8 1 "/m.py" "file:/m.py" _ hparent hchild rfl).1
  have hdeeper := (hiff.1 hwithin).2 2 "except E:".toList (by decide) (by decide) (by decide)
    (by decide)
  exact absurd hdeeper (by decide)

end SourceOutline
