import SourceOutline.Proofs.Repository.Difference
import SourceOutline.Proofs.Text.Line
import SourceOutline.Repository.Excerpt

set_option autoImplicit false

/-! # Excerpts of what a walk has found

A definition that a walk has found spans lines of its file, and while the file stays as it is, its
excerpt shows these lines with the context asked for (`Node.showsBlock_excerptOf`). Its snippet
holds the first lines of the excerpt without context (`Excerpt.ShowsBlock.snippetOf_eq`). The scan
numbers lines from the first to the last one of a block, a slice leaves out its end, and the context
is cut off at both ends of the file: all three meet in `Excerpt.ShowsBlock`. -/

namespace SourceOutline

variable {codecs : Codecs}

/-! ## Stretches of lines -/

/-- The lines from `start` up to but not including `stop`. -/
def stretch (lines : List Line) (start stop : Nat) : List Line :=
  (lines.take stop).drop start

section Stretch

variable {lines : List Line} {start stop : Nat}

theorem length_stretch (hstop : stop ≤ lines.length) :
    (stretch lines start stop).length = stop - start := by
  rw [stretch, List.length_drop, List.length_take, Nat.min_eq_left hstop]

theorem take_stretch (count : Nat) :
    (stretch lines start stop).take count = stretch lines start (min stop (start + count)) := by
  rw [stretch, stretch, List.take_drop, List.take_take, Nat.min_comm]

theorem stretch_append {middle : Nat} (hstart : start ≤ middle) (hstop : middle ≤ stop)
    (hmiddle : middle ≤ lines.length) :
    stretch lines start stop = stretch lines start middle ++ stretch lines middle stop := by
  have hcut : lines.take stop = lines.take middle ++ (lines.take stop).drop middle := by
    have htake : (lines.take stop).take middle = lines.take middle := by
      rw [List.take_take, Nat.min_eq_left hstop]
    rw [← htake, List.take_append_drop]
  have hlength : start ≤ (lines.take middle).length := by
    rwa [List.length_take, Nat.min_eq_left hmiddle]
  rw [stretch, hcut, List.drop_append_of_le_length hlength]
  rfl

end Stretch

/-! ## Blocks with context -/

/-- An excerpt shows the block of a text from one line to another, with some lines of context. -/
structure Excerpt.ShowsBlock (excerpt : Excerpt) (lines : List Line) (first last context : Nat) :
    Prop where
  firstLine_eq : excerpt.firstLine = max ((first : Int) - context) 0
  lastLine_eq : excerpt.lastLine = min ((last : Int) + context) (lines.length - 1)
  lines_eq : excerpt.lines
    = stretch lines (first - context) (min (last + context) (lines.length - 1) + 1)

/-- The excerpt of a node with a range in a text shows its block. -/
theorem Node.showsBlock_excerptOf {node : Node} {lines : List Line} {first last : Nat}
    (hstart : node.startLine = first) (hend : node.endLine = some (last : Int))
    (hle : first ≤ last) (hlast : last < lines.length) (context : Nat) :
    (node.excerptOf context lines).sourcePath = node.sourcePath ∧
      (node.excerptOf context lines).ShowsBlock lines first last context := by
  have hsome : lines.isEmpty = false := by
    cases lines with
    | nil => exact absurd hlast (Nat.not_lt_zero _)
    | cons => rfl
  have hfirst : max ((first : Int) - context) 0 = ((first - context : Nat) : Int) := by omega
  have hstop : min ((last : Int) + context) ((lines.length : Int) - 1) + 1
      = ((min (last + context) (lines.length - 1) + 1 : Nat) : Int) := by omega
  have hexcerpt : node.excerptOf context lines
      = { sourcePath := node.sourcePath, firstLine := max ((first : Int) - context) 0,
          lines := stretch lines (first - context)
            (min (last + context) (lines.length - 1) + 1) } := by
    simp only [Node.excerptOf, hsome, Bool.false_eq_true, if_false, hstart, hend, hfirst, hstop]
    rw [slice_ofNat lines (by omega) (by omega), stretch]
  rw [hexcerpt]
  refine ⟨rfl, rfl, ?_, rfl⟩
  have hlength : (stretch lines (first - context)
      (min (last + context) (lines.length - 1) + 1)).length
        = min (last + context) (lines.length - 1) + 1 - (first - context) :=
    length_stretch (by omega)
  simp only [Excerpt.lastLine, hlength]
  omega

/-- With more context an excerpt goes on in both directions from where it was. -/
theorem Excerpt.ShowsBlock.exists_append {excerpt wider : Excerpt} {lines : List Line}
    {first last context more : Nat} (h : excerpt.ShowsBlock lines first last context)
    (hwider : wider.ShowsBlock lines first last more) (hmore : context ≤ more) (hle : first ≤ last)
    (hlast : last < lines.length) :
    ∃ before after, wider.lines = before ++ excerpt.lines ++ after ∧
      wider.firstLine + before.length = excerpt.firstLine := by
  refine ⟨stretch lines (first - more) (first - context),
    stretch lines (min (last + context) (lines.length - 1) + 1)
      (min (last + more) (lines.length - 1) + 1), ?_, ?_⟩
  · rw [h.lines_eq, hwider.lines_eq, ← stretch_append (by omega) (by omega) (by omega),
      ← stretch_append (by omega) (by omega) (by omega)]
  · rw [h.firstLine_eq, hwider.firstLine_eq, length_stretch (by omega)]
    omega

/-- The snippet of a definition holds the first lines of its block. -/
theorem Excerpt.ShowsBlock.snippetOf_eq {excerpt : Excerpt} {lines : List Line}
    {first last : Nat} (h : excerpt.ShowsBlock lines first last 0) (hle : first ≤ last)
    (hlast : last < lines.length) (count : Nat) :
    snippetOf lines count first last
      = String.ofList (joinLines (excerpt.lines.take (min count (last + 1 - first)))) := by
  have hstop : min ((last : Int) + 1) (first + count)
      = ((min (last + 1) (first + count) : Nat) : Int) := by omega
  have hlines : excerpt.lines = stretch lines first (last + 1) := by
    have := h.lines_eq
    rwa [Nat.min_eq_left (by omega)] at this
  rw [snippetOf, hstop, slice_ofNat lines (by omega) (by omega), hlines, take_stretch, stretch]
  congr 4
  omega

/-! ## Definitions and their snippets -/

/-- How many lines of a block a snippet shows, if a block that is longer than a floating-point
    number of lines is never shown. -/
def Quantity.shownOf (quantity : Quantity) (length : Nat) : Nat :=
  match quantity.whole? with
  | some count => min count.toNat length
  | none => length

/-- The snippets of an outline show as many lines of a block as options say. If these say it with a
    floating-point number, every block fits. -/
theorem ScanOptions.outline_eq_ok {options : ScanOptions} {sourcePath fileId source : String}
    {nodes : List Node} (h : options.outline sourcePath fileId source = .ok nodes)
    (hvalid : options.snippetLines.isBelow 0 = false) :
    ∃ count : Nat, nodes = options.outlineWith count sourcePath fileId source ∧
      (∀ length ≤ (splitLines source.toList).length,
        min count length = options.snippetLines.shownOf length) ∧
      ∀ limit, options.snippetLines = .real limit →
        ∀ node ∈ nodes, node.fitsWithin limit = true := by
  unfold outline at h
  split at h
  case h_1 b hlines =>
    refine ⟨if b then 1 else 0, ?_, fun length _ => ?_, fun limit hreal => ?_⟩
    · rw [← Except.ok.inj h]
      cases b <;> rfl
    · rw [hlines]
      cases b <;> rfl
    · cases hlines.symm.trans hreal
  case h_2 n hlines =>
    rw [hlines, Quantity.isBelow, decide_eq_false_iff_not, Int.not_lt] at hvalid
    refine ⟨n.toNat, ?_, fun length _ => ?_, fun limit hreal => ?_⟩
    · rw [Int.toNat_of_nonneg hvalid, ← Except.ok.inj h]
    · rw [hlines]
      rfl
    · cases hlines.symm.trans hreal
  case h_3 limit hlines =>
    simp only at h
    split at h
    case isTrue hfits =>
      obtain rfl := Except.ok.inj h
      refine ⟨source.length, rfl, fun length hlength => ?_, fun other hother => ?_⟩
      · -- no block has more lines than the text has characters
        rw [hlines]
        exact Nat.min_eq_right (Nat.le_trans hlength (length_splitLines_le _))
      · obtain rfl := Quantity.real.inj (hlines.symm.trans hother)
        exact List.all_eq_true.1 hfits
    case isFalse => cases h

/-! ## Definitions of a walk -/

section

variable {volume : Volume} {settings : Settings} {root : Path} {result : WalkResult} {node : Node}

/-- A definition that a walk has found is in the outline of the file at its path. -/
theorem exists_outline_of_walk (hwalk : walk codecs volume settings root = .ok result)
    (hnode : node ∈ result.snapshot.nodes) (hkind : node.isDefinition = true) :
    ∃ names text nodes,
      readText codecs volume settings.encoding ((walkStart volume root).below names) = .ok text ∧
      settings.scanOptions.outline ((walkStart volume root).below names).text
        (fileId ((walkStart volume root).below names).text) (String.ofList text) = .ok nodes ∧
      node ∈ nodes := by
  cases isPlacedNode_of_walk hwalk hnode with
  | root => cases hkind.symm.trans isDefinition_folderKind
  | folder => cases hkind.symm.trans isDefinition_folderKind
  | file => cases hkind.symm.trans isDefinition_fileKind
  | definition hfile houtline hin =>
    obtain ⟨text, htext⟩ := houtline.exists_text hin
    exact ⟨_, text, _, htext, houtline.1 text htext, hin⟩

/-- While a repository stays as it is, every definition that a walk has found has its excerpts. Each
    shows the lines of the block with as many lines of context as there are, and goes on in both
    directions if more context is asked for. The snippet holds as many of the first lines of the
    block as the settings say; if these say it with a floating-point number, the block fits. -/
theorem readExcerpt_of_walk (hwalk : walk codecs volume settings root = .ok result)
    (hvalid : settings.snippetLines.isBelow 0 = false) (hnode : node ∈ result.snapshot.nodes)
    (hkind : node.isDefinition = true) :
    ∃ (text : List Char) (first last : Nat) (excerpt : Nat → Excerpt),
      readText codecs volume settings.encoding (Path.ofText node.sourcePath) = .ok text ∧
      node.startLine = first ∧ node.endLine = some (last : Int) ∧
      first ≤ last ∧ last < (splitLines text).length ∧
      (∀ context : Nat,
        result.snapshot.readExcerpt codecs volume settings.encoding (.text node.id) context
          = .ok (excerpt context) ∧
        (excerpt context).sourcePath = node.sourcePath ∧
        (excerpt context).ShowsBlock (splitLines text) first last context) ∧
      (∀ context more, context ≤ more → ∃ before after,
        (excerpt more).lines = before ++ (excerpt context).lines ++ after ∧
        (excerpt more).firstLine + before.length = (excerpt context).firstLine) ∧
      node.snippet = some (String.ofList (joinLines ((excerpt 0).lines.take
        (settings.snippetLines.shownOf (last + 1 - first))))) ∧
      ∀ limit, settings.snippetLines = .real limit → node.fitsWithin limit = true := by
  obtain ⟨names, text, nodes, htext, houtline, hin⟩ := exists_outline_of_walk hwalk hnode hkind
  obtain ⟨count, rfl, hshown, hfits⟩ := ScanOptions.outline_eq_ok houtline hvalid
  obtain ⟨hsource, -, -, first, last, hstart, hend, hle, hlast, hsnippet⟩ :=
    ScanOptions.isDefinitionIn_of_mem node hin
  rw [String.toList_ofList] at hlast hsnippet hshown
  have hread : readText codecs volume settings.encoding (Path.ofText node.sourcePath)
      = .ok text := by
    rwa [hsource, ofText_text_below_walkStart]
  have hlookup : result.snapshot.lookup (.text node.id) = .ok node := by
    rw [Snapshot.lookup, (exists_isMadeOf hwalk).1.get?_id hnode]
  have hshows := fun context => node.showsBlock_excerptOf hstart hend hle hlast context
  refine ⟨text, first, last, fun context => node.excerptOf context (splitLines text), hread,
    hstart, hend, hle, hlast, fun context => ⟨?_, hshows context⟩, ?_, ?_,
    fun limit hlimit => hfits limit hlimit node hin⟩
  · simp only [Snapshot.readExcerpt, hlookup, mapError_ok, bind, Except.bind, readExcerpt, hread]
    rfl
  · intro context more hmore
    exact (hshows context).2.exists_append (hshows more).2 hmore hle hlast
  · rw [hsnippet, (hshows 0).2.snippetOf_eq hle hlast count, hshown _ (by omega)]
    rfl

end

/-- A text with a class on its second and third lines. -/
def classText : String :=
  "x = 1\nclass A:\n    y = 2\nz = 3\n"

/-- The node of the class, with a snippet of one line. -/
def classNode : Node where
  id := "class:/repo/a.py:1:A"
  label := "A"
  kind := "class"
  sourcePath := "/repo/a.py"
  startLine := 1
  endLine := some 2
  parentId := some "file:/repo/a.py"
  snippet := some "class A:"

/-- The class is found in a file of four lines, and its excerpt with five lines of context shows
    them all. -/
theorem readExcerpt_classNode :
    (Quantity.whole 1).isBelow 0 = false ∧ classNode.isDefinition = true ∧
    ∃ result excerpt,
      walk Encoding.codecs (sourceRepository classText) { snippetLines := .whole 1 }
        (Path.ofText "/repo")
        = .ok result ∧
      classNode ∈ result.snapshot.nodes ∧
      result.snapshot.readExcerpt Encoding.codecs (sourceRepository classText) (.text "utf-8")
        (.text classNode.id) (5 : Nat) = .ok excerpt ∧
      excerpt.firstLine = 0 ∧ excerpt.lastLine = 3 := by
  have hfound : (walk Encoding.codecs (sourceRepository classText) { snippetLines := .whole 1 }
      (Path.ofText "/repo")).map (fun result => result.snapshot.nodes.find? Node.isDefinition)
        = .ok (some classNode) := by decide +kernel
  obtain ⟨result, hwalk, hnode⟩ := map_eq_ok_iff.1 hfound
  have hmem := List.mem_of_find?_eq_some hnode.symm
  have htext : readText Encoding.codecs (sourceRepository classText) (.text "utf-8")
      (Path.ofText "/repo/a.py")
      = .ok classText.toList := by decide +kernel
  obtain ⟨text, first, last, excerpt, hread, hfirst, hlast, -, -, hexcerpt, -⟩ :=
    readExcerpt_of_walk hwalk (by decide) hmem (by decide)
  obtain ⟨hresult, -, hshows⟩ := hexcerpt 5
  obtain rfl := Except.ok.inj (htext.symm.trans hread)
  obtain rfl : 1 = first := Int.ofNat.inj hfirst
  obtain rfl : 2 = last := Int.ofNat.inj (Option.some.inj hlast)
  exact ⟨by decide, by decide, result, excerpt 5, hwalk, hmem, hresult, hshows.firstLine_eq,
    hshows.lastLine_eq⟩

end SourceOutline
