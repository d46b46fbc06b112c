import SourceOutline.Proofs.Outline.Nodes
import SourceOutline.Proofs.Repository.Completion
import SourceOutline.Proofs.Text.Line
import SourceOutline.Proofs.Text.Utf8

set_option autoImplicit false

/-! # Scanning a file is scanning its text

When a file is read every line break becomes a line feed, while a text is scanned with the breaks
that it has. An outline is made of the lines of a text, and these are the same either way, so the
outline of a text does not tell how its lines were ended (`ScanOptions.outline_unifyBreaks`). Only
one thing is read off the text itself: under a floating-point number of snippet lines a snippet may
be as long as the text has characters, of which there are fewer once the breaks are unified. That is
still no fewer than there are lines, so no snippet is cut. Hence the scan of a file that holds the
UTF-8 bytes of a text is the scan of that text (`scanFile_of_encodeUtf8`). -/

namespace SourceOutline

variable {codecs : Codecs}

/-! ## Snippets that are not cut -/

theorem snippetOf_of_length_le {lines : List Line} {count start stop : Int} (hstart : 0 ≤ start)
    (hstop : stop < lines.length) (hcount : lines.length ≤ count) :
    snippetOf lines count start stop
      = String.ofList (joinLines (slice lines start (stop + 1))) := by
  have hwhole : min (stop + 1) (start + count) = stop + 1 := by omega
  rw [snippetOf, hwhole]

/-- The node of a definition is the same for any two numbers of snippet lines that the text does
    not exceed. -/
theorem Definition.toNode_congr_snippetLines {δ : Type} (definition : Definition)
    (context : ScanContext δ) {lines : List Line} {count : Int} {index length : Nat}
    (hcontext : lines.length ≤ context.snippetLines) (hcount : lines.length ≤ count)
    (hblock : index + length < lines.length) (parentId : String) :
    definition.toNode context lines index length parentId
      = definition.toNode { context with snippetLines := count } lines index length parentId := by
  have hstart : (0 : Int) ≤ index := Int.natCast_nonneg index
  have hstop : (index + length : Int) < lines.length := by omega
  simp only [toNode]
  rw [snippetOf_of_length_le hstart hstop hcontext, snippetOf_of_length_le hstart hstop hcount]

section Outline

variable {δ : Type} [Add δ] [LE δ] [DecidableLE δ]

/-- If snippets may have as many lines as the text, it makes no difference how many they may
    have. -/
theorem outlineFrom_congr_snippetLines (context : ScanContext δ) {lines : List Line} {count : Int}
    (hcontext : lines.length ≤ context.snippetLines) (hcount : lines.length ≤ count)
    (after : List Line) :
    ∀ (index : Nat) (scopes : ScopeStack δ), index + after.length = lines.length →
      outlineFrom context lines index scopes after
        = outlineFrom { context with snippetLines := count } lines index scopes after := by
  induction after with
  | nil =>
    intro index scopes _
    rfl
  | cons line after ih =>
    intro index scopes hlength
    rw [List.length_cons] at hlength
    unfold outlineFrom
    cases Definition.ofLine? line with
    | none => exact ih (index + 1) scopes (by omega)
    | some definition =>
      have hafter := blockLength_le context.ruler (context.ruler.indentation line) after
      have hblock : index + blockLength context.ruler (context.ruler.indentation line) after
          < lines.length := by omega
      -- the node is the same, and with it the scope that is opened
      have hnode := definition.toNode_congr_snippetLines context hcontext hcount hblock
      simp only [hnode]
      rw [ih (index + 1) _ (by omega)]

theorem outline_congr_snippetLines (context : ScanContext δ) {source : String} {count : Int}
    (hcontext : (splitLines source.toList).length ≤ context.snippetLines)
    (hcount : (splitLines source.toList).length ≤ count) :
    outline context source = outline { context with snippetLines := count } source :=
  outlineFrom_congr_snippetLines context hcontext hcount _ 0 _ (Nat.zero_add _)

/-- The outline of a text is that of any text with the same lines. -/
theorem outline_congr_lines (context : ScanContext δ) {source other : String}
    (h : splitLines source.toList = splitLines other.toList) :
    outline context source = outline context other := by
  simp only [outline, h]

end Outline

/-! ## Outlines under options -/

namespace ScanOptions

/-- Under options too, an outline depends on the lines of the text alone, and on how many of them
    snippets may have only if these are fewer than the text has. -/
theorem outlineWith_congr (options : ScanOptions) (sourcePath fileId : String)
    {source other : String} (hlines : splitLines source.toList = splitLines other.toList)
    {count limit : Int}
    (h : count = limit ∨ (splitLines source.toList).length ≤ count ∧
      (splitLines source.toList).length ≤ limit) :
    options.outlineWith count sourcePath fileId source
      = options.outlineWith limit sourcePath fileId other := by
  have houtline : ∀ {δ : Type} [Add δ] [LE δ] [DecidableLE δ] (ruler : Ruler δ),
      SourceOutline.outline { ruler, snippetLines := count, sourcePath, fileId } source
        = SourceOutline.outline { ruler, snippetLines := limit, sourcePath, fileId } other := by
    intro δ _ _ _ ruler
    rw [← outline_congr_lines _ hlines]
    rcases h with rfl | ⟨hcount, hlimit⟩
    · rfl
    · exact outline_congr_snippetLines _ hcount hlimit
  unfold outlineWith
  cases options.tabWidth with
  | flag b => exact houtline _
  | whole n => exact houtline _
  | real x => exact houtline _

/-- The outline of a text, or the reason for which there is none, stays when every break in the text
    is written as a line feed. -/
theorem outline_unifyBreaks (options : ScanOptions) (sourcePath fileId source : String) :
    options.outline sourcePath fileId (String.ofList (unifyBreaks source.toList))
      = options.outline sourcePath fileId source := by
  have hlines : splitLines (String.ofList (unifyBreaks source.toList)).toList
      = splitLines source.toList := by
    rw [String.toList_ofList, splitLines_unifyBreaks]
  unfold outline
  cases options.snippetLines with
  | flag b => simp only [options.outlineWith_congr sourcePath fileId hlines (.inl rfl)]
  | whole n => simp only [options.outlineWith_congr sourcePath fileId hlines (.inl rfl)]
  | real limit =>
    have hunified := length_splitLines_le (String.ofList (unifyBreaks source.toList)).toList
    have hsource := length_splitLines_le source.toList
    rw [← hlines] at hsource
    have hnodes := options.outlineWith_congr sourcePath fileId hlines
      (.inr ⟨Int.ofNat_le.2 hunified, Int.ofNat_le.2 hsource⟩)
    simp only [String.length_toList] at hnodes
    simp only [hnodes]

end ScanOptions

/-! ## Files -/

/-- A file that holds the UTF-8 bytes of a text is read as that text with its breaks unified. -/
theorem readText_of_encodeUtf8 {volume : Volume} {value : Value} {name text : String} {path : Path}
    (hname : encodingName value = .ok name) (hutf8 : codecs.decoder name = .ok utf8Decoder)
    (hbytes : volume.readBytes path = .ok (encodeUtf8 text.toList)) :
    readText codecs volume value path = .ok (unifyBreaks text.toList) := by
  simp only [readText, readWith, hname, hbytes, hutf8, mapError_ok, bind, Except.bind, utf8Decoder,
    decodeUtf8_encodeUtf8]
  rfl

/-- **The scan of a file is the scan of its text.** If an encoding is named that is UTF-8 and the
    file at a path holds the UTF-8 bytes of a text, whatever breaks and other characters the text
    has, then the file is not skipped, and its nodes are those of the text as it is. Only a
    floating-point number of snippet lines can be refused, for the file as for the text. -/
theorem scanFile_of_encodeUtf8 {volume : Volume} {options : ScanOptions} {name text : String}
    {path : Path} (hname : encodingName options.encoding = .ok name)
    (hutf8 : codecs.decoder name = .ok utf8Decoder)
    (hbytes : volume.readBytes path = .ok (encodeUtf8 text.toList)) (fileId : String) :
    scanFile codecs volume options path fileId
      = (options.outline path.text fileId text).map (fun nodes => { nodes, skipReason := none }) ∧
    ((∀ x, options.snippetLines ≠ .real x) →
      ∃ nodes, options.outline path.text fileId text = .ok nodes ∧
        scanFile codecs volume options path fileId = .ok { nodes, skipReason := none }) := by
  have hscan : scanFile codecs volume options path fileId
      = (options.outline path.text fileId text).map
          (fun nodes => { nodes, skipReason := none }) := by
    unfold scanFile
    simp only [readText_of_encodeUtf8 hname hutf8 hbytes, options.outline_unifyBreaks]
    cases options.outline path.text fileId text with
    | ok nodes => rfl
    | error fault => rfl
  refine ⟨hscan, fun hwhole => ?_⟩
  obtain ⟨nodes, hnodes⟩ := options.exists_outline_eq_ok hwhole path.text fileId text
  refine ⟨nodes, hnodes, ?_⟩
  rw [hscan, hnodes]
  rfl

/-- A text that begins with a byte order mark, ends its lines in three ways, and has a form feed in
    one of them. -/
def mixedText : String :=
  "\uFEFF# mark\r\nclass A:\r    def f(self):\n\x0c        pass\r\rdef g(): pass"

/-- A repository with a file that holds the bytes of this text. -/
def mixedRepository : Volume where
  entries :=
    [([repositoryName], .folder true),
     ([sourceName, repositoryName], .file (encodeUtf8 mixedText.toList) true)]
  distinct := by decide
  plain := by decide

/-- The scan of this file finds the three definitions of the text on the lines that they have in
    it. -/
theorem scanFile_mixedText :
    encodingName ({} : ScanOptions).encoding = .ok "utf-8" ∧
    Encoding.codecs.decoder "utf-8" = .ok utf8Decoder ∧
    mixedRepository.readBytes (Path.ofText "/repo/a.py") = .ok (encodeUtf8 mixedText.toList) ∧
    (∀ x, ({} : ScanOptions).snippetLines ≠ .real x) ∧
    ∃ nodes, ({} : ScanOptions).outline "/repo/a.py" "file:/repo/a.py" mixedText = .ok nodes ∧
      scanFile Encoding.codecs mixedRepository {} (Path.ofText "/repo/a.py") "file:/repo/a.py"
        = .ok { nodes, skipReason := none } ∧
      nodes.map (·.id) = ["class:/repo/a.py:1:A", "function:/repo/a.py:2:f",
        "function:/repo/a.py:5:g"] := by
  have hname : encodingName ({} : ScanOptions).encoding = .ok "utf-8" := by decide +kernel
  have hutf8 := Encoding.codecs.decoder_utf8
  have hbytes : mixedRepository.readBytes (Path.ofText "/repo/a.py")
      = .ok (encodeUtf8 mixedText.toList) := by decide +kernel
  have hwhole : ∀ x, ({} : ScanOptions).snippetLines ≠ .real x := nofun
  have hpath : (Path.ofText "/repo/a.py").text = "/repo/a.py" := by decide +kernel
  obtain ⟨-, hscan⟩ := scanFile_of_encodeUtf8 hname hutf8 hbytes "file:/repo/a.py"
  obtain ⟨nodes, hnodes, hfile⟩ := hscan hwhole
  rw [hpath] at hnodes
  have hids : (({} : ScanOptions).outline "/repo/a.py" "file:/repo/a.py" mixedText).map
      (fun nodes => nodes.map (·.id)) = .ok ["class:/repo/a.py:1:A", "function:/repo/a.py:2:f",
        "function:/repo/a.py:5:g"] := by decide +kernel
  rw [hnodes] at hids
  exact ⟨hname, hutf8, hbytes, hwhole, nodes, hnodes, hfile, Except.ok.inj hids⟩

end SourceOutline
