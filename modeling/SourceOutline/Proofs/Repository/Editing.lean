import SourceOutline.Proofs.Repository.Exclusion
import SourceOutline.Proofs.Repository.Layout

set_option autoImplicit false

/-! # Editing one file

An edit of a file does not change where paths lead, so a walk goes the same way before and after it
and finds the same, but for the definitions in the file and whether it is skipped
(`visitFile_agreesApartFrom`). The file may be found at several paths, which lead to it through
links.

Main statement (`walk_of_isFileEdit`): if both walks return, the results agree apart from the file.
If the walk before the edit returns, the one after it does exactly unless it reads the file and that
now lacks the mark that its encoding asks for: such a file is not skipped but stops the walk. -/

namespace SourceOutline

variable {codecs : Codecs}

/-! ## What is apart from a file -/

/-- Whether a text is that of a path to a location. -/
def Volume.isPathTo (volume : Volume) (place : Location) (text : String) : Bool :=
  decide (volume.locate (Path.ofText text) = .ok place)

/-- Whether a node is not that of a definition in the file at a place. -/
def Node.isApartFrom (volume : Volume) (place : Location) (node : Node) : Bool :=
  !(node.isDefinition && volume.isPathTo place node.sourcePath)

/-- Whether a finding is neither that of a definition in the file at a place nor the reason for
    which the file is skipped. -/
def Finding.isApartFrom (volume : Volume) (place : Location) : Finding → Bool
  | node n => n.isApartFrom volume place
  | skipped path _ => !volume.isPathTo place path.text

/-- The edges of a snapshot that run between some nodes. -/
def Snapshot.edgesAmong (snapshot : Snapshot) (nodes : List Node) : List Edge :=
  snapshot.edges.filter fun edge =>
    (nodes.map (·.id)).contains edge.source && (nodes.map (·.id)).contains edge.target

/-- Two results differ in nothing but the definitions in the file at a place and whether that is
    skipped. -/
structure WalkResult.AgreesApartFrom (volume : Volume) (place : Location)
    (result other : WalkResult) : Prop where
  nodes : result.snapshot.nodes.filter (Node.isApartFrom volume place)
    = other.snapshot.nodes.filter (Node.isApartFrom volume place)
  edges : result.snapshot.edgesAmong
      (result.snapshot.nodes.filter (Node.isApartFrom volume place))
    = other.snapshot.edgesAmong (other.snapshot.nodes.filter (Node.isApartFrom volume place))
  skipped : result.skipped.filter (fun entry => !volume.isPathTo place entry.1)
    = other.skipped.filter fun entry => !volume.isPathTo place entry.1
  /-- Folders and files, the edited one included, are found in both. -/
  undefined : ∀ node, node.isDefinition = false →
    (node ∈ result.snapshot.nodes ↔ node ∈ other.snapshot.nodes)

/-- Among some nodes of a tree the edges are told by these nodes: each runs to one of them from its
    parent. -/
theorem Snapshot.IsTree.edgesAmong_filter {snapshot : Snapshot} {root : Node}
    (h : snapshot.IsTree root) (hedges : snapshot.edges = snapshot.nodes.filterMap Node.parentEdge?)
    (test : Node → Bool) :
    snapshot.edgesAmong (snapshot.nodes.filter test)
      = ((snapshot.nodes.filter test).filterMap Node.parentEdge?).filter fun edge =>
        ((snapshot.nodes.filter test).map (·.id)).contains edge.source := by
  have hmem : ∀ node ∈ snapshot.nodes,
      ((snapshot.nodes.filter test).map (·.id)).contains node.id = test node := by
    intro node hnode
    rw [Bool.eq_iff_iff, List.contains_iff_mem]
    constructor
    · intro hid
      obtain ⟨found, hfound, hsame⟩ := List.mem_map.1 hid
      obtain ⟨hin, hpasses⟩ := List.mem_filter.1 hfound
      rwa [← h.eq_of_id_eq hin hnode hsame]
    · exact fun hpasses => List.mem_map_of_mem (List.mem_filter.2 ⟨hnode, hpasses⟩)
  rw [edgesAmong, hedges, List.filterMap_filter, List.filter_filterMap, List.filter_filterMap]
  refine List.filterMap_congr fun node hnode => ?_
  cases hedge : node.parentEdge? with
  | none => simp
  | some edge =>
    obtain ⟨parent, -, rfl⟩ := Option.map_eq_some_iff.1 hedge
    have htarget := hmem node hnode
    cases htest : test node with
    | true =>
      rw [htest] at htarget
      simp only [Option.filter_some, htarget, Bool.and_true, if_true]
    | false =>
      rw [htest] at htarget
      simp only [Option.filter_some, htarget, Bool.and_false, Bool.false_eq_true, if_false,
        Option.filter_none]

/-! ## Visits -/

/-- What two visits give, if both succeed, is the same but for findings that do not pass a test. -/
def AgreesOn (test : Finding → Bool) (one other : Except ScanFault (List Finding)) : Prop :=
  ∀ found others, one = .ok found → other = .ok others → found.filter test = others.filter test

theorem isPassedOn_agreesOn (test : Finding → Bool) : IsPassedOn (AgreesOn test) where
  refl visit := by
    intro found others hfound hothers
    rw [Except.ok.inj (hfound.symm.trans hothers)]
  node node h := by
    intro found others hfound hothers
    obtain ⟨below, hbelow, rfl⟩ := map_eq_ok_iff.1 hfound
    obtain ⟨otherBelow, hother, rfl⟩ := map_eq_ok_iff.1 hothers
    rw [List.filter_cons, List.filter_cons, h below otherBelow hbelow hother]
  append h hrest := by
    intro found others hfound hothers
    obtain ⟨first, hfirst, hfound⟩ := bind_eq_ok_iff.1 hfound
    obtain ⟨otherFirst, hotherFirst, hothers⟩ := bind_eq_ok_iff.1 hothers
    obtain ⟨rest, hmore, rfl⟩ := map_eq_ok_iff.1 hfound
    obtain ⟨otherRest, hotherMore, rfl⟩ := map_eq_ok_iff.1 hothers
    rw [List.filter_append, List.filter_append, h first otherFirst hfirst hotherFirst,
      hrest rest otherRest hmore hotherMore]

section

variable {before after : Volume} {place : Location} {settings : Settings} {path : Path}
  {name : Name} {id : String} {found : List Finding}

/-- Of what is found in the file at a place the node of the file is apart from it. -/
theorem filter_isApartFrom_visitFile (volume : Volume)
    (hplace : before.isPathTo place path.text = true)
    (h : visitFile codecs volume settings path name id = .ok found) :
    found.filter (Finding.isApartFrom before place) = [.node (fileNode path name.text id)] := by
  have hnode : (Finding.node (fileNode path name.text id)).isApartFrom before place = true := by
    rw [Finding.isApartFrom, Node.isApartFrom, Node.isDefinition, fileNode, isDefinition_fileKind]
    rfl
  rcases visitFile_eq_ok h with ⟨reason, -, rfl⟩ | ⟨text, nodes, houtline, rfl⟩
  · rw [List.filter_cons_of_pos hnode, List.filter_cons_of_neg, List.filter_nil]
    simp [Finding.isApartFrom, hplace]
  · rw [List.filter_cons_of_pos hnode, List.filter_eq_nil_iff.2 fun finding hfinding => ?_]
    obtain ⟨node, hin, rfl⟩ := List.mem_map.1 hfinding
    have hdefinition := ScanOptions.isDefinition_outline houtline node hin
    obtain ⟨snippetLines, rfl⟩ := ScanOptions.eq_outlineWith houtline
    have hpath := (ScanOptions.isDefinitionIn_of_mem node hin).sourcePath_eq
    simp [Finding.isApartFrom, Node.isApartFrom, hdefinition, hpath, hplace]

theorem IsFileEdit.visitFile_agreesApartFrom (h : IsFileEdit before after place)
    (hpath : Path.ofText path.text = path) (name : Name) (id : String) :
    AgreesOn (Finding.isApartFrom before place) (visitFile codecs before settings path name id)
      (visitFile codecs after settings path name id) := by
  intro found others hfound hothers
  by_cases hplace : before.locate path = .ok place
  · have htext : before.isPathTo place path.text = true := by
      rw [Volume.isPathTo, hpath]
      exact decide_eq_true hplace
    rw [filter_isApartFrom_visitFile before htext hfound,
      filter_isApartFrom_visitFile after htext hothers]
  · -- the path leads elsewhere, so the same is read there
    have hread : readText codecs after settings.encoding path
        = readText codecs before settings.encoding path :=
      h.sameLayout.readText (fun location hlocate =>
        h.others location fun heq => hplace (heq ▸ hlocate)) settings.encoding
    rw [visitFile_congr hread, hfound] at hothers
    rw [Except.ok.inj hothers]

end

/-! ## Walks -/

section

variable {before after : Volume} {place : Location} {settings : Settings} {root : Path}

/-- Results whose findings agree apart from a file agree apart from it. -/
theorem WalkResult.agreesApartFrom_ofFound {start : Path} {found others : List Finding}
    (htree : (ofFound start found).snapshot.IsTree (rootNode start))
    (hother : (ofFound start others).snapshot.IsTree (rootNode start))
    (h : found.filter (Finding.isApartFrom before place)
      = others.filter (Finding.isApartFrom before place)) :
    (ofFound start found).AgreesApartFrom before place (ofFound start others) := by
  have hnodes : (ofFound start found).snapshot.nodes.filter (Node.isApartFrom before place)
      = (ofFound start others).snapshot.nodes.filter (Node.isApartFrom before place) := by
    have hkeep : ∀ finding node, Finding.node? finding = some node →
        node.isApartFrom before place = finding.isApartFrom before place := by
      intro finding node hnode
      cases finding with
      | node => rw [← Option.some.inj hnode]; rfl
      | skipped => cases hnode
    rw [nodes_ofFound, nodes_ofFound, List.filter_cons, List.filter_cons,
      ← filterMap_filter_findings hkeep, ← filterMap_filter_findings hkeep, h]
  refine ⟨hnodes, ?_, ?_, fun node hnode => ?_⟩
  · rw [htree.edgesAmong_filter rfl, hother.edgesAmong_filter rfl, hnodes]
  · have hkeep : ∀ finding entry, Finding.skipped? finding = some entry →
        (!before.isPathTo place entry.1) = finding.isApartFrom before place := by
      intro finding entry hentry
      cases finding with
      | node => cases hentry
      | skipped => rw [← Option.some.inj hentry]; rfl
    rw [ofFound, ofFound, ← filterMap_filter_findings hkeep, ← filterMap_filter_findings hkeep, h]
  · -- what is no definition is apart from the file
    have hmem : ∀ nodes : List Node, node ∈ nodes ↔
        node ∈ nodes.filter (Node.isApartFrom before place) := by
      intro nodes
      rw [List.mem_filter, and_iff_left]
      rw [Node.isApartFrom, hnode]
      rfl
    rw [hmem, hnodes, ← hmem]

/-- If the walks before and after an edit both return, the results agree apart from the file. -/
theorem IsFileEdit.agreesApartFrom (h : IsFileEdit before after place) {result other : WalkResult}
    (hresult : walk codecs before settings root = .ok result)
    (hother : walk codecs after settings root = .ok other) :
    result.AgreesApartFrom before place other := by
  obtain ⟨found, hfound⟩ := exists_walk_eq_ok_iff.1 ⟨result, hresult⟩
  obtain ⟨others, hothers⟩ := exists_walk_eq_ok_iff.1 ⟨other, hother⟩
  obtain ⟨hwalk, htree⟩ := walk_eq_of_visitFolder hfound
  obtain ⟨hotherWalk, hotherTree⟩ := walk_eq_of_visitFolder hothers
  obtain rfl := Except.ok.inj (hwalk.symm.trans hresult)
  obtain rfl := Except.ok.inj (hotherWalk.symm.trans hother)
  rw [h.sameLayout.walkStart_eq] at hothers hotherTree ⊢
  refine WalkResult.agreesApartFrom_ofFound htree hotherTree ?_
  exact h.sameLayout.visitFolder_related (isPassedOn_agreesOn _)
    (fun names => h.visitFile_agreesApartFrom (ofText_text_below_walkStart before root names))
    [] _ _ [] (Path.below_nil _).symm found others hfound hothers

/-- At a path that leads elsewhere an edit does not change whether a file is refused. -/
theorem IsFileEdit.isRefused_iff (h : IsFileEdit before after place) {decode : Decoder}
    {file : Path} (hplace : before.locate file ≠ .ok place) :
    IsRefused after decode file ↔ IsRefused before decode file := by
  have hbytes : after.readBytes file = before.readBytes file :=
    h.sameLayout.readBytes fun location hlocate =>
      h.others location fun heq => hplace (heq ▸ hlocate)
  rw [IsRefused, IsRefused, hbytes]

/-- Editing a file is local: if the walks before and after the edit both return, the results agree
    apart from the file. If the walk before it returns, the one after it does unless it reads the
    file and that is now refused. -/
theorem walk_of_isFileEdit
    (hextensions : ∀ suffix, ∃ held, settings.extensions.holds suffix = .ok held)
    (hwhole : ∀ x, settings.snippetLines ≠ .real x) {encodingText : String} {decode : Decoder}
    (hname : encodingName settings.encoding = .ok encodingText)
    (hdecoder : codecs.decoder encodingText = .ok decode)
    (hedit : IsFileEdit before after place) (root : Path) :
    (∀ result other, walk codecs before settings root = .ok result →
      walk codecs after settings root = .ok other → result.AgreesApartFrom before place other) ∧
    ∀ result, walk codecs before settings root = .ok result →
      ((∃ other, walk codecs after settings root = .ok other) ↔
        ∀ file, Reads before settings [] (walkStart before root) file →
          before.locate file = .ok place → ¬ IsRefused after decode file) := by
  refine ⟨fun result other => hedit.agreesApartFrom, fun result hresult => ?_⟩
  have hlayout := hedit.sameLayout
  obtain ⟨found, hfound⟩ := exists_walk_eq_ok_iff.1 ⟨result, hresult⟩
  have hplain : (walkStart before root).hasNull = false := by
    refine Bool.eq_false_iff.2 fun hnull => ?_
    cases (walk_of_hasNull hnull).symm.trans hresult
  have habsolute := isAbsolute_walkStart before root
  have haccepted := (exists_visitFolder_eq_ok_iff hextensions hwhole hname hdecoder before [] _ _
    habsolute hplain).1 ⟨found, hfound⟩
  rw [exists_walk_eq_ok_iff, hlayout.walkStart_eq, exists_visitFolder_eq_ok_iff hextensions hwhole
    hname hdecoder after [] _ _ habsolute hplain]
  -- the same files are read, and those that stand elsewhere are refused as before
  constructor
  · exact fun hafter file hreads _ => hafter file (hlayout.reads_iff.2 hreads)
  · intro hafter file hreads
    have hreads := hlayout.reads_iff.1 hreads
    by_cases hplace : before.locate file = .ok place
    · exact hafter file hreads hplace
    · rw [hedit.isRefused_iff hplace]
      exact haccepted file hreads

end

/-! ## A file that is edited -/

/-- The place of the file in a plain repository. -/
def sourcePlace : Location := [sourceName, repositoryName]

/-- The plain repository with other bytes in its file. -/
def editedRepository (bytes : List UInt8) : Volume :=
  plainRepository.put sourcePlace (.file bytes true)

theorem isFileEdit_editedRepository (bytes : List UInt8) :
    IsFileEdit plainRepository (editedRepository bytes) sourcePlace :=
  .of_put rfl (by decide +kernel) bytes

/-- After its bytes have been made undecodable the file is skipped and has its node as before. -/
theorem walk_undecodableEdit :
    (∀ suffix, ∃ held, ({} : Settings).extensions.holds suffix = .ok held) ∧
    (∀ x, ({} : Settings).snippetLines ≠ .real x) ∧
    encodingName ({} : Settings).encoding = .ok "utf-8" ∧
    Encoding.codecs.decoder "utf-8" = .ok utf8Decoder ∧
    IsFileEdit plainRepository (editedRepository [0xFF]) sourcePlace ∧
    ∃ result other, walk Encoding.codecs plainRepository {} (Path.ofText "/repo") = .ok result ∧
      walk Encoding.codecs (editedRepository [0xFF]) {} (Path.ofText "/repo") = .ok other ∧
      result.AgreesApartFrom plainRepository sourcePlace other ∧
      result.skipped = [] ∧ other.skipped.map (·.1) = ["/repo/a.py"] := by
  have hextensions : ∀ suffix, ∃ held, ({} : Settings).extensions.holds suffix = .ok held :=
    fun suffix => ⟨_, rfl⟩
  have hwhole : ∀ x, ({} : Settings).snippetLines ≠ .real x := nofun
  have hname : encodingName ({} : Settings).encoding = .ok "utf-8" := by decide +kernel
  have hdecoder := Encoding.codecs.decoder_utf8
  have hedit := isFileEdit_editedRepository [0xFF]
  have hbefore : (walk Encoding.codecs plainRepository {} (Path.ofText "/repo")).map (·.skipped)
      = .ok [] := by
    decide +kernel
  have hafter : (walk Encoding.codecs (editedRepository [0xFF]) {} (Path.ofText "/repo")).map
      (·.skipped.map (·.1)) = .ok ["/repo/a.py"] := by decide +kernel
  obtain ⟨result, hresult, hnone⟩ := map_eq_ok_iff.1 hbefore
  obtain ⟨agrees, returns⟩ := walk_of_isFileEdit hextensions hwhole hname hdecoder hedit
    (Path.ofText "/repo")
  obtain ⟨other, hother⟩ := (returns result hresult).2 fun file _ _ =>
    not_isRefused_utf8 _ file
  rw [hother] at hafter
  exact ⟨hextensions, hwhole, hname, hdecoder, hedit, result, other, hresult, hother,
    agrees result other hresult hother, hnone.symm, Except.ok.inj hafter⟩

/-- In UTF-16 the walk returns while the file holds nothing but a mark, and fails once that has been
    replaced by a text without one, though the encoding is known. -/
theorem walk_unmarkedEdit :
    encodingName (.text "utf-16") = .ok "utf-16" ∧
    Encoding.codecs.decoder "utf-16" = .ok Encoding.markedUtf16.decode ∧
    IsFileEdit (editedRepository [0xFF, 0xFE]) plainRepository sourcePlace ∧
    (walk Encoding.codecs (editedRepository [0xFF, 0xFE]) { encoding := .text "utf-16" }
      (Path.ofText "/repo")).map
      (·.snapshot.ids) = .ok ["folder:/repo", "file:/repo/a.py"] ∧
    walk Encoding.codecs plainRepository { encoding := .text "utf-16" } (Path.ofText "/repo")
      = .error (.scan (.read (.decoding .missingMark))) :=
  ⟨by decide +kernel, Encoding.decoder_codecs (by decide +kernel),
    (isFileEdit_editedRepository _).symm, by decide +kernel,
    by decide +kernel⟩

end SourceOutline
