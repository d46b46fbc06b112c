import Mathlib.Data.List.Forall2
import SourceOutline.Graph.Dot
import SourceOutline.Graph.DotReader
import SourceOutline.Proofs.Text.Decimal

set_option autoImplicit false

/-! # A DOT text can be read back

Whatever the texts of a snapshot hold, each of them stays inside its quotes: read character by
character, an escaped text leaves a string as open as it was (`Stays.dotText`). So every line of a
rendered snapshot gives the tokens that it was written for and no others (`Gives`), whatever lines
stand around it, and the statements are one for each node and one for each edge. Inside a label the
break between two rows is the only backslash before the letter n, since an escaped text holds a
backslash only before another one or before a quote. -/

namespace SourceOutline

/-! ## Inside a string -/

/-- Inside a string a text leaves the string open. -/
def Stays (text : List Char) : Prop :=
  ∀ (tokens : List DotToken) (done : List Char),
    DotScan.run ⟨tokens, .quoted done⟩ text = ⟨tokens, .quoted (done ++ text)⟩

namespace Stays

theorem append {text more : List Char} (h : Stays text) (hmore : Stays more) :
    Stays (text ++ more) := by
  intro tokens done
  rw [DotScan.run, List.foldl_append]
  have hfirst := h tokens done
  rw [DotScan.run] at hfirst
  rw [hfirst, ← List.append_assoc]
  exact hmore tokens (done ++ text)

theorem nil : Stays [] := by
  intro tokens done
  rw [List.append_nil]
  rfl

theorem pair (c : Char) : Stays ['\\', c] := fun _ _ => rfl

/-- A character does not end the string if it is escaped where it has to be. -/
theorem escapeDot (c : Char) : Stays (escapeDot c) := by
  unfold SourceOutline.escapeDot
  split
  case isTrue => exact pair c
  case isFalse hplain =>
    simp only [Bool.or_eq_true, decide_eq_true_eq, not_or] at hplain
    intro tokens done
    simp only [DotScan.run, List.foldl_cons, List.foldl_nil, DotScan.step, if_neg hplain.2,
      if_neg hplain.1]

theorem dotText (s : String) : Stays (dotText s) := by
  unfold SourceOutline.dotText
  induction s.toList with
  | nil => exact nil
  | cons c rest ih => exact (escapeDot c).append ih

theorem rows (rows : List String) :
    Stays (List.intercalate ['\\', 'n'] (rows.map SourceOutline.dotText)) := by
  induction rows with
  | nil => exact nil
  | cons row rest ih =>
    cases rest with
    | nil => simpa [List.intercalate] using dotText row
    | cons next others =>
      rw [List.map_cons, List.map_cons, List.intercalate_cons_cons, List.append_assoc]
      exact (dotText row).append ((pair 'n').append ih)

end Stays

/-! ## Tokens -/

/-- Between tokens a text gives tokens and ends between tokens again. -/
def Gives (text : List Char) (given : List DotToken) : Prop :=
  ∀ tokens : List DotToken,
    DotScan.run ⟨tokens, .between⟩ text = ⟨given.reverse ++ tokens, .between⟩

namespace Gives

theorem nil : Gives [] [] := fun _ => rfl

theorem append {text more : List Char} {given others : List DotToken} (h : Gives text given)
    (hmore : Gives more others) : Gives (text ++ more) (given ++ others) := by
  intro tokens
  have hfirst := h tokens
  rw [DotScan.run] at hfirst
  rw [DotScan.run, List.foldl_append, hfirst, List.reverse_append, List.append_assoc]
  exact hmore (given.reverse ++ tokens)

theorem dotString {body : List Char} (h : Stays body) :
    Gives (dotString body) [.quoted body] := by
  intro tokens
  have hopen : DotScan.run ⟨tokens, .between⟩ (SourceOutline.dotString body)
      = DotScan.run ⟨tokens, .quoted []⟩ (body ++ ['"']) := rfl
  have hbody := h tokens []
  rw [DotScan.run] at hbody
  rw [hopen, DotScan.run, List.foldl_append, hbody]
  rfl

theorem lines {lines : List (List Char)} {given : List (List DotToken)}
    (h : List.Forall₂ Gives lines given) :
    Gives (List.intercalate ['\n'] lines) given.flatten := by
  induction h with
  | nil => exact nil
  | @cons line tokens rest others hline hrest ih =>
    cases hrest with
    | nil => simpa [List.intercalate] using hline
    | cons hnext hothers =>
      have hbreak : Gives ['\n'] [] := fun _ => rfl
      rw [List.intercalate_cons_cons, List.flatten_cons, List.append_assoc]
      exact hline.append (hbreak.append ih)

end Gives

/-- The statement that is written for a node. -/
def DotStatement.ofNode (node : Node) : DotStatement :=
  .node (dotText node.id)
    [("label".toList, .quoted (List.intercalate ['\\', 'n'] (node.dotRows.map dotText))),
     ("shape".toList, .word (dotShape node.kind).toList)]

/-- The statement that is written for an edge. -/
def DotStatement.ofEdge (edge : Edge) : DotStatement :=
  .edge (dotText edge.source) (dotText edge.target)
    [("label".toList, .quoted (dotText edge.relation))]

/-- The tokens of the statement of a node, before its semicolon. -/
def Node.dotTokens (node : Node) : List DotToken :=
  [.quoted (dotText node.id), .symbol '[', .word "label".toList, .symbol '=',
   .quoted (List.intercalate ['\\', 'n'] (node.dotRows.map dotText)), .symbol ',',
   .word "shape".toList, .symbol '=', .word (dotShape node.kind).toList, .symbol ']']

/-- The tokens of the statement of an edge, before its semicolon. -/
def Edge.dotTokens (edge : Edge) : List DotToken :=
  [.quoted (dotText edge.source), .arrow, .quoted (dotText edge.target), .symbol '[',
   .word "label".toList, .symbol '=', .quoted (dotText edge.relation), .symbol ']']

/-- Any shape is written as a word, which the bracket after it ends. -/
theorem gives_dotShape (kind : String) :
    Gives (", shape=".toList ++ (dotShape kind).toList ++ "];".toList)
      [.symbol ',', .word "shape".toList, .symbol '=', .word (dotShape kind).toList, .symbol ']',
       .symbol ';'] := by
  intro tokens
  unfold dotShape
  split <;> rfl

theorem Node.gives_dotStatement (node : Node) :
    Gives node.dotStatement (node.dotTokens ++ [.symbol ';']) := by
  have hindent : Gives "  ".toList [] := fun _ => rfl
  have hlabel : Gives " [label=".toList [.symbol '[', .word "label".toList, .symbol '='] :=
    fun _ => rfl
  have hparts : node.dotStatement = "  ".toList ++ (dotString (dotText node.id)
      ++ (" [label=".toList
        ++ (dotString (List.intercalate ['\\', 'n'] (node.dotRows.map dotText))
          ++ (", shape=".toList ++ (dotShape node.kind).toList ++ "];".toList)))) := by
    delta dotStatement
    simp only [List.append_assoc]
  rw [hparts]
  exact hindent.append ((Gives.dotString (Stays.dotText node.id)).append
    (hlabel.append ((Gives.dotString (Stays.rows node.dotRows)).append
      (gives_dotShape node.kind))))

theorem Edge.gives_dotStatement (edge : Edge) :
    Gives edge.dotStatement (edge.dotTokens ++ [.symbol ';']) := by
  have hindent : Gives "  ".toList [] := fun _ => rfl
  have harrow : Gives " -> ".toList [.arrow] := fun _ => rfl
  have hlabel : Gives " [label=".toList [.symbol '[', .word "label".toList, .symbol '='] :=
    fun _ => rfl
  have hclose : Gives "];".toList [.symbol ']', .symbol ';'] := fun _ => rfl
  have hparts : edge.dotStatement = "  ".toList ++ (dotString (dotText edge.source)
      ++ (" -> ".toList ++ (dotString (dotText edge.target)
        ++ (" [label=".toList ++ (dotString (dotText edge.relation) ++ "];".toList))))) := by
    delta dotStatement
    simp only [List.append_assoc]
  rw [hparts]
  exact hindent.append ((Gives.dotString (Stays.dotText edge.source)).append
    (harrow.append ((Gives.dotString (Stays.dotText edge.target)).append
      (hlabel.append ((Gives.dotString (Stays.dotText edge.relation)).append hclose)))))

/-- The tokens of the statement that sets the direction. -/
def dotDirectionTokens : List DotToken :=
  [.word "rankdir".toList, .symbol '=', .word "LR".toList]

/-- The tokens of statements with a semicolon after each of them. -/
def statementTokens {α : Type} (tokens : α → List DotToken) (items : List α) : List DotToken :=
  items.flatMap fun item => tokens item ++ [.symbol ';']

theorem dotTokens_renderDot (snapshot : Snapshot) :
    dotTokens snapshot.renderDot.toList = some
      (.word "digraph".toList :: .word "RepoGraph".toList :: .symbol '\x7b'
        :: (dotDirectionTokens ++ .symbol ';'
          :: (statementTokens Node.dotTokens snapshot.nodes
            ++ (statementTokens Edge.dotTokens snapshot.edges ++ [.symbol '\x7d'])))) := by
  let given : List (List DotToken) :=
    [[.word "digraph".toList, .word "RepoGraph".toList, .symbol '\x7b'],
     dotDirectionTokens ++ [.symbol ';']]
      ++ snapshot.nodes.map (fun node => node.dotTokens ++ [.symbol ';'])
      ++ snapshot.edges.map (fun edge => edge.dotTokens ++ [.symbol ';']) ++ [[.symbol '\x7d']]
  have hlines : List.Forall₂ Gives snapshot.dotLines given := by
    refine List.rel_append (List.rel_append (List.rel_append ?_ ?_) ?_) ?_
    · exact .cons (fun _ => rfl) (.cons (fun _ => rfl) .nil)
    · exact List.forall₂_map_left_iff.2 (List.forall₂_map_right_iff.2
        (List.forall₂_same.2 fun node _ => node.gives_dotStatement))
    · exact List.forall₂_map_left_iff.2 (List.forall₂_map_right_iff.2
        (List.forall₂_same.2 fun edge _ => edge.gives_dotStatement))
    · exact .cons (fun _ => rfl) .nil
  rw [dotTokens, Snapshot.renderDot, String.toList_ofList, Gives.lines hlines [], DotScan.finish]
  simp [given, statementTokens, List.flatMap]

/-! ## Statements -/

/-- The tokens up to a semicolon are read as one statement. -/
theorem readDotStatements_append {tokens : List DotToken} {statement : DotStatement}
    (rest : List DotToken) (hplain : .symbol ';' ∉ tokens) :
    ∀ current : List DotToken, readDotStatement (current ++ tokens) = some statement →
      readDotStatements current (tokens ++ .symbol ';' :: rest)
        = (readDotStatements [] rest).map (statement :: ·) := by
  induction tokens with
  | nil =>
    intro current hread
    rw [List.append_nil] at hread
    simp only [List.nil_append, readDotStatements, if_true, hread, bind, Option.bind]
    cases readDotStatements [] rest <;> rfl
  | cons token tokens ih =>
    intro current hread
    simp only [List.mem_cons, not_or] at hplain
    have hmore : tokens ++ .symbol ';' :: rest ≠ [] := by simp
    rw [List.append_cons] at hread
    rw [List.cons_append, readDotStatements, if_neg fun h => hplain.1 h.symm,
      if_neg fun h => hmore h.2]
    exact ih hplain.2 _ hread

/-- What is read where the statements of some items come first, if each item is read by itself. -/
theorem readDotStatements_statementTokens {α : Type} {tokens : α → List DotToken}
    {statement : α → DotStatement} (hplain : ∀ item, .symbol ';' ∉ tokens item)
    (hread : ∀ item, readDotStatement (tokens item) = some (statement item)) (items : List α)
    (rest : List DotToken) :
    readDotStatements [] (statementTokens tokens items ++ rest)
      = (readDotStatements [] rest).map (items.map statement ++ ·) := by
  induction items with
  | nil => simp [statementTokens]
  | cons item items ih =>
    have hitem : statementTokens tokens (item :: items) ++ rest
        = tokens item ++ .symbol ';' :: (statementTokens tokens items ++ rest) := by
      simp [statementTokens]
    rw [hitem, readDotStatements_append _ (hplain item) [] (hread item), ih, Option.map_map]
    rfl

theorem Node.readDotStatement_dotTokens (node : Node) :
    readDotStatement node.dotTokens = some (.ofNode node) := rfl

theorem Edge.readDotStatement_dotTokens (edge : Edge) :
    readDotStatement edge.dotTokens = some (.ofEdge edge) := rfl

/-- A rendered snapshot is read as a graph with a statement for each node and then one for each
    edge. -/
theorem readDot_renderDot (snapshot : Snapshot) :
    readDot snapshot.renderDot = some
      { name := "RepoGraph".toList
        statements := .assign "rankdir".toList (.word "LR".toList)
          :: (snapshot.nodes.map DotStatement.ofNode
            ++ snapshot.edges.map DotStatement.ofEdge) } := by
  have hnodes := readDotStatements_statementTokens (fun node => by simp [Node.dotTokens])
    Node.readDotStatement_dotTokens snapshot.nodes
  have hedges := readDotStatements_statementTokens (fun edge => by simp [Edge.dotTokens])
    Edge.readDotStatement_dotTokens snapshot.edges
  have hdirection : .symbol ';' ∉ dotDirectionTokens := by simp [dotDirectionTokens]
  have hbrace : readDotStatements [] [.symbol '\x7d'] = some [] := rfl
  have hstatements := readDotStatements_append (statementTokens Node.dotTokens snapshot.nodes
    ++ (statementTokens Edge.dotTokens snapshot.edges ++ [.symbol '\x7d'])) hdirection [] rfl
  rw [hnodes, hedges, hbrace] at hstatements
  simp only [readDot, dotTokens_renderDot, bind, Option.bind, if_true, hstatements]
  simp

/-! ## Texts and rows -/

theorem unescapeDot_escapeDot_append (c : Char) (rest : List Char) :
    unescapeDot (escapeDot c ++ rest) = c :: unescapeDot rest := by
  by_cases hescaped : c = '\\' ∨ c = '"'
  · simp [escapeDot, hescaped, unescapeDot]
  · obtain ⟨hbackslash, hquote⟩ := not_or.1 hescaped
    simp [escapeDot, hbackslash, hquote, unescapeDot]

theorem dotContent_dotText (s : String) : dotContent (dotText s) = s := by
  have hlist : ∀ text : List Char, unescapeDot (text.flatMap escapeDot) = text := by
    intro text
    induction text with
    | nil => rfl
    | cons c rest ih => rw [List.flatMap_cons, unescapeDot_escapeDot_append, ih]
  rw [dotContent, dotText, hlist, String.ofList_toList]

/-- An escaped character goes on with the first row. -/
theorem dotRowsOf_escapeDot_append (c : Char) (rest : List Char) :
    dotRowsOf (escapeDot c ++ rest) = (escapeDot c).foldr consPiece (dotRowsOf rest) := by
  by_cases hescaped : c = '\\' ∨ c = '"'
  · -- what is escaped is not the letter that parts rows
    have hletter : c ≠ 'n' := by rcases hescaped with rfl | rfl <;> decide
    simp [escapeDot, hescaped, dotRowsOf, hletter]
  · obtain ⟨hbackslash, hquote⟩ := not_or.1 hescaped
    simp [escapeDot, hbackslash, hquote, dotRowsOf]

theorem foldr_consPiece_nil_cons (text : List Char) (pieces : List (List Char)) :
    text.foldr consPiece ([] :: pieces) = text :: pieces := by
  induction text with
  | nil => rfl
  | cons c rest ih => rw [List.foldr_cons, ih, consPiece]

theorem dotRowsOf_dotText_append (s : String) (rest : List Char) :
    dotRowsOf (dotText s ++ rest) = (dotText s).foldr consPiece (dotRowsOf rest) := by
  unfold dotText
  induction s.toList with
  | nil => rfl
  | cons c text ih =>
    rw [List.flatMap_cons, List.append_assoc, dotRowsOf_escapeDot_append, ih, List.foldr_append]

/-- The rows of a label are the escaped texts between which breaks were put. -/
theorem dotRowsOf_intercalate (row : String) (rest : List String) :
    dotRowsOf (List.intercalate ['\\', 'n'] ((row :: rest).map dotText))
      = (row :: rest).map dotText := by
  induction rest generalizing row with
  | nil =>
    have hrow := dotRowsOf_dotText_append row []
    rw [dotRowsOf, foldr_consPiece_nil_cons, List.append_nil] at hrow
    simpa [List.intercalate] using hrow
  | cons next others ih =>
    have hbreak : dotRowsOf ('\\' :: 'n' :: List.intercalate ['\\', 'n']
        ((next :: others).map dotText)) = [] :: (next :: others).map dotText := by
      rw [dotRowsOf, if_pos rfl, ih next]
    rw [List.map_cons, List.map_cons, List.intercalate_cons_cons, List.append_assoc,
      dotRowsOf_dotText_append, ← List.map_cons]
    simp only [List.cons_append, List.nil_append, hbreak, foldr_consPiece_nil_cons]

/-! ## Ranges of lines -/

theorem dotNatural?_toDigits (n : Nat) : dotNatural? (Nat.toDigits 10 n) = some n := by
  have hdigits : (Nat.toDigits 10 n).all Char.isDigit = true :=
    List.all_eq_true.2 fun _ => isDigit_of_mem_toDigits
  rw [dotNatural?, if_pos ⟨hdigits, Nat.toDigits_ne_nil⟩, Nat.ofDigitChars_ten_toDigits]

theorem dash_notMem_toDigits (n : Nat) : '-' ∉ Nat.toDigits 10 n := fun hmem =>
  absurd (isDigit_of_mem_toDigits hmem) (by decide)

/-- The text of a whole number is read as the number, and no dash comes after its first
    character. -/
theorem exists_toList_toString (n : Int) :
    ∃ c digits, (toString n).toList = c :: digits ∧ '-' ∉ digits ∧
      dotWhole? (c :: digits) = some n := by
  cases n with
  | ofNat m =>
    have htext : (toString (Int.ofNat m)).toList = Nat.toDigits 10 m := toList_toString_natCast m
    obtain ⟨c, digits, hdigits⟩ :=
      List.exists_cons_of_ne_nil (Nat.toDigits_ne_nil : Nat.toDigits 10 m ≠ [])
    have hplain := dash_notMem_toDigits m
    have hread := dotNatural?_toDigits m
    rw [hdigits] at hplain hread
    obtain ⟨hfirst, hrest⟩ := not_or.1 (mt List.mem_cons.2 hplain)
    refine ⟨c, digits, htext.trans hdigits, hrest, ?_⟩
    rw [dotWhole?, hread]
    · rfl
    · intro rest hdash
      exact hfirst (List.cons.inj hdash).1.symm
  | negSucc m =>
    refine ⟨'-', _, toList_toString_negSucc m, dash_notMem_toDigits (m + 1), ?_⟩
    rw [dotWhole?, dotNatural?_toDigits]
    rfl

theorem dotRange?_toString (start last : Int) :
    dotRange? (toString start ++ "-" ++ toString last).toList = some (start, last) := by
  obtain ⟨c, digits, hstart, hplain, hfirst⟩ := exists_toList_toString start
  obtain ⟨c', digits', hlast, -, hsecond⟩ := exists_toList_toString last
  have hdigits : ∀ digit ∈ digits, (digit != '-') = true := by
    intro digit hdigit
    rw [bne_iff_ne]
    rintro rfl
    exact hplain hdigit
  have hrange : (toString start ++ "-" ++ toString last).toList
      = c :: (digits ++ '-' :: c' :: digits') := by
    rw [String.toList_append, String.toList_append, hstart, hlast]
    simp
  rw [hrange, dotRange?, List.takeWhile_append_of_pos hdigits,
    List.dropWhile_append_of_pos hdigits]
  simp only [List.takeWhile_cons, List.dropWhile_cons, bne_self_eq_false, Bool.false_eq_true,
    if_false, List.append_nil, List.drop_succ_cons, List.drop_zero, hfirst, hsecond]
  rfl

/-! ## What the statements tell -/

/-- What a DOT text tells about a node. -/
def Node.dotNode (node : Node) : DotNode where
  id := node.id
  kind := node.kind
  label := node.label
  range := node.endLine.map fun last => (node.startLine, last)

theorem dotLabel?_cons (body : List Char) (attributes : List DotAttribute) :
    dotLabel? (("label".toList, .quoted body) :: attributes) = some body := by
  simp [dotLabel?]

namespace DotStatement

theorem node?_ofNode (node : Node) : (ofNode node).node? = some node.dotNode := by
  have hkind := dotRowsOf_intercalate node.kind
  cases hend : node.endLine with
  | none =>
    have hrows : node.dotRows = [node.kind, node.label] := by simp [Node.dotRows, hend]
    simp only [ofNode, node?, dotLabel?_cons, hrows, hkind, bind, Option.bind]
    simp only [List.map_cons, List.map_nil, dotContent_dotText, Node.dotNode, hend,
      Option.map_none]
  | some last =>
    have hrows : node.dotRows
        = [node.kind, node.label, toString node.startLine ++ "-" ++ toString last] := by
      simp [Node.dotRows, hend]
    have hrange := dotRange?_toString node.startLine last
    rw [← dotContent_dotText (toString node.startLine ++ "-" ++ toString last), dotContent,
      String.toList_ofList] at hrange
    simp only [ofNode, node?, dotLabel?_cons, hrows, hkind, bind, Option.bind]
    simp only [List.map_cons, List.map_nil, hrange, dotContent_dotText, Node.dotNode, hend,
      Option.map_some]

theorem edge?_ofEdge (edge : Edge) : (ofEdge edge).edge? = some edge := by
  simp only [ofEdge, edge?, dotLabel?_cons, bind, Option.bind, dotContent_dotText]
  rfl

end DotStatement

/-- The statements of a rendered snapshot tell about all of its nodes and edges. -/
theorem filterMap_statements (snapshot : Snapshot) :
    (snapshot.nodes.map DotStatement.ofNode
        ++ snapshot.edges.map DotStatement.ofEdge).filterMap DotStatement.node?
      = snapshot.nodes.map Node.dotNode ∧
    (snapshot.nodes.map DotStatement.ofNode
        ++ snapshot.edges.map DotStatement.ofEdge).filterMap DotStatement.edge?
      = snapshot.edges := by
  have hnode : DotStatement.node? ∘ DotStatement.ofEdge = fun _ => none := rfl
  have hedge : DotStatement.edge? ∘ DotStatement.ofNode = fun _ => none := rfl
  have hnodes : DotStatement.node? ∘ DotStatement.ofNode = fun node => some node.dotNode :=
    funext DotStatement.node?_ofNode
  have hedges : DotStatement.edge? ∘ DotStatement.ofEdge = some := funext DotStatement.edge?_ofEdge
  simp only [List.filterMap_append, List.filterMap_map, hnode, hedge, hnodes, hedges]
  simp

/-- A rendered snapshot is read as a graph that has, after the statement for its direction, exactly
    one statement for each node in order and then exactly one for each edge in order. They tell the
    id, kind, label and range of lines of each node, and each edge as it is. So snapshots that are
    rendered alike agree on all of this. -/
theorem renderDot_faithful (snapshot : Snapshot) :
    (∃ nodes edges, readDot snapshot.renderDot = some
        { name := "RepoGraph".toList
          statements := .assign "rankdir".toList (.word "LR".toList) :: (nodes ++ edges) } ∧
      nodes.map DotStatement.node? = snapshot.nodes.map (fun node => some node.dotNode) ∧
      edges.map DotStatement.edge? = snapshot.edges.map some) ∧
    ∀ other : Snapshot, other.renderDot = snapshot.renderDot →
      other.nodes.map Node.dotNode = snapshot.nodes.map Node.dotNode ∧
      other.edges = snapshot.edges := by
  refine ⟨⟨_, _, readDot_renderDot snapshot, ?_, ?_⟩, fun other hsame => ?_⟩
  · rw [List.map_map]
    exact List.map_congr_left fun node _ => DotStatement.node?_ofNode node
  · rw [List.map_map]
    exact List.map_congr_left fun edge _ => DotStatement.edge?_ofEdge edge
  · have hread := readDot_renderDot other
    rw [hsame, readDot_renderDot] at hread
    have hstatements := (List.cons.inj (DotGraph.mk.inj (Option.some.inj hread)).2).2
    obtain ⟨hnodes, hedges⟩ := filterMap_statements snapshot
    rw [hstatements] at hnodes hedges
    exact ⟨(filterMap_statements other).1.symm.trans hnodes,
      (filterMap_statements other).2.symm.trans hedges⟩

end SourceOutline
