import SourceOutline.Proofs.Graph.Acceptance

set_option autoImplicit false

/-! # What a refusal leaves behind

A builder that refuses a node keeps the nodes that it has, so most refusals leave it as it was
(`IsSound.fst_add_of_refused`). One kind leaves a trace: while the place of the root is free, a node
without a parent claims it even if the node is then refused for its range. After that the builder
refuses every node, since there is neither a root nor a place for one (`run_blocked`). In any
other case no later call can tell that there was a refusal (`replies_after_refusal`). -/

namespace SourceOutline

namespace GraphBuilder

/-! ## Calls and replies -/

/-- What a builder can be called for: to meet a request, or to give the graph of what it has. -/
inductive Call where
  | request (request : Request)
  | build

/-- What a call gives: the node that has been taken, nothing for several nodes, the graph, or the
    reason for which a node is refused. -/
inductive Reply where
  | taken (node : Node)
  | done
  | graph (snapshot : Snapshot)
  | refused (fault : BuildFault)
deriving DecidableEq

/-- The reply to a call. -/
def reply (builder : GraphBuilder) : Call → Reply
  | .request (.add node) => ((builder.add node).2.map Reply.refused).getD (.taken node)
  | .request (.extend nodes) => ((builder.extend nodes).2.map Reply.refused).getD .done
  | .build => .graph builder.build

/-- The builder after a call. -/
def afterCall (builder : GraphBuilder) : Call → GraphBuilder
  | .request request => builder.meet request
  | .build => builder

/-- The replies to calls, one after another. -/
def replies (builder : GraphBuilder) : List Call → List Reply
  | [] => []
  | call :: rest => builder.reply call :: (builder.afterCall call).replies rest

/-! ## The trace of a refusal -/

variable {builder : GraphBuilder} {node : Node}

/-- A node that is refused for its range claims the place of the root: the place is free, and the
    node has no parent. -/
structure ClaimsRoot (builder : GraphBuilder) (node : Node) : Prop where
  free : builder.rooted = false
  parentless : node.parentId = none
  reversed : node.isReversed = true

/-- A builder that has no nodes, though the place of the root has been claimed. -/
def blocked : GraphBuilder := { rooted := true }

/-- A sound builder that refuses a node is left as it was, unless the node claims the place of the
    root; then it is left without nodes and without that place. -/
theorem IsSound.fst_add_of_refused (h : builder.IsSound) {fault : BuildFault}
    (hrefused : (builder.add node).2 = some fault) :
    (¬ builder.ClaimsRoot node → (builder.add node).1 = builder) ∧
      (builder.ClaimsRoot node → (builder.add node).1 = blocked) := by
  unfold GraphBuilder.add at hrefused ⊢
  cases hplace : builder.placeFault? node with
  | some other =>
    refine ⟨fun _ => rfl, fun hclaims => ?_⟩
    -- with the place of the root free there is no node yet, so nothing is wrong with the place
    have hnone : builder.placeFault? node = none := by
      refine placeFault?_eq_none_iff.2 ⟨?_, .inl ⟨hclaims.free, hclaims.parentless⟩⟩
      rw [h.nodes_eq_nil hclaims.free]
      exact List.not_mem_nil
    cases hplace.symm.trans hnone
  | none =>
    simp only [hplace] at hrefused ⊢
    cases hrange : rangeFault? node with
    | none =>
      rw [hrange] at hrefused
      cases hrefused
    | some other =>
      have hreversed : node.isReversed = true := by
        rw [← Bool.not_eq_false, ← rangeFault?_eq_none_iff, hrange]
        exact nofun
      constructor
      · intro hclaims
        refine eq_of_nodes_eq rfl ?_
        cases hrooted : builder.rooted with
        | true => rw [claim, hrooted, Bool.true_or]
        | false =>
          rw [claim, hrooted, Bool.false_or]
          exact Bool.eq_false_iff.2 fun hnone =>
            hclaims ⟨hrooted, Option.isNone_iff_eq_none.1 hnone, hreversed⟩
      · intro hclaims
        refine eq_of_nodes_eq (h.nodes_eq_nil hclaims.free) ?_
        rw [claim, hclaims.parentless, Option.isNone_none, Bool.or_true, blocked]

/-! ## No way back -/

theorem add_blocked (node : Node) : ∃ fault, blocked.add node = (blocked, some fault) := by
  have hplace : ∃ fault, blocked.placeFault? node = some fault := by
    refine Option.ne_none_iff_exists'.1 fun hnone => ?_
    obtain ⟨-, ⟨hfree, -⟩ | ⟨parent, hparent, -⟩⟩ := placeFault?_eq_none_iff.1 hnone
    · cases hfree
    · exact List.not_mem_nil hparent
  obtain ⟨fault, hfault⟩ := hplace
  exact ⟨fault, by rw [add, hfault]⟩

theorem meet_blocked (request : Request) : blocked.meet request = blocked := by
  have hadd : ∀ node, (blocked.add node).1 = blocked := by
    intro node
    obtain ⟨fault, hfault⟩ := add_blocked node
    rw [hfault]
  cases request with
  | add node => exact hadd node
  | extend nodes =>
    cases nodes with
    | nil => rfl
    | cons node rest =>
      obtain ⟨fault, hfault⟩ := add_blocked node
      have hextend : blocked.extend (node :: rest) = blocked.add node :=
        extend_cons_of_some (show (blocked.add node).2 = some fault by rw [hfault])
      rw [meet, hextend, hadd]

theorem run_blocked (requests : List Request) : blocked.run requests = blocked := by
  induction requests with
  | nil => rfl
  | cons request rest ih =>
    rw [run, List.foldl_cons, meet_blocked]
    exact ih

/-! ## Refusals and later calls -/

/-- After any requests, the refusal of a node changes the reply to no later call if and only if the
    node does not claim the place of the root. If it does, no node is taken any more. -/
theorem replies_after_refusal (requests : List Request) {node : Node} {fault : BuildFault}
    (hrefused : ((({} : GraphBuilder).run requests).add node).2 = some fault) :
    ((∀ calls, ((({} : GraphBuilder).run requests).add node).1.replies calls
        = (({} : GraphBuilder).run requests).replies calls) ↔
      ¬ (({} : GraphBuilder).run requests).ClaimsRoot node) ∧
    ((({} : GraphBuilder).run requests).ClaimsRoot node → ∀ more,
      (((({} : GraphBuilder).run requests).add node).1.run more).nodes = []) := by
  have hsound := isSound_empty.run requests
  obtain ⟨hunclaimed, hclaimed⟩ := hsound.fst_add_of_refused hrefused
  refine ⟨⟨fun hsame hclaims => ?_, fun hclaims calls => ?_⟩, fun hclaims more => ?_⟩
  · -- a node that could be the root tells the two builders apart
    let root : Node := { id := "", label := "", kind := folderKind, sourcePath := "" }
    have hother := hsame [.request (.add root)]
    rw [hclaimed hclaims] at hother
    generalize ({} : GraphBuilder).run requests = builder at hother hsound hclaims
    obtain rfl : builder = {} := eq_of_nodes_eq (hsound.nodes_eq_nil hclaims.free) hclaims.free
    exact absurd hother (by decide)
  · rw [hunclaimed hclaims]
  · rw [hclaimed hclaims, run_blocked]
    rfl

/-! ## A root and its refusal -/

/-- The node of a folder that can be a root. -/
def soundRoot : Node where
  id := "folder:/r"
  label := "r"
  kind := folderKind
  sourcePath := "/r"

/-- The same node with a range that ends before it starts. -/
def reversedRoot : Node :=
  { soundRoot with startLine := 3, endLine := some 1 }

/-- The node of a file below the root, with a range that ends before it starts. -/
def reversedFile : Node where
  id := "file:/r/a.py"
  label := "a.py"
  kind := fileKind
  sourcePath := "/r/a.py"
  startLine := 5
  endLine := some 2
  parentId := some "folder:/r"

/-- After its root a builder refuses a file for its range, and no later call can tell. -/
theorem replies_after_refusal_reversedFile :
    ((({} : GraphBuilder).run [.add soundRoot]).add reversedFile).2
      = some (.reversedRange "file:/r/a.py" 5 2) ∧
    ¬ (({} : GraphBuilder).run [.add soundRoot]).ClaimsRoot reversedFile ∧
    ∀ calls, ((({} : GraphBuilder).run [.add soundRoot]).add reversedFile).1.replies calls
      = (({} : GraphBuilder).run [.add soundRoot]).replies calls := by
  have hrefused : ((({} : GraphBuilder).run [.add soundRoot]).add reversedFile).2
      = some (.reversedRange "file:/r/a.py" 5 2) := by decide
  have hclaims : ¬ (({} : GraphBuilder).run [.add soundRoot]).ClaimsRoot reversedFile :=
    fun hclaims => nomatch hclaims.parentless
  exact ⟨hrefused, hclaims, (replies_after_refusal [.add soundRoot] hrefused).1.2 hclaims⟩

/-- A fresh builder takes a root, but not after it has refused one for its range. -/
theorem refused_root_leaves_trace :
    (({} : GraphBuilder).add reversedRoot).2 = some (.reversedRange "folder:/r" 3 1) ∧
    ({} : GraphBuilder).replies [.request (.add soundRoot)] = [.taken soundRoot] ∧
    (({} : GraphBuilder).add reversedRoot).1.replies [.request (.add soundRoot)]
      = [.refused (.secondRoot "folder:/r")] := by
  decide

end GraphBuilder

end SourceOutline
