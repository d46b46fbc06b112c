import SourceOutline.Config.Value
import SourceOutline.Graph.Snapshot

set_option autoImplicit false

/-! # Looking up nodes

Nodes are asked for by an id, their own or their parent's. An id is a text; a missing value stands
for the parent of the nodes that have none, and for any other value there is no node. -/

namespace SourceOutline

/-- Why a value leads to no node. -/
inductive LookupFault where
  | notFound (id : String)
  /-- A list or a table is no id; its type is named. -/
  | notPlain (type : String)
deriving Repr, DecidableEq

/-- The wording of a fault. -/
def LookupFault.message : LookupFault → String
  | notFound id => nodeNotFoundMessage id
  | notPlain type => "unhashable type: '" ++ type ++ "'"

/-- The node whose id a value is. -/
def Snapshot.lookup (snapshot : Snapshot) (id : Value) : Except LookupFault Node :=
  match id with
  | .text s =>
    match snapshot.get? s with
    | some node => .ok node
    | none => .error (.notFound s)
  | .list _ _ | .table _ _ => .error (.notPlain id.typeName)
  | _ => .error (.notFound id.shown)

/-- The nodes whose parent has a value as its id. -/
def Snapshot.childrenUnder (snapshot : Snapshot) : Value → List Node
  | .text s => snapshot.childrenOf s
  | .null => snapshot.nodes.filter (·.parentId.isNone)
  | _ => []

end SourceOutline
