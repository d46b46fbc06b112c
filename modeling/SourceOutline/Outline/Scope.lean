set_option autoImplicit false

/-! # Scopes

While a text is read from top to bottom, the definitions whose blocks are still open form a stack,
above a bottom scope that stands for the file and is never closed. The scope that encloses a new
definition is the innermost one that is indented less. -/

namespace SourceOutline

/-- An open scope: its depth, the id of its node, and its last line if that is known. -/
structure Scope (δ : Type) where
  depth : δ
  id : String
  endLine : Option Int := none
deriving Repr, DecidableEq

/-- The open scopes, innermost first, above the one at the bottom. -/
structure ScopeStack (δ : Type) where
  inner : List (Scope δ) := []
  bottom : Scope δ
deriving Repr, DecidableEq

namespace ScopeStack

variable {δ : Type}

/-- The stack of a file in which nothing is open yet; the file is at the depth `outside`. -/
def ofFile (outside : δ) (fileId : String) : ScopeStack δ where
  bottom := { depth := outside, id := fileId }

/-- The stack of the given scopes, outermost first; with none it is the one of the file. -/
def ofScopes (outside : δ) (fileId : String) : List (Scope δ) → ScopeStack δ
  | [] => ofFile outside fileId
  | bottom :: inner => { inner := inner.reverse, bottom }

/-- The scopes, outermost first. -/
def toList (stack : ScopeStack δ) : List (Scope δ) :=
  stack.bottom :: stack.inner.reverse

/-- How many scopes are open, the bottom one included. -/
def size (stack : ScopeStack δ) : Nat :=
  stack.inner.length + 1

/-- The innermost scope. -/
def top (stack : ScopeStack δ) : Scope δ :=
  stack.inner.headD stack.bottom

/-- Open a scope. -/
def push (stack : ScopeStack δ) (scope : Scope δ) : ScopeStack δ :=
  { stack with inner := scope :: stack.inner }

/-- Close the scopes at `depth` or deeper. Equal depth means sibling, so only shallower scopes stay
    open; what is then on top encloses a definition at `depth`. -/
def closeTo [LE δ] [DecidableLE δ] (stack : ScopeStack δ) (depth : δ) : ScopeStack δ :=
  { stack with inner := stack.inner.dropWhile fun scope => decide (depth ≤ scope.depth) }

end ScopeStack

end SourceOutline
