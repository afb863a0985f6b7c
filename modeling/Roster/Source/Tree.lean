import Roster.Source.Token

/-! # Syntax trees

A module as a list of statements, kept to what declarations can be read from: names, attributes,
items, calls and displays among expressions; definitions, assignments and imports among statements.
-/

namespace Roster.Source

/-- An expression. Brackets that only group leave no trace. -/
inductive Expr where
  | name (id : String)
  | attribute (owner : Expr) (name : String)
  | item (owner : Expr)
  | call (callee : Expr)
  | tuple (items : List Expr)
  | list (items : List Expr)
  | starred (inner : Expr)
  | other
  deriving Repr, Inhabited

/-- A name that an import brings in, and the name that it gets if another one. -/
structure ImportedName where
  name : String
  newName : Option String
  deriving DecidableEq, Repr

/-- A statement. `block` stands for a statement that holds others: they are listed in the order of
the text, whichever part of it they belong to. -/
inductive Stmt where
  | classDef (line : Nat) (name : Identifier) (bases decorators : List Expr) (body : List Stmt)
  | functionDef (name : String) (params : List String) (body : List Stmt)
  | assign (targets : List Expr)
  | annotated (target : Expr)
  | augmented (target : Expr)
  | importNames (names : List ImportedName)
  | importFrom (level : Nat) (module : Option String) (names : List ImportedName)
  | block (body : List Stmt)
  | other
  deriving Repr, Inhabited

mutual

/-- Whether an expression can be assigned to; `starred` tells whether a starred one can. -/
def Expr.isTarget (starred : Bool) : Expr → Bool
  | .name _ => true
  | .attribute _ _ => true
  | .item _ => true
  | .tuple items => areTargets starred items
  | .list items => areTargets starred items
  | .starred inner => starred && inner.isTarget starred
  | .call _ => false
  | .other => false

/-- Whether all expressions can be assigned to. -/
def areTargets (starred : Bool) : List Expr → Bool
  | [] => true
  | e :: rest => e.isTarget starred && areTargets starred rest

end

/-- Whether an expression is a single place to assign to. -/
def Expr.isSingleTarget : Expr → Bool
  | .name _ => true
  | .attribute _ _ => true
  | .item _ => true
  | _ => false

end Roster.Source
