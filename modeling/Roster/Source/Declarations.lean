import Roster.OrderedMap
import Roster.Source.Module
import Roster.SourceScan

/-! # Declarations of a module

What a module declares: the names that its imports bind, and its classes with their bases, fields
and marks. Only what stands directly in the module or in the body of a class counts.

* `importsOf`: each bound name with the dotted name that it stands for.
* `fieldsOf`: the names assigned in a class body, and those assigned to the first parameter of its
  initializer, in the order of the text.
* `classesOf`: a class comes before the classes in its body.
-/

namespace Roster.Source

/-! ## Dotted names -/

/-- A name inside a module or a class; nothing is put in front of it if the outer name is empty. -/
def qualify (outer name : String) : String := if outer = "" then name else outer ++ "." ++ name

/-- The dotted name that an expression writes, whatever items are taken of it. -/
def Expr.dottedName? : Expr → Option String
  | .name id => some id
  | .attribute owner last => owner.dottedName?.map fun o => o ++ "." ++ last
  | .item owner => owner.dottedName?
  | _ => none

/-- The part of a dotted name before the first dot, and the part after it. -/
def splitHead (dotted : String) : String × String :=
  match splitText '.' dotted with
  | [] => ("", "")
  | head :: rest => (head, String.intercalate "." rest)

/-- The names that imports bind, with the dotted names that they stand for. -/
abbrev ImportTable := OrderedMap String String

/-- The dotted name that a name stands for under a table of imports. -/
def ImportTable.resolve (imports : ImportTable) (dotted : String) : String :=
  let (head, rest) := splitHead dotted
  let target := (imports.get? head).getD head
  if rest = "" then target else target ++ "." ++ rest

/-! ## Imports -/

/-- The module that a relative import starts from, as its parts: the package of the module that
imports, one level up for every dot after the first. -/
def packageParts (level : Nat) (module : String) (package : Bool) : List String :=
  let parts := if module = "" then [] else splitText '.' module
  let parts := if package then parts else parts.dropLast
  parts.take (parts.length - (level - 1))

/-- The module that an import takes names from. -/
def importBase (level : Nat) (source : Option String) (module : String) (package : Bool) : String :=
  if level = 0 then source.getD ""
  else String.intercalate "." (packageParts level module package ++ source.toList)

/-- What an import of a module binds: the other name for it, or the first part of its name. -/
def moduleBinding (n : ImportedName) : String × String :=
  match n.newName with
  | some newName => (newName, n.name)
  | none => ((splitHead n.name).1, (splitHead n.name).1)

/-- What an import from a module binds. -/
def nameBinding (base : String) (n : ImportedName) : String × String :=
  (n.newName.getD n.name, qualify base n.name)

/-- What a statement binds by importing. -/
def importBindings (module : String) (package : Bool) : Stmt → List (String × String)
  | .importNames names => names.map moduleBinding
  | .importFrom level source names =>
    (names.filter (·.name ≠ allNames)).map (nameBinding (importBase level source module package))
  | _ => []

/-- The table of the imports of a module; a later one wins. -/
def importsOf (module : String) (package : Bool) (body : List Stmt) : ImportTable :=
  OrderedMap.ofList (body.flatMap (importBindings module package))

/-! ## Fields -/

mutual

/-- The plain names among the targets in an expression. -/
def Expr.targetNames : Expr → List String
  | .name id => [id]
  | .tuple items => targetNamesAll items
  | .list items => targetNamesAll items
  | .starred inner => inner.targetNames
  | _ => []

/-- The plain names among the targets in expressions. -/
def targetNamesAll : List Expr → List String
  | [] => []
  | e :: rest => e.targetNames ++ targetNamesAll rest

end

mutual

/-- The attributes of a name among the targets in an expression. -/
def Expr.attributesOf (owner : String) : Expr → List String
  | .attribute (.name id) last => if id = owner then [last] else []
  | .tuple items => attributesOfAll owner items
  | .list items => attributesOfAll owner items
  | .starred inner => inner.attributesOf owner
  | _ => []

/-- The attributes of a name among the targets in expressions. -/
def attributesOfAll (owner : String) : List Expr → List String
  | [] => []
  | e :: rest => e.attributesOf owner ++ attributesOfAll owner rest

end

mutual

/-- The targets of the assignments in a statement, also in its blocks but not in definitions. -/
def Stmt.targets : Stmt → List Expr
  | .assign targets => targets
  | .annotated target => [target]
  | .augmented target => [target]
  | .block body => targetsAll body
  | _ => []

/-- The targets of the assignments in statements. -/
def targetsAll : List Stmt → List Expr
  | [] => []
  | s :: rest => s.targets ++ targetsAll rest

end

/-- The name of the function that sets up an instance. -/
def initializer : String := "__init__"

/-- The names that a statement of a class body declares. -/
def declaredNames : Stmt → List String
  | .annotated (.name id) => [id]
  | .assign targets => targetNamesAll targets
  | .functionDef name (self :: _) body =>
    if name = initializer then (targetsAll body).flatMap (Expr.attributesOf self) else []
  | _ => []

/-- Whether a name has two underscores on both sides, and so is kept for the language. -/
def isReservedName (name : String) : Bool := name.startsWith "__" && name.endsWith "__"

/-- The fields that a class body declares, each once. -/
def fieldsOf (body : List Stmt) : List String :=
  ((body.flatMap declaredNames).filter fun n => !isReservedName n).eraseDups

/-! ## Classes -/

/-- The mark of the classes that get companions. -/
def markName : String := "fieldable"

/-- The modules that the mark may come from. -/
def markModules : List String := ["fielder", "fielder.markers"]

/-- The bases that make a class an interface. -/
def interfaceBases : List String := ["Protocol", "typing.Protocol", "typing_extensions.Protocol"]

/-- A decorator without the arguments that it may have. -/
def Expr.callee : Expr → Expr
  | .call callee => callee
  | e => e

/-- Whether a decorator is the mark: by its bare name, or from one of its modules. -/
def isMark (imports : ImportTable) (decorator : Expr) : Bool :=
  match decorator.callee.dottedName? with
  | none => false
  | some dotted =>
    let resolved := imports.resolve dotted
    resolved = markName || markModules.any fun m => resolved = m ++ "." ++ markName

/-- A class as its module declares it. `path` is its name inside the module. -/
structure ClassDeclaration where
  module : String
  path : String
  name : String
  bases : List String
  fields : List String
  marked : Bool
  interface : Bool
  origin : String
  deriving DecidableEq, Repr, Inhabited

/-- The name of a class among all classes. -/
def ClassDeclaration.key (c : ClassDeclaration) : String := qualify c.module c.path

mutual

/-- The class that a statement defines and those in its body; `outer` is what stands in front of
their names. -/
def classesOf (file : SourceFile) (imports : ImportTable) (outer : String) :
    Stmt → List ClassDeclaration
  | .classDef line name bases decorators body =>
    let bases := bases.filterMap Expr.dottedName?
    { module := file.module
      path := outer ++ name.text
      name := name.text
      bases
      fields := fieldsOf body
      marked := decorators.any (isMark imports)
      interface := bases.any fun b => interfaceBases.contains (imports.resolve b)
      origin := file.relativePath ++ ":" ++ toString line }
      :: classesOfAll file imports (outer ++ name.text ++ ".") body
  | _ => []

/-- The classes that statements define. -/
def classesOfAll (file : SourceFile) (imports : ImportTable) (outer : String) :
    List Stmt → List ClassDeclaration
  | [] => []
  | s :: rest => classesOf file imports outer s ++ classesOfAll file imports outer rest

end

/-- What a module declares. -/
structure Declarations where
  imports : ImportTable
  classes : List ClassDeclaration
  deriving DecidableEq

/-- Whether a module stands for its directory. -/
def isPackage (file : SourceFile) : Bool := file.relativePath.endsWith (packageFile ++ ".py")

/-- What a module declares, `none` if its text is no module. -/
def declarations? (file : SourceFile) (text : String) : Option Declarations := do
  let body ← parse? text
  let imports := importsOf file.module (isPackage file) body
  some ⟨imports, classesOfAll file imports "" body⟩

end Roster.Source
