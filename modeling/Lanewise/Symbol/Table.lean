import Lanewise.Event
import Lanewise.Symbol.Basic

namespace Lanewise

/-- Names with their declarations, the newest first, and how many scopes are open around the global
one. -/
structure SymbolTable where
  names : List (String × List Symbol) := []
  depth : Nat := 0
  deriving DecidableEq, Repr

namespace SymbolTable

def size (table : SymbolTable) : Nat := table.names.length

def isEmpty (table : SymbolTable) : Bool := table.names.isEmpty

def pushScope (table : SymbolTable) : SymbolTable := { table with depth := table.depth + 1 }

/-- Forgets the declarations of the innermost scope, and the names that have no other. The global
scope stays open. -/
def popScope (table : SymbolTable) : SymbolTable where
  names := (table.names.map fun (name, symbols) =>
    (name, symbols.dropWhile (·.depth == table.depth))).filter fun entry => !entry.2.isEmpty
  depth := table.depth - 1

/-- The declarations of a name, the newest first. -/
def declarations (table : SymbolTable) (name : String) : List Symbol :=
  (table.names.lookup name).getD []

/-- The newest declaration of a name. -/
def get? (table : SymbolTable) (name : String) : Option Symbol := (table.declarations name).head?

/-- Whether the innermost scope declares a name. -/
def isDeclaredHere (table : SymbolTable) (name : String) : Bool :=
  match table.get? name with
  | some s => s.depth == table.depth
  | none => false

/-- Puts a declaration in front of those of its name. -/
def push (s : Symbol) : List (String × List Symbol) → List (String × List Symbol)
  | [] => [(s.name, [s])]
  | (name, symbols) :: names =>
    if name = s.name then (name, s :: symbols) :: names else (name, symbols) :: push s names

/-- A symbol as the innermost scope declares it. -/
def place (table : SymbolTable) (s : Symbol) : Symbol := { s with depth := table.depth }

/-- Declares a symbol in the innermost scope. -/
def add (table : SymbolTable) (s : Symbol) : SymbolTable :=
  { table with names := push (table.place s) table.names }

def addVariable (table : SymbolTable) (name : String) (type : Option String) : SymbolTable :=
  table.add (.ofVariable name type)

def addType (table : SymbolTable) (name : String) (signature : Signature) : SymbolTable :=
  table.add (.ofType name signature)

def addFunction (table : SymbolTable) (name : String) (type : Option String)
    (params : List String) : SymbolTable :=
  table.add (.ofFunction name type params)

def find? (table : SymbolTable) (name : String) (p : Symbol → Bool) : Option Symbol :=
  (table.declarations name).find? p

def getVariable? (table : SymbolTable) (name : String) : Option Symbol :=
  table.find? name Symbol.isVariable

def getType? (table : SymbolTable) (name : String) : Option Symbol :=
  table.find? name Symbol.isType

/-- The newest function of a name, with exactly the given parameter types if there are any given. -/
def getFunction? (table : SymbolTable) (name : String) (args : Option (List String)) :
    Option Symbol :=
  match args with
  | none => table.find? name Symbol.isFunction
  | some args => table.find? name fun s => s.params? == some (voidIfEmpty args)

/-- What closing a scope has to say. -/
def popEvents (table : SymbolTable) : List Event :=
  if table.depth = 0 then [⟨.warn, "pop_scope called on the global scope"⟩] else []

/-- What looking up a function has to say. -/
def functionEvents (table : SymbolTable) (name : String) (args : Option (List String)) :
    List Event :=
  match args, table.getFunction? name args with
  | some args, none =>
    [⟨.debug, "No overload of " ++ name ++ " matches (" ++
      String.intercalate ", " (voidIfEmpty args) ++ ")"⟩]
  | _, _ => []

end SymbolTable

end Lanewise
