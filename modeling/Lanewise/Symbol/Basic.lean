namespace Lanewise

/-- The parameter types and the result type of a type definition. -/
structure Signature where
  result : String
  params : List String
  deriving DecidableEq, Repr

namespace Signature

/-- Whether the arguments are the first parameters, one by one. -/
def accepts (s : Signature) (args : List String) : Bool := args.isPrefixOf s.params

def render (s : Signature) : String := String.intercalate "," s.params ++ ":" ++ s.result

end Signature

/-- What a name stands for. -/
inductive Meaning where
  | var
  | func (params : List String)
  | type (signature : Signature)
  deriving DecidableEq, Repr

/-- A declared name. -/
structure Symbol where
  name : String
  meaning : Meaning
  type : Option String
  baseType : Option String := none
  qualifier : Option String := none
  arraySize : Option Nat := none
  depth : Nat := 0
  shownName : String
  constant : Option (List Float32) := none
  deriving DecidableEq, Repr

/-- A parameter list without parameters is written as one of type `void`. -/
def voidIfEmpty (params : List String) : List String :=
  if params.isEmpty then ["void"] else params

namespace Symbol

def ofVariable (name : String) (type : Option String) : Symbol :=
  { name, meaning := .var, type, shownName := name }

def ofFunction (name : String) (type : Option String) (params : List String) : Symbol :=
  { name, meaning := .func (voidIfEmpty params), type, shownName := name }

def ofType (name : String) (signature : Signature) : Symbol :=
  { name, meaning := .type signature, type := none, shownName := name }

def withQualifier (s : Symbol) (qualifier : String) : Symbol := { s with qualifier := some qualifier }

def withArraySize (s : Symbol) (size : Nat) : Symbol := { s with arraySize := some size }

def withBaseType (s : Symbol) (type : String) : Symbol := { s with baseType := some type }

def withShownName (s : Symbol) (name : String) : Symbol := { s with shownName := name }

def withConstant (s : Symbol) (value : List Float32) : Symbol := { s with constant := some value }

def isVariable (s : Symbol) : Bool := s.meaning matches .var

def isFunction (s : Symbol) : Bool := s.meaning matches .func _

def isType (s : Symbol) : Bool := s.meaning matches .type _

def params? (s : Symbol) : Option (List String) :=
  match s.meaning with
  | .func params => some params
  | _ => none

def signature? (s : Symbol) : Option Signature :=
  match s.meaning with
  | .type signature => some signature
  | _ => none

end Symbol

end Lanewise
