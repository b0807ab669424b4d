import EventDispatch.Event.Attribute
import EventDispatch.Event.DottedName

namespace EventDispatch

structure DeclaredField where
  ident : String
  attributes : List Attribute

inductive DeclaredShape where
  | named (fields : List DeclaredField)
  | tuple
  | unit
  | enumeration
  | union

/-- A declared event type, in the texts as written. -/
structure Declaration where
  ident : String
  /-- The text after the name: parameters between angle brackets, then conditions. -/
  generics : String
  shape : DeclaredShape
  attributes : List Attribute

inductive DeclarationError where
  | generic
  | attribute (e : AttributeError)
  | unnamedFields
  | notStruct
  | noTimestamp
deriving DecidableEq

def DeclarationError.message : DeclarationError → String
  | .generic => "Event derive does not support generic types"
  | .attribute e => e.message
  | .unnamedFields => "Event derive requires a struct with named fields"
  | .notStruct => "Event derive only supports structs"
  | .noTimestamp =>
    "Event derive: no field marked with #[event(timestamp)] and no field named `occurred_at`"

/-- The last word of a field says its name. -/
def DeclaredField.name (f : DeclaredField) : String :=
  ((Token.ofText f.ident).filterMap Token.word?).getLastD ""

namespace Declaration

/-- What stands before the fields. -/
def head (d : Declaration) : List Token := Token.ofText d.ident ++ Token.ofText d.generics

def name (d : Declaration) : String := (d.head.head?.bind Token.word?).getD ""

/-- Whether it has parameters; conditions alone do not count. -/
def isGeneric (d : Declaration) : Bool :=
  match d.head with
  | _ :: .mark '<' _ :: .mark '>' _ :: _ => false
  | _ :: .mark '<' _ :: _ => true
  | _ => false

def eventName (d : Declaration) : Except DeclarationError String :=
  match Attribute.givenName d.attributes with
  | .error e => .error (.attribute e)
  | .ok given => .ok (given.getD (dottedName d.name))

/-- The first marked field; none is read after it. -/
def markedField : List DeclaredField → Except DeclarationError (Option String)
  | [] => .ok none
  | f :: rest =>
    match Attribute.isMarked f.attributes with
    | .error e => .error (.attribute e)
    | .ok true => .ok (some f.name)
    | .ok false => markedField rest

def timestampField (d : Declaration) : Except DeclarationError String :=
  match d.shape with
  | .named fields =>
    match markedField fields with
    | .error e => .error e
    | .ok (some field) => .ok field
    | .ok none =>
      if fields.any (·.name == "occurred_at") then .ok "occurred_at" else .error .noTimestamp
  | .tuple => .error .unnamedFields
  | .unit => .error .unnamedFields
  | .enumeration => .error .notStruct
  | .union => .error .notStruct

/-- The event's name and the field with its moment. -/
def resolve (d : Declaration) : Except DeclarationError (String × String) :=
  if d.isGeneric then .error .generic
  else match d.eventName with
    | .error e => .error e
    | .ok name => d.timestampField.map fun field => (name, field)

end Declaration
end EventDispatch
