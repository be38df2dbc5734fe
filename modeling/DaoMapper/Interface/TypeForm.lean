import DaoMapper.Cql.Identifier
import DaoMapper.Mapper.Signature

-- Annotations of declared methods: classes, forms over classes, and markers. What
-- belongs to the user is given: a text, or the kind of exception that asking for
-- the text raises.
namespace DaoMapper.Interface

open Mapper (Role TypeRef Literal)

abbrev ClassId := Nat

-- Values that a declaration may mention, the last one any other object.
inductive Constant where
  | value (v : Value)
  | identifier (i : Cql.Identifier)
  | role (r : Role)
  | type (c : ClassId)
  | object (text : Except String String)

-- A value that stands for a role or for none, or one that no parameter may have.
inductive RoleValue where
  | fit (role : Option Role)
  | foreign
  deriving DecidableEq, Repr

namespace RoleValue

def accepted : RoleValue → Except String (Option Role)
  | fit role => .ok role
  | foreign => .error "ValidationError"

end RoleValue

-- The base class, which has no role, or one that is derived from it, with the text of
-- its markers and what they give for their role.
inductive Marker where
  | base
  | derived (type : TypeRef) (text : Except String String) (role : Except String RoleValue)

namespace Marker

def markersName : String := "daogen.kernel.markers"

def keyspace : Marker :=
  derived ⟨markersName, "DaoKeyspace", true⟩ (.ok "DaoKeyspace()") (.ok (.fit (some .keyspace)))

def table : Marker := derived ⟨markersName, "DaoTable", true⟩ (.ok "DaoTable()") (.ok (.fit (some .table)))

def type : Marker → TypeRef
  | base => ⟨markersName, "RoleMarker", true⟩
  | derived type _ _ => type

def shown : Marker → Except String String
  | base => .ok "RoleMarker()"
  | derived _ text _ => text

def role : Marker → Except String RoleValue
  | base => .error "AttributeError"
  | derived _ _ role => role

end Marker

inductive Metadata where
  | marker (m : Marker)
  | markerClass (m : Marker)
  | constant (c : Constant)

-- Annotations after their evaluation. `typing` tells the two spellings of one form apart:
-- they print differently. The older form of awaitables may lack its argument. Any other
-- object comes last.
inductive TypeForm where
  | absent
  | cls (c : ClassId)
  | awaitable (typing : Bool) (arguments : List TypeForm)
  | generic (head : String) (arguments : List TypeForm)
  | union (typing : Bool) (members : List TypeForm)
  | annotated (base : TypeForm) (metadata : List Metadata)
  | object (text : Except String String)

def noneType : ClassId := 0

def className (t : TypeRef) : String :=
  if t.isBuiltin then t.qualname else t.module ++ "." ++ t.qualname

def shownClass (t : TypeRef) : String := "<class '" ++ className t ++ "'>"

def shownRole : Role → String
  | .keyspace => "<ParameterRole.KEYSPACE: 'keyspace-override'>"
  | .table => "<ParameterRole.TABLE: 'table-override'>"

def Constant.shown (classes : ClassId → TypeRef) : Constant → Except String String
  | value v => .ok v.shown
  | identifier i => .ok i.shown
  | role r => .ok (shownRole r)
  | type c => .ok (shownClass (classes c))
  | object text => text

-- Defaults of exactly these kinds can be repeated.
def Constant.literal? : Constant → Option Literal
  | value .null => some .none
  | value (.bool b) => some (.bool b)
  | value (.int n) => some (.int n)
  | value (.float x) => some (.float x)
  | value (.text s) => some (.text s)
  | _ => none

def Metadata.shown (classes : ClassId → TypeRef) : Metadata → Except String String
  | marker m => m.shown
  | markerClass m => .ok (shownClass m.type)
  | constant c => c.shown classes

def bracketed (form : String) (arguments : List String) : String :=
  form ++ "[" ++ ", ".intercalate arguments ++ "]"

namespace TypeForm

def isNone : TypeForm → Bool
  | cls c => c == noneType
  | absent => true
  | _ => false

def optionalText? (all : List TypeForm) (texts : List String) : Option String :=
  match all, texts with
  | [a, b], [s, t] => if a.isNone then some t else if b.isNone then some s else none
  | _, _ => none

mutual

def shown (classes : ClassId → TypeRef) : TypeForm → Except String String
  | absent => .ok "None"
  | cls c => .ok (className (classes c))
  | awaitable true [] => .ok "typing.Awaitable"
  | awaitable false [] => .ok "collections.abc.Awaitable[()]"
  | awaitable typing arguments =>
    (shownAll classes arguments).map (bracketed (if typing then "typing.Awaitable" else "collections.abc.Awaitable"))
  | generic head arguments => (shownAll classes arguments).map (bracketed head)
  | union false all => (shownMembers classes all).map " | ".intercalate
  | union true all =>
    (shownAll classes all).map fun texts =>
      match optionalText? all texts with
      | some text => bracketed "typing.Optional" [text]
      | none => bracketed "typing.Union" texts
  | annotated base metadata => do
    let text ← shown classes base
    return bracketed "typing.Annotated" (text :: (← metadata.mapM (Metadata.shown classes)))
  | object text => text

def shownAll (classes : ClassId → TypeRef) : List TypeForm → Except String (List String)
  | [] => .ok []
  | a :: rest => do return (← shown classes a) :: (← shownAll classes rest)

-- The newer spelling of unions writes `None` for its class.
def shownMembers (classes : ClassId → TypeRef) : List TypeForm → Except String (List String)
  | [] => .ok []
  | a :: rest => do
    let text ← if a.isNone then .ok "None" else shown classes a
    return text :: (← shownMembers classes rest)

end

def class? : TypeForm → Option ClassId
  | cls c => some c
  | _ => none

end TypeForm

def textRef (text : String) : TypeRef :=
  let lead := "typing.".toList
  ⟨"typing", String.ofList (if lead.isPrefixOf text.toList then text.toList.drop lead.length else text.toList), false⟩

def TypeForm.typeRef (classes : ClassId → TypeRef) (a : TypeForm) : Except String TypeRef :=
  match a.class? with
  | some c => .ok (classes c)
  | none => (a.shown classes).map textRef

end DaoMapper.Interface
