import DaoMapper.Mapper.Signature

-- Which parameters override the keyspace and the table, and why a method is refused.
namespace DaoMapper.Mapper

inductive CachingMode where
  | simple
  | keyed
  deriving DecidableEq, Repr

def CachingMode.name : CachingMode → String
  | simple => "simple"
  | keyed => "keyed"

structure Overrides where
  keyspace : Option String
  table : Option String
  deriving DecidableEq, Repr

def Overrides.mode (o : Overrides) : CachingMode :=
  match o.keyspace, o.table with
  | none, none => .simple
  | _, _ => .keyed

inductive SkipCause where
  | duplicateRole (role : Role)
  | wrongRoleType (role : Role) (type : TypeRef)
  | noRole
  | hidesName (name : String)
  deriving DecidableEq, Repr

def SkipCause.message : SkipCause → String
  | duplicateRole role => "Only one parameter can be annotated with @" ++ role.marker
  | wrongRoleType role type =>
    "@" ++ role.marker ++ "-annotated parameter must be of type " ++ TypeRef.text.qualname ++ " or " ++
      TypeRef.identifier.qualname ++ " (got " ++ type.qualname ++ ")"
  | noRole =>
    "Only parameters annotated with @" ++ Role.keyspace.marker ++ " or @" ++ Role.table.marker ++ " are allowed"
  | hidesName name => "Parameter name '" ++ name ++ "' hides a name the method body uses"

def SkipCause.kind : SkipCause → SkipKind
  | duplicateRole _ => .duplicateRole
  | wrongRoleType .. => .wrongRoleType
  | noRole => .noRole
  | hidesName _ => .hidesName

structure Skip where
  location : String
  cause : SkipCause
  deriving DecidableEq, Repr

def Skip.problem (s : Skip) : Problem :=
  .skip s.cause.kind (.text s.location) (.text s.cause.message)

def roleTypes : List TypeRef := [.text, .identifier]

def Overrides.get (o : Overrides) : Role → Option String
  | .keyspace => o.keyspace
  | .table => o.table

def Overrides.set (o : Overrides) (role : Role) (name : String) : Overrides :=
  match role with
  | .keyspace => { o with keyspace := some name }
  | .table => { o with table := some name }

-- A second parameter of a role is refused as such, whatever its type.
def Overrides.add (o : Overrides) (p : Parameter) : Except SkipCause Overrides :=
  match p.role with
  | none => .error .noRole
  | some role =>
    if (o.get role).isSome then .error (.duplicateRole role)
    else if !roleTypes.contains p.type then .error (.wrongRoleType role p.type)
    else .ok (o.set role p.name)

def Overrides.collect (s : Signature) (o : Overrides) : List Parameter → Except Skip Overrides
  | [] => .ok o
  | p :: rest =>
    match o.add p with
    | .error cause => .error ⟨s.parameterLocation p, cause⟩
    | .ok next => next.collect s rest

def Signature.overrides (s : Signature) : Except Skip Overrides :=
  Overrides.collect s ⟨none, none⟩ s.parameters

end DaoMapper.Mapper
