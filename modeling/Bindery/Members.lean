import Bindery.Error

/-!
# Members of structs

An anonymous member stands for the members of its struct or, if that is a union, of the
alternative that fixes its size. Where this leads back to a struct that is being expanded, it goes
on for ever, which is an outcome of its own here.
-/
namespace Bindery.Description

def memberStruct (d : Description) (field : FieldDecl) : String :=
  ((d.types.find? field.type).bind (·.baseName)).getD field.type

/-- The alternative of a union that stands for it. -/
def alternative? (union : StructDecl) : Option FieldDecl :=
  union.fields.find? (fun f => f.unionSized && f.unionPreferred) <|>
    union.fields.find? (·.unionSized)

/-- What an anonymous member of `owner` is replaced by in one step. -/
def contents (owner inner : StructDecl) : Outcome (List FieldDecl) :=
  if inner.isUnion then
    match alternative? inner with
    | none => .error (.ambiguousUnion owner.name inner.name)
    | some f => .ok [f]
  else .ok inner.fields

/-- The named members that a member stands for, while the structs in `active` are expanded. -/
def expandIn (d : Description) (owner : StructDecl) (active : List String)
    (field : FieldDecl) : Outcome (List FieldDecl) :=
  if field.name ≠ "" then .ok [field]
  else
    let name := d.memberStruct field
    match _found : d.structs.find? name with
    | none => .error (.unknownStruct name)
    | some inner =>
      if _fresh : name ∈ active then .error (.endless owner.name)
      else do
        let fields ← contents owner inner
        let parts ← fields.mapM fun f => d.expandIn owner (name :: active) f
        return parts.flatten
termination_by (d.structs.pending active).length
decreasing_by exact Table.pending_lt (Table.mem_keys_of_find? _found) _fresh

def flatten (d : Description) (owner : StructDecl) (fields : List FieldDecl) :
    Outcome (List FieldDecl) := do
  let parts ← fields.mapM (d.expandIn owner [])
  return parts.flatten

end Bindery.Description
