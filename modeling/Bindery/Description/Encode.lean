import Bindery.Description.Basic
import Bindery.Value

/-!
# Descriptions as values

Every field is written, an absent one as `null`.
-/
namespace Bindery

def Table.encode (encode : α → Value) (t : Table α) : Value :=
  .record (t.entries.map fun (key, a) => (key, encode a))

def ParamDecl.encode (p : ParamDecl) : Value :=
  .record [("name", .ofString p.name), ("type", .ofString p.type)]

def TypeDecl.encode (t : TypeDecl) : Value :=
  .record [("key", .ofString t.key), ("kind", .ofString t.kind.label),
    ("is_const", .bool t.isConst), ("is_nullable", .bool t.isNullable),
    ("inner", .ofOption .ofString t.inner), ("array_length", .ofOption .ofWord t.arrayLength),
    ("base_name", .ofOption .ofString t.baseName), ("func_args", .list (t.params.map (·.encode)))]

def FieldDecl.encode (f : FieldDecl) : Value :=
  .record [("name", .ofString f.name), ("type", .ofString f.type), ("private", .bool f.isPrivate),
    ("union_sized", .bool f.unionSized), ("union_preferred", .bool f.unionPreferred),
    ("inline_length", .ofOption .ofString f.inlineLength)]

def StructDecl.encode (s : StructDecl) : Value :=
  .record [("name", .ofString s.name), ("short_name", .ofString s.shortName),
    ("fields", .list (s.fields.map (·.encode))), ("is_input", .bool s.isInput),
    ("is_callback", .bool s.isCallback), ("is_interface", .bool s.isInterface),
    ("is_list", .bool s.isList), ("is_pod", .bool s.isPod), ("is_union", .bool s.isUnion),
    ("index_type", .ofOption .ofString s.indexType)]

def EnumDecl.encode (e : EnumDecl) : Value :=
  .record [("name", .ofString e.name), ("short_name", .ofString e.shortName),
    ("values", .strings e.values), ("flag", .bool e.isFlag)]

def ConstantDecl.encode (c : ConstantDecl) : Value :=
  .record [("name", .ofString c.name), ("short_name", .ofString c.shortName),
    ("value", .int c.value.toInt), ("auxiliary", .bool c.auxiliary)]

def ArgDecl.encode (a : ArgDecl) : Value :=
  .record [("name", .ofString a.name), ("type", .ofString a.type), ("kind", .ofString a.tag.label),
    ("return_ref", .bool a.returnRef)]

def FunctionDecl.encode (f : FunctionDecl) : Value :=
  .record [("name", .ofString f.name), ("short_name", .ofString f.shortName),
    ("arguments", .list (f.args.map (·.encode))), ("return_type", .ofString f.returnType),
    ("alloc_type", .ofOption .ofString f.allocType), ("kind", .ofString f.kind.label),
    ("is_inline", .bool f.isInline), ("is_ffi", .bool f.isFfi),
    ("self_index", .ofOption .ofWord f.selfIndex),
    ("method_name", .ofOption .ofString f.methodName)]

def GlobalDecl.encode (g : GlobalDecl) : Value :=
  .record [("name", .ofString g.name), ("short_name", .ofString g.shortName),
    ("type", .ofString g.type)]

def Declaration.encode (d : Declaration) : Value :=
  .record [("kind", .ofString d.kind.label), ("name", .ofString d.name)]

def Description.encode (d : Description) : Value :=
  .record [("types", d.types.encode (·.encode)), ("structs", d.structs.encode (·.encode)),
    ("enums", d.enums.encode (·.encode)), ("enum_values", d.constants.encode (·.encode)),
    ("functions", d.functions.encode (·.encode)), ("globals", d.globals.encode (·.encode)),
    ("declarations", .list (d.declarations.map (·.encode))),
    ("element_types", .strings d.elementTypes)]

end Bindery
