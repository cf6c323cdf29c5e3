import Bindery.Description.Basic
import Bindery.Record

/-!
# Descriptions from values

Each record reads its fields under the names of the description format.
-/
namespace Bindery

namespace ParamDecl

def names : List String := ["name", "type"]

def decode : Decoder ParamDecl := Decoder.record true names fun r => do
  let name ← r.text "name"
  let type ← r.required "type" Decoder.text
  return { name, type }

end ParamDecl

namespace TypeDecl

def names : List String :=
  ["key", "kind", "is_const", "is_nullable", "inner", "array_length", "base_name", "func_args"]

def decode : Decoder TypeDecl := Decoder.record true names fun r => do
  let key ← r.text "key"
  let kind ← r.required "kind" (Decoder.label TypeKind.all TypeKind.label)
  let isConst ← r.flag "is_const"
  let isNullable ← r.flag "is_nullable"
  let inner ← r.optional "inner" Decoder.text
  let arrayLength ← r.optional "array_length" Decoder.uint64
  let baseName ← r.optional "base_name" Decoder.text
  let params ← r.list "func_args" ParamDecl.decode
  return { key, kind, isConst, isNullable, inner, arrayLength, baseName, params }

end TypeDecl

namespace FieldDecl

def names : List String :=
  ["name", "type", "private", "union_sized", "union_preferred", "inline_length"]

def decode : Decoder FieldDecl := Decoder.record true names fun r => do
  let name ← r.text "name"
  let type ← r.required "type" Decoder.text
  let isPrivate ← r.flag "private"
  let unionSized ← r.flag "union_sized"
  let unionPreferred ← r.flag "union_preferred"
  let inlineLength ← r.optional "inline_length" Decoder.text
  return { name, type, isPrivate, unionSized, unionPreferred, inlineLength }

end FieldDecl

namespace StructDecl

def names : List String :=
  ["name", "short_name", "fields", "is_input", "is_callback", "is_interface", "is_list", "is_pod",
   "is_union", "index_type"]

def decode : Decoder StructDecl := Decoder.record true names fun r => do
  let name ← r.text "name"
  let shortName ← r.text "short_name"
  let fields ← r.list "fields" FieldDecl.decode
  let isInput ← r.flag "is_input"
  let isCallback ← r.flag "is_callback"
  let isInterface ← r.flag "is_interface"
  let isList ← r.flag "is_list"
  let isPod ← r.flag "is_pod"
  let isUnion ← r.flag "is_union"
  let indexType ← r.optional "index_type" Decoder.text
  return { name, shortName, fields, isInput, isCallback, isInterface, isList, isPod, isUnion,
           indexType }

end StructDecl

namespace EnumDecl

def names : List String := ["name", "short_name", "values", "flag"]

def decode : Decoder EnumDecl := Decoder.record true names fun r => do
  let name ← r.text "name"
  let shortName ← r.text "short_name"
  let values ← r.list "values" Decoder.text
  let isFlag ← r.flag "flag"
  return { name, shortName, values, isFlag }

end EnumDecl

namespace ConstantDecl

def names : List String := ["name", "short_name", "value", "auxiliary"]

def decode : Decoder ConstantDecl := Decoder.record true names fun r => do
  let name ← r.text "name"
  let shortName ← r.text "short_name"
  let value ← r.required "value" Decoder.int64
  let auxiliary ← r.flag "auxiliary"
  return { name, shortName, value, auxiliary }

end ConstantDecl

namespace ArgDecl

def names : List String := ["name", "type", "kind", "return_ref"]

def decode : Decoder ArgDecl := Decoder.record true names fun r => do
  let name ← r.required "name" Decoder.text
  let type ← r.required "type" Decoder.text
  let tag ← r.withDefault "kind" (Decoder.label ArgTag.all ArgTag.label) .normal
  let returnRef ← r.flag "return_ref"
  return { name, type, tag, returnRef }

end ArgDecl

namespace FunctionDecl

def names : List String :=
  ["name", "short_name", "arguments", "return_type", "alloc_type", "kind", "is_inline", "is_ffi",
   "self_index", "method_name"]

def decode : Decoder FunctionDecl := Decoder.record true names fun r => do
  let name ← r.text "name"
  let shortName ← r.text "short_name"
  let args ← r.list "arguments" ArgDecl.decode
  let returnType ← r.withDefault "return_type" Decoder.text "void"
  let allocType ← r.optional "alloc_type" Decoder.text
  let kind ← r.withDefault "kind" (Decoder.label FunctionKind.all FunctionKind.label) .normal
  let isInline ← r.flag "is_inline"
  let isFfi ← r.flag "is_ffi"
  let selfIndex ← r.optional "self_index" Decoder.uint64
  let methodName ← r.optional "method_name" Decoder.text
  return { name, shortName, args, returnType, allocType, kind, isInline, isFfi, selfIndex,
           methodName }

end FunctionDecl

namespace GlobalDecl

def names : List String := ["name", "short_name", "type"]

def decode : Decoder GlobalDecl := Decoder.record true names fun r => do
  let name ← r.text "name"
  let shortName ← r.text "short_name"
  let type ← r.required "type" Decoder.text
  return { name, shortName, type }

end GlobalDecl

namespace Declaration

def names : List String := ["kind", "name"]

def decode : Decoder Declaration := Decoder.record true names fun r => do
  let kind ← r.required "kind" (Decoder.label DeclKind.all DeclKind.label)
  let name ← r.required "name" Decoder.text
  return { kind, name }

end Declaration

namespace Description

def names : List String :=
  ["types", "structs", "enums", "enum_values", "functions", "globals", "declarations",
   "element_types"]

def decode : Decoder Description := Decoder.record true names fun r => do
  let types ← r.table "types" TypeDecl.decode
  let structs ← r.table "structs" StructDecl.decode
  let enums ← r.table "enums" EnumDecl.decode
  let constants ← r.table "enum_values" ConstantDecl.decode
  let functions ← r.table "functions" FunctionDecl.decode
  let globals ← r.table "globals" GlobalDecl.decode
  let declarations ← r.list "declarations" Declaration.decode
  let elementTypes ← r.list "element_types" Decoder.text
  return { types, structs, enums, constants, functions, globals, declarations, elementTypes }

end Description

end Bindery
