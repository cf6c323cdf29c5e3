import Bindery.Proofs.Grouping
import Bindery.Proofs.Locality
import Bindery.Proofs.Range
import Bindery.Report
import Bindery.Source

/-!
# What emission looks at

All that is emitted or reported is looked up at positions that an analysis holds or that follow from
these, and they are in range. So nothing depends on what may stand behind the end of the type table.
-/
namespace Bindery

namespace Analysis

theorem mapM_congr {α β : Type} {f g : α → Outcome β} {xs : List α}
    (same : ∀ x ∈ xs, f x = g x) : xs.mapM f = xs.mapM g := by
  induction xs with
  | nil => rfl
  | cons x xs ih =>
    rw [List.mapM_cons, List.mapM_cons, same x List.mem_cons_self,
      ih fun y member => same y (List.mem_cons_of_mem _ member)]

def onTable (a : Analysis) (t : TypeTable) : Analysis := { a with types := t }

section Kept

variable (a : Analysis) (t : TypeTable)

@[simp] theorem types_onTable : (a.onTable t).types = t := rfl

@[simp] theorem library_onTable : (a.onTable t).library = a.library := rfl

@[simp] theorem wrappers_onTable : (a.onTable t).wrappers = a.wrappers := rfl

@[simp] theorem roots_onTable : (a.onTable t).roots = a.roots := rfl

@[simp] theorem globals_onTable : (a.onTable t).globals = a.globals := rfl

@[simp] theorem layout?_onTable : (a.onTable t).layout? = a.layout? := rfl

@[simp] theorem visibleLayouts_onTable : (a.onTable t).visibleLayouts = a.visibleLayouts := rfl

@[simp] theorem enum?_onTable : (a.onTable t).enum? = a.enum? := rfl

end Kept

section OnTable

variable {a : Analysis} {t : TypeTable} {m : Layout} {arg : WrapperArg} {w : Wrapper}
  (grows : TypeTable.Extends a.types t) (ordered : a.types.Ordered)

include grows

theorem borrows_onTable (inside : m.typeId < a.types.size) :
    (a.onTable t).borrows m = a.borrows m :=
  congrArg Node.borrowsRaw (grows.node _ inside)

theorem inlineText_onTable (inRange : m.InRange a.types.size) (f : LayoutField) :
    (a.onTable t).inlineText m f = a.inlineText m f := by
  refine congrArg f.inlineLength.map (funext fun length => ?_)
  cases found : m.fields.find? (·.name = length) with
  | none => rfl
  | some l =>
    have inside := inRange.fields l (List.mem_of_find?_eq_some found)
    simp only [Option.any_some, types_onTable, grows.target inside]

theorem fieldSource_onTable {f : LayoutField} (inside : f.type < a.types.size) (i : Initializer) :
    (a.onTable t).fieldSource f i = a.fieldSource f i := by
  simp only [fieldSource, types_onTable, grows.isLowered inside]

theorem elementVariant_onTable (inRange : a.InRange) (kind : Enumeration) (name : String) :
    (a.onTable t).elementVariant kind name = a.elementVariant kind name := by
  simp only [elementVariant, layout?_onTable]
  cases found : a.layout? name with
  | none => rfl
  | some m =>
    have inside := (inRange.layouts m (List.mem_of_find?_eq_some found)).type
    simp only [borrows_onTable grows inside]

theorem elementItem?_onTable (inRange : a.InRange) :
    (a.onTable t).elementItem? = a.elementItem? := by
  have variants : (a.onTable t).elementVariant = a.elementVariant :=
    funext fun kind => funext fun name => elementVariant_onTable grows inRange kind name
  have item (c : ElementsConfig) : (a.onTable t).elementItem c = a.elementItem c := by
    simp only [elementItem, layout?_onTable, enum?_onTable, variants]
    cases found : a.layout? c.base with
    | none => rfl
    | some base =>
      have inside := (inRange.layouts base (List.mem_of_find?_eq_some found)).type
      cases a.enum? c.kindEnum with
      | none => rfl
      | some kind =>
        simp only [borrows_onTable grows inside]
        rfl
  unfold elementItem?
  simp only [item]
  rfl

theorem copiedNames_onTable (inRange : a.InRange) : (a.onTable t).copiedNames = a.copiedNames := by
  have plain : a.visibleLayouts.filter (fun m => m.isPod && !(a.onTable t).borrows m) =
      a.visibleLayouts.filter fun m => m.isPod && !a.borrows m :=
    List.filter_congr fun m member => by
      rw [borrows_onTable grows (inRange.layouts m (List.mem_filter.1 member).1).type]
  exact congrArg (fun ms => ms.map Layout.name ++ _) plain

theorem report_onTable (inRange : a.InRange) :
    (a.onTable t).report = { a.report with types := t.size } := by
  have structs : (a.onTable t).report.structs = a.report.structs :=
    List.map_congr_left fun m member => by
      simp only [types_onTable, grows.node _ (inRange.layouts m member).type]
  have functions : (a.onTable t).report.functions = a.report.functions :=
    List.map_congr_left fun w member => by
      cases promoted : w.method with
      | none => rfl
      | some m =>
        have inside := (inRange.wrappers w member).owner m promoted
        simp only [Option.map_some, types_onTable, grows.node _ inside]
  calc (a.onTable t).report
      = { a.report with
          types := t.size
          structs := (a.onTable t).report.structs
          functions := (a.onTable t).report.functions } := rfl
    _ = { a.report with types := t.size } := by rw [structs, functions]

include ordered

theorem fieldSpelling_onTable {f : LayoutField} (inside : f.type < a.types.size) :
    (a.onTable t).fieldSpelling m f = a.fieldSpelling m f :=
  ite_congr rfl (fun _ => grows.inputMember ordered inside) fun _ => grows.member ordered inside

theorem layoutItem_onTable (inRange : m.InRange a.types.size) :
    (a.onTable t).layoutItem m = a.layoutItem m := by
  have fields : (m.fields.map fun f =>
        ({ name := f.name, type := (a.onTable t).fieldSpelling m f, isPublic := f.isPublic } :
          FieldItem)) =
      m.fields.map fun f =>
        { name := f.name, type := a.fieldSpelling m f, isPublic := f.isPublic } :=
    List.map_congr_left fun f member => by
      rw [fieldSpelling_onTable grows ordered (inRange.fields f member)]
  have output : m.indexType.map t.member = m.indexType.map a.types.member := by
    cases index : m.indexType with
    | none => rfl
    | some type => exact congrArg some (grows.member ordered (inRange.index type index))
  have texts : (a.onTable t).inlineText m = a.inlineText m :=
    funext fun f => inlineText_onTable grows inRange f
  unfold layoutItem
  rw [borrows_onTable grows inRange.type, fields, texts]
  simp only [types_onTable, output]

theorem shapeItem_onTable (inRange : m.InRange a.types.size) :
    (a.onTable t).shapeItem m = a.shapeItem m := by
  have fields : (m.fields.filter (!·.isPrivate)).map
        (fun f => (f.name, (a.onTable t).types.shapeText f.type)) =
      (m.fields.filter (!·.isPrivate)).map fun f => (f.name, a.types.shapeText f.type) :=
    List.map_congr_left fun f member => by
      rw [types_onTable, grows.shapeText ordered (inRange.fields f (List.mem_filter.1 member).1)]
  have written (is : List Initializer) :
      ((m.fields.zip is).filter (!·.1.isPrivate)).map
        (fun x => (x.1.name,
          if (a.onTable t).types.isLowered x.1.type then Initializer.standard else x.2)) =
      ((m.fields.zip is).filter (!·.1.isPrivate)).map
        fun x => (x.1.name, if a.types.isLowered x.1.type then Initializer.standard else x.2) :=
    List.map_congr_left fun x member => by
      have field := (List.of_mem_zip (List.mem_filter.1 member).1).1
      rw [types_onTable, grows.isLowered (inRange.fields x.1 field)]
  have sources : (m.fields.zip (initializers m)).map
        (fun x => (x.1.name, (a.onTable t).fieldSource x.1 x.2)) =
      (m.fields.zip (initializers m)).map fun x => (x.1.name, a.fieldSource x.1 x.2) :=
    List.map_congr_left fun x member => by
      rw [fieldSource_onTable grows (inRange.fields x.1 (List.of_mem_zip member).1)]
  simp only [shapeItem, borrows_onTable grows inRange.type, fields, sources]
  cases m.default with
  | manual is => simp only [written]
  | _ => rfl

theorem declarationItem_onTable (inRange : a.InRange) :
    (a.onTable t).declarationItem = a.declarationItem := by
  funext d
  unfold declarationItem
  cases d.kind with
  | struct =>
    simp only [layout?_onTable]
    cases found : (a.layout? d.name).filter (·.isVisible) with
    | none => rfl
    | some m =>
      have known := List.mem_of_find?_eq_some (Option.filter_eq_some_iff.1 found).1
      simp only [Option.map_some, layoutItem_onTable grows ordered (inRange.layouts m known)]
  | enum | function | global => rfl

theorem shapeItems_onTable (inRange : m.InRange a.types.size) :
    (a.onTable t).shapeItems m = a.shapeItems m := by
  simp only [shapeItems, shapeItem_onTable grows ordered inRange]

theorem paramType_onTable (inRange : arg.InRange a.types.size) (safe : Bool) (lifetime : String) :
    (a.onTable t).paramType arg safe lifetime = a.paramType arg safe lifetime := by
  have type := inRange.type
  unfold paramType
  cases kind : arg.kind with
  | string | blob => rfl
  | slice =>
    cases link : arg.item with
    | none => rfl
    | some item => simp only [types_onTable, grows.nativeText ordered (inRange.item item link)]
  | pointer =>
    simp only [types_onTable, grows.pointee type]
    cases points : a.types.pointee arg.type with
    | none => simp only [grows.nativeText ordered type]
    | some p =>
      have inside := Nat.lt_trans (ordered.pointee_lt points) type
      simp only [grows.shapeText ordered inside, grows.memberText ordered inside]
  | callback =>
    simp only [types_onTable, grows.shapeText ordered type, grows.inputMemberText ordered type]
  | plain => simp only [types_onTable, grows.shapeText ordered type, grows.memberText ordered type]
  | errorOut | panicOut => simp only [types_onTable, grows.memberText ordered type]

theorem returnType_onTable (inside : w.result < a.types.size) :
    (a.onTable t).returnType w = a.returnType w := by
  unfold returnType
  cases shape : w.returnShape with
  | ref isNullable =>
    simp only [types_onTable, grows.pointee inside]
    cases points : a.types.pointee w.result with
    | none => rfl
    | some p =>
      have inside := Nat.lt_trans (ordered.pointee_lt points) inside
      simp only [grows.memberText ordered inside]
  | _ => simp only [types_onTable, grows.memberText ordered inside, grows.nativeText ordered inside]

theorem signature_onTable (inRange : w.InRange a.types.size) (safe : Bool) :
    (a.onTable t).signature w safe = a.signature w safe := by
  have params (lifetime : WrapperArg → String) :
      w.visibleArgs.map (fun arg => (arg.name, (a.onTable t).paramType arg safe (lifetime arg))) =
        w.visibleArgs.map fun arg => (arg.name, a.paramType arg safe (lifetime arg)) :=
    List.map_congr_left fun arg member => by
      rw [paramType_onTable grows ordered (inRange.args arg (List.mem_filter.1 member).1)]
  simp only [signature, returnType_onTable grows ordered inRange.result, params]

theorem callArgs_onTable (inRange : arg.InRange a.types.size) :
    (a.onTable t).callArgs arg = a.callArgs arg := by
  have length : (a.onTable t).lengthArg arg = a.lengthArg arg := by
    unfold lengthArg
    cases link : arg.lengthType with
    | none => rfl
    | some type =>
      have inside := inRange.lengthType type link
      simp only [Option.bind_some, types_onTable, grows.target inside]
  unfold callArgs
  rw [length]
  cases kind : arg.kind with
  | pointer =>
    simp only [types_onTable, grows.pointee inRange.type]
    cases points : a.types.pointee arg.type with
    | none => rfl
    | some p =>
      have inside := Nat.lt_trans (ordered.pointee_lt points) inRange.type
      simp only [grows.member ordered inside, grows.native ordered inside]
  | _ => rfl

theorem nativeCall_onTable (inRange : w.InRange a.types.size) (records : Records) :
    (a.onTable t).nativeCall records w = a.nativeCall records w := by
  have args : w.args.flatMap (a.onTable t).callArgs = w.args.flatMap a.callArgs :=
    List.flatMap_congr fun arg member => callArgs_onTable grows ordered (inRange.args arg member)
  unfold nativeCall
  rw [args]
  rfl

theorem functionItems_onTable (inRange : w.InRange a.types.size) (records : Records) :
    (a.onTable t).functionItems records w = a.functionItems records w := by
  unfold functionItems
  simp only [signature_onTable grows ordered inRange, nativeCall_onTable grows ordered inRange]

theorem rootItem_onTable {r : Root} (inside : r.typeId < a.types.size) :
    (a.onTable t).rootItem r = a.rootItem r := by
  simp only [rootItem, types_onTable, grows.memberText ordered inside]

theorem globalItem_onTable {g : Global} (inside : g.type < a.types.size) :
    (a.onTable t).globalItem g = a.globalItem g := by
  simp only [globalItem, types_onTable, grows.native ordered inside]

theorem methodItem_onTable (inRange : w.InRange a.types.size) :
    (a.onTable t).methodItem w = a.methodItem w := by
  funext m
  simp only [methodItem, signature_onTable grows ordered inRange]

theorem methodsItem_onTable {group : TypeId × List Wrapper} (owner : group.1 < a.types.size)
    (members : ∀ w ∈ group.2, w.InRange a.types.size) :
    (a.onTable t).methodsItem group = a.methodsItem group := by
  have methods : group.2.filterMap (fun w => w.method.bind ((a.onTable t).methodItem w)) =
      group.2.filterMap fun w => w.method.bind (a.methodItem w) :=
    List.filterMap_congr fun w member => by
      rw [methodItem_onTable grows ordered (members w member)]
  simp only [methodsItem, types_onTable, grows.node _ owner, methods]

variable (keys : ∀ key, t.find? key = a.types.find? key)

include keys

theorem nativeParams_onTable (index : Nat) (args : List ArgDecl) :
    (a.onTable t).nativeParams index args = a.nativeParams index args := by
  induction args generalizing index with
  | nil => rfl
  | cons arg rest ih =>
    simp only [nativeParams, types_onTable, keys, ih]
    cases found : a.types.find? arg.type with
    | none => rfl
    | some type => simp only [grows.native ordered (TypeTable.lt_size_of_find? found)]

theorem linkItem_onTable (inRange : a.InRange) : (a.onTable t).linkItem = a.linkItem := by
  have functions : ((a.wrappers.filter (·.linked)).filterMap fun w =>
        (a.library.description.functions.find? w.native).map (w, ·)).mapM
          (fun x => (a.onTable t).nativeFunction x.1 x.2) =
      ((a.wrappers.filter (·.linked)).filterMap fun w =>
        (a.library.description.functions.find? w.native).map (w, ·)).mapM
          fun x => a.nativeFunction x.1 x.2 := by
    refine mapM_congr fun x member => ?_
    obtain ⟨w, linked, made⟩ := List.mem_filterMap.1 member
    obtain ⟨f, _, rfl⟩ := Option.map_eq_some_iff.1 made
    have result := (inRange.wrappers w (List.mem_filter.1 linked).1).result
    simp only [nativeFunction, types_onTable, nativeParams_onTable grows ordered keys,
      grows.target result, grows.native ordered result]
  have statics : (a.globals.filter (·.access ≠ .omitted)).map
        (fun g => (g.native, (a.onTable t).types.native g.type)) =
      (a.globals.filter (·.access ≠ .omitted)).map fun g => (g.native, a.types.native g.type) :=
    List.map_congr_left fun g member => by
      rw [types_onTable, grows.native ordered (inRange.globals g (List.mem_filter.1 member).1)]
  simp only [linkItem, wrappers_onTable, library_onTable, globals_onTable, functions, statics]

/-- Nothing that is emitted depends on what stands behind the table. -/
theorem items_onTable (inRange : a.InRange) : (a.onTable t).items = a.items := by
  have shapes : a.visibleLayouts.filterMap (a.onTable t).shapeItems =
      a.visibleLayouts.filterMap a.shapeItems :=
    List.filterMap_congr fun m member =>
      shapeItems_onTable grows ordered (inRange.layouts m (List.mem_filter.1 member).1)
  have roots : a.roots.map (fun r => Item.root ((a.onTable t).rootItem r)) =
      a.roots.map fun r => Item.root (a.rootItem r) :=
    List.map_congr_left fun r member => by
      rw [rootItem_onTable grows ordered (inRange.roots r member)]
  have functions (records : Records) :
      a.wrappers.flatMap (fun w => ((a.onTable t).functionItems records w).map Item.function) =
      a.wrappers.flatMap fun w => (a.functionItems records w).map Item.function :=
    List.flatMap_congr fun w member => by
      rw [functionItems_onTable grows ordered (inRange.wrappers w member)]
  have globals : a.globals.filterMap (a.onTable t).globalItem = a.globals.filterMap a.globalItem :=
    List.filterMap_congr fun g member => globalItem_onTable grows ordered (inRange.globals g member)
  have methods :
      (groupMethods a.wrappers).map (fun g => Item.methods ((a.onTable t).methodsItem g)) =
      (groupMethods a.wrappers).map fun g => Item.methods (a.methodsItem g) :=
    List.map_congr_left fun g member => by
      -- The type of a group is the owner of its methods, so one of them is needed.
      have ⟨members, filled⟩ := groupMethods_grouped g member
      obtain ⟨w, inside⟩ := List.exists_mem_of_ne_nil _ filled
      obtain ⟨listed, m, promoted, owner⟩ := members w inside
      have owner : g.1 < a.types.size := owner ▸ (inRange.wrappers w listed).owner m promoted
      rw [methodsItem_onTable grows ordered owner
        fun w inside => inRange.wrappers w (members w inside).1]
  have result : (a.onTable t).resultAlias = a.resultAlias := rfl
  have records : (a.onTable t).records = a.records := rfl
  simp only [items, library_onTable, visibleLayouts_onTable, wrappers_onTable, roots_onTable,
    globals_onTable, declarationItem_onTable grows ordered inRange,
    copiedNames_onTable grows inRange, linkItem_onTable grows ordered keys inRange,
    elementItem?_onTable grows inRange, shapes, roots, functions, globals, methods, result,
    records]

theorem source_onTable (inRange : a.InRange) (digest : String) :
    (a.onTable t).source digest = a.source digest := by
  have prelude : (a.onTable t).prelude = a.prelude := rfl
  simp only [source, prelude, items_onTable grows ordered keys inRange]

end OnTable

end Analysis

namespace Library

variable {lib : Library} {a : Analysis}

/-- All positions in an analysis are in range, so nothing behind the type table is looked at: the
text of the output, the report and the spellings of types are the same if it holds further nodes. -/
theorem positions_inRange (success : lib.analyze = .ok a) : a.InRange ∧
    ∀ t, TypeTable.Extends a.types t → (∀ key, t.find? key = a.types.find? key) →
      (∀ digest, (a.onTable t).source digest = a.source digest) ∧
      (a.onTable t).report = { a.report with types := t.size } ∧
      ∀ id < a.types.size,
        (∀ lifetime, t.nativeText id lifetime = a.types.nativeText id lifetime ∧
          t.memberText id lifetime = a.types.memberText id lifetime ∧
          t.inputMemberText id lifetime = a.types.inputMemberText id lifetime) ∧
        t.shapeText id = a.types.shapeText id := by
  obtain ⟨_, analyzed⟩ := lib.analyzed success
  have inRange := analyzed.inRange
  have ordered := analyzed.ordered
  refine ⟨inRange, fun t grows keys => ⟨Analysis.source_onTable grows ordered keys inRange,
    Analysis.report_onTable grows inRange, fun id inside => ⟨fun lifetime => ⟨?_, ?_, ?_⟩, ?_⟩⟩⟩
  · exact grows.nativeText ordered inside lifetime
  · exact grows.memberText ordered inside lifetime
  · exact grows.inputMemberText ordered inside lifetime
  · exact grows.shapeText ordered inside

def counters : Library where
  description := {
    types := ⟨[("counter", { kind := .struct }),
      ("counter*", { kind := .pointer, inner := some "counter" }),
      ("int", { key := "int", kind := .primitive }),
      ("void", { kind := .primitive }),
      ("void*", { kind := .pointer, inner := some "void" })], by decide⟩
    structs := ⟨[("counter",
      { name := "counter", shortName := "counter", isPod := true
        fields := [{ name := "total", type := "int" }, { name := "data", type := "void*" }] })],
      by decide⟩
    functions := ⟨[("reset_counter",
      { name := "reset_counter", shortName := "reset_counter"
        args := [{ name := "counter", type := "counter*" }]
        selfIndex := some 0, methodName := some "reset" })], by decide⟩
    declarations := [⟨.struct, "counter"⟩, ⟨.function, "reset_counter"⟩] }
  config := { link := "counters" }

/-- The counters are emitted and reported alike over a table with one more node, which refers to
nothing that exists. -/
theorem counters_inRange : ∃ a w m is, counters.analyze = .ok a ∧ w ∈ a.wrappers ∧
    w.method.isSome ∧ m ∈ a.layouts ∧ m.default = .manual is ∧ a.InRange ∧
    is.length = m.fields.length ∧
    let longer := a.types.push { key := "int", kind := .pointer, inner := some 1000 }
    (∀ digest, (a.onTable longer).source digest = a.source digest) ∧
    (a.onTable longer).report = { a.report with types := a.types.size + 1 } := by
  have checked : counters.analyze.toOption.any (fun a => (a.types.find? "int").isSome ∧
      (∃ w ∈ a.wrappers, w.method.isSome) ∧
      ∃ m ∈ a.layouts, m.default = .manual [.standard, .nullMut]) := by decide +kernel
  obtain ⟨a, success, checked⟩ := ok_of_any checked
  obtain ⟨known, ⟨w, wrapped, method⟩, m, member, manual⟩ := of_decide_eq_true checked
  obtain ⟨id, known⟩ := Option.isSome_iff_exists.1 known
  obtain ⟨inRange, unread⟩ := positions_inRange success
  let dangling : Node := { key := "int", kind := .pointer, inner := some 1000 }
  obtain ⟨source, report, _⟩ := unread (a.types.push dangling) (.push _ _)
    (TypeTable.find?_push_of_found known)
  rw [TypeTable.size_push] at report
  exact ⟨a, w, m, _, success, wrapped, method, member, manual, inRange,
    (inRange.layouts m member).initializers _ manual, source, report⟩

end Library

end Bindery
