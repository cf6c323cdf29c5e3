import Bindery.Proofs.Layout
import Bindery.Proofs.Spelling
import Bindery.Source

/-!
# Lifetimes that layouts declare

A layout is declared with a lifetime if the type under the name of its struct borrows. Where that
type is the struct, it borrows with every field. Where it is a typedef or stands for something
else, the fields do not count, and a lifetime that they use can be missing.
-/
namespace Bindery

theorem withLifetime_eq_iff (name : String) (borrows : Bool) :
    withLifetime "'a" name borrows = name ++ "<'a>" ↔ borrows := by
  cases borrows with
  | true => simp [withLifetime, String.append_assoc]
  | false =>
    refine iff_of_false (fun same => ?_) Bool.false_ne_true
    have longer := same.symm
    simp [withLifetime] at longer

def DeclaresLifetime (name : String) (steps : List Step) : Prop :=
  ∃ body, .braces ("pub struct " ++ name ++ "<'a>") body ∈ steps

section DeclaresLifetime

variable {name : String} {steps rest : List Step}

@[simp] theorem not_declaresLifetime_nil : ¬DeclaresLifetime name [] := by simp [DeclaresLifetime]

@[simp] theorem declaresLifetime_line (text : String) :
    DeclaresLifetime name (.line text :: rest) ↔ DeclaresLifetime name rest := by
  simp [DeclaresLifetime, Step.braces]

@[simp] theorem declaresLifetime_blank :
    DeclaresLifetime name (.blank :: rest) ↔ DeclaresLifetime name rest := by
  simp [DeclaresLifetime, Step.braces]

theorem declaresLifetime_braces (header : String) (body : List Step) :
    DeclaresLifetime name (.braces header body :: rest) ↔
      "pub struct " ++ name ++ "<'a>" = header ∨ DeclaresLifetime name rest := by
  simp [DeclaresLifetime, Step.braces, exists_or]

@[simp] theorem declaresLifetime_append :
    DeclaresLifetime name (steps ++ rest) ↔
      DeclaresLifetime name steps ∨ DeclaresLifetime name rest := by
  simp [DeclaresLifetime, exists_or]

@[simp] theorem declaresLifetime_struct (borrows : Bool) (body : List Step) :
    DeclaresLifetime name
        (.braces ("pub struct " ++ withLifetime "'a" name borrows) body :: rest) ↔
      borrows ∨ DeclaresLifetime name rest := by
  rw [declaresLifetime_braces, String.append_assoc, String.append_right_inj, eq_comm,
    withLifetime_eq_iff]

/-- What is implemented for a type does not declare it. -/
theorem declaresLifetime_other {header : String} (body : List Step)
    (other : header.toList.head? ≠ some 'p') :
    DeclaresLifetime name (.braces header body :: rest) ↔ DeclaresLifetime name rest := by
  rw [declaresLifetime_braces]
  refine or_iff_right ?_
  rintro rfl
  simp at other

@[simp] theorem declaresLifetime_impl (target : String) (body : List Step) :
    DeclaresLifetime name (.braces ("impl " ++ target) body :: rest) ↔
      DeclaresLifetime name rest := declaresLifetime_other body (by simp)

@[simp] theorem declaresLifetime_default (target : String) (fields : List String) :
    DeclaresLifetime name (defaultSteps target fields :: rest) ↔ DeclaresLifetime name rest :=
  declaresLifetime_other _ (by simp)

@[simp] theorem declaresLifetime_index (target output : String) :
    DeclaresLifetime name (LayoutItem.indexStep target output :: rest) ↔
      DeclaresLifetime name rest := declaresLifetime_other _ (by simp)

end DeclaresLifetime

namespace LayoutItem

def UsesLifetime (m : LayoutItem) : Prop := ∃ f ∈ m.fields, ¬f.type.Fixed

theorem declaresLifetime_iff (m : LayoutItem) : DeclaresLifetime m.name m.steps ↔ m.borrows := by
  simp only [steps, declaresLifetime_append, declaresLifetime_line, declaresLifetime_struct,
    not_declaresLifetime_nil, false_or, or_false]
  constructor
  · rintro (((((derives | dead) | borrows) | default) | texts) | output)
    · split at derives <;> simp at derives
    · split at dead <;> simp at dead
    · exact borrows
    · split at default <;> simp at default
    · split at texts <;> simp at texts
    · split at output <;> simp at output
  · intro borrows
    simp [borrows]

end LayoutItem

namespace TypeTable

/-- A type borrows if it did so before or if, in one step, it is made of a type that borrows. -/
theorem propagate_borrows_step (t : TypeTable) (edges : Edges) (form : Form) (id : TypeId) :
    ((t.propagate edges).1.node id).borrows form ↔ (t.node id).borrows form ∨
      ∃ part, t.Step edges form id part ∧ ((t.propagate edges).1.node part).borrows form := by
  simp only [propagate_borrows]
  constructor
  · rintro ⟨source, path, atSource⟩
    rcases path.cases_head with rfl | ⟨part, step, rest⟩
    · exact .inl atSource
    · exact .inr ⟨part, step, source, rest, atSource⟩
  · rintro (here | ⟨part, step, source, rest, atSource⟩)
    · exact ⟨id, .refl, here⟩
    · exact ⟨source, .head step rest, atSource⟩

theorem step_of_not_struct {t : TypeTable} {edges edges' : Edges} {form : Form} {id part : TypeId}
    (kind : (t.node id).kind ≠ .struct) : t.Step edges form id part ↔ t.Step edges' form id part := by
  constructor <;> intro step <;> cases step with
  | wrapped wrapper link => exact .wrapped wrapper link
  | result function link => exact .result function link
  | param function member => exact .param function member
  | edge struct => exact absurd struct kind

/-- A struct is made of its fields. -/
theorem Step.field {t t' : TypeTable} {layouts : List Layout} {m : Layout} {f : LayoutField}
    (member : m ∈ layouts) (field : f ∈ m.fields) (kind : (t'.node m.typeId).kind = .struct) :
    t'.Step (Edges.ofLayouts t layouts) .native m.typeId f.type :=
  .edge kind (List.mem_append_left _
    (List.mem_flatMap.2 ⟨m, member, List.mem_map.2 ⟨f, field, rfl⟩⟩))

end TypeTable

/-- What is emitted for a declaration is the layout of that name. -/
theorem Analysis.layout_of_declarationItem {a : Analysis} {d : Declaration} {item : LayoutItem}
    (emitted : a.declarationItem d = some (.layout item)) :
    ∃ m ∈ a.layouts, m.native = d.name ∧ item = a.layoutItem m := by
  unfold declarationItem at emitted
  split at emitted
  · obtain ⟨m, shown, made⟩ := Option.map_eq_some_iff.1 emitted
    have found := (Option.filter_eq_some_iff.1 shown).1
    cases made
    exact ⟨m, List.mem_of_find?_eq_some found, by simpa using List.find?_some found, rfl⟩
  · obtain ⟨e, _, made⟩ := Option.map_eq_some_iff.1 emitted
    cases made
  · cases emitted
  · cases emitted

namespace Library

variable {lib : Library} {t : TypeTable} {a : Analysis} {id : TypeId}

theorem Describes.unflagged {name : String} {ty : TypeDecl} {n : Node}
    (describes : lib.Describes t name ty n) : n.unflagged = n := by
  cases describes with
  | wrapper =>
    unfold Node.wrapping
    dsimp only
    split <;> rfl
  | list =>
    unfold listNode
    split <;> rfl
  | primitive | function | struct | enum => rfl

/-- Resolving raises no flags. -/
theorem Formed.not_borrows (formed : lib.Formed t) (form : Form) (id : TypeId) :
    (t.node id).borrows form = false := by
  have free : (t.node id).unflagged = t.node id := by
    by_cases inside : id < t.size
    · obtain ⟨_, _, describes⟩ := formed.described id inside
      exact describes.unflagged
    · rw [TypeTable.node_of_le (Nat.not_lt.1 inside)]
      rfl
  rw [← free]
  cases form <;> rfl

def Seeded (lib : Library) (n : Node) : Form → Prop
  | .native => n.kind = .struct ∧ n.base.any lib.config.hasRawLifetime
  | .idiomatic => n.kind = .struct ∧ (n.isString ∨ n.isBlob ∨ n.isList ∨ n.role = some .callback)

theorem Formed.seed_borrows (formed : lib.Formed t) (form : Form) (id : TypeId) :
    ((t.seed lib.config).node id).borrows form ↔ lib.Seeded (t.node id) form := by
  have raw := formed.not_borrows .native id
  have safe := formed.not_borrows .idiomatic id
  rw [TypeTable.node_seed]
  cases form <;> split <;> simp_all [Node.borrows, Seeded, or_assoc]

/-- In an analysis, what borrows does so from the start or with something that it is made of. -/
theorem Analyzed.borrows_iff (analyzed : lib.Analyzed t a) (form : Form) (id : TypeId) :
    (a.types.node id).borrows form ↔ lib.Seeded (a.types.node id) form ∨
      ∃ part, a.types.Step (Edges.ofLayouts t a.layouts) form id part ∧
        (a.types.node part).borrows form := by
  have step := TypeTable.propagate_borrows_step (t.seed lib.config)
    (Edges.ofLayouts t a.layouts) form id
  rw [analyzed.settles, analyzed.formed.seed_borrows, ← analyzed.spreads.step] at step
  have seeded : lib.Seeded (a.types.node id) form ↔ lib.Seeded (t.node id) form := by
    rw [Node.eq_of_unflagged (analyzed.reflagged.frame id)]
    cases form <;> rfl
  rw [seeded]
  exact step

/-- A field that is spelled with a lifetime is of a type that borrows. -/
theorem Analyzed.borrowsRaw_of_not_fixed (analyzed : lib.Analyzed t a) {m : Layout}
    {f : LayoutField} (changes : ¬(a.fieldSpelling m f).Fixed) :
    (a.types.node f.type).borrowsRaw := by
  by_contra free
  have free : (a.types.node f.type).borrowsRaw = false := by simpa using free
  refine changes ?_
  unfold Analysis.fieldSpelling
  split
  · exact TypeTable.inputMember_fixed analyzed.settled analyzed.linked free
  · exact TypeTable.member_fixed analyzed.settled analyzed.linked free

/-- A layout that uses a lifetime declares it if the type under the name of its struct is a struct.
Any other type has to be a wrapper or a function type that is made of one that borrows. -/
theorem lifetime_declared_iff (success : lib.analyze = .ok a) {d : Declaration} {item : LayoutItem}
    (emitted : a.declarationItem d = some (.layout item)) (uses : item.UsesLifetime) :
    ∃ id, a.types.find? d.name = some id ∧
      (DeclaresLifetime item.name item.steps ↔ (a.types.node id).kind = .struct ∨
        ∃ part, a.types.Step {} .native id part ∧ (a.types.node part).borrowsRaw) := by
  obtain ⟨t, analyzed⟩ := lib.analyzed success
  obtain ⟨m, member, named, rfl⟩ := Analysis.layout_of_declarationItem emitted
  obtain ⟨_, s, _, _, _, mirrors⟩ := analyzed.mirrors member
  have found : a.types.find? d.name = some m.typeId := by
    rw [analyzed.reflagged.find?, ← named, mirrors.native, mirrors.type]
  refine ⟨m.typeId, found, ?_⟩
  have flag := analyzed.borrows_iff .native m.typeId
  rw [LayoutItem.declaresLifetime_iff]
  change (a.types.node m.typeId).borrows .native ↔ _
  by_cases kind : (a.types.node m.typeId).kind = .struct
  · obtain ⟨_, shown, changes⟩ := uses
    obtain ⟨f, field, rfl⟩ := List.mem_map.1 shown
    have edge := TypeTable.Step.field (t := t) member field kind
    have raised := flag.2 (.inr ⟨f.type, edge, analyzed.borrowsRaw_of_not_fixed changes⟩)
    exact iff_of_true raised (.inl kind)
  · -- Neither the configuration nor an edge speaks of a type that is no struct.
    have unseeded : ¬lib.Seeded (a.types.node m.typeId) .native := fun seeded => kind seeded.1
    rw [flag, or_iff_right unseeded, or_iff_right kind]
    exact exists_congr fun part => and_congr_left' (TypeTable.step_of_not_struct kind)

def typedefFrame : Library where
  description := {
    types := ⟨[("frame", { kind := .typedef, inner := some "struct frame" }),
      ("struct frame", { kind := .struct, baseName := some "frame" }),
      ("view", { kind := .struct })], by decide⟩
    structs := ⟨[
      ("frame", {
        name := "frame"
        shortName := "frame"
        fields := [{ name := "view", type := "view" }] }),
      ("view", { name := "view", shortName := "view" })], by decide⟩
    declarations := [⟨.struct, "view"⟩, ⟨.struct, "frame"⟩] }
  config := { link := "frames", types := { rawLifetime := ["view"] } }

/-- The view in a frame has a lifetime that the frame does not declare. -/
theorem frame_lifetime_undeclared : ∃ a item, typedefFrame.analyze = .ok a ∧
    a.declarationItem ⟨.struct, "frame"⟩ = some (.layout item) ∧ item.UsesLifetime ∧
    ¬DeclaresLifetime item.name item.steps ∧
    ∃ id, a.types.find? "frame" = some id ∧
      (DeclaresLifetime item.name item.steps ↔ (a.types.node id).kind = .struct ∨
        ∃ part, a.types.Step {} .native id part ∧ (a.types.node part).borrowsRaw) := by
  have checked : typedefFrame.analyze.toOption.any (fun a => (a.layout? "frame").any fun m =>
      m.isVisible && !(a.layoutItem m).borrows &&
        (a.layoutItem m).fields.any fun f => f.type.text "'a" ≠ f.type.text "'b") := by
    decide +kernel
  obtain ⟨a, success, checked⟩ := ok_of_any checked
  obtain ⟨m, found, checked⟩ := (Option.any_eq_true _ _).1 checked
  simp only [Bool.and_eq_true, Bool.not_eq_true', List.any_eq_true, decide_eq_true_eq] at checked
  obtain ⟨⟨shown, hidden⟩, f, field, changes⟩ := checked
  have emitted : a.declarationItem ⟨.struct, "frame"⟩ = some (.layout (a.layoutItem m)) := by
    simp [Analysis.declarationItem, found, shown]
  have uses : (a.layoutItem m).UsesLifetime := ⟨f, field, fun fixed => changes (fixed "'a" "'b")⟩
  have undeclared : ¬DeclaresLifetime (a.layoutItem m).name (a.layoutItem m).steps := by
    simp [LayoutItem.declaresLifetime_iff, hidden]
  exact ⟨a, a.layoutItem m, success, emitted, uses, undeclared,
    lifetime_declared_iff success emitted uses⟩

end Library

end Bindery
