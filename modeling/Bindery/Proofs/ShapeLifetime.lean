import Bindery.Proofs.Borrowing
import Bindery.Proofs.RawSplit
import Bindery.Proofs.Zeroing

/-!
# Lifetimes of shapes

A shape is declared with a lifetime if the text of a field uses one. Where other items name it, the
lifetime stands if the type is flagged. The flag comes from fields that are lowered, and only to a
struct that goes by its own name. So a shape that copies what borrows, or that goes by a typedef,
can be declared with a lifetime and named without.
-/
namespace Bindery

theorem Text.occursIn_iff (part text : List Char) : occursIn part text ↔ part <:+: text := by
  induction text with
  | nil => simp [occursIn]
  | cons c rest ih => simp [occursIn, List.infix_cons_iff, ih]

section UsesLifetime

/-- Text with the lifetime in it uses it, whatever stands around it. -/
theorem usesLifetime_around {text : String} (before after : String) (uses : usesLifetime text) :
    usesLifetime (before ++ text ++ after) := by
  unfold usesLifetime at *
  rw [Text.occursIn_iff] at *
  rw [String.toList_append, String.toList_append]
  exact uses.trans (List.infix_append _ _ _)

theorem text_named_lifetime (name : String) (borrows : Bool) :
    (Spelling.named name borrows).text "'a" = withLifetime "'a" name borrows := by
  simp [withLifetime]

theorem usesLifetime_named (name : String) (borrows : Bool) :
    usesLifetime ((Spelling.named name borrows).text "'a") ↔ borrows ∨ usesLifetime name := by
  cases borrows with
  | false => simp
  | true =>
    have lifetime : usesLifetime "'a" := by decide
    have uses := usesLifetime_around (name ++ "<") ">" lifetime
    simpa using uses

theorem usesLifetime_shapeList (item : Spelling) :
    usesLifetime ((Spelling.list .shape item).text "'a") := by
  have opening : usesLifetime "ListOpt<'a, " := by decide
  have uses := usesLifetime_around "" (item.text "'a" ++ ">") opening
  simpa [String.append_assoc] using uses

end UsesLifetime

theorem ShapeItem.declaresLifetime_iff (s : ShapeItem) :
    DeclaresLifetime s.name s.steps ↔ s.borrows := by
  simp only [steps, declaresLifetime_append, declaresLifetime_blank, declaresLifetime_struct,
    not_declaresLifetime_nil, or_false]
  constructor
  · rintro (((derives | borrows) | default) | lower)
    · split at derives <;> simp at derives
    · exact borrows
    · split at default <;> simp at default
    · rw [declaresLifetime_other] at lower
      · simp at lower
      · simp
  · intro borrows
    simp [borrows]

theorem Node.not_isWrapper_of_struct {n : Node} (kind : n.kind = .struct) : ¬n.isWrapper := by
  simp [isWrapper, isTransparent, kind]

theorem Node.kind_of_isTransparent {n : Node} (transparent : n.isTransparent) :
    n.kind ≠ .struct ∧ n.kind ≠ .function := by
  constructor <;> intro kind <;> simp [isTransparent, kind] at transparent

structure Node.IsInput (n : Node) : Prop where
  kind : n.kind = .struct
  role : n.role = some .input
  noText : n.isString = false
  noBytes : n.isBlob = false

instance (n : Node) : Decidable n.IsInput :=
  decidable_of_iff (n.kind = .struct ∧ n.role = some .input ∧ n.isString = false ∧ n.isBlob = false)
    ⟨fun ⟨kind, role, noText, noBytes⟩ => ⟨kind, role, noText, noBytes⟩,
      fun ⟨kind, role, noText, noBytes⟩ => ⟨kind, role, noText, noBytes⟩⟩

/-- In the idiomatic form, a struct with a shape is made of its visible fields that are lowered. -/
theorem Edges.mem_safe {t : TypeTable} {layouts : List Layout} {id part : TypeId} :
    (id, part) ∈ (Edges.ofLayouts t layouts).safe ↔
      ∃ m ∈ layouts, m.typeId = id ∧ m.role.hasShape ∧
        ∃ f ∈ m.fields, f.isPrivate = false ∧ t.isLowered f.type ∧ f.type = part := by
  simp only [ofLayouts, List.mem_flatMap]
  refine exists_congr fun m => and_congr_right fun _ => ?_
  split
  next shape =>
    simp only [shape, List.mem_map, List.mem_filter, Prod.mk.injEq, true_and, Bool.and_eq_true,
      Bool.not_eq_true']
    constructor
    · rintro ⟨f, ⟨field, shown, lowered⟩, same, target⟩
      exact ⟨same, f, field, shown, lowered, target⟩
    · rintro ⟨same, f, field, shown, lowered, target⟩
      exact ⟨f, ⟨field, shown, lowered⟩, same, target⟩
  next bare => simp [bare]

namespace TypeTable

@[simp] theorem isLowered_strip (t : TypeTable) (id : TypeId) :
    t.isLowered (t.strip id) = t.isLowered id := by
  simp [isLowered]

theorem Reflagged.isLowered {t t' : TypeTable} (same : Reflagged t t') (id : TypeId) :
    t'.isLowered id = t.isLowered id := by
  simp only [TypeTable.isLowered, Node.isShaped]
  rw [same.target]

theorem Reflagged.safeName {t t' : TypeTable} (same : Reflagged t t') (id : TypeId) :
    (t'.node id).safeName = (t.node id).safeName := (congrArg Node.safeName (same.frame id) :)

theorem Step.of_struct {t : TypeTable} {edges : Edges} {form : Form} {id part : TypeId}
    (step : t.Step edges form id part) (kind : (t.node id).kind = .struct) :
    (id, part) ∈ edges.of form := by
  cases step with
  | wrapped wrapper => exact absurd wrapper (Node.not_isWrapper_of_struct kind)
  | result function | param function => simp [kind] at function
  | edge _ member => exact member

theorem strip_of_struct {t : TypeTable} {id : TypeId} (kind : (t.node id).kind = .struct) :
    t.strip id = id :=
  strip_eq_self fun _ transparent => absurd kind (Node.kind_of_isTransparent transparent).1

/-- What a typedef has of what it stands for, it has of what is below all typedefs. -/
theorem strip_carries {α : Type} {t : TypeTable} {q : TypeId → α} (carries : ∀ {id inner},
    (t.node id).isTransparent → (t.node id).inner = some inner → q inner = q id) (id : TypeId) :
    q (t.strip id) = q id := by
  fun_induction t.strip id with
  | case1 id inner link transparent earlier ih => rw [ih, carries transparent link]
  | case2 | case3 => rfl

end TypeTable

namespace Library

variable {lib : Library} {t : TypeTable} {a : Analysis} {id inner : TypeId}

theorem Describes.not_isFunction {name : String} {ty : TypeDecl} {n : Node}
    (describes : lib.Describes t name ty n) (kind : n.kind = .struct) : n.isFunction = false := by
  cases describes with
  | wrapper wrapper =>
    rw [Node.wrapping_kind] at kind
    exact absurd wrapper (Node.not_isWrapper_of_struct kind)
  | list =>
    unfold listNode
    split <;> rfl
  | function function => simp [TypeDecl.plain, function] at kind
  | primitive | struct | enum => rfl

theorem Describes.isList {name : String} {ty : TypeDecl} {n : Node}
    (describes : lib.Describes t name ty n) (kind : n.kind = .struct) (list : n.isList) :
    n.role = some .list := by
  cases describes with
  | wrapper wrapper =>
    rw [Node.wrapping_kind] at kind
    exact absurd wrapper (Node.not_isWrapper_of_struct kind)
  | list =>
    unfold listNode
    split <;> rfl
  | _ => simp [structNode, TypeDecl.plain] at list

/-- A wrapper has the idiomatic name of what it wraps. -/
theorem Describes.safeName_inner {name : String} {ty : TypeDecl} {n : Node}
    (describes : lib.Describes t name ty n) (wrapper : n.isWrapper) (link : n.inner = some inner) :
    n.safeName = (t.node inner).safeName := by
  obtain ⟨other, rfl⟩ := describes.eq_wrapping wrapper
  rw [Node.wrapping_inner] at link
  cases link
  unfold Node.wrapping
  dsimp only
  split <;> rfl

section Analyzed

variable (analyzed : lib.Analyzed t a)

include analyzed

theorem Analyzed.described (kind : (a.types.node id).kind = .struct) :
    id < t.size ∧ ∃ ty, lib.Describes t (t.node id).key ty (t.node id) := by
  have inside : id < t.size := by
    by_contra outside
    rw [analyzed.reflagged.kind, TypeTable.node_of_le (Nat.not_lt.1 outside)] at kind
    cases kind
  obtain ⟨ty, _, describes⟩ := analyzed.formed.described id inside
  exact ⟨inside, ty, describes⟩

theorem Analyzed.not_isFunction (kind : (a.types.node id).kind = .struct) :
    (a.types.node id).isFunction = false := by
  obtain ⟨_, _, describes⟩ := analyzed.described kind
  rw [analyzed.reflagged.isFunction]
  rw [analyzed.reflagged.kind] at kind
  exact describes.not_isFunction kind

theorem Analyzed.isFunction_inner (transparent : (a.types.node id).isTransparent)
    (link : (a.types.node id).inner = some inner) :
    (a.types.node inner).isFunction = (a.types.node id).isFunction := by
  have same := analyzed.reflagged
  obtain ⟨_, _, describes⟩ := analyzed.formed.described id (analyzed.lt_size link)
  rw [same.isFunction, same.isFunction]
  rw [same.isTransparent] at transparent
  rw [same.inner] at link
  exact (describes.isFunction_inner (by simp [Node.isWrapper, transparent]) link).symm

/-- A typedef borrows exactly if what it stands for does. -/
theorem Analyzed.borrows_inner (form : Form) (transparent : (a.types.node id).isTransparent)
    (link : (a.types.node id).inner = some inner) :
    (a.types.node id).borrows form ↔ (a.types.node inner).borrows form := by
  have solid := Node.kind_of_isTransparent transparent
  rw [analyzed.borrows_iff]
  constructor
  · rintro (seeded | ⟨part, step, borrows⟩)
    · cases form <;> exact absurd seeded.1 solid.1
    · cases step with
      | wrapped _ found => rwa [← Option.some.inj (link.symm.trans found)] at borrows
      | result kind | param kind => exact absurd kind solid.2
      | edge kind => exact absurd kind solid.1
  · intro borrows
    exact .inr ⟨inner, .wrapped (by simp [Node.isWrapper, transparent]) link, borrows⟩

theorem Analyzed.borrows_strip (form : Form) (id : TypeId) :
    (a.types.target id).borrows form ↔ (a.types.node id).borrows form :=
  Bool.eq_iff_iff.1 (TypeTable.strip_carries (q := fun id => (a.types.node id).borrows form)
    (fun transparent link =>
      Bool.eq_iff_iff.2 (analyzed.borrows_inner form transparent link).symm) id)

theorem Analyzed.isFunction_strip (id : TypeId) :
    (a.types.target id).isFunction = (a.types.node id).isFunction :=
  TypeTable.strip_carries (q := fun id => (a.types.node id).isFunction)
    analyzed.isFunction_inner id

/-- A typedef has the shape of what it stands for, unless that is a function. -/
theorem Analyzed.shape_strip (notFunction : (a.types.node id).isFunction = false) :
    a.types.shape (a.types.strip id) = a.types.shape id := by
  fun_induction a.types.strip id with
  | case1 id inner link transparent earlier ih =>
    rw [ih (analyzed.isFunction_inner transparent link ▸ notFunction), TypeTable.shape.eq_def _ id]
    simp only [Node.isTransparent, Bool.or_eq_true, decide_eq_true_eq] at transparent
    rcases transparent with kind | kind <;> simp [notFunction, kind, link, earlier]
  | case2 | case3 => rfl

/-- What stands for a struct by value is no function. -/
theorem Analyzed.target_not_isFunction (kind : (a.types.target id).kind = .struct) :
    (a.types.node id).isFunction = false := by
  rw [← analyzed.isFunction_strip]
  exact analyzed.not_isFunction kind

/-- The items of a list come before it. -/
theorem Analyzed.listItem_lt (kind : (a.types.node id).kind = .struct) {item : TypeId}
    (link : (a.types.node id).listItem = some item) : item < id := by
  have inside := (analyzed.described kind).1
  rw [analyzed.reflagged.listItem] at link
  exact analyzed.formed.earlier id inside item (by simp [Node.refs, link])

theorem Analyzed.not_isList (kind : (a.types.node id).kind = .struct)
    (role : (a.types.node id).role ≠ some .list) : (a.types.node id).isList = false := by
  obtain ⟨_, _, describes⟩ := analyzed.described kind
  rw [Node.eq_of_unflagged (analyzed.reflagged.frame id)] at kind role ⊢
  exact Bool.eq_false_of_not_eq_true fun list => role (describes.isList kind list)

theorem Analyzed.safeName_inner (transparent : (a.types.node id).isTransparent)
    (link : (a.types.node id).inner = some inner) :
    (a.types.node inner).safeName = (a.types.node id).safeName := by
  have same := analyzed.reflagged
  obtain ⟨_, _, describes⟩ := analyzed.formed.described id (analyzed.lt_size link)
  rw [same.safeName, same.safeName]
  rw [same.isTransparent] at transparent
  rw [same.inner] at link
  exact (describes.safeName_inner (by simp [Node.isWrapper, transparent]) link).symm

theorem Analyzed.safeName_strip (id : TypeId) :
    (a.types.target id).safeName = (a.types.node id).safeName :=
  TypeTable.strip_carries (q := fun id => (a.types.node id).safeName) analyzed.safeName_inner id

theorem Analyzed.shape_input (input : (a.types.node id).IsInput) :
    a.types.shape id = .named (a.types.node id).safeName (a.types.node id).borrowsSafe := by
  have notFunction := analyzed.not_isFunction input.kind
  have noList := analyzed.not_isList input.kind (by simp [input.role])
  have shaped : (a.types.node id).isShaped := by simp [Node.isShaped, input.role, Role.hasShape]
  rw [TypeTable.shape]
  simp [notFunction, input.kind, input.noText, input.noBytes, noList, shaped, input.role]

/-- Options are named with a lifetime if they are flagged. -/
theorem Analyzed.shapeText_input (input : (a.types.target id).IsInput) :
    a.types.shapeText id =
      withLifetime "'a" (a.types.target id).safeName (a.types.target id).borrowsSafe := by
  have stands := analyzed.shape_strip (analyzed.target_not_isFunction input.kind)
  rw [TypeTable.shapeText, ← stands, analyzed.shape_input input, text_named_lifetime]
  rfl

/-- Options are flagged for their edges alone. -/
theorem Analyzed.input_borrows (input : (a.types.node id).IsInput) :
    (a.types.node id).borrowsSafe ↔ ∃ part, (id, part) ∈ (Edges.ofLayouts t a.layouts).safe ∧
      (a.types.node part).borrowsSafe := by
  have noList := analyzed.not_isList input.kind (by simp [input.role])
  have flag := analyzed.borrows_iff .idiomatic id
  have unseeded : ¬lib.Seeded (a.types.node id) .idiomatic := by
    simp [Seeded, input.noText, input.noBytes, noList, input.role]
  rw [or_iff_right unseeded] at flag
  refine flag.trans (exists_congr fun part => and_congr_left fun _ => ?_)
  exact ⟨fun step => step.of_struct input.kind, fun edge => .edge input.kind edge⟩

/-- A struct that is lowered is written with a lifetime if it borrows, or if its name has one. -/
theorem Analyzed.usesLifetime_struct (kind : (a.types.node id).kind = .struct)
    (lowered : a.types.isLowered id) :
    usesLifetime (a.types.shapeText id) ↔
      (a.types.node id).borrowsSafe ∨ usesLifetime (a.types.node id).safeName := by
  have stays := TypeTable.strip_of_struct kind
  have notFunction := analyzed.not_isFunction kind
  have always (seeded : (a.types.node id).isString ∨ (a.types.node id).isBlob ∨
      (a.types.node id).isList ∨ (a.types.node id).role = some .callback) :
      (a.types.node id).borrowsSafe :=
    (analyzed.borrows_iff .idiomatic id).2 (.inl ⟨kind, seeded⟩)
  unfold TypeTable.shapeText
  rw [TypeTable.shape, if_neg (by simp [notFunction])]
  simp only [kind]
  split
  next text =>
    have uses := (usesLifetime_named "StringOpt" true).2 (.inl rfl)
    exact iff_of_true uses (.inl (always (.inl text)))
  next noText =>
    split
    next bytes =>
      have uses := (usesLifetime_named "BlobOpt" true).2 (.inl rfl)
      exact iff_of_true uses (.inl (always (.inr (.inl bytes))))
    next noBytes =>
      split
      next list =>
        have borrows := always (.inr (.inr (.inl list)))
        split
        next item link =>
          rw [if_pos (analyzed.listItem_lt kind link)]
          exact iff_of_true (usesLifetime_shapeList _) (.inl borrows)
        next => exact iff_of_true (usesLifetime_shapeList _) (.inl borrows)
      next noList =>
        split
        next =>
          rw [usesLifetime_named]
          refine or_congr_left ?_
          rw [Bool.or_eq_true, decide_eq_true_eq]
          exact or_iff_right_of_imp fun callback => always (.inr (.inr (.inr callback)))
        next plain =>
          refine absurd lowered ?_
          simp [TypeTable.isLowered, TypeTable.target, stays, noText, noBytes, noList, plain]

/-- So is what stands for such a struct. -/
theorem Analyzed.usesLifetime_shape (lowered : a.types.isLowered id) :
    usesLifetime (a.types.shapeText id) ↔
      (a.types.target id).borrowsSafe ∨ usesLifetime (a.types.target id).safeName := by
  have kind : (a.types.target id).kind = .struct := by
    simp only [TypeTable.isLowered, Bool.and_eq_true, decide_eq_true_eq] at lowered
    exact lowered.1
  have struct := analyzed.usesLifetime_struct kind (by rwa [TypeTable.isLowered_strip])
  unfold TypeTable.shapeText at *
  rwa [analyzed.shape_strip (analyzed.target_not_isFunction kind)] at struct

end Analyzed

end Library

namespace Analysis

/-- The type under the name of a struct is a struct of options or a typedef of one, and belongs to
no other struct. -/
structure Owns (a : Analysis) (m : Layout) : Prop where
  input : (a.types.target m.typeId).IsInput
  alone : ∀ other ∈ a.layouts, a.types.strip other.typeId = a.types.strip m.typeId → other = m

instance (a : Analysis) (m : Layout) : Decidable (a.Owns m) :=
  decidable_of_iff ((a.types.target m.typeId).IsInput ∧
      ∀ other ∈ a.layouts, a.types.strip other.typeId = a.types.strip m.typeId → other = m)
    ⟨fun ⟨input, alone⟩ => ⟨input, alone⟩, fun ⟨input, alone⟩ => ⟨input, alone⟩⟩

/-- The text of a field has a lifetime that its struct is not flagged for: the field is copied, or
the struct goes by a typedef, or what is lowered has a name that looks like a lifetime. -/
def Strays (a : Analysis) (m : Layout) (f : LayoutField) : Prop :=
  if (a.types.node m.typeId).kind = .struct ∧ a.types.isLowered f.type then
    usesLifetime (a.types.target f.type).safeName
  else usesLifetime (a.types.shapeText f.type)

theorem shape_of_shapeItems {a : Analysis} {m : Layout} {item : ShapeItem}
    (emitted : a.shapeItems m = some (.shape item)) : m.role = .input ∧ item = a.shapeItem m := by
  unfold shapeItems at emitted
  split at emitted
  next role =>
    cases emitted
    exact ⟨role, rfl⟩
  next =>
    obtain ⟨_, _, made⟩ := Option.map_eq_some_iff.1 emitted
    cases made
  next => cases emitted

theorem shapeItem_borrows {a : Analysis} {m : Layout} :
    (a.shapeItem m).borrows ↔
      ∃ f ∈ m.fields, f.isPrivate = false ∧ usesLifetime (a.types.shapeText f.type) := by
  simp [ShapeItem.borrows, shapeItem]

end Analysis

namespace Library

variable {lib : Library} {t : TypeTable} {a : Analysis} {m : Layout} {f : LayoutField}

/-- The text of a field of a struct uses a lifetime if the field strays or is lowered from what is
flagged. -/
theorem Analyzed.usesLifetime_field (analyzed : lib.Analyzed t a)
    (solid : (a.types.node m.typeId).kind = .struct) :
    usesLifetime (a.types.shapeText f.type) ↔
      a.types.isLowered f.type ∧ (a.types.node f.type).borrowsSafe ∨ a.Strays m f := by
  simp only [Analysis.Strays, solid, true_and]
  split
  next lowered =>
    have flag := analyzed.borrows_strip .idiomatic f.type
    rw [analyzed.usesLifetime_shape lowered, and_iff_right lowered]
    exact or_congr_left flag
  next copied => simp [copied]

/-- Options that own their type are flagged exactly if they are that type itself and a visible field
is lowered from what is flagged. -/
theorem Analyzed.owner_borrows (analyzed : lib.Analyzed t a) (member : m ∈ a.layouts)
    (shape : m.role.hasShape) (owns : a.Owns m) :
    (a.types.target m.typeId).borrowsSafe ↔ (a.types.node m.typeId).kind = .struct ∧
      ∃ f ∈ m.fields, f.isPrivate = false ∧ a.types.isLowered f.type ∧
        (a.types.node f.type).borrowsSafe := by
  refine (analyzed.input_borrows owns.input).trans ⟨?_, ?_⟩
  · rintro ⟨part, edge, borrows⟩
    obtain ⟨other, inside, same, _, f, field, shown, lowered, rfl⟩ := Edges.mem_safe.1 edge
    obtain rfl := owns.alone other inside (by rw [same, TypeTable.strip_strip])
    have solid : (a.types.node other.typeId).kind = .struct := by
      rw [same]
      exact owns.input.kind
    rw [← analyzed.reflagged.isLowered] at lowered
    exact ⟨solid, f, field, shown, lowered, borrows⟩
  · rintro ⟨solid, f, field, shown, lowered, borrows⟩
    rw [analyzed.reflagged.isLowered] at lowered
    have edge := Edges.mem_safe.2 ⟨m, member, rfl, shape, f, field, shown, lowered, rfl⟩
    rw [TypeTable.strip_of_struct solid]
    exact ⟨f.type, edge, borrows⟩

/-- An input that owns its type is declared with a lifetime exactly if it is named with one or has
a visible field that strays. -/
theorem shape_declared_iff (success : lib.analyze = .ok a) (visible : m ∈ a.visibleLayouts)
    {item : ShapeItem} (emitted : a.shapeItems m = some (.shape item)) (owns : a.Owns m) :
    DeclaresLifetime item.name item.steps ↔
      a.types.shapeText m.typeId = item.name ++ "<'a>" ∨
        ∃ f ∈ m.fields, f.isPrivate = false ∧ a.Strays m f := by
  obtain ⟨t, analyzed⟩ := lib.analyzed success
  obtain ⟨role, rfl⟩ := Analysis.shape_of_shapeItems emitted
  have member := Analysis.mem_layouts_of_visible visible
  have shape : m.role.hasShape := by simp [role, Role.hasShape]
  obtain ⟨_, _, _, _, _, mirrors⟩ := analyzed.mirrors member
  have name : (a.shapeItem m).name = (a.types.target m.typeId).safeName := by
    rw [analyzed.safeName_strip]
    exact mirrors.safeName.trans (analyzed.reflagged.safeName m.typeId).symm
  rw [ShapeItem.declaresLifetime_iff, Analysis.shapeItem_borrows, name,
    analyzed.shapeText_input owns.input, withLifetime_eq_iff,
    analyzed.owner_borrows member shape owns]
  by_cases solid : (a.types.node m.typeId).kind = .struct
  · rw [and_iff_right solid, ← exists_or]
    refine exists_congr fun f => ?_
    rw [← and_or_left, ← and_or_left]
    exact and_congr_right fun _ => and_congr_right fun _ => analyzed.usesLifetime_field solid
  · -- No edge of a typedef is followed, so every field with a lifetime strays.
    simp only [Analysis.Strays, solid, false_and, if_false, false_or]

def startOpts : Library where
  description := {
    types := ⟨[("node", { kind := .struct }),
      ("node*", { kind := .pointer, inner := some "node" }),
      ("opts", { kind := .struct })], by decide⟩
    structs := ⟨[
      ("node", { name := "node", shortName := "node" }),
      ("opts", {
        name := "opts"
        shortName := "opts"
        isInput := true
        fields := [{ name := "start", type := "node*" }] })], by decide⟩
    declarations := [⟨.struct, "node"⟩, ⟨.struct, "opts"⟩] }
  config := { link := "nodes", types := { rawLifetime := ["node"] } }

/-- The options are declared with a lifetime and named without one. -/
theorem opts_named_bare : ∃ a m item, startOpts.analyze = .ok a ∧ m ∈ a.visibleLayouts ∧
    a.shapeItems m = some (.shape item) ∧ a.Owns m ∧ DeclaresLifetime item.name item.steps ∧
    a.types.shapeText m.typeId = item.name ∧
    (DeclaresLifetime item.name item.steps ↔
      a.types.shapeText m.typeId = item.name ++ "<'a>" ∨
        ∃ f ∈ m.fields, f.isPrivate = false ∧ a.Strays m f) := by
  have checked : startOpts.analyze.toOption.any (fun a => (a.layout? "opts").any fun m =>
      m.isVisible ∧ m.role = .input ∧ a.Owns m ∧ (a.shapeItem m).borrows ∧
        a.types.shapeText m.typeId = (a.shapeItem m).name) := by decide +kernel
  obtain ⟨a, success, checked⟩ := ok_of_any checked
  obtain ⟨m, found, checked⟩ := (Option.any_eq_true _ _).1 checked
  obtain ⟨shown, input, owns, declared, named⟩ := of_decide_eq_true checked
  have visible : m ∈ a.visibleLayouts :=
    List.mem_filter.2 ⟨Analysis.mem_layouts_of_found found, shown⟩
  have emitted : a.shapeItems m = some (.shape (a.shapeItem m)) := by
    simp [Analysis.shapeItems, input]
  exact ⟨a, m, a.shapeItem m, success, visible, emitted, owns,
    (a.shapeItem m).declaresLifetime_iff.2 declared, named,
    shape_declared_iff success visible emitted owns⟩

end Library

end Bindery
