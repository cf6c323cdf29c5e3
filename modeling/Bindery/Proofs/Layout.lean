import Bindery.Item.Layout
import Bindery.Proofs.Analysis

/-!
# Layouts and their declarations

What a layout of an analysis takes from the struct that it is made for, and which of its fields can
be initialized.
-/
namespace Bindery

open Typing

namespace LayoutItem

def body (l : LayoutItem) : List Step :=
  l.fields.map fieldLine ++ if l.borrows then [.line "_marker: PhantomData<&'a ()>,"] else []

theorem struct_ne_other {header type : String} (other : header.toList.head? ≠ some 'p') :
    "pub struct " ++ type ≠ header := by
  rintro rfl
  simp at other

/-- The layout is declared once. -/
theorem struct_mem_steps (l : LayoutItem) {type : String} {lines : List Step} :
    .braces ("pub struct " ++ type) lines ∈ l.steps ↔
      type = withLifetime "'a" l.name l.borrows ∧ lines = l.body := by
  have inImpl (target : String) : "pub struct " ++ type ≠ "impl " ++ target :=
    struct_ne_other (by simp)
  have inDefault (target : String) : "pub struct " ++ type ≠ "impl Default for " ++ target :=
    struct_ne_other (by simp)
  have inIndex (target : String) : "pub struct " ++ type ≠ "impl Index<usize> for " ++ target :=
    struct_ne_other (by simp)
  simp only [steps, body, List.mem_append]
  constructor
  · rintro ((((((format | derives) | dead) | declared) | default) | texts) | output)
    · simp [Step.braces] at format
    · split at derives <;> simp [Step.braces] at derives
    · split at dead <;> simp [Step.braces] at dead
    · simpa [Step.braces] using declared
    · split at default <;> simp [Step.braces, defaultSteps, inDefault] at default
    · split at texts <;> simp [Step.braces, inImpl] at texts
    · split at output <;> simp [Step.braces, indexStep, inIndex] at output
  · rintro ⟨rfl, rfl⟩
    simp [Step.braces]

/-- The default value that is written out for the layout. -/
theorem default_mem_steps {l : LayoutItem} {fields : List (String × Initializer)}
    (written : l.default = some fields) :
    .braces ("impl Default for " ++ withLifetime "'_" l.name l.borrows)
      [.braces "fn default() -> Self" [.braces "Self"
        (fields.map (fun f => .line (f.1 ++ ": " ++ f.2.text ++ ",")) ++
          if l.borrows then [.line "_marker: PhantomData,"] else [])]] ∈ l.steps := by
  have marked : ((if l.borrows then ["_marker: PhantomData,"] else []) : List String).map Step.line =
      if l.borrows then [.line "_marker: PhantomData,"] else [] := by
    split <;> rfl
  simp only [steps, written, defaultSteps, List.map_append, List.map_map, marked, List.mem_append,
    List.mem_cons]
  exact .inl (.inl (.inr (.inr (.inl rfl))))

end LayoutItem

namespace Library

variable {lib : Library} {t t' : TypeTable} {s : StructDecl} {m : Layout} {a : Analysis}

/-- A layout beside its struct, over a table that has all types. -/
structure Mirrors (lib : Library) (t : TypeTable) (s : StructDecl) (m : Layout) : Prop where
  native : m.native = s.name
  type : t.find? s.name = some m.typeId
  name : m.name = (t.node m.typeId).name
  safeName : m.safeName = (t.node m.typeId).safeName
  role : s.role = .ok m.role
  fields : ∃ members, lib.description.flatten s s.fields = .ok members ∧
    List.Forall₂ (fun d f => on (lib.layoutField s m.role members d) t = (.ok f, t))
      members m.fields
  isPod : m.isPod = s.isPod
  ignored : m.ignored = lib.config.isIgnored s.name
  indexType : on (s.indexType.mapM lib.resolve) t = (.ok m.indexType, t)
  default : lib.defaultImpl t s m.role m.fields = .ok m.default
  callback : if m.role = .callback then
      ∃ slots, lib.callbackSlots t s m.fields = .ok slots ∧ m.callback = some slots
    else m.callback = none

theorem layout_mirrors (formed : lib.Formed t) (complete : lib.Complete t)
    (run : on (lib.layout s) t = (.ok m, t')) : lib.Mirrors t s m := by
  have unmoved := lib.resolve_unmoved
  unfold layout at run
  obtain ⟨typeId, found, run⟩ := on_bind_of_unmoved (unmoved s.name) complete run
  obtain ⟨role, given, run⟩ := on_liftOutcome_bind_eq_ok.1 run
  rw [on_get_bind] at run
  obtain ⟨members, flat, run⟩ := on_liftOutcome_bind_eq_ok.1 run
  obtain ⟨fields, each, run⟩ :=
    on_bind_of_unmoved (.mapM (layoutField_keeps unmoved s role members) _) complete run
  obtain ⟨indexType, index, run⟩ := on_bind_of_unmoved (.optionMapM unmoved _) complete run
  dsimp only at run
  have built {callback : Option CallbackSlots} {default : DefaultImpl}
      (initialized : lib.defaultImpl t s role fields = .ok default)
      (slots : if role = .callback then
          ∃ found, lib.callbackSlots t s fields = .ok found ∧ callback = some found
        else callback = none) :
      lib.Mirrors t s { native := s.name, name := (t.node typeId).name,
                        safeName := (t.node typeId).safeName, role, typeId, fields,
                        isPod := s.isPod, ignored := lib.config.isIgnored s.name, default,
                        indexType, callback } := {
    native := rfl
    type := find?_of_resolve formed found
    name := rfl
    safeName := rfl
    role := given
    fields := ⟨members, flat,
      forall₂_of_unmoved (layoutField_keeps unmoved s role members) complete each⟩
    isPod := rfl
    ignored := rfl
    indexType := index
    default := initialized
    callback := slots }
  split at run
  next isCallback =>
    rw [on_get_bind] at run
    obtain ⟨callback, _, mapped, run⟩ := on_bind_eq_ok.1 run
    obtain ⟨found, slots, rfl, rfl⟩ := on_map_liftOutcome_eq_ok.1 mapped
    rw [on_get_bind] at run
    obtain ⟨default, initialized, run⟩ := on_liftOutcome_bind_eq_ok.1 run
    cases run
    exact built initialized (by simp [isCallback, slots])
  next notCallback =>
    rw [pure_bind, on_get_bind] at run
    obtain ⟨default, initialized, run⟩ := on_liftOutcome_bind_eq_ok.1 run
    cases run
    exact built initialized (by simp [notCallback])

/-- What is declared has a layout unless it is a union. -/
theorem declaredLayout_eq_ok (formed : lib.Formed t) (complete : lib.Complete t) {name : String}
    {made : Option Layout} (run : on (lib.declaredLayout name) t = (.ok made, t')) :
    ∃ s, lib.description.structs.find? name = some s ∧ (s.role = .ok .union ∧ made = none ∨
      ∃ m, made = some m ∧ m.role ≠ .union ∧ lib.Mirrors t s m) := by
  unfold declaredLayout at run
  split at run
  next => cases run
  next s known =>
    obtain ⟨role, given, run⟩ := on_liftOutcome_bind_eq_ok.1 run
    refine ⟨s, known, ?_⟩
    split at run
    next union =>
      cases run
      exact .inl ⟨union ▸ given, rfl⟩
    next layered =>
      obtain ⟨m, _, laid, run⟩ := on_bind_eq_ok.1 run
      cases run
      have mirrors := layout_mirrors formed complete laid
      refine .inr ⟨m, rfl, fun union => layered ?_, mirrors⟩
      rw [mirrors.role, union] at given
      exact (Except.ok.inj given).symm

/-- The layouts of an analysis are those of declared structs that are no unions. -/
theorem Analyzed.mirrors (analyzed : lib.Analyzed t a) (member : m ∈ a.layouts) :
    ∃ name s, name ∈ lib.description.declared .struct ∧
      lib.description.structs.find? name = some s ∧ m.role ≠ .union ∧ lib.Mirrors t s m := by
  obtain ⟨declared, layouts, each⟩ := analyzed.layouts
  rw [layouts, List.mem_filterMap] at member
  obtain ⟨_, inside, rfl⟩ := member
  obtain ⟨name, named, run⟩ := exists_left_of_forall₂ each inside
  obtain ⟨s, known, ⟨_, none⟩ | ⟨_, ⟨rfl⟩, layered, mirrors⟩⟩ :=
    declaredLayout_eq_ok analyzed.formed analyzed.complete run
  · cases none
  · exact ⟨name, s, named, known, layered, mirrors⟩

section Initializers

variable {role : Role} {fields : List LayoutField} {default : DefaultImpl}

/-- Flags do not matter for how a field is initialized. -/
theorem initializer?_reflag (same : TypeTable.Reflagged t t') (role : Role) (id : TypeId) :
    lib.initializer? t' role id = lib.initializer? t role id := by
  induction id using Nat.strongRecOn with
  | ind id ih =>
    rw [initializer?, initializer?, same.target, same.isOpaquePointer]
    dsimp only
    split
    next => rfl
    next =>
      split
      next => rfl
      next =>
        split
        next => rfl
        next inner link =>
          split
          next earlier => rw [ih inner earlier]
          next => rfl
      next => rfl
      next => rfl

/-- A struct that has a default value has an initializer for every field. -/
theorem initialized_of_defaultImpl (run : lib.defaultImpl t s role fields = .ok default)
    (given : default ≠ .none) :
    ∃ is, List.Forall₂ (fun f i => lib.initializer? t role f.type = some i) fields is ∧
      (default = .derive ∨ default = .manual is) := by
  unfold defaultImpl at run
  dsimp only at run
  split at run
  next =>
    cases run
    exact absurd rfl given
  next =>
    obtain ⟨is, each, made⟩ := bind_eq_ok_iff.1 run
    refine ⟨is, (mapM_eq_ok_iff.1 each).imp fun f i initialized => ?_, ?_⟩
    · split at initialized
      next found =>
        cases initialized
        exact found
      next => cases initialized
    · split at made
      next => exact .inl (Except.ok.inj made).symm
      next => exact .inr (Except.ok.inj made).symm

theorem initializer?_of_defaultImpl (run : lib.defaultImpl t s role fields = .ok default)
    (given : default ≠ .none) {f : LayoutField} (member : f ∈ fields) :
    ∃ i, lib.initializer? t role f.type = some i := by
  obtain ⟨is, each, _⟩ := initialized_of_defaultImpl run given
  obtain ⟨i, _, found⟩ := exists_right_of_forall₂ each member
  exact ⟨i, found⟩

theorem initialized_of_manual {is : List Initializer}
    (run : lib.defaultImpl t s role fields = .ok (.manual is)) :
    List.Forall₂ (fun f i => lib.initializer? t role f.type = some i) fields is := by
  obtain ⟨is', each, derived | written⟩ := initialized_of_defaultImpl run nofun
  · cases derived
  · cases written
    exact each

end Initializers

end Library

end Bindery
