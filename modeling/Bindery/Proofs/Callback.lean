import Bindery.Proofs.Borrowing
import Bindery.Proofs.Zeroing

/-!
# Callbacks beside their layouts

A callback builds its layout from a closure and is lowered to it. It counts the fields of the layout
and names it on its own, and for either it takes the layout to be declared without a lifetime. So a
callback fits its layout exactly if the layout does not borrow, or if all that is left of the layout
is filled with default values.
-/
namespace Bindery

/-- A line of a struct: the name of a field, then its type or its value. -/
def EntryOf (name : String) (line : Step) : Prop :=
  ∃ visibility ∈ ["", "pub "], ∃ text, line = .line (visibility ++ name ++ ": " ++ text ++ ",")

def DeclaresFields (names : List String) (steps : List Step) : Prop :=
  ∃ type body, .braces ("pub struct " ++ type) body ∈ steps ∧ List.Forall₂ EntryOf names body

def ReturnsLiteral (lines steps : List Step) : Prop :=
  ∃ target function literal,
    .braces target [.braces function [.braces literal lines]] ∈ steps

/-- A layout is named as what `from_func` is implemented for, or as what a shape is lowered to. -/
def NamesLayout (text : String) (steps : List Step) : Prop :=
  (∃ parameters body,
      .braces ("impl " ++ text) [.braces ("pub fn from_func" ++ parameters) body] ∈ steps) ∨
    ∃ header rest, .braces header (.line ("type Raw = " ++ text ++ ";") :: rest) ∈ steps

namespace LayoutItem

/-- A name of the layout with a lifetime exactly if it is declared with one. -/
structure NamedBy (l : LayoutItem) (text : String) : Prop where
  borrowing : DeclaresLifetime l.name l.steps → ∃ lifetime, text = l.name ++ "<" ++ lifetime ++ ">"
  owning : ¬DeclaresLifetime l.name l.steps → text = l.name

theorem entryOf_fieldLine (f : FieldItem) : EntryOf f.name (fieldLine f) := by
  refine ⟨if f.isPublic then "pub " else "", ?_, f.type.text "'a", rfl⟩
  split <;> simp

/-- The layout is declared with its fields and, if it borrows, with one more. -/
theorem declaresFields_iff (l : LayoutItem) (names : List String) :
    DeclaresFields names l.steps ↔ List.Forall₂ EntryOf names l.body := by
  simp [DeclaresFields, struct_mem_steps]

theorem entries_body (l : LayoutItem) :
    List.Forall₂ EntryOf (l.fields.map (·.name) ++ if l.borrows then ["_marker"] else [])
      l.body := by
  refine List.rel_append ?_ ?_
  · rw [List.forall₂_map_left_iff, List.forall₂_map_right_iff, List.forall₂_same]
    exact fun f _ => entryOf_fieldLine f
  · split
    · exact .cons ⟨"", by simp, "PhantomData<&'a ()>", rfl⟩ .nil
    · exact .nil

end LayoutItem

namespace CallbackItem

variable {c : CallbackItem}

def literal (c : CallbackItem) : List Step :=
  [.line (c.functionField ++ ": Some(" ++ c.trampoline ++ "::<F>),"),
    .line (c.userField ++ ": func as *mut F as *mut c_void,")] ++
    if c.hasRest then [.line "..Default::default()"] else []

theorem returnsLiteral_iff {lines : List Step} :
    ReturnsLiteral lines c.steps ↔ lines = c.literal := by
  simp [ReturnsLiteral, steps, literal, Step.braces]

/-- The layout is named plainly. -/
theorem namesLayout_iff {text : String} : NamesLayout text c.steps ↔ text = c.raw := by
  have function (parameters : String) :
      "pub fn from_func" ++ parameters ≠ "fn default() -> Self" := by
    intro same
    have first := congrArg (·.toList.head?) same
    simp at first
  have variant : "type Raw = " ++ text ++ ";" ≠ "None," := by
    intro same
    have first := congrArg (·.toList.head?) same
    simp at first
  constructor
  · rintro (⟨parameters, body, member⟩ | ⟨header, rest, member⟩)
    · simp [steps, Step.braces, function] at member
      exact member.1
    · simp [steps, Step.braces, variant] at member
      exact member.2.1
  · rintro rfl
    exact .inr ⟨_, _, List.mem_of_getElem? (i := 6) rfl⟩

/-- The literal of a callback gives each field of its layout a value once, or leaves those that it
does not name to the default value. -/
def Fills (c : CallbackItem) (l : LayoutItem) : Prop :=
  ∃ lines, ReturnsLiteral lines c.steps ∧
    (lines.getLast? = some (.line "..Default::default()") ∨
      ∃ given declared, List.Forall₂ EntryOf given lines ∧ DeclaresFields declared l.steps ∧
        given.Perm declared)

theorem getLast?_literal (c : CallbackItem) :
    c.literal.getLast? = some (.line "..Default::default()") ↔ c.hasRest := by
  unfold literal
  cases c.hasRest with
  | true => simp
  | false =>
    refine iff_of_false (fun same => ?_) Bool.false_ne_true
    have last := congrArg (·.toList.getLast?) (Step.line.inj (Option.some.inj same))
    simp at last

theorem entries_literal (plain : c.hasRest = false) :
    List.Forall₂ EntryOf [c.functionField, c.userField] c.literal := by
  unfold literal
  rw [plain]
  refine .cons ⟨"", by simp, "Some(" ++ c.trampoline ++ "::<F>)", ?_⟩
    (.cons ⟨"", by simp, "func as *mut F as *mut c_void", ?_⟩ .nil)
  · have opening : ": Some(" = ": " ++ "Some(" := rfl
    have closing : "::<F>)," = "::<F>)" ++ "," := rfl
    simp only [opening, closing, String.append_assoc, String.empty_append]
  · simp [String.append_assoc]

/-- Without further fields, a literal with the fields of a layout leaves out the marker. -/
theorem fills_iff {l : LayoutItem} (slots : c.hasRest = false →
    [c.functionField, c.userField].Perm (l.fields.map (·.name))) :
    c.Fills l ↔ c.hasRest ∨ l.borrows = false := by
  simp only [Fills, returnsLiteral_iff, exists_eq_left, getLast?_literal]
  cases rest : c.hasRest with
  | true => simp
  | false =>
    have all := slots rest
    simp only [Bool.false_eq_true, false_or]
    constructor
    · -- With a marker, the layout is declared with one field more than the literal has lines.
      rintro ⟨given, declared, values, fields, fit⟩
      by_contra flagged
      have borrows : l.borrows := by simpa using flagged
      have two : c.literal.length = 2 := by simp [literal, rest]
      have more : l.body.length = l.fields.length + 1 := by simp [LayoutItem.body, borrows]
      have values := values.length_eq
      have fields := ((l.declaresFields_iff declared).1 fields).length_eq
      have fit := fit.length_eq
      have all : 2 = l.fields.length := by simpa using all.length_eq
      omega
    · intro plain
      have declared := l.entries_body
      rw [plain] at declared
      exact ⟨_, _, entries_literal rest, (l.declaresFields_iff _).2 declared, by simpa using all⟩

end CallbackItem

namespace Library

variable {lib : Library} {t : TypeTable} {s : StructDecl} {fields : List LayoutField}
  {slots : CallbackSlots} {a : Analysis} {m : Layout} {c : CallbackItem}

/-- The slots of a callback are two of its fields: one is a function and the other is not. -/
theorem fields_of_slots (found : lib.callbackSlots t s fields = .ok slots) :
    ∃ function ∈ fields, ∃ user ∈ fields, function ≠ user ∧
      slots.functionField = function.name ∧ slots.userField = user.name := by
  unfold callbackSlots at found
  split at found
  next => cases found
  next function first =>
    split at found
    next => cases found
    next user second =>
      split at found
      next => cases found
      next =>
        cases found
        refine ⟨function, List.mem_of_find?_eq_some first, user, List.mem_of_find?_eq_some second,
          ?_, rfl, rfl⟩
        rintro rfl
        have isFunction := List.find?_some first
        have isUser := List.find?_some second
        simp [isFunction] at isUser

/-- Where there are no further fields, the slots are all fields. -/
theorem slots_perm (found : lib.callbackSlots t s fields = .ok slots) (few : fields.length ≤ 2) :
    [slots.functionField, slots.userField].Perm (fields.map (·.name)) := by
  obtain ⟨function, isField, user, isField', apart, name, name'⟩ := fields_of_slots found
  have inside : [function, user] ⊆ fields := by simp [isField, isField']
  have subperm := List.subperm_of_subset (by simpa using apart) inside
  have perm := (subperm.perm_of_length_le few).map LayoutField.name
  rwa [name, name']

theorem Analyzed.slots_of_visible (analyzed : lib.Analyzed t a) (visible : m ∈ a.visibleLayouts)
    (emitted : a.shapeItems m = some (.callback c)) :
    ∃ s slots, lib.callbackSlots t s m.fields = .ok slots ∧ c = slots.item m := by
  obtain ⟨_, s, _, _, _, mirrors⟩ := analyzed.mirrors (Analysis.mem_layouts_of_visible visible)
  have filled := mirrors.callback
  unfold Analysis.shapeItems at emitted
  split at emitted
  next => cases emitted
  next role =>
    rw [if_pos role] at filled
    obtain ⟨slots, found, filled⟩ := filled
    rw [filled] at emitted
    cases emitted
    exact ⟨s, slots, found, rfl⟩
  next => cases emitted

/-- A callback fills its layout unless that has two fields and a lifetime, and names it as it is
declared unless that has a lifetime. -/
theorem callback_fits_iff (success : lib.analyze = .ok a) (visible : m ∈ a.visibleLayouts)
    (emitted : a.shapeItems m = some (.callback c)) :
    let l := a.layoutItem m
    (c.Fills l ↔ 2 < m.fields.length ∨ ¬DeclaresLifetime l.name l.steps) ∧
      ((∀ text, NamesLayout text c.steps → l.NamedBy text) ↔
        ¬DeclaresLifetime l.name l.steps) := by
  intro l
  obtain ⟨t, analyzed⟩ := lib.analyzed success
  obtain ⟨s, slots, found, rfl⟩ := analyzed.slots_of_visible visible emitted
  have names : l.fields.map (·.name) = m.fields.map (·.name) := by
    simp [l, Analysis.layoutItem, Function.comp_def]
  constructor
  · rw [CallbackItem.fills_iff, l.declaresLifetime_iff]
    · simp [CallbackSlots.item]
    · intro few
      rw [names]
      exact slots_perm found (by simpa [CallbackSlots.item] using few)
  · simp only [CallbackItem.namesLayout_iff, forall_eq]
    constructor
    · intro named declared
      obtain ⟨lifetime, longer⟩ := named.borrowing declared
      have same : l.name ++ "<" ++ lifetime ++ ">" = l.name := longer.symm
      simp [String.append_assoc] at same
    · exact fun owning => ⟨fun declared => absurd declared owning, fun _ => rfl⟩

def visitors : Library where
  description := {
    types := ⟨[("node", { kind := .struct }),
      ("node*", { kind := .pointer, inner := some "node" }),
      ("visit",
        { kind := .function, inner := some "void"
          params := [{ name := "user", type := "void*" }, { name := "node", type := "node*" }] }),
      ("visitor", { kind := .struct }),
      ("void", { kind := .primitive }),
      ("void*", { kind := .pointer, inner := some "void" })], by decide⟩
    structs := ⟨[
      ("node", { name := "node", shortName := "node" }),
      ("visitor",
        { name := "visitor", shortName := "visitor", isCallback := true
          fields := [{ name := "fn", type := "visit" }, { name := "user", type := "void*" }] })],
      by decide⟩
    declarations := [⟨.struct, "node"⟩, ⟨.struct, "visitor"⟩] }
  config := {
    link := "nodes"
    preludeModule := some "crate::prelude"
    types := { rawLifetime := ["node"] }
    callbacks := ⟨[("visitor", { signature := "(&Node<'_>)" })], by decide⟩ }

/-- A visitor leaves the marker of its layout out and names the layout without its lifetime. -/
theorem visitor_unfit : ∃ a m c, visitors.analyze = .ok a ∧ m ∈ a.visibleLayouts ∧
    a.shapeItems m = some (.callback c) ∧
    DeclaresLifetime (a.layoutItem m).name (a.layoutItem m).steps ∧ ¬c.Fills (a.layoutItem m) ∧
    ∃ text, NamesLayout text c.steps ∧ ¬(a.layoutItem m).NamedBy text := by
  have checked : visitors.analyze.toOption.any (fun a => (a.layout? "visitor").any fun m =>
      m.isVisible ∧ m.role = .callback ∧ m.callback.isSome ∧ (a.layoutItem m).borrows ∧
        m.fields.length = 2) := by decide +kernel
  obtain ⟨a, success, checked⟩ := ok_of_any checked
  obtain ⟨m, found, checked⟩ := (Option.any_eq_true _ _).1 checked
  obtain ⟨shown, role, given, borrows, two⟩ := of_decide_eq_true checked
  obtain ⟨slots, given⟩ := Option.isSome_iff_exists.1 given
  have visible : m ∈ a.visibleLayouts :=
    List.mem_filter.2 ⟨Analysis.mem_layouts_of_found found, shown⟩
  have emitted : a.shapeItems m = some (.callback (slots.item m)) := by
    simp [Analysis.shapeItems, role, given]
  have declared := (a.layoutItem m).declaresLifetime_iff.2 borrows
  obtain ⟨fills, named⟩ := callback_fits_iff success visible emitted
  refine ⟨a, m, slots.item m, success, visible, emitted, declared, ?_, ?_⟩
  · rw [fills, two]
    simpa using declared
  · by_contra fits
    exact named.1 (fun text names => by_contra fun unfit => fits ⟨text, names, unfit⟩) declared

end Library

end Bindery
