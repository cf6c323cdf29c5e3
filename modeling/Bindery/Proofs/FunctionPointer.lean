import Bindery.Proofs.Naming
import Bindery.Proofs.RawSplit

/-!
# Function pointers in spellings

A type that leads to a function through any pointers and arrays is spelled as a pointer to that
function. So an array keeps its length exactly if its items lead to no function.
-/
namespace Bindery

def Spelling.isFunction : Spelling → Bool
  | .function _ _ => true
  | _ => false

namespace TypeTable

def IsSlot (t : TypeTable) (id : TypeId) : Prop :=
  (t.target id).kind = .function ∨
    ∃ pointee, t.pointee id = some pointee ∧ (t.target pointee).kind = .function

/-- How the spelling of a type flattens what leads to a function. -/
structure Flattens (t : TypeTable) (style : Style) (id : TypeId) : Prop where
  /-- Slots are spelled as a pointer to a function, -/
  slot : t.IsSlot id → (t.spell style id).isFunction
  /-- and so is every type that leads to a function through more pointers or through arrays. -/
  function : (t.spell style id).isFunction ↔ (t.node (t.leaf id)).kind = .function
  /-- No pointer and no array on the way to the function leaves a trace. -/
  flat : (t.node (t.leaf id)).kind = .function → t.spell style id = t.native (t.leaf id)
  /-- All other arrays, and only these, are spelled with their items and their length. -/
  array : (t.target id).kind = .array → ∃ item length, (t.target id).inner = some item ∧
    (t.target id).arrayLength = some length ∧ ∀ lifetime,
      (t.spell style id).text lifetime =
          "[" ++ (t.spell style item).text lifetime ++ "; " ++ toString length.toNat ++ "]" ↔
        (t.node (t.leaf item)).kind ≠ .function

structure Marked (t : TypeTable) : Prop extends t.Ordered where
  carries : ∀ {id inner}, (t.node id).isWrapper → (t.node id).inner = some inner →
    (t.node id).isFunction = (t.node inner).isFunction
  functions : ∀ {id}, (t.node id).isWrapper = false →
    (t.node id).isFunction = decide ((t.node id).kind = .function)

variable {t : TypeTable} {id item : TypeId} {style : Style}

theorem isFunction_iff_leaf (marked : t.Marked) (id : TypeId) :
    (t.node id).isFunction ↔ (t.node (t.leaf id)).kind = .function := by
  fun_induction t.leaf id with
  | case1 id inner link wraps earlier ih => rw [marked.carries wraps link, ih]
  | case2 id inner link wraps late => exact absurd (marked.inner_lt link) late
  | case3 id last =>
    have solid : (t.node id).isWrapper = false := by
      apply Bool.eq_false_of_not_eq_true
      intro wraps
      obtain ⟨inner, link⟩ := Option.isSome_iff_exists.1 (marked.wraps wraps)
      exact last inner wraps link
    rw [marked.functions solid, decide_eq_true_iff]

/-- Between a type and the function that it leads to there are wrappers only. -/
theorem signature_eq_leaf (leads : (t.node (t.leaf id)).kind = .function) :
    t.signature id = t.leaf id := by
  fun_induction t.leaf id with
  | case1 id inner link wraps earlier ih =>
    have other : decide ((t.node id).kind = .function) = false := by
      apply decide_eq_false
      intro kind
      simp [Node.isWrapper, Node.isTransparent, kind] at wraps
    rw [signature.eq_def t id, other, link]
    simp only [if_pos earlier]
    exact ih leads
  | case2 id | case3 id =>
    rw [signature.eq_def t id, decide_eq_true leads]

/-- A type that leads to a function is spelled as that function is. -/
theorem native_eq_leaf (marked : t.Marked) (leads : (t.node (t.leaf id)).kind = .function) :
    t.native id = t.native (t.leaf id) := by
  have below := t.leaf_le id
  have outer := (isFunction_iff_leaf marked id).2 leads
  have solid : (t.node (t.leaf id)).isWrapper = false := by
    simp [Node.isWrapper, Node.isTransparent, leads]
  have inner : (t.node (t.leaf id)).isFunction := by
    rw [marked.functions solid]
    exact decide_eq_true leads
  have last : t.leaf (t.leaf id) = t.leaf id :=
    leaf_eq_self fun _ wraps => absurd wraps (by simp [solid])
  have same : t.signature (t.leaf id) = t.leaf id := by
    rw [signature_eq_leaf (by rwa [last]), last]
  rw [native.eq_def t id, native.eq_def t (t.leaf id)]
  simp only [outer, inner, if_true, signature_eq_leaf leads, same]
  congr 1
  · apply List.map_congr_left
    intro p member
    have earlier := marked.param_lt member
    rw [if_pos earlier, if_pos (Nat.lt_of_lt_of_le earlier below)]
  · cases link : (t.node (t.leaf id)).inner.filter fun r => !(t.target r).isVoid with
    | none => rfl
    | some r =>
      have earlier := marked.inner_lt (Option.filter_eq_some_iff.1 link).1
      simp only [Option.bind_some]
      rw [if_pos earlier, if_pos (Nat.lt_of_lt_of_le earlier below)]

/-- What stands for no other type is spelled by names, or by names around its items. -/
theorem isFunction_spell_solid (marked : t.Marked) (function : (t.node id).isFunction = false)
    (solid : (t.node id).isWrapper = false) (style : Style) :
    (t.spell style id).isFunction = false := by
  by_cases viewed : (t.node id).kind = .struct ∧ (t.node id).isViewed style
  · obtain ⟨kind, viewed⟩ := viewed
    cases listed : (t.node id).isListed style with
    | true =>
      have items := marked.lists kind (Node.isList_of_isListed listed)
      obtain ⟨item, link⟩ := Option.isSome_iff_exists.1 items
      obtain ⟨view, spelled⟩ := spell_listed function kind listed link (marked.item_lt link)
      rw [spelled]
      rfl
    | false =>
      obtain ⟨name, borrows, spelled, _⟩ := spell_viewed function kind viewed listed
      rw [spelled]
      rfl
  · have plain : (t.node id).kind = .struct → (t.node id).isViewed style = false := by
      intro kind
      apply Bool.eq_false_of_not_eq_true
      intro seen
      exact viewed ⟨kind, seen⟩
    rw [spell_named function marked.toOrdered solid style plain]
    rfl

/-- Exactly the types that lead to a function are spelled as one. -/
theorem isFunction_spell (marked : t.Marked) (style : Style) (id : TypeId) :
    (t.spell style id).isFunction = (t.node id).isFunction := by
  induction id using Nat.strongRecOn with
  | _ id ih =>
    cases function : (t.node id).isFunction with
    | true =>
      rw [spell_of_isFunction function, native]
      simp [function, Spelling.isFunction]
    | false =>
      cases wraps : (t.node id).isWrapper with
      | true =>
        obtain ⟨inner, link⟩ := Option.isSome_iff_exists.1 (marked.wraps wraps)
        have earlier := marked.inner_lt link
        have carried := marked.carries wraps link
        simp only [Node.isWrapper, Bool.or_eq_true, decide_eq_true_eq] at wraps
        -- Only typedefs and consts pass on the form of what is inside.
        rcases wraps with (transparent | pointer) | array
        · rw [spell_transparent function link earlier transparent, ih inner earlier, ← carried,
            function]
        · rw [spell_pointer function link earlier pointer]
          split <;> rfl
        · rw [spell_array function link earlier array]
          rfl
      | false => exact isFunction_spell_solid marked function wraps style

/-- What leads to no function is spelled as what it stands for. -/
theorem spell_strip (marked : t.Marked) (function : (t.node id).isFunction = false)
    (style : Style) : t.spell style (t.strip id) = t.spell style id := by
  fun_induction t.strip id with
  | case1 id inner link transparent earlier ih =>
    have wraps : (t.node id).isWrapper := by simp [Node.isWrapper, transparent]
    rw [spell_transparent function link earlier transparent]
    apply ih
    rw [← marked.carries wraps link]
    exact function
  | case2 | case3 => rfl

/-- A pointer or an array leads where the type inside it does. -/
theorem leaf_of_target {inner : TypeId} (marked : t.Marked) (wraps : (t.target id).isWrapper)
    (link : (t.target id).inner = some inner) : t.leaf id = t.leaf inner := by
  rw [← leaf_strip, leaf_inner wraps link (marked.inner_lt link)]

theorem leaf_of_function (kind : (t.target id).kind = .function) :
    (t.node (t.leaf id)).kind = .function := by
  have last : t.leaf (t.strip id) = t.strip id := by
    apply leaf_eq_self
    intro inner wraps
    change (t.target id).isWrapper at wraps
    simp [Node.isWrapper, Node.isTransparent, kind] at wraps
  rw [← leaf_strip, last]
  exact kind

/-- A type and what it stands for lead to a function together. -/
theorem isFunction_target (marked : t.Marked) (id : TypeId) :
    (t.target id).isFunction = (t.node id).isFunction := by
  rw [Bool.eq_iff_iff, target, isFunction_iff_leaf marked, isFunction_iff_leaf marked, leaf_strip]

section Target

variable {inner : TypeId} (marked : t.Marked) (function : (t.node id).isFunction = false)
  (link : (t.target id).inner = some inner)

include marked function link

/-- A type that stands for a pointer is spelled as that pointer. -/
theorem spell_target_pointer (kind : (t.target id).kind = .pointer) (style : Style) :
    t.spell style id =
      if style = .native ∨ t.isOpaquePointer id then
        .pointer (t.target id).isConst (t.spell .native inner)
      else .ref (decide (style ≠ .member) || (t.target id).isNullable) (t.spell .member inner) := by
  rw [← isFunction_target marked] at function
  have spelled := spell_pointer function link (marked.inner_lt link) kind style
  rwa [spell_strip marked (by rwa [← isFunction_target marked]), isOpaquePointer_strip] at spelled

/-- A type that stands for an array is spelled as that array. -/
theorem spell_target_array (kind : (t.target id).kind = .array) (style : Style) :
    t.spell style id = .array (t.spell (if style = .shape then .input else style) inner)
      ((t.target id).arrayLength.getD 0).toNat := by
  rw [← isFunction_target marked] at function
  have spelled := spell_array function link (marked.inner_lt link) kind style
  rwa [spell_strip marked (by rwa [← isFunction_target marked])] at spelled

end Target

/-- A slot leads to a function. -/
theorem IsSlot.leaf (marked : t.Marked) (slot : t.IsSlot id) :
    (t.node (t.leaf id)).kind = .function := by
  rcases slot with kind | ⟨pointee, points, kind⟩
  · exact leaf_of_function kind
  · obtain ⟨pointer, link⟩ := Option.ite_none_right_eq_some.1 points
    have wraps : (t.target id).isWrapper := by simp [Node.isWrapper, pointer]
    rw [leaf_of_target marked wraps link]
    exact leaf_of_function kind

/-- An array is spelled with its length and its items exactly if these lead to no function. -/
theorem text_array_iff (marked : t.Marked) (written : style ≠ .shape)
    (kind : (t.target id).kind = .array) (link : (t.target id).inner = some item)
    (lifetime : String) :
    (t.spell style id).text lifetime = "[" ++ (t.spell style item).text lifetime ++ "; " ++
        toString ((t.target id).arrayLength.getD 0).toNat ++ "]" ↔
      (t.node (t.leaf item)).kind ≠ .function := by
  have wraps : (t.target id).isWrapper := by simp [Node.isWrapper, kind]
  have leaf := leaf_of_target marked wraps link
  have leads := isFunction_iff_leaf marked id
  rw [leaf] at leads
  constructor
  · intro array function
    have spelled := isFunction_spell marked style id
    rw [leads.2 function] at spelled
    cases form : t.spell style id with
    | function params result =>
      rw [form] at array
      -- The texts differ in their first character.
      have first := congrArg (fun text : String => text.toList.head?) array
      simp at first
    | _ => simp [form, Spelling.isFunction] at spelled
  · intro other
    have function : (t.node id).isFunction = false :=
      Bool.eq_false_of_not_eq_true (mt leads.1 other)
    rw [spell_target_array marked function link kind style, if_neg written]
    rfl

end TypeTable

namespace Library

variable {lib : Library} {t t' : TypeTable} {id : TypeId} {key : String} {ty : TypeDecl} {n : Node}

theorem Describes.isFunction_solid (describes : lib.Describes t key ty n)
    (solid : n.isWrapper = false) : n.isFunction = decide (n.kind = .function) := by
  cases describes with
  | wrapper wrapper =>
    simp only [Node.isWrapper, Node.isTransparent, Node.wrapping_kind] at solid wrapper
    cases solid.symm.trans wrapper
  | primitive => rfl
  | function kind => exact (decide_eq_true kind).symm
  | struct kind | enum kind => simp [structNode, TypeDecl.plain, kind]
  | list kind =>
    unfold listNode
    split <;> simp [structNode, TypeDecl.plain, kind]

theorem Describes.arrayLength_isSome (describes : lib.Describes t key ty n)
    (kind : n.kind = .array) : n.arrayLength.isSome := by
  cases describes with
  | wrapper _ _ _ measured =>
    rw [Node.wrapping_kind] at kind
    rw [Node.wrapping_arrayLength]
    exact Option.isSome_iff_ne_none.2 (measured kind)
  | primitive => cases kind
  | function given | struct given | enum given =>
    simp [structNode, TypeDecl.plain, given] at kind
  | list given =>
    unfold listNode at kind
    split at kind <;> simp [structNode, TypeDecl.plain, given] at kind

theorem Flagged.marked (flagged : lib.Flagged t) : t.Marked := by
  obtain ⟨bare, formed, same⟩ := flagged
  refine { formed.ordered same with carries := ?_, functions := ?_ }
  · intro id inner wraps link
    rw [same.isWrapper] at wraps
    rw [same.inner] at link
    obtain ⟨_, ty, describes⟩ := formed.describes_of_ne id fun unused => by
      simp [unused, default, Node.isWrapper, Node.isTransparent] at wraps
    rw [same.isFunction, same.isFunction]
    exact describes.isFunction_inner wraps link
  · intro id solid
    rw [same.isWrapper] at solid
    rw [same.isFunction, same.kind]
    by_cases used : bare.node id = default
    · rw [used]
      rfl
    · obtain ⟨_, ty, describes⟩ := formed.describes_of_ne id used
      exact describes.isFunction_solid solid

theorem Flagged.arrayLength_isSome (flagged : lib.Flagged t) (kind : (t.node id).kind = .array) :
    (t.node id).arrayLength.isSome := by
  obtain ⟨bare, formed, same⟩ := flagged
  rw [same.kind] at kind
  obtain ⟨_, ty, describes⟩ := formed.describes_of_ne id fun unused => by
    simp [unused, default] at kind
  have length : (t.node id).arrayLength = (bare.node id).arrayLength :=
    (congrArg Node.arrayLength (same.frame id) :)
  rw [length]
  exact describes.arrayLength_isSome kind

/-- Whatever was asked of a table before, what leads to a function is flattened, also where it is
laid out as more than one pointer. -/
theorem spell_flattens (reached : lib.Reached t) {style : Style} (written : style ≠ .shape)
    (id : TypeId) : t.Flattens style id := by
  have flagged := reached.flagged
  have marked := flagged.marked
  have leads := TypeTable.isFunction_iff_leaf marked id
  have function : (t.spell style id).isFunction ↔ (t.node (t.leaf id)).kind = .function := by
    rw [TypeTable.isFunction_spell marked, leads]
  constructor
  · intro slot
    exact function.2 (slot.leaf marked)
  · exact function
  · intro last
    rw [TypeTable.spell_of_isFunction (leads.2 last), TypeTable.native_eq_leaf marked last]
  · intro kind
    have wraps : (t.target id).isWrapper := by simp [Node.isWrapper, kind]
    obtain ⟨item, link⟩ := Option.isSome_iff_exists.1 (marked.wraps wraps)
    obtain ⟨length, measured⟩ := Option.isSome_iff_exists.1 (flagged.arrayLength_isSome kind)
    refine ⟨item, length, link, measured, fun lifetime => ?_⟩
    have array := TypeTable.text_array_iff marked written kind link lifetime
    rwa [TypeTable.target, measured] at array

def callbacks : Library where
  description := {
    types := ⟨[("cb", { kind := .function }),
      ("cb*", { kind := .pointer, inner := some "cb" }),
      ("cb*[4]", { kind := .array, inner := some "cb*", arrayLength := some 4 }),
      ("void", { kind := .primitive })], by decide⟩ }
  config := { link := "x" }

def callbackRow : TypeTable := callbacks.after [.resolve "cb*[4]"]

/-- The row takes the place of one callback in a layout. -/
theorem callbackRow_flattened : callbacks.Reached callbackRow ∧
    callbackRow.find? "cb*[4]" = some 3 ∧ callbackRow.Flattens .member 3 ∧
    (callbackRow.target 3).kind = .array ∧ ¬callbackRow.IsSlot 3 ∧
    callbackRow.memberText 3 "" = "Option<unsafe extern \"C\" fn()>" := by
  have reached : callbacks.Reached callbackRow := Reached.call (.resolve "cb*[4]") .new
  have kind : (callbackRow.target 3).kind = .array := by decide +kernel
  refine ⟨reached, by decide +kernel, spell_flattens reached (by decide) 3, kind, ?_,
    by decide +kernel⟩
  rintro (function | ⟨pointee, points, _⟩)
  · cases kind.symm.trans function
  · rw [TypeTable.pointee, if_neg (by rw [kind]; decide)] at points
    cases points

end Library

end Bindery
