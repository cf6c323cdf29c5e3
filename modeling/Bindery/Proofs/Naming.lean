import Bindery.Proofs.Spelling

/-!
# Names in spellings

What a type is spelled with, down to the types that are spelled by their own names: in native
signatures all that are no pointers, arrays or functions, elsewhere not the structs that are seen
through a view or a shape.
-/
namespace Bindery

open Relation

namespace Spelling

mutual

def names : Spelling → List String
  | .named name _ => [name]
  | .pointer _ target => target.names
  | .array item _ => item.names
  | .function params result => allNames params ++ resultNames result
  | .ref _ target => target.names
  | .list _ item => item.names

def allNames : List Spelling → List String
  | [] => []
  | s :: rest => s.names ++ allNames rest

def resultNames : Option Spelling → List String
  | none => []
  | some s => s.names

end

theorem allNames_eq (ss : List Spelling) : allNames ss = ss.flatMap names := by
  induction ss with
  | nil => rfl
  | cons s ss ih => rw [allNames, ih, List.flatMap_cons]

theorem resultNames_eq (s : Option Spelling) : resultNames s = s.toList.flatMap names := by
  cases s with
  | none => rfl
  | some s => simp [resultNames]

end Spelling

/-- Where a type is spelled: in a native signature, in a plain layout, in the layout of a struct
that has a shape, or in a shape. -/
inductive Style where
  | native
  | member
  | input
  | shape
  deriving DecidableEq, Repr

namespace Node

/-- A struct is spelled by a view or a shape and not by its own name. -/
def isViewed (n : Node) : Style → Bool
  | .native => false
  | .member => n.isList
  | .input => n.isString || n.isBlob || n.isList
  | .shape => n.isString || n.isBlob || n.isList || n.isShaped

def isListed (n : Node) : Style → Bool
  | .native => false
  | .member => n.isList
  | .input | .shape => n.isList && !n.isString && !n.isBlob

def viewNames (n : Node) : Style → List String
  | .native | .member => []
  | .input => if n.isString then ["RawString"] else if n.isBlob then ["RawBlob"] else []
  | .shape =>
    if n.isString then ["StringOpt"]
    else if n.isBlob then ["BlobOpt"]
    else if n.isList then []
    else [n.safeName]

def ownNames (n : Node) (style : Style) : List String :=
  if n.isFunction || n.isWrapper then []
  else if n.kind = .struct && n.isViewed style then n.viewNames style
  else [n.name]

variable {n : Node} {style : Style}

theorem isViewed_of_isListed (listed : n.isListed style) : n.isViewed style := by
  cases style <;> simp_all [isListed, isViewed]

theorem isList_of_isListed (listed : n.isListed style) : n.isList := by
  cases style <;> simp_all [isListed]

theorem viewNames_of_isListed (listed : n.isListed style) : n.viewNames style = [] := by
  cases style <;> simp_all [isListed, viewNames]

end Node

namespace TypeTable

def spell (t : TypeTable) : Style → TypeId → Spelling
  | .native => t.native
  | .member => t.member
  | .input => t.inputMember
  | .shape => t.shape

/-- What the spelling of a type is made of. Functions are spelled natively everywhere, and so are
pointers to nothing that is described; what other pointers lead to is never a shape. -/
def parts (t : TypeTable) (style : Style) (id : TypeId) : List (Style × TypeId) :=
  let n := t.node id
  if n.isFunction then
    let f := t.node (t.signature id)
    (f.params ++ (f.inner.filter fun r => !(t.target r).isVoid).toList).map (.native, ·)
  else
    match n.kind with
    | .typedef | .const => n.inner.toList.map (style, ·)
    | .array => n.inner.toList.map (if style = .shape then .input else style, ·)
    | .pointer =>
      if style = .native then n.inner.toList.map (.native, ·)
      else if t.isOpaquePointer id then [(.native, id)]
      else n.inner.toList.map (.member, ·)
    | .struct => if n.isListed style then n.listItem.toList.map (style, ·) else []
    | _ => []

structure Ordered (t : TypeTable) : Prop where
  inner_lt : ∀ {id inner}, (t.node id).inner = some inner → inner < id
  param_lt : ∀ {id param}, param ∈ (t.node id).params → param < id
  item_lt : ∀ {id item}, (t.node id).listItem = some item → item < id
  wraps : ∀ {id}, (t.node id).isWrapper → (t.node id).inner.isSome
  bare : ∀ {id}, (t.node id).isWrapper = false → (t.node id).isFunction = false →
    (t.node id).inner = none
  lists : ∀ {id}, (t.node id).kind = .struct → (t.node id).isList → (t.node id).listItem.isSome

variable {t : TypeTable} {style : Style} {id : TypeId}

theorem signature_le (t : TypeTable) (id : TypeId) : t.signature id ≤ id := by
  fun_induction t.signature id with
  | case1 id inner _ _ earlier ih => exact Nat.le_trans ih (Nat.le_of_lt earlier)
  | case2 | case3 => exact Nat.le_refl _

/-- A function is spelled natively everywhere. -/
theorem spell_of_isFunction (function : (t.node id).isFunction) (style : Style) :
    t.spell style id = t.native id := by
  cases style with
  | native => rfl
  | member => rw [spell, member, if_pos function]
  | input => rw [spell, inputMember, if_pos function]
  | shape => rw [spell, shape, if_pos function]

theorem names_native_of_isFunction (ordered : t.Ordered) (function : (t.node id).isFunction) :
    (t.native id).names =
      (t.parts .native id).flatMap fun p => (t.spell p.1 p.2).names := by
  have below := t.signature_le id
  rw [native, parts]
  dsimp only
  rw [if_pos function, if_pos function, Spelling.names, Spelling.allNames_eq,
    Spelling.resultNames_eq, List.flatMap_map, List.flatMap_map, List.flatMap_append]
  congr 1
  · refine List.flatMap_congr fun p member => ?_
    rw [if_pos (Nat.lt_of_lt_of_le (ordered.param_lt member) below)]
    rfl
  · cases link : (t.node (t.signature id)).inner.filter fun r => !(t.target r).isVoid with
    | none => rfl
    | some r =>
      have earlier := ordered.inner_lt (Option.filter_eq_some_iff.1 link).1
      rw [Option.bind_some, if_pos (Nat.lt_of_lt_of_le earlier below)]
      rfl

section Kinds

variable (function : (t.node id).isFunction = false)

section Wrappers

variable {inner : TypeId} (link : (t.node id).inner = some inner) (earlier : inner < id)

include function link earlier

/-- A pointer is one in native signatures, and everywhere if it is passed through untouched. -/
theorem spell_pointer (kind : (t.node id).kind = .pointer) (style : Style) :
    t.spell style id =
      if style = .native ∨ t.isOpaquePointer id then
        .pointer (t.node id).isConst (t.spell .native inner)
      else .ref (decide (style ≠ .member) || (t.node id).isNullable) (t.spell .member inner) := by
  have native : t.native id = .pointer (t.node id).isConst (t.native inner) := by
    rw [native.eq_def t id]
    simp [function, kind, link, earlier]
  cases style with
  | native => simp [spell, native]
  | member =>
    change t.member id = _
    rw [member.eq_def t id]
    cases t.isOpaquePointer id <;> simp [spell, function, kind, link, earlier, native]
  | input =>
    change t.inputMember id = _
    rw [inputMember.eq_def t id]
    cases t.isOpaquePointer id <;> simp [spell, function, kind, link, native]
  | shape =>
    change t.shape id = _
    rw [shape.eq_def t id]
    simp only [function, kind]
    rw [inputMember.eq_def t id]
    cases t.isOpaquePointer id <;> simp [spell, function, kind, link, native]

/-- An array is spelled with its length. In a shape its items stand as in an input layout. -/
theorem spell_array (kind : (t.node id).kind = .array) (style : Style) :
    t.spell style id = .array (t.spell (if style = .shape then .input else style) inner)
      ((t.node id).arrayLength.getD 0).toNat := by
  cases style with
  | native =>
    rw [spell, native.eq_def t id]
    simp [spell, function, kind, link, earlier]
  | member =>
    rw [spell, member.eq_def t id]
    simp [spell, function, kind, link, earlier]
  | input =>
    rw [spell, inputMember.eq_def t id]
    simp [spell, function, kind, link, earlier]
  | shape =>
    rw [spell, shape.eq_def t id]
    simp only [function, kind]
    rw [inputMember.eq_def t id]
    simp [spell, function, kind, link, earlier]

/-- A typedef or const is spelled as what it stands for. -/
theorem spell_transparent (transparent : (t.node id).isTransparent) (style : Style) :
    t.spell style id = t.spell style inner := by
  have kinds : (t.node id).kind = .typedef ∨ (t.node id).kind = .const := by
    simpa [Node.isTransparent] using transparent
  cases style with
  | native =>
    rw [spell, native.eq_def t id]
    rcases kinds with kind | kind <;> simp [function, kind, link, earlier]
  | member =>
    rw [spell, member.eq_def t id]
    rcases kinds with kind | kind <;> simp [function, kind, link, earlier]
  | input =>
    rw [spell, inputMember.eq_def t id]
    rcases kinds with kind | kind <;> simp [function, kind, link, earlier]
  | shape =>
    rw [spell, shape.eq_def t id]
    rcases kinds with kind | kind <;> simp [function, kind, link, earlier]

theorem names_pointer (kind : (t.node id).kind = .pointer) (style : Style) :
    (t.spell style id).names = (t.parts style id).flatMap fun p => (t.spell p.1 p.2).names := by
  have pointer := spell_pointer function link earlier kind
  rw [pointer, parts]
  by_cases native : style = .native
  · simp [native, function, kind, link, Spelling.names]
  · by_cases untouched : t.isOpaquePointer id
    · simp [native, untouched, function, kind, pointer, Spelling.names]
    · simp [native, untouched, function, kind, link, Spelling.names]

theorem names_array (kind : (t.node id).kind = .array) (style : Style) :
    (t.spell style id).names = (t.parts style id).flatMap fun p => (t.spell p.1 p.2).names := by
  rw [spell_array function link earlier kind, parts]
  simp [function, kind, link, Spelling.names]

theorem names_transparent (transparent : (t.node id).isTransparent) (style : Style) :
    (t.spell style id).names = (t.parts style id).flatMap fun p => (t.spell p.1 p.2).names := by
  have kinds : (t.node id).kind = .typedef ∨ (t.node id).kind = .const := by
    simpa [Node.isTransparent] using transparent
  rw [spell_transparent function link earlier transparent, parts]
  rcases kinds with kind | kind <;> simp [function, kind, link]

end Wrappers

include function

/-- What is seen neither through a view nor through a shape is spelled by its own name. -/
theorem spell_named (ordered : t.Ordered) (wraps : (t.node id).isWrapper = false) (style : Style)
    (plain : (t.node id).kind = .struct → (t.node id).isViewed style = false) :
    t.spell style id = named (t.node id) := by
  have bare := ordered.bare wraps function
  by_cases kind : (t.node id).kind = .struct
  · have plain := plain kind
    cases style with
    | native =>
      rw [spell, native]
      simp [function, bare]
    | member =>
      have list : (t.node id).isList = false := plain
      rw [spell, member]
      simp [function, kind, list]
    | input =>
      simp only [Node.isViewed, Bool.or_eq_false_iff] at plain
      rw [spell, inputMember]
      simp [function, kind, plain]
    | shape =>
      simp only [Node.isViewed, Bool.or_eq_false_iff] at plain
      rw [spell, shape]
      simp only [function, kind, plain]
      rw [inputMember]
      simp [function, kind, plain]
  · cases style with
    | native =>
      rw [spell, native]
      simp [function, bare]
    | member =>
      rw [spell, member]
      simp [function, bare]
    | input =>
      rw [spell, inputMember]
      simp [function, bare]
    | shape =>
      rw [spell, shape]
      simp only [function, bare]
      rw [inputMember]
      simp [function, bare]

/-- A list is spelled with its items. -/
theorem spell_listed {item : TypeId} (kind : (t.node id).kind = .struct)
    (listed : (t.node id).isListed style) (link : (t.node id).listItem = some item)
    (earlier : item < id) : ∃ view, t.spell style id = .list view (t.spell style item) := by
  cases style with
  | native => cases listed
  | member =>
    have list : (t.node id).isList := listed
    rw [spell, member]
    simp [function, kind, list, link, earlier]
  | input =>
    simp only [Node.isListed, Bool.and_eq_true, Bool.not_eq_true'] at listed
    rw [spell, inputMember]
    simp [function, kind, listed, link, earlier]
  | shape =>
    simp only [Node.isListed, Bool.and_eq_true, Bool.not_eq_true'] at listed
    rw [spell, shape]
    simp [function, kind, listed, link, earlier]

/-- Any other struct that is seen through a view or a shape is spelled by the name of that. -/
theorem spell_viewed (kind : (t.node id).kind = .struct) (viewed : (t.node id).isViewed style)
    (unlisted : (t.node id).isListed style = false) :
    ∃ name borrows, t.spell style id = .named name borrows ∧
      (t.node id).viewNames style = [name] := by
  cases style with
  | native => cases viewed
  | member =>
    have list : (t.node id).isList = true := viewed
    cases list.symm.trans unlisted
  | input =>
    rw [spell, inputMember]
    cases string : (t.node id).isString with
    | true => simp [Node.viewNames, Spelling.fixed, function, kind, string]
    | false =>
      have blob : (t.node id).isBlob := by
        simp only [Node.isViewed, Node.isListed, string] at viewed unlisted
        cases blob : (t.node id).isBlob <;> simp_all
      simp [Node.viewNames, Spelling.fixed, function, kind, string, blob]
  | shape =>
    rw [spell, shape]
    cases string : (t.node id).isString with
    | true => simp [Node.viewNames, function, kind, string]
    | false =>
      cases blob : (t.node id).isBlob with
      | true => simp [Node.viewNames, function, kind, string, blob]
      | false =>
        have list : (t.node id).isList = false := by
          simpa [Node.isListed, string, blob] using unlisted
        have shaped : (t.node id).isShaped := by
          simpa [Node.isViewed, string, blob, list] using viewed
        simp [Node.viewNames, function, kind, string, blob, list, shaped]

end Kinds

/-- A type is spelled with its own name and those of its parts. -/
theorem names_spell (ordered : t.Ordered) (style : Style) (id : TypeId) :
    (t.spell style id).names = (t.node id).ownNames style ++
      (t.parts style id).flatMap fun p => (t.spell p.1 p.2).names := by
  cases function : (t.node id).isFunction with
  | true =>
    have own : (t.node id).ownNames style = [] := by simp [Node.ownNames, function]
    have parts : t.parts style id = t.parts .native id := by
      simp only [TypeTable.parts, function, if_true]
    rw [spell_of_isFunction function, own, parts, names_native_of_isFunction ordered function]
    rfl
  | false =>
    cases wraps : (t.node id).isWrapper with
    | true =>
      have own : (t.node id).ownNames style = [] := by simp [Node.ownNames, wraps]
      obtain ⟨inner, link⟩ := Option.isSome_iff_exists.1 (ordered.wraps wraps)
      have earlier := ordered.inner_lt link
      rw [own, List.nil_append]
      simp only [Node.isWrapper, Bool.or_eq_true, decide_eq_true_eq] at wraps
      obtain (transparent | pointer) | array := wraps
      · exact names_transparent function link earlier transparent style
      · exact names_pointer function link earlier pointer style
      · exact names_array function link earlier array style
    | false =>
      cases viewed : decide ((t.node id).kind = .struct) && (t.node id).isViewed style with
      | false =>
        have plain : (t.node id).kind = .struct → (t.node id).isViewed style = false := by
          simpa using viewed
        have none : t.parts style id = [] := by
          rw [parts]
          cases kind : (t.node id).kind
          case struct =>
            have unlisted : (t.node id).isListed style = false :=
              Bool.eq_false_of_not_eq_true fun listed =>
                Bool.false_ne_true ((plain kind).symm.trans (Node.isViewed_of_isListed listed))
            simp [function, unlisted]
          all_goals simp_all [Node.isWrapper, Node.isTransparent]
        rw [none, spell_named function ordered wraps style plain, Node.ownNames, viewed]
        simp [function, wraps, named, Spelling.names]
      | true =>
        obtain ⟨kind, viewed⟩ : (t.node id).kind = .struct ∧ (t.node id).isViewed style := by
          simpa using viewed
        cases listed : (t.node id).isListed style with
        | true =>
          obtain ⟨item, link⟩ := Option.isSome_iff_exists.1
            (ordered.lists kind (Node.isList_of_isListed listed))
          have one : t.parts style id = [(style, item)] := by
            simp [parts, function, kind, listed, link]
          obtain ⟨view, spelled⟩ := spell_listed function kind listed link (ordered.item_lt link)
          rw [one, spelled]
          simp [Spelling.names, Node.ownNames, function, wraps, kind, viewed,
            Node.viewNames_of_isListed listed]
        | false =>
          have none : t.parts style id = [] := by simp [parts, function, kind, listed]
          obtain ⟨name, borrows, spelled, names⟩ := spell_viewed function kind viewed listed
          rw [none, spelled]
          simp [Spelling.names, Node.ownNames, function, wraps, kind, viewed, names]

/-- Parts come earlier, or are the type itself in its native form. -/
theorem parts_earlier (ordered : t.Ordered) {part : Style × TypeId}
    (member : part ∈ t.parts style id) :
    part.2 < id ∨ part = (.native, id) ∧ style ≠ .native := by
  have inner {f : TypeId → Style × TypeId} (keeps : ∀ i, (f i).2 = i)
      (member : part ∈ (t.node id).inner.toList.map f) : part.2 < id := by
    obtain ⟨i, link, rfl⟩ := List.mem_map.1 member
    rw [keeps]
    exact ordered.inner_lt (Option.mem_toList.1 link)
  rw [parts] at member
  dsimp only at member
  split at member
  next =>
    have below := t.signature_le id
    obtain ⟨i, inside, rfl⟩ := List.mem_map.1 member
    refine .inl (Nat.lt_of_lt_of_le ?_ below)
    rcases List.mem_append.1 inside with param | result
    · exact ordered.param_lt param
    · exact ordered.inner_lt (Option.filter_eq_some_iff.1 (Option.mem_toList.1 result)).1
  next =>
    split at member
    iterate 3 next => exact .inl (inner (fun _ => rfl) member)
    next =>
      split at member
      next => exact .inl (inner (fun _ => rfl) member)
      next foreign =>
        split at member
        next => exact .inr ⟨List.mem_singleton.1 member, foreign⟩
        next => exact .inl (inner (fun _ => rfl) member)
    next =>
      split at member
      next =>
        obtain ⟨item, link, rfl⟩ := List.mem_map.1 member
        exact .inl (ordered.item_lt (Option.mem_toList.1 link))
      next => cases member
    next => cases member

def Made (t : TypeTable) : Style × TypeId → Style × TypeId → Prop :=
  ReflTransGen fun whole part => part ∈ t.parts whole.1 whole.2

theorem exists_made_of_mem_names (ordered : t.Ordered) {name : String} (whole : Style × TypeId)
    (member : name ∈ (t.spell whole.1 whole.2).names) :
    ∃ part, t.Made whole part ∧ name ∈ (t.node part.2).ownNames part.1 := by
  rw [names_spell ordered] at member
  rcases List.mem_append.1 member with own | inside
  · exact ⟨whole, .refl, own⟩
  · obtain ⟨next, first, later⟩ := List.mem_flatMap.1 inside
    obtain ⟨part, made, own⟩ := exists_made_of_mem_names ordered next later
    exact ⟨part, .head first made, own⟩
termination_by (whole.2, if whole.1 = .native then 0 else 1)
decreasing_by
  rcases parts_earlier ordered first with earlier | ⟨rfl, foreign⟩
  · exact Prod.Lex.left _ _ earlier
  · rw [if_neg foreign]
    exact Prod.Lex.right _ Nat.zero_lt_one

/-- A spelling has the names that the types it is made of are spelled by. -/
theorem mem_names_iff (ordered : t.Ordered) {name : String} (whole : Style × TypeId) :
    name ∈ (t.spell whole.1 whole.2).names ↔
      ∃ part, t.Made whole part ∧ name ∈ (t.node part.2).ownNames part.1 := by
  refine ⟨exists_made_of_mem_names ordered whole, ?_⟩
  rintro ⟨part, made, member⟩
  induction made using ReflTransGen.head_induction_on with
  | refl =>
    rw [names_spell ordered]
    exact List.mem_append_left _ member
  | head first _ ih =>
    rw [names_spell ordered]
    exact List.mem_append_right _ (List.mem_flatMap.2 ⟨_, first, ih⟩)

end TypeTable

namespace Library

variable {lib : Library} {t t' : TypeTable} {a : Analysis} {key : String} {ty : TypeDecl} {n : Node}

theorem Describes.inner_isSome (describes : lib.Describes t key ty n) (wraps : n.isWrapper) :
    n.inner.isSome := by
  cases describes with
  | wrapper => simp
  | _ => simp_all [Node.isWrapper, Node.isTransparent, structNode, TypeDecl.plain]

theorem Describes.inner_eq_none (describes : lib.Describes t key ty n)
    (wraps : n.isWrapper = false) (function : n.isFunction = false) : n.inner = none := by
  cases describes with
  | wrapper wrapper =>
    have wraps : (ty.plain key).isWrapper = false := by
      simpa [Node.isWrapper, Node.isTransparent] using wraps
    cases wraps.symm.trans wrapper
  | function => cases function
  | _ => simp [structNode, TypeDecl.plain]

theorem Describes.listItem_isSome (describes : lib.Describes t key ty n) (kind : n.kind = .struct)
    (list : n.isList) : n.listItem.isSome := by
  cases describes with
  | wrapper wrapper =>
    rw [Node.wrapping_kind] at kind
    simp [Node.isWrapper, Node.isTransparent, kind] at wrapper
  | list =>
    unfold listNode
    split <;> rfl
  | _ => simp_all [structNode, TypeDecl.plain]

/-- Nodes outside the table are all alike, and the others are described. -/
theorem Formed.describes_of_ne (formed : lib.Formed t) (id : TypeId)
    (used : t.node id ≠ default) :
    id < t.size ∧ ∃ ty, lib.Describes t (t.node id).key ty (t.node id) := by
  have inside : id < t.size := by
    by_contra outside
    exact used (TypeTable.node_of_le (Nat.not_lt.1 outside))
  obtain ⟨ty, _, describes⟩ := formed.described id inside
  exact ⟨inside, ty, describes⟩

theorem Formed.ordered (formed : lib.Formed t) (same : TypeTable.Reflagged t t') : t'.Ordered := by
  have earlier {id ref : TypeId} (member : ref ∈ (t.node id).refs) : ref < id := by
    have inside := (formed.describes_of_ne id fun unused => by
      simp [unused, default, Node.refs] at member).1
    exact formed.earlier id inside ref member
  constructor
  · intro id inner link
    rw [same.inner] at link
    exact earlier (by simp [Node.refs, link])
  · intro id param member
    rw [same.params] at member
    exact earlier (by simp [Node.refs, member])
  · intro id item link
    rw [same.listItem] at link
    exact earlier (by simp [Node.refs, link])
  · intro id wraps
    rw [same.isWrapper] at wraps
    obtain ⟨_, ty, describes⟩ := formed.describes_of_ne id fun unused => by
      simp [unused, default, Node.isWrapper, Node.isTransparent] at wraps
    rw [same.inner]
    exact describes.inner_isSome wraps
  · intro id wraps function
    rw [same.isWrapper] at wraps
    rw [same.isFunction] at function
    rw [same.inner]
    by_cases used : t.node id = default
    · rw [used]
      rfl
    · obtain ⟨_, ty, describes⟩ := formed.describes_of_ne id used
      exact describes.inner_eq_none wraps function
  · intro id kind list
    rw [same.kind] at kind
    rw [same.isList] at list
    obtain ⟨_, ty, describes⟩ := formed.describes_of_ne id fun unused => by
      simp [unused, default] at kind
    rw [same.listItem]
    exact describes.listItem_isSome kind list

theorem Analyzed.ordered (analyzed : lib.Analyzed t a) : a.types.Ordered :=
  analyzed.formed.ordered analyzed.reflagged

end Library

end Bindery
