import Bindery.Item.Function
import Bindery.Item.Shape
import Bindery.Proofs.Layout
import Bindery.Source

/-!
# Zero initialization

Where the generated code starts from zero bits. Fields that can be initialized are never bare
references themselves, but what stands inside a struct without a default value is not looked at.
-/
namespace Bindery

/-- A reference that is never null, or an array of such. -/
def Spelling.isBare : Spelling → Bool
  | .ref false _ => true
  | .array item _ => item.isBare
  | _ => false

namespace TypeTable

variable {t : TypeTable} {id : TypeId}

theorem not_isBare_native (t : TypeTable) (id : TypeId) : (t.native id).isBare = false := by
  induction id using Nat.strongRecOn with
  | ind id ih =>
    rw [native]
    split
    next => rfl
    next =>
      split
      next => rfl
      next inner _ =>
        split
        next earlier =>
          split
          next => rfl
          iterate 3 next => exact ih inner earlier
          next => rfl
        next => rfl

/-- In the layouts of shapes every reference can be null. -/
theorem not_isBare_inputMember (t : TypeTable) (id : TypeId) :
    (t.inputMember id).isBare = false := by
  induction id using Nat.strongRecOn with
  | ind id ih =>
    rw [inputMember]
    split
    next => exact t.not_isBare_native id
    next =>
      split
      iterate 3
        next inner _ _ =>
          split
          next earlier => exact ih inner earlier
          next => rfl
      next =>
        split
        next => exact t.not_isBare_native id
        next => rfl
      next =>
        split
        next => rfl
        next =>
          split
          next => rfl
          next =>
            split
            next =>
              split
              next =>
                split
                next => rfl
                next => rfl
              next => rfl
            next => rfl
      next => rfl

theorem isBare_member_strip (bare : (t.member id).isBare) : (t.member (t.strip id)).isBare := by
  fun_induction t.strip id with
  | case1 id inner link transparent earlier ih =>
    refine ih ?_
    rw [member] at bare
    split at bare
    next => simp [not_isBare_native] at bare
    next =>
      simp only [Node.isTransparent, Bool.or_eq_true, decide_eq_true_eq] at transparent
      rcases transparent with kind | kind <;> simpa [kind, link, earlier] using bare
  | case2 | case3 => exact bare

end TypeTable

namespace Library

variable {lib : Library} {t : TypeTable} {id : TypeId} {role : Role}

/-- What a plain struct can be initialized with has no bare reference. -/
theorem not_isBare_member {i : Initializer} (plain : role.hasShape = false)
    (found : lib.initializer? t role id = some i) : (t.member id).isBare = false := by
  induction id using Nat.strongRecOn generalizing i with
  | ind id ih =>
    by_contra isBare
    have bare := TypeTable.isBare_member_strip (by simpa using isBare)
    have below := t.strip_le id
    rw [initializer?] at found
    rw [TypeTable.member, ← TypeTable.target] at bare
    split at bare
    next => simp [TypeTable.not_isBare_native] at bare
    next notFunction =>
      simp only [notFunction, Bool.false_eq_true, if_false, TypeTable.isOpaquePointer_strip, plain,
        Bool.false_or] at found bare
      split at bare
      iterate 2
        next inner kind link =>
          split at bare
          next earlier =>
            exact TypeTable.strip_stops (by simp [Node.isTransparent, kind]) link earlier
          next => cases bare
      next inner kind link =>
        split at bare
        next earlier =>
          simp only [kind, link, Nat.lt_of_lt_of_le earlier below, if_true] at found
          split at found
          next => cases found
          next item initialized =>
            have sound := ih inner (Nat.lt_of_lt_of_le earlier below) initialized
            simp [Spelling.isBare, sound] at bare
        next => cases bare
      next inner kind link =>
        simp only [kind] at found
        split at bare
        next => simp [TypeTable.not_isBare_native] at bare
        next visible =>
          rw [if_neg visible] at found
          split at bare
          next =>
            split at found
            next nullable => simp [nullable, Spelling.isBare] at bare
            next => cases found
          next => cases bare
      next =>
        split at bare
        next =>
          split at bare
          next =>
            split at bare
            next => cases bare
            next => cases bare
          next => cases bare
        next => cases bare
      next => cases bare

end Library

/-- What is stored by value: something of a type, as the layouts with or without a shape spell it,
or a struct. -/
inductive Stored where
  | type (shaped : Bool) (id : TypeId)
  | layout (m : Layout)

namespace Analysis

def spelled (a : Analysis) (shaped : Bool) (id : TypeId) : Spelling :=
  if shaped then a.types.inputMember id else a.types.member id

/-- The layout of a struct by value. Lists are views, as are texts and bytes beside a shape. -/
def storedLayout? (a : Analysis) (shaped : Bool) (id : TypeId) : Option Layout :=
  let n := a.types.node id
  if n.kind = .struct && !n.isList && !(shaped && (n.isString || n.isBlob)) then
    n.base.bind a.layout?
  else none

def closedEnum? (a : Analysis) (id : TypeId) : Option Enumeration :=
  let n := a.types.node id
  if n.kind = .enum then (n.base.bind a.enum?).filter (!·.isFlag) else none

inductive Holds (a : Analysis) : Stored → Stored → Prop where
  | item {shaped id inner} :
      ((a.types.node id).isTransparent ∨ (a.types.node id).kind = .array) →
      (a.types.node id).inner = some inner → Holds a (.type shaped id) (.type shaped inner)
  | struct {shaped id m} : a.storedLayout? shaped id = some m →
      Holds a (.type shaped id) (.layout m)
  | field {m f} : m.isVisible → f ∈ m.fields →
      Holds a (.layout m) (.type m.role.hasShape f.type)

inductive Hazard (a : Analysis) : Stored → Prop where
  | ref {shaped id} : (a.spelled shaped id).isBare → Hazard a (.type shaped id)
  | enum {shaped id e} : a.closedEnum? id = some e → (∀ v ∈ e.values, v.value ≠ 0) →
      Hazard a (.type shaped id)

/-- Zero bits are a value of it and of all that it holds. -/
def AdmitsZero (a : Analysis) (s : Stored) : Prop :=
  ∀ held, Relation.ReflTransGen a.Holds s held → ¬a.Hazard held

/-- What the output starts from zero bits: fields in the default values of layouts and of shapes
and in the lowering of shapes, and the records of errors and panics. -/
inductive Zeroes (a : Analysis) : Stored → Prop where
  | default {m f fields} : m ∈ a.visibleLayouts → f ∈ m.fields →
      (a.layoutItem m).default = some fields → (f.name, .zeroed) ∈ fields →
      Zeroes a (.type m.role.hasShape f.type)
  | shape {m f fields} : m ∈ a.visibleLayouts → m.role = .input → f ∈ m.fields →
      (a.shapeItem m).default = some fields → (f.name, .zeroed) ∈ fields →
      Zeroes a (.type m.role.hasShape f.type)
  | lowering {m f} : m ∈ a.visibleLayouts → m.role = .input → f ∈ m.fields →
      (f.name, .initial .zeroed) ∈ (a.shapeItem m).lowering →
      Zeroes a (.type m.role.hasShape f.type)
  | error {w c m records} : w ∈ a.wrappers → w.exposed → a.records = .ok records →
      (a.nativeCall records w).error.isSome → a.library.config.errors = some c →
      a.layout? c.record = some m → Zeroes a (.layout m)
  | panic {w c m records} : w ∈ a.wrappers → w.exposed → a.records = .ok records →
      (a.nativeCall records w).panic.isSome → a.library.config.panics = some c →
      a.layout? c.record = some m → Zeroes a (.layout m)

def Zeroed (a : Analysis) (held : Stored) : Prop :=
  ∃ s, a.Zeroes s ∧ Relation.ReflTransGen a.Holds s held

/-- What keeps zero bits valid. Fields are looked at only where a default value is written, so
structs without one have to be free of bare references, and nothing looks at enums. -/
structure ZeroSafe (a : Analysis) : Prop where
  refs : ∀ {m f}, a.Zeroed (.layout m) → m.isVisible → m.default = .none → f ∈ m.fields →
    (a.spelled m.role.hasShape f.type).isBare = false
  enums : ∀ {shaped id e}, a.Zeroed (.type shaped id) → a.closedEnum? id = some e →
    ∃ v ∈ e.values, v.value = 0

/-- What is known of everything that is zeroed as long as no struct without a default value has a
bare reference. -/
def Checked (a : Analysis) : Stored → Prop
  | .layout m => m ∈ a.layouts
  | .type shaped id => (a.spelled shaped id).isBare = false

theorem mem_layouts_of_visible {a : Analysis} {m : Layout} (visible : m ∈ a.visibleLayouts) :
    m ∈ a.layouts := (List.mem_filter.1 visible).1

theorem mem_layouts_of_found {a : Analysis} {native : String} {m : Layout}
    (found : a.layout? native = some m) : m ∈ a.layouts := List.mem_of_find?_eq_some found

theorem mem_layouts_of_stored {a : Analysis} {shaped : Bool} {id : TypeId} {m : Layout}
    (stored : a.storedLayout? shaped id = some m) : m ∈ a.layouts := by
  simp only [storedLayout?] at stored
  split at stored
  next =>
    obtain ⟨base, _, found⟩ := Option.bind_eq_some_iff.1 stored
    exact mem_layouts_of_found found
  next => cases stored

/-- Without a default value of its own, a layout is lowered with standard values. -/
theorem not_zeroed_of_none {a : Analysis} {m : Layout} {name : String} (none : m.default = .none) :
    (name, .initial .zeroed) ∉ (a.shapeItem m).lowering := by
  intro member
  obtain ⟨⟨f, i⟩, inside, same⟩ := List.mem_map.1 member
  have standard : i ∈ m.fields.map fun _ => Initializer.standard := by
    simpa [initializers, none] using (List.of_mem_zip inside).2
  obtain ⟨_, _, rfl⟩ := List.mem_map.1 standard
  have source := (Prod.mk.inj same).2
  unfold fieldSource at source
  split at source
  next => cases source
  next => split at source <;> cases source

end Analysis

namespace Library

variable {lib : Library} {t : TypeTable} {a : Analysis}

theorem Analyzed.initializer? (analyzed : lib.Analyzed t a) {m : Layout} (member : m ∈ a.layouts)
    (given : m.default ≠ .none) {f : LayoutField} (inside : f ∈ m.fields) :
    ∃ i, lib.initializer? a.types m.role f.type = some i := by
  obtain ⟨_, s, _, _, _, mirrors⟩ := analyzed.mirrors member
  obtain ⟨i, found⟩ := initializer?_of_defaultImpl mirrors.default given inside
  exact ⟨i, by rwa [initializer?_reflag analyzed.reflagged]⟩

/-- A struct with a default value has no bare reference. -/
theorem Analyzed.not_isBare (analyzed : lib.Analyzed t a) {m : Layout} (member : m ∈ a.layouts)
    (given : m.default ≠ .none) {f : LayoutField} (inside : f ∈ m.fields) :
    (a.spelled m.role.hasShape f.type).isBare = false := by
  obtain ⟨i, found⟩ := analyzed.initializer? member given inside
  unfold Analysis.spelled
  split
  next => exact a.types.not_isBare_inputMember f.type
  next plain => exact not_isBare_member (by simpa using plain) found

/-- An array of what is no bare reference has none, and a typedef stands for none. -/
theorem Analyzed.not_isBare_item (analyzed : lib.Analyzed t a) {id inner : TypeId}
    (wrapper : (a.types.node id).isTransparent ∨ (a.types.node id).kind = .array)
    (link : (a.types.node id).inner = some inner) (sound : (a.types.member id).isBare = false) :
    (a.types.member inner).isBare = false := by
  have same := analyzed.reflagged
  have inside : id < t.size := analyzed.lt_size link
  rw [same.inner] at link
  rw [same.isTransparent, same.kind] at wrapper
  have earlier := analyzed.formed.inner_lt inside link
  obtain ⟨_, _, describes⟩ := analyzed.formed.described id inside
  have function := describes.isFunction_inner
    (by rcases wrapper with h | h <;> simp [Node.isWrapper, h]) link
  rw [TypeTable.member, same.isFunction, same.kind, same.inner, link] at sound
  split at sound
  next isFunction =>
    rw [TypeTable.member, same.isFunction, ← function, if_pos isFunction]
    exact a.types.not_isBare_native inner
  next =>
    simp only [Node.isTransparent, Bool.or_eq_true, decide_eq_true_eq] at wrapper
    rcases wrapper with (kind | kind) | kind <;> simpa [kind, earlier, Spelling.isBare] using sound

theorem Analyzed.checked_of_zeroes (analyzed : lib.Analyzed t a) {s : Stored}
    (zeroes : a.Zeroes s) : a.Checked s := by
  cases zeroes with
  | @default m f fields visible inside given =>
    refine analyzed.not_isBare (Analysis.mem_layouts_of_visible visible) (fun none => ?_) inside
    simp [Analysis.layoutItem, none] at given
  | @shape m f fields visible _ inside given =>
    refine analyzed.not_isBare (Analysis.mem_layouts_of_visible visible) (fun none => ?_) inside
    simp [Analysis.shapeItem, none] at given
  | @lowering m f visible _ inside zeroed =>
    refine analyzed.not_isBare (Analysis.mem_layouts_of_visible visible) (fun none => ?_) inside
    exact Analysis.not_zeroed_of_none none zeroed
  | error _ _ _ _ _ found => exact Analysis.mem_layouts_of_found found
  | panic _ _ _ _ _ found => exact Analysis.mem_layouts_of_found found

theorem Analyzed.checked_of_holds (analyzed : lib.Analyzed t a) {s held : Stored}
    (step : a.Holds s held) (checked : a.Checked s)
    (plain : ∀ m f, s = .layout m → m.isVisible → m.default = .none → f ∈ m.fields →
      (a.spelled m.role.hasShape f.type).isBare = false) : a.Checked held := by
  cases step with
  | @item shaped id inner wrapper link =>
    cases shaped with
    | true => exact a.types.not_isBare_inputMember inner
    | false => exact analyzed.not_isBare_item wrapper link checked
  | struct stored => exact Analysis.mem_layouts_of_stored stored
  | @field m f visible inside =>
    by_cases none : m.default = .none
    · exact plain m f rfl visible none inside
    · exact analyzed.not_isBare checked none inside

/-- Everything that the output starts from zero bits admits them if and only if no struct without
a default value inside it has a bare reference, and each closed enum inside it has a constant
zero. -/
theorem zeroes_admitted_iff (success : lib.analyze = .ok a) :
    (∀ s, a.Zeroes s → a.AdmitsZero s) ↔ a.ZeroSafe := by
  obtain ⟨t, analyzed⟩ := lib.analyzed success
  constructor
  · intro admitted
    refine ⟨fun {m f} ⟨s, zeroes, path⟩ visible _ inside => ?_,
      fun {shaped id e} ⟨s, zeroes, path⟩ closed => ?_⟩
    · by_contra bare
      exact admitted s zeroes _ (path.tail (.field visible inside)) (.ref (by simpa using bare))
    · by_contra missing
      refine admitted s zeroes _ path (.enum closed fun v member zero => ?_)
      exact missing ⟨v, member, zero⟩
  · intro safe s zeroes held path
    -- The path carries what is checked; a struct without a default value is where it would break.
    have checked : a.Checked held := by
      induction path with
      | refl => exact analyzed.checked_of_zeroes zeroes
      | tail path step ih =>
        refine analyzed.checked_of_holds step ih fun m f isLayout visible none inside => ?_
        subst isLayout
        exact safe.refs ⟨s, zeroes, path⟩ visible none inside
    intro hazard
    cases hazard with
    | ref bare => exact Bool.false_ne_true (checked.symm.trans bare)
    | enum closed missing =>
      obtain ⟨v, member, zero⟩ := safe.enums ⟨s, zeroes, path⟩ closed
      exact missing v member zero

def holderOptions : Library where
  description := {
    types := ⟨[("holder", { kind := .struct }),
      ("int", { kind := .primitive }),
      ("node", { kind := .struct }),
      ("node*", { kind := .pointer, inner := some "node" }),
      ("opts", { kind := .struct })], by decide⟩
    structs := ⟨[
      ("holder", {
        name := "holder"
        shortName := "holder"
        fields := [{ name := "target", type := "node*" }] }),
      ("node", {
        name := "node"
        shortName := "node"
        fields := [{ name := "x", type := "int" }] }),
      ("opts", {
        name := "opts"
        shortName := "opts"
        isPod := true
        fields := [{ name := "holder", type := "holder" }] })], by decide⟩
    declarations := [⟨.struct, "node"⟩, ⟨.struct, "holder"⟩, ⟨.struct, "opts"⟩] }
  config := { link := "x" }

/-- The default of the options is written, though zero bits are no reference. -/
theorem holder_not_zeroSafe : ∃ a, holderOptions.analyze = .ok a ∧
    (∃ s, a.Zeroes s ∧ ¬a.AdmitsZero s) ∧ ¬a.ZeroSafe := by
  have checked : (match holderOptions.analyze with
      | .ok a => a.visibleLayouts.any fun m => m.fields.any fun f =>
          (a.layoutItem m).default.any (·.contains (f.name, .zeroed)) &&
          (a.storedLayout? m.role.hasShape f.type).any fun held => held.isVisible &&
            held.fields.any fun g => (a.spelled held.role.hasShape g.type).isBare
      | .error _ => false) = true := by decide +kernel
  split at checked
  next a success =>
    simp only [List.any_eq_true, Bool.and_eq_true, Option.any_eq_true,
      List.contains_iff_mem] at checked
    obtain ⟨m, visible, f, inside, ⟨fields, given, zeroed⟩, held, stored, shown, g, member, bare⟩ :=
      checked
    have zeroes : a.Zeroes (.type m.role.hasShape f.type) := .default visible inside given zeroed
    have broken : ¬a.AdmitsZero (.type m.role.hasShape f.type) := fun admits =>
      admits _ ((Relation.ReflTransGen.single (.struct stored)).tail (.field shown member))
        (.ref bare)
    exact ⟨a, success, ⟨_, zeroes, broken⟩,
      fun safe => broken ((zeroes_admitted_iff success).2 safe _ zeroes)⟩
  next => cases checked

end Library

end Bindery
