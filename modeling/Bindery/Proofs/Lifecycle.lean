import Bindery.Proofs.Occurrence
import Bindery.Proofs.Ownership
import Bindery.Proofs.Termination
import Bindery.Proofs.Transparency

/-!
# Retaining and freeing

Which functions retain and free an allocated struct: the first of their kind that take a pointer to
it. That is read off the keys of a description, whatever types have been resolved before.
-/
namespace Bindery

open Typing

theorem Node.wrapping_base (n target : Node) (id : TypeId) : (n.wrapping id target).base =
    if n.isTransparent then target.base else n.base := by
  simp only [wrapping]
  split
  next transparent => exact (if_pos transparent).symm
  next opaqueNode => exact (if_neg opaqueNode).symm

namespace Library

variable {lib : Library} {t t' : TypeTable} {key native name : String} {id : TypeId}
  {f : FunctionDecl} {fs done rest : List FunctionDecl} {s : StructDecl} {r : Root}
  {roots roots' : List Root} {kind : FunctionKind} {what : Lifecycle} {e : Error}

/-! ### What a key is based on -/

/-- A key stands for the struct or enum of a name, perhaps behind typedefs and consts. -/
inductive Based (lib : Library) : String → String → Prop where
  | struct {key ty s} : lib.Composite key ty → ty.kind = .struct →
      lib.description.structs.find? (ty.baseName.getD key) = some s → Based lib key s.name
  | enum {key ty e} : lib.Composite key ty → ty.kind = .enum →
      lib.description.enums.find? (ty.baseName.getD key) = some e → Based lib key e.name
  | behind {key ty inner native} : lib.Composite key ty → ty.kind = .typedef ∨ ty.kind = .const →
      ty.inner = some inner → Based lib inner native → Based lib key native

theorem Composite.unique {ty ty' : TypeDecl} (composite : lib.Composite key ty)
    (composite' : lib.Composite key ty') : ty = ty' :=
  Option.some.inj (composite.1.symm.trans composite'.1)

/-- What the entry of a key says of its base. -/
theorem based_iff {ty : TypeDecl} (composite : lib.Composite key ty) : lib.Based key native ↔
    (ty.kind = .struct ∧
      ∃ s, lib.description.structs.find? (ty.baseName.getD key) = some s ∧ s.name = native) ∨
    (ty.kind = .enum ∧
      ∃ e, lib.description.enums.find? (ty.baseName.getD key) = some e ∧ e.name = native) ∨
    (ty.kind = .typedef ∨ ty.kind = .const) ∧
      ∃ inner, ty.inner = some inner ∧ lib.Based inner native := by
  constructor
  · intro based
    cases based with
    | struct composite' kind found =>
      obtain rfl := composite'.unique composite
      exact .inl ⟨kind, _, found, rfl⟩
    | enum composite' kind found =>
      obtain rfl := composite'.unique composite
      exact .inr (.inl ⟨kind, _, found, rfl⟩)
    | behind composite' kind link below =>
      obtain rfl := composite'.unique composite
      exact .inr (.inr ⟨kind, _, link, below⟩)
  · rintro (⟨kind, s, found, rfl⟩ | ⟨kind, e, found, rfl⟩ | ⟨kind, inner, link, below⟩)
    · exact .struct composite kind found
    · exact .enum composite kind found
    · exact .behind composite kind link below

theorem not_based_of_primitive (primitive : lib.primitive? key = some name) :
    ¬lib.Based key native := by
  intro based
  cases based with
  | struct composite | enum composite | behind composite =>
    cases primitive.symm.trans composite.2

theorem listNode_base (n : Node) (t : TypeTable) (pointee : TypeId) :
    (listNode n t pointee).base = n.base := by
  simp only [listNode]
  split <;> rfl

/-- The base of a node is what its key is based on. -/
theorem Built.base_eq_some_iff (built : lib.Built t) (found : t.find? key = some id) :
    (t.node id).base = some native ↔ lib.Based key native := by
  induction id using Nat.strongRecOn generalizing key with
  | _ id ih =>
    obtain ⟨p, ids, drawn, refs, finished⟩ := built.drawn_of_find? found
    cases draws_of_blueprint drawn with
    | primitive known primitive =>
      have none : ¬lib.Based key native := not_based_of_primitive primitive
      simp [← Except.ok.inj finished, TypeDecl.plain, none]
    | @wrapper ty inner composite kind link =>
      obtain ⟨ref, earlier, there, made⟩ := built.wrapper found composite kind link
      rw [based_iff composite]
      rw [made, Node.wrapping_base]
      simp only [List.mem_cons, List.not_mem_nil, or_false] at kind
      rcases kind with kind | kind | kind | kind <;>
        simp [Node.isTransparent, TypeDecl.plain, kind, link, ih ref earlier there]
    | function composite kind =>
      rw [based_iff composite]
      simp [← Except.ok.inj finished, TypeDecl.plain, kind]
    | struct composite kind found =>
      rw [based_iff composite]
      simp [← Except.ok.inj finished, structNode, kind, found]
    | list composite kind found =>
      obtain ⟨pointee, _, made⟩ := Blueprint.finish_list finished
      rw [based_iff composite, made, listNode_base]
      simp [structNode, kind, found]
    | enum composite kind found =>
      rw [based_iff composite]
      simp [← Except.ok.inj finished, kind, found]

/-! ### Searching -/

def Targets (lib : Library) (native : String) (f : FunctionDecl) : Prop :=
  ∃ first rest target, f.args = first :: rest ∧ lib.PointerTo first.type target ∧
    lib.Based target native

/-- The first function of its kind, in the order of the table, that takes a pointer to the
struct. -/
def Keeper (lib : Library) (kind : FunctionKind) (native : String) (f : FunctionDecl) : Prop :=
  IsFirst (lib.Targets native) (lib.description.functions.values.filter (·.kind = kind)) f

theorem Raised.resolved (raised : lib.Raised t) (run : on (lib.resolve key) t = (.ok id, t')) :
    lib.Raised t' ∧ t'.find? key = some id := by
  have ⟨after, _⟩ := lib.resolve_raised key t raised
  obtain ⟨bare, built, same⟩ := raised
  obtain ⟨alike, reflagged⟩ := lib.resolveIn_blind [] key bare t same
  rw [run] at after
  rw [← Library.resolve, run] at alike reflagged
  rcases run' : on (lib.resolve key) bare with ⟨r, bare'⟩
  rw [run'] at alike reflagged
  obtain rfl : .ok id = r := alike
  rw [reflagged.find?]
  exact ⟨after, (lib.resolveIn_waiting []).finds built.waiting run'⟩

/-- Where a type points is read off its key. -/
theorem Raised.pointee_base_iff (raised : lib.Raised t) (found : t.find? key = some id) :
    ((t.pointee id).any fun p => (t.target p).base = some native) ↔
      ∃ target, lib.PointerTo key target ∧ lib.Based target native := by
  obtain ⟨bare, built, same⟩ := raised
  have base (p : TypeId) : (t.target p).base = (bare.node p).base := by
    rw [same.target]
    exact congrArg Meaning.base (built.toFormed.meaning_strip p)
  rw [same.find?] at found
  simp only [same.pointee, base, Option.any_eq_true, decide_eq_true_eq]
  constructor
  · rintro ⟨p, points, based⟩
    obtain ⟨target, pointer, there⟩ := built.pointerTo found points
    exact ⟨target, pointer, (built.base_eq_some_iff there).1 based⟩
  · rintro ⟨target, pointer, based⟩
    obtain ⟨p, points, there⟩ := pointer.find? built found
    exact ⟨p, points, (built.base_eq_some_iff there).2 based⟩

theorem Raised.pointsTo {found : Bool} (raised : lib.Raised t)
    (run : on (lib.pointsTo f native) t = (.ok found, t')) :
    lib.Raised t' ∧ (found ↔ lib.Targets native f) := by
  unfold Library.pointsTo at run
  split at run
  next none =>
    cases run
    exact ⟨raised, by simp [Targets, none]⟩
  next first rest args =>
    obtain ⟨type, between, resolved, run⟩ := on_bind_eq_ok.1 run
    rw [on_get_bind] at run
    cases run
    obtain ⟨after, there⟩ := raised.resolved resolved
    refine ⟨after, (after.pointee_base_iff there).trans ?_⟩
    simp [Targets, args]

/-- The search ends at the first function that takes a pointer to the struct. -/
theorem Raised.firstPointingTo {result : Option String} (raised : lib.Raised t)
    (run : on (lib.firstPointingTo native fs) t = (.ok result, t')) :
    lib.Raised t' ∧ (result = none ∧ (∀ f ∈ fs, ¬lib.Targets native f) ∨
      ∃ f, result = some f.name ∧ IsFirst (lib.Targets native) fs f) := by
  induction fs generalizing t with
  | nil =>
    cases run
    exact ⟨raised, .inl ⟨rfl, nofun⟩⟩
  | cons f rest ih =>
    rw [Library.firstPointingTo] at run
    obtain ⟨found, between, here, run⟩ := on_bind_eq_ok.1 run
    obtain ⟨stands, targets⟩ := raised.pointsTo here
    cases found with
    | true =>
      cases run
      exact ⟨stands, .inr ⟨f, rfl, isFirst_cons_of_pos (targets.1 rfl)⟩⟩
    | false =>
      have misses : ¬lib.Targets native f := fun holds => Bool.false_ne_true (targets.2 holds)
      obtain ⟨after, ⟨none, others⟩ | ⟨g, found, first⟩⟩ := ih stands run
      · exact ⟨after, .inl ⟨none, List.forall_mem_cons.2 ⟨misses, others⟩⟩⟩
      · exact ⟨after, .inr ⟨g, found, first.cons_of_neg misses⟩⟩

theorem Raised.lifecycle (raised : lib.Raised t)
    (run : on (lib.lifecycle s kind what) t = (.ok name, t')) :
    lib.Raised t' ∧ ∃ f, name = f.name ∧ lib.Keeper kind s.name f := by
  unfold Library.lifecycle at run
  obtain ⟨result, between, searched, run⟩ := on_bind_eq_ok.1 run
  obtain ⟨after, ⟨none, _⟩ | ⟨f, found, first⟩⟩ := raised.firstPointingTo searched
  · subst none
    cases run
  · subst found
    cases run
    exact ⟨after, f, rfl, first⟩

/-! ### What can go wrong -/

def ResolveFault (e : Error) : Prop := EntryFault e ∨ ∃ key, e = .cyclicType key

theorem resolveIn_fault (lib : Library) (active : List String) :
    ∀ {key t e}, (on (lib.resolveIn active key) t).1 = .error e → ResolveFault e := by
  induction active using waiting_induction lib with
  | _ active ih =>
    intro key t e failed
    obtain ⟨_, visit⟩ := lib.visit_of_error failed
    cases visit with
    | waits => exact .inr ⟨key, rfl⟩
    | unfit _ _ unfit => exact .inl (entryFault_of_blueprint unfit)
    | unfinished _ _ _ _ failed => exact .inl (entryFault_of_finish failed)
    | @stuck p _ _ _ fresh drawn refs =>
      obtain ⟨other, _, between, -, failed⟩ := on_mapM_eq_error (P := fun _ => True)
        (fun _ _ _ => trivial) trivial (congrArg Prod.fst refs)
      exact ih key p fresh drawn failed

theorem firstPointingTo_fault (failed : (on (lib.firstPointingTo native fs) t).1 = .error e) :
    ResolveFault e := by
  induction fs generalizing t with
  | nil => cases failed
  | cons f rest ih =>
    rw [firstPointingTo, on_bind_eq_error] at failed
    rcases failed with here | ⟨found, between, -, later⟩
    · unfold pointsTo at here
      split at here
      · cases here
      · rcases on_bind_eq_error.1 here with resolving | ⟨_, _, -, none⟩
        · exact lib.resolveIn_fault [] resolving
        · cases none
    · cases found with
      | true => cases later
      | false => exact ih later

def Lacks (lib : Library) (kind : FunctionKind) (native : String) : Prop :=
  ∀ f ∈ lib.description.functions.values, f.kind = kind → ¬lib.Targets native f

theorem Raised.lifecycle_error (raised : lib.Raised t)
    (failed : (on (lib.lifecycle s kind what) t).1 = .error e) :
    ResolveFault e ∨ e = .missingLifecycle s.name what ∧ lib.Lacks kind s.name := by
  unfold Library.lifecycle at failed
  rcases on_bind_eq_error.1 failed with searching | ⟨result, between, searched, missing⟩
  · exact .inl (firstPointingTo_fault searching)
  · obtain ⟨_, ⟨none, others⟩ | ⟨f, found, _⟩⟩ := raised.firstPointingTo searched
    · subst none
      cases missing
      refine .inr ⟨rfl, fun f member ofKind => others f ?_⟩
      exact List.mem_filter.2 ⟨member, decide_eq_true ofKind⟩
    · subst found
      cases missing

/-- Of the roots only those of structs that cannot be kept fail for it. -/
theorem Raised.root_error (raised : lib.Raised t)
    (failed : (on (lib.root s) t).1 = .error (.missingLifecycle name what)) :
    name = s.name ∧
      (what = .retain ∧ lib.Lacks .retain name ∨ what = .free ∧ lib.Lacks .free name) := by
  have faultless : ¬ResolveFault (.missingLifecycle name what) := by
    rintro (⟨⟨⟩⟩ | ⟨_, ⟨⟩⟩)
  unfold Library.root at failed
  rcases on_bind_eq_error.1 failed with here | ⟨_, between, retains, failed⟩
  · obtain fault | ⟨same, lacks⟩ := raised.lifecycle_error here
    · exact absurd fault faultless
    · cases same
      exact ⟨rfl, .inl ⟨rfl, lacks⟩⟩
  · have ⟨stands, _⟩ := raised.lifecycle retains
    rcases on_bind_eq_error.1 failed with here | ⟨_, _, -, failed⟩
    · obtain fault | ⟨same, lacks⟩ := stands.lifecycle_error here
      · exact absurd fault faultless
      · cases same
        exact ⟨rfl, .inr ⟨rfl, lacks⟩⟩
    · rcases on_bind_eq_error.1 failed with resolving | ⟨_, _, -, none⟩
      · exact absurd (lib.resolveIn_fault [] resolving) faultless
      · cases none

/-! ### Roots -/

def allocates (lib : Library) (f : FunctionDecl) : Option String :=
  (f.allocType.bind lib.description.allocated?).map (·.name)

structure Kept (lib : Library) (r : Root) : Prop where
  retain : ∃ f, r.retain = f.name ∧ lib.Keeper .retain r.native f
  free : ∃ f, r.free = f.name ∧ lib.Keeper .free r.native f

/-- The roots of some functions: one for each struct that they allocate, in the order in which they
do so first. -/
structure Allotted (lib : Library) (done : List FunctionDecl) (roots : List Root) : Prop where
  each : EachOnce (done.filterMap lib.allocates) (roots.map (·.native))
  kept : ∀ r ∈ roots, lib.Kept r

theorem allotted_nil (lib : Library) : lib.Allotted [] [] := ⟨.nil, nofun⟩

theorem Raised.root (raised : lib.Raised t) (run : on (lib.root s) t = (.ok r, t')) :
    lib.Kept r := by
  unfold Library.root at run
  obtain ⟨retain, between, retains, run⟩ := on_bind_eq_ok.1 run
  obtain ⟨free, after, frees, run⟩ := on_bind_eq_ok.1 run
  obtain ⟨_, _, _, run⟩ := on_bind_eq_ok.1 run
  cases run
  have ⟨stands, f, named, keeper⟩ := raised.lifecycle retains
  have ⟨_, g, named', keeper'⟩ := stands.lifecycle frees
  exact ⟨⟨f, named, keeper⟩, ⟨g, named', keeper'⟩⟩

/-- A function adds a root exactly if it is the first to allocate its struct. -/
theorem Allotted.addRoot (allotted : lib.Allotted done roots) (raised : lib.Raised t)
    (run : on (lib.addRoot roots f) t = (.ok roots', t')) :
    lib.Allotted (done ++ [f]) roots' := by
  obtain ⟨alloc, rfl⟩ | ⟨name, s, alloc, found, present⟩ := addRoot_cases run
  · have none : lib.allocates f = none := by simp [allocates, alloc]
    refine ⟨?_, allotted.kept⟩
    rw [List.filterMap_append, List.filterMap_cons_none none, List.filterMap_nil, List.append_nil]
    exact allotted.each
  · have some : lib.allocates f = some s.name := by simp [allocates, alloc, found]
    have more : (done ++ [f]).filterMap lib.allocates =
        done.filterMap lib.allocates ++ [s.name] := by
      rw [List.filterMap_append, List.filterMap_cons_some some, List.filterMap_nil]
    obtain ⟨⟨r, member, native⟩, rfl⟩ | ⟨absent, r, made, rfl⟩ := present
    · refine ⟨?_, allotted.kept⟩
      rw [more]
      exact allotted.each.concat_of_mem (List.mem_map.2 ⟨r, member, native⟩)
    · refine ⟨?_, List.forall_mem_append.2
        ⟨allotted.kept, List.forall_mem_singleton.2 (raised.root made)⟩⟩
      rw [more, List.map_append, List.map_singleton, (root_made made).1]
      refine allotted.each.concat_of_not_mem fun inside => ?_
      obtain ⟨other, member, native⟩ := List.mem_map.1 inside
      exact absent other member native

theorem Raised.addRoot (raised : lib.Raised t) (roots : List Root) (f : FunctionDecl) :
    lib.Raised (on (lib.addRoot roots f) t).2 :=
  (addRoot_keeps lib.resolve_raised roots f t raised).1

theorem Allotted.addRoots (allotted : lib.Allotted done roots) (raised : lib.Raised t)
    (run : on (rest.foldlM lib.addRoot roots) t = (.ok roots', t')) :
    lib.Allotted (done ++ rest) roots' := by
  induction rest generalizing done roots t with
  | nil =>
    cases run
    rwa [List.append_nil]
  | cons f rest ih =>
    rw [List.foldlM_cons] at run
    obtain ⟨between, after, first, later⟩ := on_bind_eq_ok.1 run
    have stands := raised.addRoot roots f
    rw [first] at stands
    rw [List.append_cons]
    exact ih (allotted.addRoot raised first) stands later

/-- A function without a root that is to have one allocates a struct that cannot be kept. -/
theorem Raised.addRoot_error (raised : lib.Raised t)
    (failed : (on (lib.addRoot roots f) t).1 = .error (.missingLifecycle name what)) :
    lib.allocates f = some name ∧
      (what = .retain ∧ lib.Lacks .retain name ∨ what = .free ∧ lib.Lacks .free name) := by
  unfold Library.addRoot at failed
  split at failed
  next => cases failed
  next alloc =>
    split at failed
    next => cases failed
    next s found =>
      split at failed
      next => cases failed
      next =>
        rcases on_bind_eq_error.1 failed with making | ⟨_, _, -, none⟩
        · obtain ⟨rfl, lacks⟩ := raised.root_error making
          exact ⟨by simp [allocates, alloc, found], lacks⟩
        · cases none

theorem Raised.addRoots_error (raised : lib.Raised t)
    (failed : (on (fs.foldlM lib.addRoot roots) t).1 = .error (.missingLifecycle name what)) :
    name ∈ fs.filterMap lib.allocates ∧
      (what = .retain ∧ lib.Lacks .retain name ∨ what = .free ∧ lib.Lacks .free name) := by
  induction fs generalizing roots t with
  | nil => cases failed
  | cons f rest ih =>
    rw [List.foldlM_cons] at failed
    rcases on_bind_eq_error.1 failed with here | ⟨between, after, first, later⟩
    · obtain ⟨allocates, lacks⟩ := raised.addRoot_error here
      exact ⟨List.mem_filterMap.2 ⟨f, List.mem_cons_self, allocates⟩, lacks⟩
    · have stands := raised.addRoot roots f
      rw [first] at stands
      obtain ⟨member, lacks⟩ := ih stands later
      obtain ⟨g, inside, allocates⟩ := List.mem_filterMap.1 member
      exact ⟨List.mem_filterMap.2 ⟨g, List.mem_cons_of_mem f inside, allocates⟩, lacks⟩

/-- Whatever types have been resolved before, the roots that are found are those of the structs that
declared functions allocate, each once, in the order of the first function that allocates it; each
is retained and freed by the first function of that kind that takes a pointer to its struct. A
lifecycle is missing only for a struct that is allocated so and that no function of that kind takes
a pointer to. -/
theorem roots_eachOnce (reached : lib.Reached t) :
    (∀ roots t', on lib.roots t = (.ok roots, t') →
      EachOnce (lib.declaredFunctions.filterMap lib.allocates) (roots.map (·.native)) ∧
      (∀ f ∈ lib.declaredFunctions, f.allocType ≠ none → lib.allocates f ≠ none) ∧
      ∀ r ∈ roots, lib.Kept r) ∧
    ∀ name what, (on lib.roots t).1 = .error (.missingLifecycle name what) →
      name ∈ lib.declaredFunctions.filterMap lib.allocates ∧
        (what = .retain ∧ lib.Lacks .retain name ∨ what = .free ∧ lib.Lacks .free name) := by
  have raised := reached.raised
  refine ⟨fun roots t' run => ?_, fun name what failed => raised.addRoots_error failed⟩
  have allotted := lib.allotted_nil.addRoots raised run
  refine ⟨allotted.each, fun f member some none => ?_, allotted.kept⟩
  obtain ⟨name, alloc⟩ := Option.ne_none_iff_exists'.1 some
  obtain ⟨s, found, _⟩ := (collected run).covers f member name alloc
  simp [allocates, alloc, found] at none

def keptScenes : Library where
  description := {
    types := ⟨[("cache", { kind := .struct }),
      ("cache*", { kind := .pointer, inner := some "cache" }),
      ("scene", { kind := .struct }),
      ("scene*", { kind := .pointer, inner := some "scene" }),
      ("scene_ref", { kind := .typedef, inner := some "scene*" })], by decide⟩
    structs := ⟨[("cache", { name := "cache", shortName := "cache" }),
      ("scene", { name := "scene", shortName := "scene" })], by decide⟩
    functions := ⟨[
      ("free_cache", keeping "free_cache" .free "cache*"),
      ("free_scene", keeping "free_scene" .free "scene_ref"),
      ("load_scene", opening "load_scene" "scene"),
      ("open_cache", opening "open_cache" "cache"),
      ("open_scene", { opening "open_scene" "scene" with allocType := some "Scene" }),
      ("retain_cache", keeping "retain_cache" .retain "cache*"),
      ("retain_scene", keeping "retain_scene" .retain "scene_ref"),
      ("retain_scene_again", keeping "retain_scene_again" .retain "scene*")], by decide⟩
    declarations := [⟨.function, "open_scene"⟩, ⟨.function, "open_cache"⟩,
      ⟨.function, "load_scene"⟩] }
  config := { link := "scenes" }

theorem keptScenes_roots : keptScenes.Reached {} ∧
    ∃ roots t, on keptScenes.roots {} = (.ok roots, t) ∧
      EachOnce (keptScenes.declaredFunctions.filterMap keptScenes.allocates)
        (roots.map (·.native)) ∧
      (∀ r ∈ roots, keptScenes.Kept r) ∧
      roots.map (fun r => (r.native, r.retain, r.free)) =
        [("scene", "retain_scene", "free_scene"), ("cache", "retain_cache", "free_cache")] := by
  have checked : (match on keptScenes.roots {} with
      | (.ok roots, _) => decide (roots.map (fun r => (r.native, r.retain, r.free)) =
          [("scene", "retain_scene", "free_scene"), ("cache", "retain_cache", "free_cache")])
      | (.error _, _) => false) = true := by decide +kernel
  split at checked
  next roots t run =>
    obtain ⟨each, _, kept⟩ := (roots_eachOnce .new).1 roots t run
    exact ⟨.new, roots, t, run, each, kept, of_decide_eq_true checked⟩
  next => cases checked

end Library

end Bindery
