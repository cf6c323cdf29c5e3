import Bindery.Proofs.Layout
import Bindery.Proofs.Linkage
import Bindery.Proofs.Redeclaration

/-!
# The order of declarations

Two libraries that declare the same in another order come to the same analysis up to order: edges
are followed wherever they stand in their list, and one root is made for a struct whichever function
asks for it first. Only which of several roots by one name comes first can differ.
-/
namespace Bindery

open Typing

/-! ### Edges in any order -/

namespace TypeTable

variable {edges edges' : Edges}

theorem visit_perm (raw : edges'.raw.Perm edges.raw) (safe : edges'.safe.Perm edges.safe) :
    visit edges' = visit edges := by
  funext ⟨t, changed⟩ id
  have targets {es es' : List (TypeId × TypeId)} (perm : es'.Perm es) :
      (Edges.targets es' id).Perm (Edges.targets es id) := (perm.filter _).map _
  have rawSources : (t.rawSources edges' id).Perm (t.rawSources edges id) := by
    simp only [TypeTable.rawSources]
    cases (t.node id).kind
    case struct => exact targets raw
    all_goals exact .refl _
  have safeSources : (t.safeSources edges' id).Perm (t.safeSources edges id) := by
    simp only [TypeTable.safeSources]
    cases (t.node id).kind
    case struct => exact targets safe
    all_goals exact .refl _
  simp only [visit, rawSources.any_eq, safeSources.any_eq]

theorem propagate_perm (raw : edges'.raw.Perm edges.raw) (safe : edges'.safe.Perm edges.safe)
    (t : TypeTable) : t.propagate edges' = t.propagate edges := by
  have sweep (t : TypeTable) : t.sweep edges' = t.sweep edges := by
    rw [TypeTable.sweep, visit_perm raw safe, TypeTable.sweep]
  have settle (budget : Nat) (t : TypeTable) : settle edges' budget t = settle edges budget t := by
    induction budget generalizing t with
    | zero => rfl
    | succ budget ih => simp only [TypeTable.settle, sweep, ih]
  exact settle _ t

end TypeTable

theorem Edges.ofLayouts_perm {layouts layouts' : List Layout} (perm : layouts'.Perm layouts)
    (t : TypeTable) : (ofLayouts t layouts').raw.Perm (ofLayouts t layouts).raw ∧
      (ofLayouts t layouts').safe.Perm (ofLayouts t layouts).safe :=
  ⟨(perm.flatMap_right _).append_right _, perm.flatMap_right _⟩

/-! ### Roots in any order -/

namespace Library

variable {lib : Library} {t t' : TypeTable} {f : FunctionDecl} {r : Root}
  {roots roots' : List Root} {done rest : List FunctionDecl}

def Yields (lib : Library) (t : TypeTable) (f : FunctionDecl) (r : Root) : Prop :=
  ∃ name s, f.allocType = some name ∧ lib.description.allocated? name = some s ∧
    on (lib.root s) t = (.ok r, t)

def Rootable (lib : Library) (t : TypeTable) (f : FunctionDecl) : Prop :=
  f.allocType = none ∨ ∃ r, lib.Yields t f r

theorem Yields.unique {r' : Root} (yields : lib.Yields t f r) (yields' : lib.Yields t f r') :
    r' = r := by
  obtain ⟨name, s, alloc, found, made⟩ := yields
  obtain ⟨name', s', alloc', found', made'⟩ := yields'
  obtain rfl := Option.some.inj (alloc.symm.trans alloc')
  obtain rfl := Option.some.inj (found.symm.trans found')
  rw [made] at made'
  cases made'
  rfl

def Gathers (lib : Library) (t : TypeTable) (done : List FunctionDecl) (roots : List Root) : Prop :=
  ∀ r, r ∈ roots ↔ ∃ f ∈ done, lib.Yields t f r

/-- A root by the name of a struct is the root of that struct. -/
theorem Gathers.yields_of_native (gathers : lib.Gathers t done roots)
    (keyed : lib.description.Keyed) (member : r ∈ roots) {name : String} {s : StructDecl}
    (alloc : f.allocType = some name) (found : lib.description.allocated? name = some s)
    (native : r.native = s.name) : lib.Yields t f r := by
  obtain ⟨f', _, name', s', _, found', made⟩ := (gathers r).1 member
  obtain ⟨key, known⟩ := Description.described_of_allocated found
  obtain ⟨key', known'⟩ := Description.described_of_allocated found'
  obtain rfl := keyed.eq_of_name known' known ((root_made made).1.symm.trans native)
  exact ⟨name, s', alloc, found, made⟩

theorem Gathers.concat (gathers : lib.Gathers t done roots)
    (yielded : ∀ r, lib.Yields t f r → r ∈ roots) : lib.Gathers t (done ++ [f]) roots := by
  intro r
  simp only [List.mem_append, List.mem_singleton, or_and_right, exists_or, exists_eq_left,
    ← gathers r]
  exact (or_iff_left_of_imp (yielded r)).symm

/-- One function more. -/
theorem Gathers.addRoot (gathers : lib.Gathers t done roots) (keyed : lib.description.Keyed)
    (complete : lib.Complete t) (run : on (lib.addRoot roots f) t = (.ok roots', t')) :
    t' = t ∧ lib.Rootable t f ∧ lib.Gathers t (done ++ [f]) roots' := by
  have same := addRoot_keeps lib.resolve_unmoved roots f t complete
  rw [run] at same
  obtain rfl : t' = t := same
  refine ⟨rfl, ?_⟩
  obtain ⟨alloc, rfl⟩ |
    ⟨name, s, alloc, found, ⟨⟨r, member, native⟩, rfl⟩ | ⟨absent, r, made, rfl⟩⟩ :=
    addRoot_cases run
  · refine ⟨.inl alloc, gathers.concat ?_⟩
    rintro r ⟨name, s, alloc', _⟩
    rw [alloc] at alloc'
    cases alloc'
  · have yields := gathers.yields_of_native keyed member alloc found native
    refine ⟨.inr ⟨r, yields⟩, gathers.concat fun r' yields' => ?_⟩
    rwa [yields.unique yields']
  · have yields : lib.Yields t' f r := ⟨name, s, alloc, found, made⟩
    refine ⟨.inr ⟨r, yields⟩, fun r' => ?_⟩
    have yields_iff : lib.Yields t' f r' ↔ r' = r :=
      ⟨yields.unique, fun same => same ▸ yields⟩
    simp only [List.mem_append, List.mem_singleton, or_and_right, exists_or, exists_eq_left,
      ← gathers r', yields_iff]

theorem Gathers.addRoots (gathers : lib.Gathers t done roots) (keyed : lib.description.Keyed)
    (complete : lib.Complete t) (run : on (rest.foldlM lib.addRoot roots) t = (.ok roots', t')) :
    (∀ f ∈ rest, lib.Rootable t f) ∧ lib.Gathers t (done ++ rest) roots' := by
  induction rest generalizing done roots with
  | nil =>
    cases run
    exact ⟨by simp, by simpa using gathers⟩
  | cons f rest ih =>
    rw [List.foldlM_cons] at run
    obtain ⟨between, _, first, later⟩ := on_bind_eq_ok.1 run
    obtain ⟨rfl, rootable, here⟩ := gathers.addRoot keyed complete first
    have ⟨others, all⟩ := ih here later
    exact ⟨List.forall_mem_cons.2 ⟨rootable, others⟩, by simpa using all⟩

theorem Rootable.addRoot (rootable : lib.Rootable t f) (roots : List Root) :
    ∃ roots', on (lib.addRoot roots f) t = (.ok roots', t) := by
  unfold Library.addRoot
  obtain none | ⟨r, name, s, alloc, found, made⟩ := rootable
  · rw [none]
    exact ⟨roots, rfl⟩
  · rw [alloc]
    dsimp only
    rw [found]
    dsimp only
    split
    next => exact ⟨roots, rfl⟩
    next => exact ⟨roots ++ [r], on_bind_eq_ok.2 ⟨r, t, made, rfl⟩⟩

theorem foldlM_addRoot (rootable : ∀ f ∈ rest, lib.Rootable t f) (roots : List Root) :
    ∃ roots', on (rest.foldlM lib.addRoot roots) t = (.ok roots', t) := by
  induction rest generalizing roots with
  | nil => exact ⟨roots, rfl⟩
  | cons f rest ih =>
    have ⟨here, others⟩ := List.forall_mem_cons.1 rootable
    obtain ⟨between, first⟩ := here.addRoot roots
    obtain ⟨roots', later⟩ := ih others between
    rw [List.foldlM_cons]
    exact ⟨roots', on_bind_eq_ok.2 ⟨between, t, first, later⟩⟩

/-- The roots of functions in another order are the same ones. -/
theorem roots_perm {fs fs' : List FunctionDecl} (keyed : lib.description.Keyed)
    (complete : lib.Complete t) (perm : fs'.Perm fs)
    (run : on (fs.foldlM lib.addRoot []) t = (.ok roots, t)) :
    ∃ roots', on (fs'.foldlM lib.addRoot []) t = (.ok roots', t) ∧ roots'.Perm roots := by
  have none : lib.Gathers t [] [] := by simp [Gathers]
  have ⟨rootable, gathers⟩ := none.addRoots keyed complete run
  obtain ⟨roots', run'⟩ := foldlM_addRoot (fun f member => rootable f (perm.mem_iff.1 member)) []
  have ⟨_, gathers'⟩ := none.addRoots keyed complete run'
  have nodup {fs : List FunctionDecl} {roots : List Root}
      (run : on (fs.foldlM lib.addRoot []) t = (.ok roots, t)) : roots.Nodup :=
    (lib.collected_nil.addRoots run).distinct.of_map
  refine ⟨roots', run', (List.perm_ext_iff_of_nodup (nodup run') (nodup run)).2 fun r => ?_⟩
  rw [gathers', gathers]
  simp only [List.nil_append, perm.mem_iff]

/-! ### Functions with roots in any order -/

end Library

def ReturnShape.unnamed : ReturnShape → ReturnShape
  | .root _ => .root ""
  | shape => shape

/-- A wrapper up to the name of the handle that it hands out. -/
def Wrapper.unnamed (w : Wrapper) : Wrapper := { w with returnShape := w.returnShape.unnamed }

namespace Library

variable {lib : Library} {t t' : TypeTable} {f : FunctionDecl} {w : Wrapper}
  {roots roots' : List Root}

/-- With other roots a function returns the same up to the name of the handle, if there is a root
for it. -/
theorem returnShape_roots {result : TypeId} {shape : ReturnShape}
    (rooted : ∀ name, f.allocType = some name → ∃ r ∈ roots', r.isAllocatedAs name)
    (given : returnShape t roots f result = .ok shape) :
    ∃ shape', returnShape t roots' f result = .ok shape' ∧ shape'.unnamed = shape.unnamed := by
  unfold returnShape at given ⊢
  split at given
  next name alloc =>
    obtain ⟨r, member, allocated⟩ := rooted name alloc
    obtain ⟨r', found⟩ := Option.isSome_iff_exists.1
      (List.find?_isSome.2 ⟨r, member, allocated⟩ : (roots'.find? (·.isAllocatedAs name)).isSome)
    split at given
    next r'' found' =>
      cases given
      exact ⟨.root r'.handle, by simp only [found], rfl⟩
    next => cases given
  next => exact ⟨shape, given, rfl⟩

theorem wrapper_roots
    (rooted : ∀ name, f.allocType = some name → ∃ r ∈ roots', r.isAllocatedAs name)
    (run : on (lib.wrapper roots f) t = (.ok w, t')) :
    ∃ w', on (lib.wrapper roots' f) t = (.ok w', t') ∧ w'.unnamed = w.unnamed := by
  unfold wrapper at run ⊢
  obtain ⟨args, between, read, run⟩ := on_bind_eq_ok.1 run
  obtain ⟨result, last, resolved, run⟩ := on_bind_eq_ok.1 run
  rw [on_get_bind] at run
  obtain ⟨shape, shaped, run⟩ := on_liftOutcome_bind_eq_ok.1 run
  obtain ⟨shape', shaped', same⟩ := returnShape_roots rooted shaped
  dsimp only at run
  refine ⟨{ w with returnShape := shape' }, ?_, ?_⟩
  · refine on_bind_eq_ok.2 ⟨args, between, read, on_bind_eq_ok.2 ⟨result, last, resolved, ?_⟩⟩
    rw [on_get_bind]
    refine on_liftOutcome_bind_eq_ok.2 ⟨shape', shaped', ?_⟩
    dsimp only
    split at run
    next exposed =>
      obtain ⟨method, promoted, run⟩ := on_liftOutcome_bind_eq_ok.1 run
      cases run
      rw [if_pos exposed]
      exact on_liftOutcome_bind_eq_ok.2 ⟨method, promoted, rfl⟩
    next hidden =>
      cases run
      rw [if_neg hidden]
      rfl
  · split at run
    next =>
      obtain ⟨method, _, run⟩ := on_liftOutcome_bind_eq_ok.1 run
      cases run
      simp only [Wrapper.unnamed, same]
    next =>
      cases run
      simp only [Wrapper.unnamed, same]

/-- Wrappers made with other roots are the same up to the names of handles. -/
theorem wrappers_roots {fs : List FunctionDecl} {ws : List Wrapper}
    (rooted : ∀ f ∈ fs, ∀ name, f.allocType = some name → ∃ r ∈ roots', r.isAllocatedAs name)
    (each : List.Forall₂ (fun f w => on (lib.wrapper roots f) t = (.ok w, t)) fs ws) :
    ∃ ws', List.Forall₂ (fun f w => on (lib.wrapper roots' f) t = (.ok w, t)) fs ws' ∧
      ws'.map Wrapper.unnamed = ws.map Wrapper.unnamed := by
  induction each with
  | nil => exact ⟨[], .nil, rfl⟩
  | cons first _ ih =>
    have ⟨here, others⟩ := List.forall_mem_cons.1 rooted
    obtain ⟨w', run, same⟩ := wrapper_roots here first
    obtain ⟨ws', each, all⟩ := ih others
    exact ⟨w' :: ws', .cons run each, by rw [List.map_cons, same, all, List.map_cons]⟩

end Library

/-! ### Analyses -/

structure Description.Named (d : Description) : Prop where
  structs : d.Keyed
  enums : ∀ key e, d.enums.find? key = some e → e.name = key
  functions : ∀ key f, d.functions.find? key = some f → f.name = key
  globals : ∀ key g, d.globals.find? key = some g → g.name = key

theorem Description.named_iff {d : Description} : d.Named ↔
    (∀ e ∈ d.structs.entries, e.2.name = e.1) ∧ (∀ e ∈ d.enums.entries, e.2.name = e.1) ∧
      (∀ e ∈ d.functions.entries, e.2.name = e.1) ∧ ∀ e ∈ d.globals.entries, e.2.name = e.1 :=
  ⟨fun named => ⟨Table.forall_find?_iff.1 named.structs, Table.forall_find?_iff.1 named.enums,
      Table.forall_find?_iff.1 named.functions, Table.forall_find?_iff.1 named.globals⟩,
    fun ⟨structs, enums, functions, globals⟩ => ⟨Table.forall_find?_iff.2 structs,
      Table.forall_find?_iff.2 enums, Table.forall_find?_iff.2 functions,
      Table.forall_find?_iff.2 globals⟩⟩

instance (d : Description) : Decidable d.Named := decidable_of_iff _ Description.named_iff.symm

/-- The same elements in some order, under each name the same one. -/
def Reorders {α : Type} (name : α → String) (as bs : List α) : Prop :=
  bs.Perm as ∧ ∀ a ∈ as, ∀ b ∈ bs, name a = name b → a = b

theorem Reorders.of_perm {α : Type} {name : α → String} {as bs : List α} (perm : bs.Perm as)
    (distinct : ∀ a ∈ as, ∀ b ∈ as, name a = name b → a = b) : Reorders name as bs :=
  ⟨perm, fun a member b member' => distinct a member b (perm.mem_iff.1 member')⟩

/-- Two analyses that differ in the order of their lists, and in the handles that functions hand
out. -/
structure Analysis.Reordered (a a' : Analysis) : Prop where
  types : a'.types = a.types
  sweeps : a'.sweeps = a.sweeps
  layouts : Reorders (·.native) a.layouts a'.layouts
  enums : Reorders (·.native) a.enums a'.enums
  wrappers : Reorders (·.native) (a.wrappers.map Wrapper.unnamed) (a'.wrappers.map Wrapper.unnamed)
  roots : Reorders (·.native) a.roots a'.roots
  globals : Reorders (·.native) a.globals a'.globals

namespace Library

variable {lib : Library} {t : TypeTable} {a : Analysis} {ds : List Declaration}

section Named

variable (analyzed : lib.Analyzed t a) (named : lib.description.Named)

include analyzed named

/-- A layout is the one that is made for the struct by its name. -/
theorem Analyzed.layout_named {m : Layout} (member : m ∈ a.layouts) :
    on (lib.declaredLayout m.native) t = (.ok (some m), t) := by
  obtain ⟨declared, layouts, each⟩ := analyzed.layouts
  rw [layouts, List.mem_filterMap] at member
  obtain ⟨_, inside, rfl⟩ := member
  obtain ⟨name, _, run⟩ := exists_left_of_forall₂ each inside
  obtain ⟨s, known, ⟨_, none⟩ | ⟨_, ⟨rfl⟩, _, mirrors⟩⟩ :=
    declaredLayout_eq_ok analyzed.formed analyzed.complete run
  · cases none
  · rwa [mirrors.native, named.structs name s known]

theorem Analyzed.enum_named {e : Enumeration} (member : e ∈ a.enums) :
    lib.declaredEnum e.native = .ok e := by
  obtain ⟨name, _, made⟩ := exists_left_of_forall₂ (mapM_eq_ok_iff.1 analyzed.enums) member
  have whole := made
  unfold declaredEnum at made
  split at made
  next => cases made
  next d known =>
    obtain ⟨constants, _, rest⟩ := bind_eq_ok_iff.1 made
    dsimp only at rest
    split at rest
    next => cases rest
    next =>
      cases rest
      rwa [← named.enums name d known] at whole

theorem Analyzed.wrapper_named {w : Wrapper} (member : w ∈ a.wrappers) :
    ∃ f, lib.description.functions.find? w.native = some f ∧
      on (lib.wrapper a.roots f) a.types = (.ok w, a.types) := by
  obtain ⟨f, declared, run⟩ := exists_left_of_forall₂ analyzed.wrappers member
  obtain ⟨name, _, known⟩ := List.mem_filterMap.1 declared
  refine ⟨f, ?_, run⟩
  rwa [(wrapper_stands run).1, named.functions name f known]

theorem Analyzed.global_named {g : Global} (member : g ∈ a.globals) :
    ∃ d, lib.description.globals.find? g.native = some d ∧
      on (lib.global d) a.types = (.ok g, a.types) := by
  obtain ⟨d, declared, run⟩ := exists_left_of_forall₂ analyzed.globals member
  obtain ⟨name, _, known⟩ := List.mem_filterMap.1 declared
  refine ⟨d, ?_, run⟩
  have native : g.native = d.name := by
    obtain ⟨type, _, _, run⟩ := on_bind_eq_ok.1 run
    cases run
    rfl
  rwa [native, named.globals name d known]

theorem Analyzed.layouts_distinct :
    ∀ m ∈ a.layouts, ∀ m' ∈ a.layouts, m.native = m'.native → m = m' := by
  intro m member m' member' same
  have made := analyzed.layout_named named member
  rw [same, analyzed.layout_named named member'] at made
  cases made
  rfl

theorem Analyzed.enums_distinct :
    ∀ e ∈ a.enums, ∀ e' ∈ a.enums, e.native = e'.native → e = e' := by
  intro e member e' member' same
  have made := analyzed.enum_named named member
  rw [same, analyzed.enum_named named member'] at made
  cases made
  rfl

theorem Analyzed.wrappers_distinct :
    ∀ w ∈ a.wrappers, ∀ w' ∈ a.wrappers, w.native = w'.native → w = w' := by
  intro w member w' member' same
  obtain ⟨f, known, run⟩ := analyzed.wrapper_named named member
  obtain ⟨f', known', run'⟩ := analyzed.wrapper_named named member'
  rw [same, known'] at known
  cases known
  rw [run'] at run
  cases run
  rfl

theorem Analyzed.globals_distinct :
    ∀ g ∈ a.globals, ∀ g' ∈ a.globals, g.native = g'.native → g = g' := by
  intro g member g' member' same
  obtain ⟨d, known, run⟩ := analyzed.global_named named member
  obtain ⟨d', known', run'⟩ := analyzed.global_named named member'
  rw [same, known'] at known
  cases known
  rw [run'] at run
  cases run
  rfl

end Named

theorem declared_redeclare (perm : ds.Perm lib.description.declarations) (kind : DeclKind) :
    ((lib.redeclare ds).description.declared kind).Perm (lib.description.declared kind) :=
  (perm.filter _).map _

/-- Where what is declared is analysed, it is so in every order, with the same results. -/
theorem Analyzed.redeclare (named : lib.description.Named)
    (perm : ds.Perm lib.description.declarations)
    (seen : on (lib.resolveAll lib.description.types.keys) {} = (.ok ⟨⟩, t))
    (analyzed : lib.Analyzed t a) :
    ∃ a', (lib.redeclare ds).analyze = .ok a' ∧ a.Reordered a' := by
  have complete := analyzed.complete.reflag analyzed.reflagged
  have declared := declared_redeclare perm
  have seen' : on ((lib.redeclare ds).resolveAll lib.description.types.keys) {} = (.ok ⟨⟩, t) := by
    rw [← seen, resolveAll, resolve_redeclare]
    rfl
  obtain ⟨formed, _, found⟩ := resolveAll_finds (lib.redeclare ds).formed_empty seen'
  -- Each list of results goes along with the list of declarations.
  obtain ⟨optional, layouts, each⟩ := analyzed.layouts
  obtain ⟨optional', each', optionalPerm⟩ := List.perm_comp_forall₂ (declared .struct) each
  have layoutsPerm : (optional'.filterMap id).Perm a.layouts := layouts ▸ optionalPerm.filterMap id
  obtain ⟨enums', enumerated', enumsPerm⟩ :=
    List.perm_comp_forall₂ (declared .enum) (mapM_eq_ok_iff.1 analyzed.enums)
  have functionsPerm := (declared .function).filterMap lib.description.functions.find?
  obtain ⟨roots', rooted', rootsPerm⟩ :=
    roots_perm named.structs complete functionsPerm analyzed.roots
  obtain ⟨between, wrapped, betweenPerm⟩ := List.perm_comp_forall₂ functionsPerm analyzed.wrappers
  obtain ⟨globals', read', globalsPerm⟩ := List.perm_comp_forall₂
    ((declared .global).filterMap lib.description.globals.find?) analyzed.globals
  have collected := collected analyzed.roots
  have rooted : ∀ f ∈ ((lib.redeclare ds).description.declared .function).filterMap
      lib.description.functions.find?, ∀ name, f.allocType = some name →
        ∃ r ∈ roots', r.isAllocatedAs name := by
    intro f member name alloc
    obtain ⟨s, found, r, inside, native⟩ :=
      collected.covers f (functionsPerm.mem_iff.1 member) name alloc
    exact ⟨r, rootsPerm.mem_iff.2 inside,
      collected.isAllocatedAs named.structs found inside native⟩
  obtain ⟨wrappers', wrapped', unnamed⟩ := wrappers_roots rooted wrapped
  have edges := Edges.ofLayouts_perm layoutsPerm t
  refine ⟨{ library := lib.redeclare ds, types := a.types, layouts := optional'.filterMap id,
            enums := enums', wrappers := wrappers', roots := roots', globals := globals',
            sweeps := a.sweeps }, analyze_eq_ok_iff.2 ⟨t, seen', ?_⟩, ?_⟩
  · exact {
      library := rfl
      sound := analyzed.sound
      formed
      complete := found
      settles := (TypeTable.propagate_perm edges.1 edges.2 _).trans analyzed.settles
      layouts := ⟨optional', rfl, by rwa [declaredLayout_redeclare]⟩
      enums := mapM_eq_ok_iff.2 enumerated'
      roots := by
        rw [Library.roots, addRoot_redeclare]
        exact rooted'
      wrappers := by rwa [wrapper_redeclare]
      globals := by rwa [global_redeclare] }
  · have wrappersDistinct : ∀ w ∈ a.wrappers.map Wrapper.unnamed,
        ∀ w' ∈ a.wrappers.map Wrapper.unnamed, w.native = w'.native → w = w' := by
      intro w member w' member' same
      obtain ⟨w, inside, rfl⟩ := List.mem_map.1 member
      obtain ⟨w', inside', rfl⟩ := List.mem_map.1 member'
      rw [analyzed.wrappers_distinct named w inside w' inside' same]
    exact {
      types := rfl
      sweeps := rfl
      layouts := .of_perm layoutsPerm (analyzed.layouts_distinct named)
      enums := .of_perm enumsPerm (analyzed.enums_distinct named)
      wrappers := .of_perm (unnamed ▸ betweenPerm.map _) wrappersDistinct
      roots := .of_perm rootsPerm fun r member r' member' =>
        List.inj_on_of_nodup_map collected.distinct member member'
      globals := .of_perm globalsPerm (analyzed.globals_distinct named) }

theorem analyze_redeclare (named : lib.description.Named)
    (perm : ds.Perm lib.description.declarations) (success : lib.analyze = .ok a) :
    ∃ a', (lib.redeclare ds).analyze = .ok a' ∧ a.Reordered a' := by
  obtain ⟨_, seen, analyzed⟩ := analyze_eq_ok_iff.1 success
  exact analyzed.redeclare named perm seen

/-- A library is analysed in every order of its declarations or in none, and the analyses differ in
the order of their results and the handles that functions hand out. -/
theorem analyze_reorder (named : lib.description.Named)
    (perm : ds.Perm lib.description.declarations) :
    ((∃ a, lib.analyze = .ok a) ↔ ∃ a', (lib.redeclare ds).analyze = .ok a') ∧
      ∀ a a', lib.analyze = .ok a → (lib.redeclare ds).analyze = .ok a' → a.Reordered a' := by
  refine ⟨⟨?_, ?_⟩, ?_⟩
  · rintro ⟨a, success⟩
    obtain ⟨a', success', _⟩ := analyze_redeclare named perm success
    exact ⟨a', success'⟩
  · -- In the first order again it is the library itself.
    have named' : (lib.redeclare ds).description.Named :=
      ⟨named.structs, named.enums, named.functions, named.globals⟩
    rintro ⟨a', success'⟩
    obtain ⟨a, success, _⟩ := analyze_redeclare named' perm.symm success'
    exact ⟨a, success⟩
  · intro a a' success success'
    obtain ⟨_, again, reordered⟩ := analyze_redeclare named perm success
    rw [success'] at again
    cases again
    exact reordered

def crossedScenes : Library :=
  crossedNames.redeclare [⟨.struct, "my_scene"⟩, ⟨.function, "open_scene"⟩, ⟨.struct, "scene"⟩,
    ⟨.function, "open_world"⟩]

/-- With the world first it is not opened as a scene any more, but all else stays. -/
theorem crossedScenes_reorder :
    let worldFirst := [⟨.function, "open_world"⟩, ⟨.struct, "scene"⟩, ⟨.function, "open_scene"⟩,
      ⟨.struct, "my_scene"⟩]
    crossedScenes.description.Named ∧ worldFirst.Perm crossedScenes.description.declarations ∧
    ∃ a a', crossedScenes.analyze = .ok a ∧ (crossedScenes.redeclare worldFirst).analyze = .ok a' ∧
      a.Reordered a' ∧ a.wrappers.map (·.returnShape) = [.root "SceneRoot", .root "SceneRoot"] ∧
      a'.wrappers.map (·.returnShape) = [.root "WorldRoot", .root "SceneRoot"] := by
  intro worldFirst
  have shapes (lib : Library) (expected : List ReturnShape)
      (checked : (match lib.analyze with
        | .ok a => decide (a.wrappers.map (·.returnShape) = expected)
        | .error _ => false) = true) :
      ∃ a, lib.analyze = .ok a ∧ a.wrappers.map (·.returnShape) = expected := by
    split at checked
    next a success => exact ⟨a, success, of_decide_eq_true checked⟩
    next => cases checked
  have named : crossedScenes.description.Named := by decide +kernel
  have perm : worldFirst.Perm crossedScenes.description.declarations := by decide
  have reorder := analyze_reorder named perm
  obtain ⟨a, success, shape⟩ :=
    shapes crossedScenes [.root "SceneRoot", .root "SceneRoot"] (by decide +kernel)
  obtain ⟨a', success', shape'⟩ :=
    shapes (crossedScenes.redeclare worldFirst) [.root "WorldRoot", .root "SceneRoot"]
      (by decide +kernel)
  exact ⟨named, perm, a, a', success, success', reorder.2 a a' success success', shape, shape'⟩

end Library

end Bindery
