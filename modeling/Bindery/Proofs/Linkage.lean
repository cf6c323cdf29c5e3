import Bindery.Proofs.Analysis
import Bindery.Proofs.Arguments
import Bindery.Proofs.Ownership
import Bindery.Proofs.Saving
import Bindery.Source

/-!
# Calls and declarations of native functions

What the output calls and what it declares. Functions are declared if they are linked, but the
helpers that retain and free the object of a handle are looked for among all functions, so they can
be called without a declaration.
-/
namespace Bindery

open Typing

def FunctionItem.calls : FunctionItem → List String
  | .safe _ _ call | .raw _ _ call => [call.native]
  | .lowering .. => []

/-- The native functions that are called by an item: in the body of a function, or to retain and
free the object of a handle. -/
def Item.calls : Item → List String
  | .function f => f.calls
  | .root r => [r.retain, r.free]
  | _ => []

def Item.declares : Item → List String
  | .link l => l.functions.map (·.name)
  | _ => []

def FunctionDecl.isExposed (f : FunctionDecl) : Bool :=
  f.kind = .normal && !f.isInline && !f.isFfi

theorem FunctionDecl.isInline_of_isExposed (f : FunctionDecl) (exposed : f.isExposed) :
    f.isInline = false := by
  simp only [isExposed, Bool.and_eq_true, Bool.not_eq_true'] at exposed
  exact exposed.1.2

theorem generate_eq_ok_iff {input text : String} {config : Config} :
    generate input config = .ok text ↔ ∃ d a, Description.parse input = .ok d ∧
      ({ description := d, config } : Library).analyze = .ok a ∧
      a.source (Digest.ofText input) = .ok text := by
  rw [generate, bind_eq_ok_iff]
  refine exists_congr fun d => ?_
  rw [bind_eq_ok_iff, exists_and_left]

theorem Analysis.source_eq_ok_iff {a : Analysis} {digest text : String} :
    a.source digest = .ok text ↔ ∃ prelude items, a.prelude = .ok prelude ∧ a.items = .ok items ∧
      text = render (headSteps digest prelude ++ items.flatMap fun i => .blank :: i.steps) := by
  rw [source, bind_eq_ok_iff]
  refine exists_congr fun prelude => ?_
  rw [bind_eq_ok_iff, exists_and_left]
  refine and_congr_right fun _ => exists_congr fun items => and_congr_right fun _ => ?_
  change Except.ok _ = Except.ok text ↔ _
  rw [Except.ok.injEq, eq_comm]

/-- A text that is generated, with the items that it holds. -/
structure Generates (input : String) (config : Config) (text : String) (lib : Library)
    (a : Analysis) (items : List Item) : Prop where
  parsed : Description.parse input = .ok lib.description
  config : lib.config = config
  analyzed : lib.analyze = .ok a
  emitted : a.items = .ok items
  written : ∃ prelude, text = render (Analysis.headSteps (Digest.ofText input) prelude ++
    items.flatMap fun i => .blank :: i.steps)

theorem generates_of_generate {input text : String} {config : Config}
    (success : generate input config = .ok text) :
    ∃ lib a items, Generates input config text lib a items := by
  obtain ⟨d, a, parsed, analyzed, source⟩ := generate_eq_ok_iff.1 success
  obtain ⟨prelude, items, _, emitted, written⟩ := Analysis.source_eq_ok_iff.1 source
  exact ⟨{ description := d, config }, a, items, parsed, rfl, analyzed, emitted, prelude, written⟩

def Item.Silent (i : Item) : Prop := i.calls = [] ∧ i.declares = []

namespace Analysis

variable {a : Analysis} {items : List Item} {name : String}

theorem functionItems_calls (a : Analysis) (records : Records) (w : Wrapper) :
    (a.functionItems records w).flatMap FunctionItem.calls =
      if w.exposed then [w.native] else [] := by
  unfold functionItems
  cases w.exposed with
  | false => simp
  | true =>
    cases w.isRaw <;> cases w.rawOnly <;> simp [FunctionItem.calls, nativeCall]

theorem silent_of_declarationItem {d : Declaration} {i : Item}
    (made : a.declarationItem d = some i) : i.Silent := by
  unfold declarationItem at made
  split at made
  · obtain ⟨m, _, rfl⟩ := Option.map_eq_some_iff.1 made
    exact ⟨rfl, rfl⟩
  · obtain ⟨e, _, rfl⟩ := Option.map_eq_some_iff.1 made
    exact ⟨rfl, rfl⟩
  · cases made
  · cases made

theorem silent_of_shapeItems {m : Layout} {i : Item} (made : a.shapeItems m = some i) :
    i.Silent := by
  unfold shapeItems at made
  split at made
  · cases made
    exact ⟨rfl, rfl⟩
  · obtain ⟨c, _, rfl⟩ := Option.map_eq_some_iff.1 made
    exact ⟨rfl, rfl⟩
  · cases made

theorem silent_of_resultAlias {alias? : Option Item} {i : Item}
    (made : a.resultAlias = .ok alias?) (member : i ∈ alias?) : i.Silent := by
  unfold resultAlias at made
  split at made
  · cases made
    cases member
  · obtain ⟨m, _, rest⟩ := bind_eq_ok_iff.1 made
    cases rest
    cases member
    exact ⟨rfl, rfl⟩

/-- Apart from silent items, what links is emitted, then the handles, then the functions. -/
theorem items_parts (emitted : a.items = .ok items) :
    ∃ link records before after, a.linkItem = .ok link ∧ (∀ i ∈ before ++ after, i.Silent) ∧
      items = before ++ [.link link] ++ a.roots.map (fun r => .root (a.rootItem r)) ++
        a.wrappers.flatMap (fun w => (a.functionItems records w).map .function) ++ after := by
  unfold Analysis.items at emitted
  obtain ⟨alias?, aliased, rest⟩ := bind_eq_ok_iff.1 emitted
  obtain ⟨link, linked, rest⟩ := bind_eq_ok_iff.1 rest
  obtain ⟨records, named, rest⟩ := bind_eq_ok_iff.1 rest
  obtain ⟨element, _, rest⟩ := bind_eq_ok_iff.1 rest
  cases rest
  refine ⟨link, records,
    a.library.description.declarations.filterMap a.declarationItem ++
      a.visibleLayouts.filterMap a.shapeItems ++
      (if a.copiedNames.isEmpty then [] else [.copies a.copiedNames]) ++ alias?.toList,
    (a.globals.filterMap a.globalItem).map .global ++
      (groupMethods a.wrappers).map (fun g => .methods (a.methodsItem g)) ++
      (element.map Item.element).toList, linked, ?_, by simp only [List.append_assoc]⟩
  intro i member
  simp only [List.mem_append, List.mem_filterMap, List.mem_map, Option.mem_toList,
    Option.map_eq_some_iff] at member
  rcases member with (((⟨d, _, made⟩ | ⟨m, _, made⟩) | copies) | renamed) |
    (⟨g, _, rfl⟩ | ⟨g, _, rfl⟩) | ⟨e, _, rfl⟩
  · exact silent_of_declarationItem made
  · exact silent_of_shapeItems made
  · split at copies
    · cases copies
    · cases List.mem_singleton.1 copies
      exact ⟨rfl, rfl⟩
  · exact silent_of_resultAlias aliased renamed
  · exact ⟨rfl, rfl⟩
  · exact ⟨rfl, rfl⟩
  · exact ⟨rfl, rfl⟩

/-- Called are the functions of handles, and what functions with an entry point stand for. -/
theorem calls_of_items (emitted : a.items = .ok items) (name : String) :
    name ∈ items.flatMap Item.calls ↔
      (∃ r ∈ a.roots, name = r.retain ∨ name = r.free) ∨
        ∃ w ∈ a.wrappers, w.exposed ∧ name = w.native := by
  obtain ⟨link, records, before, after, _, silent, rfl⟩ := items_parts emitted
  have quiet {is : List Item} (silent : ∀ i ∈ is, i.Silent) : is.flatMap Item.calls = [] :=
    List.flatMap_eq_nil_iff.2 fun i member => (silent i member).1
  have ⟨first, last⟩ := List.forall_mem_append.1 silent
  -- Of a function that is split in two, only the raw one calls the native function.
  have called (w : Wrapper) :
      (a.functionItems records w).flatMap (fun f => Item.calls (.function f)) =
        if w.exposed then [w.native] else [] := a.functionItems_calls records w
  simp only [List.flatMap_append, quiet first, quiet last, List.flatMap_map, List.flatMap_assoc,
    called]
  simp [Item.calls, rootItem]

/-- Declared are the functions that link. -/
theorem declares_of_items (emitted : a.items = .ok items) :
    ∃ link, a.linkItem = .ok link ∧
      items.flatMap Item.declares = link.functions.map (·.name) := by
  obtain ⟨link, records, before, after, linked, silent, rfl⟩ := items_parts emitted
  refine ⟨link, linked, ?_⟩
  have quiet {is : List Item} (silent : ∀ i ∈ is, i.Silent) : is.flatMap Item.declares = [] :=
    List.flatMap_eq_nil_iff.2 fun i member => (silent i member).2
  have ⟨first, last⟩ := List.forall_mem_append.1 silent
  simp only [List.flatMap_append, quiet first, quiet last, List.flatMap_map, List.flatMap_assoc]
  simp [Item.declares]

/-- What links are the linked functions that are described under their own names. -/
theorem mem_linkItem {link : LinkItem} (linked : a.linkItem = .ok link) :
    name ∈ link.functions.map (·.name) ↔
      a.library.description.functions.contains name ∧
        ∃ w ∈ a.wrappers, w.linked ∧ w.native = name := by
  obtain ⟨functions, made, rest⟩ := bind_eq_ok_iff.1 linked
  cases rest
  have named (p : Wrapper × FunctionDecl) (n : NativeFunction)
      (run : a.nativeFunction p.1 p.2 = .ok n) : n.name = p.1.native := by
    obtain ⟨params, _, rest⟩ := bind_eq_ok_iff.1 run
    cases rest
    rfl
  have each := (mapM_eq_ok_iff.1 made).imp fun p n => named p n
  constructor
  · intro member
    obtain ⟨n, inside, rfl⟩ := List.mem_map.1 member
    obtain ⟨_, found, same⟩ := exists_left_of_forall₂ each inside
    obtain ⟨w, linked, paired⟩ := List.mem_filterMap.1 found
    obtain ⟨f, known, rfl⟩ := Option.map_eq_some_iff.1 paired
    obtain ⟨wrapped, isLinked⟩ := List.mem_filter.1 linked
    rw [same]
    exact ⟨by simp [Table.contains, known], w, wrapped, isLinked, rfl⟩
  · rintro ⟨known, w, wrapped, isLinked, rfl⟩
    obtain ⟨f, known⟩ := Option.isSome_iff_exists.1 known
    have linked := List.mem_filter.2 ⟨wrapped, isLinked⟩
    have paired : (a.library.description.functions.find? w.native).map (w, ·) = some (w, f) := by
      rw [known, Option.map_some]
    obtain ⟨n, inside, same⟩ :=
      exists_right_of_forall₂ each (List.mem_filterMap.2 ⟨w, linked, paired⟩)
    exact List.mem_map.2 ⟨n, inside, same⟩

end Analysis

namespace Library

variable {lib : Library} {t t' : TypeTable} {a : Analysis} {f : FunctionDecl} {w : Wrapper}
  {roots : List Root}

theorem wrapper_stands (run : on (lib.wrapper roots f) t = (.ok w, t')) :
    w.native = f.name ∧ w.linked = !f.isInline ∧ w.exposed = f.isExposed := by
  obtain ⟨_, _, _, _, _, _, _, _, rfl⟩ := wrapper_cases run
  exact ⟨rfl, rfl, rfl⟩

/-- A native function is declared in the output: it is described under its own name, declared in the
description, and no inline helper. -/
def Links (lib : Library) (name : String) : Prop :=
  lib.description.functions.contains name ∧
    ∃ f ∈ lib.declaredFunctions, f.isInline = false ∧ f.name = name

theorem Analyzed.wrappers_iff (analyzed : lib.Analyzed t a) {p : Bool → Bool → String → Prop} :
    (∃ w ∈ a.wrappers, p w.linked w.exposed w.native) ↔
      ∃ f ∈ lib.declaredFunctions, p (!f.isInline) f.isExposed f.name := by
  constructor
  · rintro ⟨w, wrapped, holds⟩
    obtain ⟨f, declared, run⟩ := exists_left_of_forall₂ analyzed.wrappers wrapped
    obtain ⟨native, linked, exposed⟩ := wrapper_stands run
    rw [native, linked, exposed] at holds
    exact ⟨f, declared, holds⟩
  · rintro ⟨f, declared, holds⟩
    obtain ⟨w, wrapped, run⟩ := exists_right_of_forall₂ analyzed.wrappers declared
    obtain ⟨native, linked, exposed⟩ := wrapper_stands run
    rw [← native, ← linked, ← exposed] at holds
    exact ⟨w, wrapped, holds⟩

theorem Analyzed.declares_iff (analyzed : lib.Analyzed t a) {items : List Item}
    (emitted : a.items = .ok items) (name : String) :
    name ∈ items.flatMap Item.declares ↔ lib.Links name := by
  obtain ⟨link, linked, declared⟩ := Analysis.declares_of_items emitted
  rw [declared, Analysis.mem_linkItem linked, analyzed.library]
  have wrappers := analyzed.wrappers_iff (p := fun linked _ native => linked ∧ native = name)
  simp only [Bool.not_eq_true'] at wrappers
  exact and_congr_right fun _ => wrappers

theorem Analyzed.calls_iff (analyzed : lib.Analyzed t a) {items : List Item}
    (emitted : a.items = .ok items) (name : String) :
    name ∈ items.flatMap Item.calls ↔ (∃ r ∈ a.roots, name = r.retain ∨ name = r.free) ∨
      ∃ f ∈ lib.declaredFunctions, f.isExposed ∧ name = f.name := by
  rw [Analysis.calls_of_items emitted]
  have wrappers := analyzed.wrappers_iff (p := fun _ exposed native => exposed ∧ name = native)
  exact or_congr_right wrappers

/-- All that the output calls is declared exactly if functions with an entry point are described
under their own names and the functions of all handles link. -/
theorem calls_declared_iff {input text : String} {config : Config}
    (success : generate input config = .ok text) :
    ∃ lib a items, Generates input config text lib a items ∧
      (items.flatMap Item.calls ⊆ items.flatMap Item.declares ↔
        (∀ f ∈ lib.declaredFunctions, f.isExposed → lib.description.functions.contains f.name) ∧
          ∀ r ∈ a.roots, lib.Links r.retain ∧ lib.Links r.free) := by
  obtain ⟨lib, a, items, generates⟩ := generates_of_generate success
  obtain ⟨t, analyzed⟩ := lib.analyzed generates.analyzed
  have calls := analyzed.calls_iff generates.emitted
  have declares := analyzed.declares_iff generates.emitted
  refine ⟨lib, a, items, generates, ⟨fun declared => ⟨fun f member exposed => ?_,
    fun r member => ?_⟩, ?_⟩⟩
  · have called := (calls f.name).2 (.inr ⟨f, member, exposed, rfl⟩)
    exact ((declares f.name).1 (declared called)).1
  · have retained := (calls r.retain).2 (.inl ⟨r, member, .inl rfl⟩)
    have freed := (calls r.free).2 (.inl ⟨r, member, .inr rfl⟩)
    exact ⟨(declares r.retain).1 (declared retained), (declares r.free).1 (declared freed)⟩
  · rintro ⟨described, linked⟩ name called
    rw [declares]
    rcases (calls name).1 called with ⟨r, member, rfl | rfl⟩ | ⟨f, member, exposed, rfl⟩
    · exact (linked r member).1
    · exact (linked r member).2
    · exact ⟨described f member exposed, f, member, f.isInline_of_isExposed exposed, rfl⟩

def scenes : Library where
  description := {
    types := ⟨[("scene", { key := "scene", kind := .struct }),
      ("scene*", { key := "scene*", kind := .pointer, inner := some "scene" }),
      ("void", { key := "void", kind := .primitive })], by decide⟩
    structs := ⟨[("scene", { name := "scene", shortName := "scene" })], by decide⟩
    functions := ⟨[
      ("free_scene", keeping "free_scene" .free "scene*"),
      ("open_scene", opening "open_scene" "scene"),
      ("retain_scene", keeping "retain_scene" .retain "scene*")], by decide⟩
    declarations := [⟨.function, "open_scene"⟩, ⟨.function, "retain_scene"⟩] }
  config := { link := "scenes" }

def scenesText : String :=
  String.join [
    "\x7b\"types\": \x7b",
    "\"scene\": \x7b\"kind\": \"struct\"\x7d,",
    "\"scene*\": \x7b\"kind\": \"pointer\", \"inner\": \"scene\"\x7d,",
    "\"void\": \x7b\"kind\": \"primitive\"\x7d\x7d,",
    "\"structs\": \x7b\"scene\": \x7b\x7d\x7d,",
    "\"functions\": \x7b",
    "\"open_scene\": \x7b\"return_type\": \"scene*\", \"alloc_type\": \"scene\"\x7d,",
    "\"retain_scene\": \x7b\"kind\": \"retain\",",
    "\"arguments\": [\x7b\"name\": \"this\", \"type\": \"scene*\"\x7d]\x7d,",
    "\"free_scene\": \x7b\"kind\": \"free\",",
    "\"arguments\": [\x7b\"name\": \"this\", \"type\": \"scene*\"\x7d]\x7d\x7d,",
    "\"declarations\": [",
    "\x7b\"kind\": \"function\", \"name\": \"open_scene\"\x7d,",
    "\x7b\"kind\": \"function\", \"name\": \"retain_scene\"\x7d]\x7d"]

theorem parse_scenesText : Description.parse scenesText = .ok scenes.description := by
  apply Description.parse_join (by repeat constructor)
  decide +kernel

/-- The handle of a scene frees it by a function that the output does not declare. -/
theorem scene_freed_undeclared : ∃ text lib a items,
    generate scenesText scenes.config = .ok text ∧
    Generates scenesText scenes.config text lib a items ∧
    "free_scene" ∈ items.flatMap Item.calls ∧ "free_scene" ∉ items.flatMap Item.declares ∧
    (items.flatMap Item.calls ⊆ items.flatMap Item.declares ↔
      (∀ f ∈ lib.declaredFunctions, f.isExposed → lib.description.functions.contains f.name) ∧
        ∀ r ∈ a.roots, lib.Links r.retain ∧ lib.Links r.free) := by
  have checked : scenes.analyze.toOption.any (fun a => a.prelude.toOption.any fun _ =>
      a.items.toOption.any fun items => "free_scene" ∈ items.flatMap Item.calls ∧
        "free_scene" ∉ items.flatMap Item.declares) := by decide +kernel
  obtain ⟨a, analysis, checked⟩ := ok_of_any checked
  obtain ⟨prelude, imported, checked⟩ := ok_of_any checked
  obtain ⟨items, emitted, checked⟩ := ok_of_any checked
  obtain ⟨called, undeclared⟩ := of_decide_eq_true checked
  obtain ⟨text, written⟩ : ∃ text, a.source (Digest.ofText scenesText) = .ok text :=
    ⟨_, Analysis.source_eq_ok_iff.2 ⟨prelude, items, imported, emitted, rfl⟩⟩
  have success := generate_eq_ok_iff.2 ⟨_, a, parse_scenesText, analysis, written⟩
  obtain ⟨⟨d, c⟩, a', items', generates, declared⟩ := calls_declared_iff success
  obtain rfl := Except.ok.inj (generates.parsed.symm.trans parse_scenesText)
  obtain rfl := generates.config
  obtain rfl := Except.ok.inj (generates.analyzed.symm.trans analysis)
  obtain rfl := Except.ok.inj (generates.emitted.symm.trans emitted)
  exact ⟨_, _, _, _, success, generates, called, undeclared, declared⟩

end Library

end Bindery
