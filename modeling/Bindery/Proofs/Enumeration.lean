import Bindery.Enumeration
import Bindery.Proofs.Initializer
import Bindery.Proofs.Occurrence

/-!
# Constants of an enum

Which constants an enum is emitted with: those that are no aliases, and of several with one value
the first.
-/
namespace Bindery

namespace Enumeration

variable {c : ConstantDecl} {cs : List ConstantDecl} {seen : List Int64}

theorem distinct_cons_of_mem (known : c.value ∈ seen) :
    distinct seen (c :: cs) = distinct seen cs :=
  if_pos (List.contains_iff_mem.2 known)

theorem distinct_cons_of_not_mem (fresh : c.value ∉ seen) :
    distinct seen (c :: cs) = c :: distinct (c.value :: seen) cs :=
  if_neg fun known => fresh (List.contains_iff_mem.1 known)

/-- A search that goes on behind the constants `done`, of which it has kept `kept`. -/
theorem eachOnce_append_distinct {done kept : List ConstantDecl}
    (each : EachOnce (done.map (·.value)) (kept.map (·.value)))
    (same : ∀ value, value ∈ seen ↔ value ∈ kept.map (·.value)) :
    EachOnce ((done ++ cs).map (·.value)) ((kept ++ distinct seen cs).map (·.value)) := by
  induction cs generalizing seen done kept with
  | nil => simpa only [distinct, List.append_nil] using each
  | cons c rest ih =>
    rw [List.append_cons]
    by_cases known : c.value ∈ seen
    · rw [distinct_cons_of_mem known]
      refine ih ?_ same
      rw [List.map_append]
      exact each.concat_of_mem ((same _).1 known)
    · rw [distinct_cons_of_not_mem known, List.append_cons kept]
      apply ih
      · rw [List.map_append, List.map_append]
        exact each.concat_of_not_mem fun member => known ((same _).2 member)
      · intro value
        rw [List.mem_cons, same, List.map_append, List.mem_append, List.map_singleton,
          List.mem_singleton, or_comm]

theorem eachOnce_distinct : EachOnce (cs.map (·.value)) ((distinct [] cs).map (·.value)) :=
  @eachOnce_append_distinct cs [] [] [] .nil fun _ => .rfl

/-- What is kept is the first constant of its value, and the value is a new one. -/
theorem isFirst_of_mem_distinct (member : c ∈ distinct seen cs) :
    IsFirst (·.value = c.value) cs c ∧ c.value ∉ seen := by
  induction cs generalizing seen with
  | nil => cases member
  | cons first rest ih =>
    by_cases known : first.value ∈ seen
    · rw [distinct_cons_of_mem known] at member
      obtain ⟨found, fresh⟩ := ih member
      refine ⟨found.cons_of_neg fun same => ?_, fresh⟩
      exact fresh (same ▸ known)
    · rw [distinct_cons_of_not_mem known, List.mem_cons] at member
      rcases member with rfl | later
      · exact ⟨isFirst_cons_of_pos rfl, known⟩
      · obtain ⟨found, fresh⟩ := ih later
        rw [List.mem_cons, not_or] at fresh
        exact ⟨found.cons_of_neg (Ne.symm fresh.1), fresh.2⟩

/-- The values of some constants, each once and named by the first constant that has it. -/
structure Lists (isFlag : Bool) (constants : List ConstantDecl) (values : List EnumValue) :
    Prop where
  each : EachOnce (constants.map (·.value)) (values.map (·.value))
  first : ∀ v ∈ values, ∃ c, IsFirst (·.value = v.value) constants c ∧
    v = { name := valueName isFlag c.shortName, nativeName := c.name, value := c.value }

theorem lists_distinct (isFlag : Bool) (cs : List ConstantDecl) :
    Lists isFlag cs ((distinct [] cs).map fun c =>
      { name := valueName isFlag c.shortName, nativeName := c.name, value := c.value }) where
  each := by
    rw [List.map_map]
    exact eachOnce_distinct
  first := by
    intro v member
    obtain ⟨c, inside, rfl⟩ := List.mem_map.1 member
    exact ⟨c, (isFirst_of_mem_distinct inside).1, rfl⟩

/-- Only a set of flags leaves out values, and only those called `NONE`. -/
theorem exists_lists_select (isFlag : Bool) (constants : List ConstantDecl) :
    ∃ all, Lists isFlag (constants.filter (!·.auxiliary)) all ∧
      select isFlag constants = if isFlag then all.filter (·.name ≠ "NONE") else all := by
  refine ⟨_, lists_distinct isFlag _, ?_⟩
  unfold select
  cases isFlag with
  | false => simp
  | true => simp

theorem select_false_eq_nil_iff {constants : List ConstantDecl} :
    select false constants = [] ↔ constants.filter (!·.auxiliary) = [] := by
  obtain ⟨all, lists, same⟩ := exists_lists_select false constants
  have empty : all.map (·.value) = [] ↔
      (constants.filter (!·.auxiliary)).map (·.value) = [] := by
    simp only [List.eq_nil_iff_forall_not_mem, lists.each.same]
  rw [List.map_eq_nil_iff, List.map_eq_nil_iff] at empty
  rw [same, if_neg Bool.false_ne_true, empty]

/-- Aliases have no part in what is selected. -/
theorem select_filter (isFlag : Bool) (constants : List ConstantDecl) :
    select isFlag (constants.filter (!·.auxiliary)) = select isFlag constants := by
  unfold select
  rw [List.filter_filter]
  simp only [Bool.and_self]

end Enumeration

namespace Description

variable {d d' : Description} {config : Config} {e : EnumDecl} {values : List String}

def listed (d : Description) (values : List String) : List (String × Option ConstantDecl) :=
  values.map fun name => (name, d.constants.find? name)

/-- What is listed other than aliases. -/
def lasting (d : Description) (values : List String) : List (String × Option ConstantDecl) :=
  (d.listed values).filter fun entry => !entry.2.any (·.auxiliary)

theorem lasting_append (before after : List String) :
    d.lasting (before ++ after) = d.lasting before ++ d.lasting after := by
  unfold lasting listed
  rw [List.map_append, List.filter_append]

theorem lasting_cons_of_auxiliary {c : ConstantDecl} {name : String}
    (found : d.constants.find? name = some c) (auxiliary : c.auxiliary) :
    d.lasting (name :: values) = d.lasting values := by
  simp [lasting, listed, found, auxiliary]

theorem lasting_eq_nil_iff : d.lasting values = [] ↔
    ∀ name ∈ values, ∃ c, d.constants.find? name = some c ∧ c.auxiliary := by
  simp [lasting, listed, Option.any_eq_true]

def constant (enum : String) (entry : String × Option ConstantDecl) : Outcome ConstantDecl :=
  entry.2.elim (.error (.missingConstant enum entry.1)) .ok

theorem constantsOf_eq_mapM : d.constantsOf e = (d.listed e.values).mapM (constant e.name) := by
  unfold constantsOf listed
  rw [List.mapM_map]
  congr with name
  cases found : d.constants.find? name <;> simp [constant, found]

theorem constantsOf_eq_ok_iff {constants : List ConstantDecl} :
    d.constantsOf e = .ok constants ↔
      List.Forall₂ (fun name c => d.constants.find? name = some c) e.values constants := by
  have each (name : String) (c : ConstantDecl) :
      constant e.name (name, d.constants.find? name) = .ok c ↔ d.constants.find? name = some c := by
    unfold constant
    cases d.constants.find? name <;> simp
  rw [constantsOf_eq_mapM, mapM_eq_ok_iff, listed, List.forall₂_map_left_iff]
  simp only [each]

/-- An alias that is looked up is left out: it neither fails nor bears on what the others yield. -/
theorem filter_mapM_constant (enum : String) (entries : List (String × Option ConstantDecl)) :
    (entries.mapM (constant enum)).map (List.filter (!·.auxiliary)) =
      (entries.filter fun entry => !entry.2.any (·.auxiliary)).mapM (constant enum) := by
  induction entries with
  | nil => rfl
  | cons entry rest ih =>
    obtain ⟨name, found⟩ := entry
    cases found with
    | none => rfl
    | some c =>
      cases auxiliary : c.auxiliary with
      | false =>
        rw [List.filter_cons_of_pos (by simp [auxiliary]), List.mapM_cons, List.mapM_cons, ← ih]
        cases rest.mapM (constant enum) with
        | error _ => rfl
        | ok constants => exact congrArg Except.ok (List.filter_cons_of_pos (by simp [auxiliary]))
      | true =>
        rw [List.filter_cons_of_neg (by simp [auxiliary]), List.mapM_cons, ← ih]
        cases rest.mapM (constant enum) with
        | error _ => rfl
        | ok constants => exact congrArg Except.ok (List.filter_cons_of_neg (by simp [auxiliary]))

/-- All that an enum yields it yields of the constants other than aliases. -/
theorem enumeration_eq_bind_lasting : d.enumeration config e = (do
    let constants ← (d.lasting e.values).mapM (constant e.name)
    let values := Enumeration.select e.isFlag constants
    if !e.isFlag && values.isEmpty then throw (.emptyEnum e.name)
    return { native := e.name, name := Ident.toPascal e.shortName, isFlag := e.isFlag, values,
             ignored := config.isIgnored e.name }) := by
  unfold enumeration lasting
  rw [← filter_mapM_constant, ← constantsOf_eq_mapM]
  cases d.constantsOf e with
  | error _ => rfl
  | ok constants => simp only [Except.map, bind, Except.bind, Enumeration.select_filter]

theorem enumeration_congr (same : d.lasting e.values = d'.lasting values) :
    d.enumeration config e = d'.enumeration config { e with values } := by
  rw [enumeration_eq_bind_lasting, enumeration_eq_bind_lasting, same]

theorem enumeration_eq_ok {en : Enumeration} (run : d.enumeration config e = .ok en) :
    ∃ constants, List.Forall₂ (fun name c => d.constants.find? name = some c) e.values constants ∧
      en = { native := e.name, name := Ident.toPascal e.shortName, isFlag := e.isFlag,
             values := Enumeration.select e.isFlag constants,
             ignored := config.isIgnored e.name } := by
  obtain ⟨constants, found, run⟩ := bind_eq_ok_iff.1 run
  refine ⟨constants, constantsOf_eq_ok_iff.1 found, ?_⟩
  dsimp only at run
  split at run
  · cases run
  · cases run
    rfl

theorem enumeration_isFlag {en : Enumeration} (run : d.enumeration config e = .ok en) :
    en.isFlag = e.isFlag := by
  obtain ⟨_, _, rfl⟩ := enumeration_eq_ok run
  rfl

theorem enumeration_lists {en : Enumeration} (run : d.enumeration config e = .ok en) :
    ∃ constants all,
      List.Forall₂ (fun name c => d.constants.find? name = some c) e.values constants ∧
      Enumeration.Lists e.isFlag (constants.filter (!·.auxiliary)) all ∧
      en.values = if e.isFlag then all.filter (·.name ≠ "NONE") else all := by
  obtain ⟨constants, found, rfl⟩ := enumeration_eq_ok run
  obtain ⟨all, lists, same⟩ := Enumeration.exists_lists_select e.isFlag constants
  exact ⟨constants, all, found, lists, same⟩

theorem enumeration_values_nodup {en : Enumeration} (run : d.enumeration config e = .ok en) :
    (en.values.map (·.value)).Nodup := by
  obtain ⟨_, all, _, lists, same⟩ := enumeration_lists run
  have distinct := lists.each.nodup
  rw [same]
  split
  · exact distinct.sublist (List.filter_sublist.map _)
  · exact distinct

theorem enumeration_eq_emptyEnum_iff (closed : e.isFlag = false) {name : String} :
    d.enumeration config e = .error (.emptyEnum name) ↔
      name = e.name ∧ ∀ name ∈ e.values, ∃ c, d.constants.find? name = some c ∧ c.auxiliary := by
  have none : (d.constantsOf e).map (List.filter (!·.auxiliary)) = .ok [] ↔
      ∀ name ∈ e.values, ∃ c, d.constants.find? name = some c ∧ c.auxiliary := by
    rw [constantsOf_eq_mapM, filter_mapM_constant, mapM_eq_ok_iff, List.forall₂_nil_right_iff,
      ← lasting_eq_nil_iff]
    rfl
  rw [← none]
  unfold enumeration
  cases run : d.constantsOf e with
  | error x =>
    rw [constantsOf_eq_mapM] at run
    obtain ⟨entry, _, failed⟩ := Library.mapM_eq_error_iff.1 run
    obtain ⟨key, found⟩ := entry
    cases found with
    | none =>
      cases failed
      simp [bind, Except.bind, Except.map]
    | some c => cases failed
  | ok constants =>
    simp only [bind, Except.bind, Except.map, closed, Except.ok.injEq,
      ← Enumeration.select_false_eq_nil_iff]
    cases Enumeration.select false constants with
    | nil => simp [throw, throwThe, MonadExceptOf.throw, eq_comm]
    | cons _ _ => simp [pure, Except.pure]

/-- An enum that is accepted has the values of its constants other than aliases, each once, in the
order of the first constant that has it and under the name of that constant; a set of flags has all
but those called `NONE`. Aliases have no part in it, neither those that the enum lists nor those
that the description holds: what they are, and where they stand, changes no outcome. A closed enum
is empty where it has nothing but aliases. -/
theorem enumeration_eachOnce (d : Description) (config : Config) (e : EnumDecl) :
    (∀ en, d.enumeration config e = .ok en →
      (en.values.map (·.value)).Nodup ∧
      ∃ constants all,
        List.Forall₂ (fun name c => d.constants.find? name = some c) e.values constants ∧
        Enumeration.Lists e.isFlag (constants.filter (!·.auxiliary)) all ∧
        en.values = if e.isFlag then all.filter (·.name ≠ "NONE") else all) ∧
    (∀ before name after c, d.constants.find? name = some c → c.auxiliary →
      d.enumeration config { e with values := before ++ name :: after } =
        d.enumeration config { e with values := before ++ after }) ∧
    (∀ d' : Description, ∀ values, d'.lasting values = d.lasting e.values →
      d'.enumeration config { e with values } = d.enumeration config e) ∧
    (e.isFlag = false → ∀ name, d.enumeration config e = .error (.emptyEnum name) ↔
      name = e.name ∧ ∀ name ∈ e.values, ∃ c, d.constants.find? name = some c ∧ c.auxiliary) := by
  refine ⟨fun en run => ⟨enumeration_values_nodup run, enumeration_lists run⟩, ?_, ?_,
    fun closed name => enumeration_eq_emptyEnum_iff closed⟩
  · intro before name after c found auxiliary
    refine enumeration_congr (e := { e with values := before ++ name :: after }) ?_
    rw [lasting_append, lasting_append, lasting_cons_of_auxiliary found auxiliary]
  · intro d' values same
    exact (enumeration_congr same.symm).symm

def modes : Description where
  constants := ⟨[
    ("FAST", { name := "FAST", shortName := "FAST", value := 1 }),
    ("LAST", { name := "LAST", shortName := "LAST", value := 0, auxiliary := true }),
    ("OLD", { name := "OLD", shortName := "OLD", value := 1, auxiliary := true }),
    ("QUICK", { name := "QUICK", shortName := "QUICK", value := 1 }),
    ("SLOW", { name := "SLOW", shortName := "SLOW", value := 0 })], by decide⟩

def mode : EnumDecl where
  name := "mode"
  shortName := "mode"
  values := ["OLD", "FAST", "SLOW", "QUICK", "LAST"]

/-- An alias before its twin does not hide it and one behind it does not repeat it. Without either
the outcome is the same, also where the description has none, and with nothing else there is none. -/
theorem mode_eachOnce :
    let config : Config := { link := "modes" }
    let plain := { modes with constants := ⟨[
      ("FAST", { name := "FAST", shortName := "FAST", value := 1 }),
      ("SLOW", { name := "SLOW", shortName := "SLOW", value := 0 })], by decide⟩ }
    (∃ en, modes.enumeration config mode = .ok en ∧
      en.values = [⟨"Fast", "FAST", 1⟩, ⟨"Slow", "SLOW", 0⟩] ∧
      (en.values.map (·.value)).Nodup) ∧
    modes.enumeration config mode =
      modes.enumeration config { mode with values := ["FAST", "SLOW", "QUICK", "LAST"] } ∧
    modes.enumeration config mode =
      modes.enumeration config { mode with values := ["OLD", "FAST", "SLOW", "QUICK"] } ∧
    plain.enumeration config { mode with values := ["FAST", "SLOW"] } =
      modes.enumeration config { mode with values := ["FAST", "SLOW", "LAST"] } ∧
    modes.enumeration config { mode with values := ["OLD", "LAST"] } =
      .error (.emptyEnum "mode") := by
  intro config plain
  obtain ⟨each, without, _, _⟩ := enumeration_eachOnce modes config mode
  refine ⟨?_, ?_, ?_, ?_, ?_⟩
  · have checked : (modes.enumeration config mode).toOption.any (fun en =>
        en.values = [⟨"Fast", "FAST", 1⟩, ⟨"Slow", "SLOW", 0⟩]) := by decide +kernel
    obtain ⟨en, run, values⟩ := ok_of_any checked
    exact ⟨en, run, of_decide_eq_true values, (each en run).1⟩
  · exact without [] "OLD" ["FAST", "SLOW", "QUICK", "LAST"] _ rfl rfl
  · exact without ["OLD", "FAST", "SLOW", "QUICK"] "LAST" [] _ rfl rfl
  · obtain ⟨_, _, same, _⟩ :=
      enumeration_eachOnce modes config { mode with values := ["FAST", "SLOW", "LAST"] }
    exact same plain ["FAST", "SLOW"] (by decide +kernel)
  · obtain ⟨_, _, _, empty⟩ :=
      enumeration_eachOnce modes config { mode with values := ["OLD", "LAST"] }
    exact (empty rfl "mode").2 ⟨rfl, List.forall_mem_cons.2
      ⟨⟨_, rfl, rfl⟩, List.forall_mem_singleton.2 ⟨_, rfl, rfl⟩⟩⟩

end Description

end Bindery
