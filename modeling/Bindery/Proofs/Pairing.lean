import Bindery.Proofs.Arguments
import Bindery.Proofs.Flagged
import Bindery.Proofs.Termination
import Mathlib.Computability.Language

/-!
# The grammar of argument tags

Native arguments are read phrase by phrase: one that stands by itself, or a pointer with its length
right behind it. Lists that are made of phrases are read, and any other fails at the first argument
that no phrase begins with.
-/
namespace Bindery

open Typing
open scoped Computability

def phrases : List (List ArgTag) :=
  [[.normal], [.error], [.panic], [.stringPointer, .stringLength], [.arrayPointer, .arrayLength],
   [.blobPointer, .blobSize]]

def tagGrammar : Language ArgTag := ({tags | tags ∈ phrases} : Language ArgTag)∗

def ArgTag.isSingle : ArgTag → Bool
  | .normal | .error | .panic => true
  | _ => false

theorem mem_phrases {tags : List ArgTag} : tags ∈ phrases ↔
    (∃ tag : ArgTag, tag.isSingle ∧ tags = [tag]) ∨
      ∃ pointer kind length, ArgTag.paired? pointer = some (kind, length) ∧
        tags = [pointer, length] := by
  constructor
  · intro phrase
    simp only [phrases, List.mem_cons, List.not_mem_nil, or_false] at phrase
    rcases phrase with rfl | rfl | rfl | rfl | rfl | rfl
    · exact .inl ⟨.normal, rfl, rfl⟩
    · exact .inl ⟨.error, rfl, rfl⟩
    · exact .inl ⟨.panic, rfl, rfl⟩
    · exact .inr ⟨.stringPointer, .string, .stringLength, rfl, rfl⟩
    · exact .inr ⟨.arrayPointer, .slice, .arrayLength, rfl, rfl⟩
    · exact .inr ⟨.blobPointer, .blob, .blobSize, rfl, rfl⟩
  · rintro (⟨tag, single, rfl⟩ | ⟨pointer, kind, length, paired, rfl⟩)
    · cases tag <;> simp [ArgTag.isSingle] at single <;> simp [phrases]
    · cases pointer <;> simp [ArgTag.paired?] at paired <;> simp [phrases, ← paired.2]

theorem mem_tagGrammar {tags : List ArgTag} :
    tags ∈ tagGrammar ↔ ∃ parts : List (List ArgTag), tags = parts.flatten ∧ parts ⊆ phrases :=
  Language.mem_kstar

namespace Library

variable {lib : Library} {t t' : TypeTable} {key function : String} {id : TypeId}
  {d : ArgDecl} {ds before rest : List ArgDecl} {e : Error}

/-- What an argument needs beside its place: an array has to be a pointer, and the configuration has
to name the records. -/
structure Admits (lib : Library) (d : ArgDecl) : Prop where
  points : d.tag = .arrayPointer → ∃ target, lib.PointerTo d.type target
  errors : d.tag = .error → lib.config.errors ≠ none
  panics : d.tag = .panic → lib.config.panics ≠ none

/-- The arguments are phrases behind each other, and each is admitted. -/
def Accepts (lib : Library) (ds : List ArgDecl) : Prop :=
  ds.map (·.tag) ∈ tagGrammar ∧ ∀ d ∈ ds, lib.Admits d

/-- Why no phrase is read from an argument and those behind it. -/
inductive Breaks (lib : Library) (function : String) (d : ArgDecl) (rest : List ArgDecl) :
    Error → Prop where
  /-- A pointer without its length behind it, or a length without its pointer. -/
  | alone : [d.tag] ∉ phrases → (∀ next ∈ rest.head?, [d.tag, next.tag] ∉ phrases) →
      Breaks lib function d rest (.unpairedArgument function d.name)
  | pointless : d.tag = .arrayPointer → (¬∃ target, lib.PointerTo d.type target) →
      Breaks lib function d rest (.unpairedArgument function d.name)
  | noErrors : d.tag = .error → lib.config.errors = none →
      Breaks lib function d rest (.missingOverride .errors function)
  | noPanics : d.tag = .panic → lib.config.panics = none →
      Breaks lib function d rest (.missingOverride .panics function)

/-- A phrase with what it is read from. -/
theorem phrase_cases (phrase : ds.map (·.tag) ∈ phrases) :
    (∃ d, d.tag.isSingle ∧ ds = [d]) ∨
      ∃ pointer length kind, pointer.tag.paired? = some (kind, length.tag) ∧
        ds = [pointer, length] := by
  rcases mem_phrases.1 phrase with ⟨tag, single, same⟩ | ⟨tag, kind, lengthTag, paired, same⟩
  · obtain ⟨d, rfl, rfl⟩ := List.map_eq_singleton_iff.1 same
    exact .inl ⟨d, single, rfl⟩
  · obtain ⟨pointer, others, rfl, rfl, behind⟩ := List.map_eq_cons_iff.1 same
    obtain ⟨length, rfl, rfl⟩ := List.map_eq_singleton_iff.1 behind
    exact .inr ⟨pointer, length, kind, paired, rfl⟩

theorem accepts_nil (lib : Library) : lib.Accepts [] :=
  ⟨mem_tagGrammar.2 ⟨[], rfl, by simp⟩, by simp⟩

theorem Accepts.phrase (phrase : ds.map (·.tag) ∈ phrases) (admits : ∀ d ∈ ds, lib.Admits d)
    (accepts : lib.Accepts rest) : lib.Accepts (ds ++ rest) := by
  refine ⟨?_, List.forall_mem_append.2 ⟨admits, accepts.2⟩⟩
  obtain ⟨parts, same, each⟩ := mem_tagGrammar.1 accepts.1
  rw [List.map_append, same]
  exact mem_tagGrammar.2 ⟨ds.map (·.tag) :: parts, rfl, List.cons_subset.2 ⟨phrase, each⟩⟩

/-- Accepted arguments are taken phrase by phrase. -/
theorem Accepts.induction {motive : (ds : List ArgDecl) → lib.Accepts ds → Prop}
    (nil : motive [] lib.accepts_nil)
    (phrase : ∀ ds rest (phrase : ds.map (·.tag) ∈ phrases) (admits : ∀ d ∈ ds, lib.Admits d)
      (accepts : lib.Accepts rest), motive rest accepts →
        motive (ds ++ rest) (accepts.phrase phrase admits))
    (accepts : lib.Accepts ds) : motive ds accepts := by
  obtain ⟨parts, same, each⟩ := mem_tagGrammar.1 accepts.1
  induction parts generalizing ds with
  | nil =>
    obtain rfl := List.map_eq_nil_iff.1 same
    exact nil
  | cons part parts ih =>
    obtain ⟨first, later, rfl, rfl, behind⟩ := List.map_eq_append_iff.1 same
    have ⟨here, others⟩ := List.forall_mem_append.1 accepts.2
    have ⟨isPhrase, each⟩ := List.cons_subset.1 each
    have rest : lib.Accepts later := ⟨mem_tagGrammar.2 ⟨parts, behind, each⟩, others⟩
    exact phrase first later isPhrase here rest (ih rest behind each)

/-- The first phrase of a list is admitted, or the reading breaks at once. -/
theorem phrase_or_breaks (lib : Library) (function : String) (d : ArgDecl) (rest : List ArgDecl) :
    (∃ first later, d :: rest = first ++ later ∧ first ≠ [] ∧ first.map (·.tag) ∈ phrases ∧
      ∀ d ∈ first, lib.Admits d) ∨ ∃ e, lib.Breaks function d rest e := by
  by_cases single : [d.tag] ∈ phrases
  · have notArray : d.tag ≠ .arrayPointer := fun array => by simp [array, phrases] at single
    by_cases noErrors : d.tag = .error ∧ lib.config.errors = none
    · exact .inr ⟨_, .noErrors noErrors.1 noErrors.2⟩
    · by_cases noPanics : d.tag = .panic ∧ lib.config.panics = none
      · exact .inr ⟨_, .noPanics noPanics.1 noPanics.2⟩
      · refine .inl ⟨[d], rest, rfl, by simp, single, List.forall_mem_singleton.2 ?_⟩
        exact {
          points := fun array => absurd array notArray
          errors := fun tag none => noErrors ⟨tag, none⟩
          panics := fun tag none => noPanics ⟨tag, none⟩ }
  · by_cases pair : ∀ next ∈ rest.head?, [d.tag, next.tag] ∉ phrases
    · exact .inr ⟨_, .alone single pair⟩
    · push Not at pair
      obtain ⟨next, behind, pair⟩ := pair
      obtain ⟨later, rfl⟩ := List.head?_eq_some_iff.1 behind
      by_cases pointless : d.tag = .arrayPointer ∧ ¬∃ target, lib.PointerTo d.type target
      · exact .inr ⟨_, .pointless pointless.1 pointless.2⟩
      · refine .inl ⟨[d, next], later, rfl, by simp, pair, ?_⟩
        -- No record stands in a pair, and no pointer second.
        have tags : d.tag ≠ .error ∧ d.tag ≠ .panic ∧ next.tag ≠ .arrayPointer ∧
            next.tag ≠ .error ∧ next.tag ≠ .panic := by
          refine ⟨?_, ?_, ?_, ?_, ?_⟩ <;> intro tag <;> simp [tag, phrases] at pair
        obtain ⟨noError, noPanic, isLength, noError', noPanic'⟩ := tags
        refine List.forall_mem_cons.2 ⟨?_, List.forall_mem_singleton.2 ?_⟩
        · exact {
            points := fun array => by
              by_contra nowhere
              exact pointless ⟨array, nowhere⟩
            errors := fun tag => absurd tag noError
            panics := fun tag => absurd tag noPanic }
        · exact {
            points := fun tag => absurd tag isLength
            errors := fun tag => absurd tag noError'
            panics := fun tag => absurd tag noPanic' }

/-- Arguments are accepted, or the reading breaks behind some that are. -/
theorem accepts_or_breaks (lib : Library) (function : String) (ds : List ArgDecl) :
    lib.Accepts ds ∨ ∃ before d rest e, ds = before ++ d :: rest ∧ lib.Accepts before ∧
      lib.Breaks function d rest e := by
  induction size : ds.length using Nat.strongRecOn generalizing ds with
  | _ size ih =>
    cases ds with
    | nil => exact .inl lib.accepts_nil
    | cons d rest =>
      rcases lib.phrase_or_breaks function d rest with
        ⟨first, later, split, nonempty, phrase, admits⟩ | ⟨e, breaks⟩
      · have positive := List.length_pos_iff.2 nonempty
        rw [split, List.length_append] at size
        rw [split]
        rcases ih later.length (by omega) later rfl with
          accepts | ⟨before, d, rest, e, rfl, accepts, breaks⟩
        · exact .inl (accepts.phrase phrase admits)
        · exact .inr ⟨first ++ before, d, rest, e, (List.append_assoc ..).symm,
            accepts.phrase phrase admits, breaks⟩
      · exact .inr ⟨[], d, rest, e, rfl, lib.accepts_nil, breaks⟩

/-! ### Reading -/

/-- A key that resolves at all does so on every table of the library. -/
theorem Raised.resolve (raised : lib.Raised t) (founded : lib.Founded key) :
    ∃ id t', on (lib.resolve key) t = (.ok id, t') ∧ lib.Raised t' ∧ TypeTable.Extends t t' ∧
      t'.find? key = some id := by
  have ⟨after, grows⟩ := lib.resolve_raised key t raised
  obtain ⟨bare, built, same⟩ := raised
  obtain ⟨id, bare', run⟩ := lib.resolveIn_of_founded [] built.waiting founded (by simp)
  obtain ⟨alike, reflagged⟩ := lib.resolveIn_blind [] key bare t same
  have found := (lib.resolveIn_waiting []).finds built.waiting run
  rw [run] at alike reflagged
  rw [← reflagged.find?] at found
  exact ⟨id, (on (lib.resolve key) t).2, Prod.ext alike rfl, after, grows, found⟩

theorem Raised.pointee_eq_none_iff (raised : lib.Raised t) (found : t.find? key = some id) :
    t.pointee id = none ↔ ¬∃ target, lib.PointerTo key target := by
  obtain ⟨bare, built, same⟩ := raised
  rw [same.find?] at found
  rw [same.pointee]
  constructor
  · rintro nowhere ⟨target, pointer⟩
    obtain ⟨ref, points, _⟩ := pointer.find? built found
    rw [nowhere] at points
    cases points
  · intro nowhere
    refine Option.eq_none_iff_forall_ne_some.2 fun pointee points => nowhere ?_
    obtain ⟨target, pointer, _⟩ := built.pointerTo found points
    exact ⟨target, pointer⟩

/-- A pointer with a length of its tag is one argument, unless it has to point and does not. -/
theorem pairedArgument_eq_none_iff {arg : WrapperArg} {kind : ArgKind} {lengthType : TypeId} :
    pairedArgument t arg kind lengthType = none ↔ kind = .slice ∧ t.pointee arg.type = none := by
  unfold pairedArgument
  split
  next slice => simp [slice]
  next other => simp [other]

theorem paired?_slice {tag lengthTag : ArgTag} {kind : ArgKind}
    (paired : tag.paired? = some (kind, lengthTag)) : kind = .slice ↔ tag = .arrayPointer := by
  cases tag <;> simp [ArgTag.paired?] at paired <;> simp [← paired.1]

/-- An admitted phrase is read as one argument, whatever is behind it. -/
theorem Raised.on_arguments_phrase (raised : lib.Raised t) (phrase : ds.map (·.tag) ∈ phrases)
    (admits : ∀ d ∈ ds, lib.Admits d) (founded : ∀ d ∈ ds, lib.Founded d.type)
    (function : String) (index : Nat) :
    ∃ arg t', lib.Raised t' ∧ ∀ rest, on (lib.arguments function index (ds ++ rest)) t =
      on ((arg :: ·) <$> lib.arguments function (index + ds.length) rest) t' := by
  rcases phrase_cases phrase with ⟨d, single, rfl⟩ | ⟨pointer, length, kind, paired, rfl⟩
  · have admitted := admits d (List.mem_singleton_self d)
    obtain ⟨type, t', run, after, _⟩ := raised.resolve (founded d (List.mem_singleton_self d))
    cases tag : d.tag <;> simp [tag, ArgTag.isSingle] at single
    case normal =>
      refine ⟨normalArgument t' (argument t' index d type), t', after, fun rest => ?_⟩
      rw [List.singleton_append, arguments, on_bind, run]
      simp only [on_get_bind, tag, ArgTag.paired?]
      rfl
    case error =>
      refine ⟨{ argument t' index d type with kind := .errorOut }, t', after, fun rest => ?_⟩
      rw [List.singleton_append, arguments, on_bind, run]
      have given := admitted.errors tag
      simp only [on_get_bind, tag, ArgTag.paired?]
      rw [if_neg (by simpa using given)]
      rfl
    case panic =>
      refine ⟨{ argument t' index d type with kind := .panicOut }, t', after, fun rest => ?_⟩
      rw [List.singleton_append, arguments, on_bind, run]
      have given := admitted.panics tag
      simp only [on_get_bind, tag, ArgTag.paired?]
      rw [if_neg (by simpa using given)]
      rfl
  · have ⟨isPointer, others⟩ := List.forall_mem_cons.1 admits
    obtain ⟨type, between, run, stands, _, atPointer⟩ := raised.resolve (founded pointer (by simp))
    obtain ⟨lengthType, t', run', after, grows, _⟩ := stands.resolve (founded length (by simp))
    have atPointer := grows.find? atPointer
    have made : ∃ arg, pairedArgument t' (argument between index pointer type) kind lengthType =
        some arg := by
      refine Option.ne_none_iff_exists'.1 fun none => ?_
      obtain ⟨slice, nowhere⟩ := pairedArgument_eq_none_iff.1 none
      exact (after.pointee_eq_none_iff atPointer).1 nowhere
        (isPointer.points ((paired?_slice paired).1 slice))
    obtain ⟨arg, made⟩ := made
    refine ⟨arg, t', after, fun rest => ?_⟩
    rw [List.cons_append, List.singleton_append, arguments, on_bind, run]
    simp only [paired, ne_eq, not_true_eq_false, if_false, on_bind, run', on_get, made]
    rw [map_eq_pure_bind, on_bind]
    rfl

/-- Accepted arguments are read, and then those behind them. -/
theorem Raised.on_arguments_append (raised : lib.Raised t) (accepts : lib.Accepts before)
    (founded : ∀ d ∈ before, lib.Founded d.type) (function : String) (index : Nat) :
    ∃ args t', lib.Raised t' ∧ ∀ rest, on (lib.arguments function index (before ++ rest)) t =
      on ((args ++ ·) <$> lib.arguments function (index + before.length) rest) t' := by
  induction accepts using Accepts.induction generalizing t index with
  | nil => exact ⟨[], t, raised, fun rest => by simp⟩
  | phrase ds later isPhrase admits _ ih =>
    have ⟨here, others⟩ := List.forall_mem_append.1 founded
    obtain ⟨arg, between, stands, first⟩ :=
      raised.on_arguments_phrase isPhrase admits here function index
    obtain ⟨args, t', after, behind⟩ := ih stands others (index + ds.length)
    refine ⟨arg :: args, t', after, fun rest => ?_⟩
    rw [List.append_assoc, first, on_map, behind, on_map, on_map, List.length_append, Nat.add_assoc]
    rcases on (lib.arguments function (index + (ds.length + later.length)) rest) t' with
      ⟨_ | _, _⟩ <;> rfl

/-- Where the reading breaks it fails. -/
theorem Raised.on_arguments_breaks (raised : lib.Raised t)
    (founded : ∀ other ∈ d :: rest, lib.Founded other.type) (breaks : lib.Breaks function d rest e)
    (index : Nat) : (on (lib.arguments function index (d :: rest)) t).1 = .error e := by
  have ⟨here, others⟩ := List.forall_mem_cons.1 founded
  obtain ⟨type, between, run, stands, _, atPointer⟩ := raised.resolve here
  rw [arguments, on_bind, run]
  cases breaks with
  | alone single pair =>
    rcases paired : d.tag.paired? with _ | ⟨kind, lengthTag⟩
    · have stray : d.tag.isSingle = false := by
        by_contra isSingle
        exact single (mem_phrases.2 (.inl ⟨d.tag, by simpa using isSingle, rfl⟩))
      cases tag : d.tag <;> simp [tag, ArgTag.isSingle, ArgTag.paired?] at stray paired <;> rfl
    · cases rest with
      | nil => rfl
      | cons next rest =>
        have other : next.tag ≠ lengthTag := by
          rintro rfl
          exact pair next rfl (mem_phrases.2 (.inr ⟨d.tag, kind, next.tag, paired, rfl⟩))
        simp [other]
  | pointless array nowhere =>
    cases rest with
    | nil => simp [array, ArgTag.paired?]
    | cons next rest =>
      by_cases other : next.tag = .arrayLength
      · obtain ⟨lengthType, t', run', after, grows, _⟩ := stands.resolve (others next (by simp))
        have none : pairedArgument t' (argument between index d type) .slice lengthType = none :=
          pairedArgument_eq_none_iff.2
            ⟨rfl, (after.pointee_eq_none_iff (grows.find? atPointer)).2 nowhere⟩
        simp [array, ArgTag.paired?, other, on_bind, run', none]
      · simp [array, ArgTag.paired?, other]
  | noErrors tag none => simp [tag, ArgTag.paired?, none]
  | noPanics tag none => simp [tag, ArgTag.paired?, none]

/-- Where the types of its arguments resolve, a function is read exactly if its arguments are
phrases that are admitted. Otherwise the reading fails at the first argument that no such phrase
begins with: a pointer without its length or that does not point, a length without its pointer, or
a record that is not configured. -/
theorem arguments_accepted_iff (reached : lib.Reached t)
    (resolves : ∀ d ∈ ds, ∃ id t', on (lib.resolve d.type) {} = (.ok id, t'))
    (function : String) (index : Nat) :
    ((∃ args t', on (lib.arguments function index ds) t = (.ok args, t')) ↔ lib.Accepts ds) ∧
    ∀ e, (on (lib.arguments function index ds) t).1 = .error e ↔
      ∃ before d rest, ds = before ++ d :: rest ∧ lib.Accepts before ∧
        lib.Breaks function d rest e := by
  have raised := reached.raised
  have founded : ∀ d ∈ ds, lib.Founded d.type := by
    intro d member
    obtain ⟨id, t', run⟩ := resolves d member
    have waiting := (built_empty lib).waiting
    obtain ⟨⟨_, built⟩, _⟩ := (lib.resolveIn_waiting []).keeps d.type {} waiting
    have found := (lib.resolveIn_waiting []).finds waiting run
    rw [← Library.resolve, run] at built
    exact built.founded found
  have read (accepts : lib.Accepts ds) :
      ∃ args t', on (lib.arguments function index ds) t = (.ok args, t') := by
    obtain ⟨args, t', _, run⟩ := raised.on_arguments_append accepts founded function index
    refine ⟨args, t', ?_⟩
    have whole := run []
    rw [List.append_nil] at whole
    rw [whole, on_map, arguments, on_pure]
    simp [Except.map]
  have fails {before rest : List ArgDecl} {d : ArgDecl} {e : Error}
      (split : ds = before ++ d :: rest) (accepts : lib.Accepts before)
      (breaks : lib.Breaks function d rest e) :
      (on (lib.arguments function index ds) t).1 = .error e := by
    subst split
    obtain ⟨here, others⟩ := List.forall_mem_append.1 founded
    obtain ⟨args, t', after, run⟩ := raised.on_arguments_append accepts here function index
    rw [run, on_map, after.on_arguments_breaks others breaks]
    rfl
  refine ⟨⟨?_, read⟩, fun e => ⟨fun failed => ?_, ?_⟩⟩
  · rintro ⟨args, t', run⟩
    rcases lib.accepts_or_breaks function ds with accepts | ⟨_, _, _, _, split, accepts, breaks⟩
    · exact accepts
    · have failed := fails split accepts breaks
      rw [run] at failed
      cases failed
  · rcases lib.accepts_or_breaks function ds with
      accepts | ⟨before, d, rest, e', split, accepts, breaks⟩
    · obtain ⟨args, t', run⟩ := read accepts
      rw [run] at failed
      cases failed
    · have failed' := fails split accepts breaks
      rw [failed] at failed'
      cases failed'
      exact ⟨before, d, rest, split, accepts, breaks⟩
  · rintro ⟨before, d, rest, split, accepts, breaks⟩
    exact fails split accepts breaks

def samples : Library where
  description := {
    types := ⟨[("char", { kind := .primitive }),
      ("char*", { kind := .pointer, inner := some "char" }),
      ("float", { kind := .primitive }),
      ("float*", { kind := .pointer, inner := some "float" }),
      ("samples", { kind := .typedef, inner := some "float*" }),
      ("size_t", { kind := .primitive })], by decide⟩ }
  config := { link := "samples" }

def crossedLengths : List ArgDecl :=
  [{ name := "name", type := "char*", tag := .stringPointer },
   { name := "name_length", type := "size_t", tag := .stringLength },
   { name := "data", type := "samples", tag := .arrayPointer },
   { name := "size", type := "size_t", tag := .blobSize }]

/-- Its reading fails behind the name. -/
theorem crossedLengths_unpaired : samples.Reached {} ∧
    (∀ d ∈ crossedLengths, ∃ id t', on (samples.resolve d.type) {} = (.ok id, t')) ∧
    (∃ before d rest, crossedLengths = before ++ d :: rest ∧ samples.Accepts before ∧
      samples.Breaks "record" d rest (.unpairedArgument "record" "data")) ∧
    ¬samples.Accepts crossedLengths := by
  have resolves : ∀ d ∈ crossedLengths, ∃ id t', on (samples.resolve d.type) {} = (.ok id, t') := by
    have checked : ∀ d ∈ crossedLengths, (on (samples.resolve d.type) {}).1.toOption.isSome := by
      decide +kernel
    intro d member
    have holds := checked d member
    rcases run : on (samples.resolve d.type) {} with ⟨_ | id, t'⟩
    · rw [run] at holds
      cases holds
    · exact ⟨id, t', rfl⟩
  have failed : (on (samples.arguments "record" 0 crossedLengths) {}).1 =
      .error (.unpairedArgument "record" "data") := by decide +kernel
  obtain ⟨accepted, breaks⟩ := arguments_accepted_iff .new resolves "record" 0
  refine ⟨.new, resolves, (breaks _).1 failed, fun accepts => ?_⟩
  obtain ⟨args, t', run⟩ := accepted.2 accepts
  rw [run] at failed
  cases failed

end Library

end Bindery
