import Bindery.Proofs.Blueprint
import Bindery.Proofs.Ownership
import Bindery.Analysis

/-!
# Other declarations

What is declared decides which structs, enums, functions and globals are bound, and in which order,
but not how any of them is.
-/
namespace Bindery

open Typing

def Library.redeclare (lib : Library) (ds : List Declaration) : Library :=
  { lib with description := { lib.description with declarations := ds } }

namespace Library

variable (lib : Library) (ds : List Declaration)

theorem resolveIn_redeclare (active : List String) :
    (lib.redeclare ds).resolveIn active = lib.resolveIn active := by
  induction active using waiting_induction lib with
  | _ active ih =>
    funext key t
    change on _ t = on _ t
    rw [on_resolveIn_make, on_resolveIn_make]
    cases t.find? key with
    | some id => rfl
    | none =>
      by_cases waits : key ∈ active
      · simp only [if_pos waits]
      · have made :
            on ((lib.redeclare ds).make ((lib.redeclare ds).resolveIn (key :: active)) key) t =
              on (lib.make (lib.resolveIn (key :: active)) key) t := by
          cases drawn : lib.blueprint key with
          | error e =>
            have drawn' : (lib.redeclare ds).blueprint key = .error e := drawn
            rw [on_make_of_error drawn, on_make_of_error drawn']
          | ok p =>
            rw [ih key p waits drawn]
            rfl
        simp only [if_neg waits, made]

@[simp] theorem resolve_redeclare : (lib.redeclare ds).resolve = lib.resolve :=
  resolveIn_redeclare lib ds []

theorem expandIn_redeclare (owner : StructDecl) (active : List String) (field : FieldDecl) :
    (lib.redeclare ds).description.expandIn owner active field =
      lib.description.expandIn owner active field := by
  fun_induction lib.description.expandIn owner active field with
  | case1 active field named => rw [Description.expandIn, if_pos named]
  | case2 active field anonymous name absent =>
    rw [Description.expandIn, if_neg anonymous]
    dsimp only
    split
    next => rfl
    next found => cases absent.symm.trans found
  | case3 active field anonymous name inner found waits =>
    rw [Description.expandIn, if_neg anonymous]
    dsimp only
    split
    next absent => cases found.symm.trans absent
    next => exact dif_pos waits
  | case4 active field anonymous name inner found fresh ih =>
    rw [Description.expandIn, if_neg anonymous]
    dsimp only
    split
    next absent => cases found.symm.trans absent
    next other found' =>
      obtain rfl := Option.some.inj (found.symm.trans found')
      refine (dif_neg fresh).trans ?_
      have same : (fun f => (lib.redeclare ds).description.expandIn owner (name :: active) f) =
          fun f => lib.description.expandIn owner (name :: active) f := funext ih
      rw [← same]
      rfl

theorem initializer?_redeclare (t : TypeTable) (role : Role) :
    (lib.redeclare ds).initializer? t role = lib.initializer? t role := by
  funext id
  induction id using Nat.strongRecOn with
  | _ id ih =>
    rw [initializer?, initializer?.eq_def lib]
    dsimp only
    cases (t.target id).inner with
    | none => rfl
    | some inner =>
      by_cases earlier : inner < id
      · simp only [if_pos earlier, ih inner earlier]
        rfl
      · simp only [if_neg earlier]
        rfl

theorem arguments_redeclare (function : String) (index : Nat) (args : List ArgDecl) :
    (lib.redeclare ds).arguments function index args = lib.arguments function index args := by
  fun_induction lib.arguments function index args with
  | case1 => rfl
  | case2 index a rest afterPair afterOne =>
    rw [arguments, resolve_redeclare]
    cases rest with
    | nil =>
      simp only [afterOne]
      rfl
    | cons length rest =>
      have afterPair : (lib.redeclare ds).arguments function (index + 2) rest =
          lib.arguments function (index + 2) rest := afterPair
      simp only [afterOne, afterPair]
      rfl

theorem firstPointingTo_redeclare (native : String) (fs : List FunctionDecl) :
    (lib.redeclare ds).firstPointingTo native fs = lib.firstPointingTo native fs := by
  induction fs with
  | nil => rfl
  | cons f fs ih =>
    rw [firstPointingTo, firstPointingTo, ih, pointsTo, pointsTo, resolve_redeclare]

/-! ### What is bound -/

@[simp] theorem layout_redeclare (s : StructDecl) :
    (lib.redeclare ds).layout s = lib.layout s := by
  have flatten : (lib.redeclare ds).description.flatten s = lib.description.flatten s := by
    funext fields
    rw [Description.flatten, Description.flatten, funext (expandIn_redeclare lib ds s [])]
  have defaults (t : TypeTable) (role : Role) (fields : List LayoutField) :
      (lib.redeclare ds).defaultImpl t s role fields = lib.defaultImpl t s role fields := by
    simp only [defaultImpl, initializer?_redeclare]
    rfl
  have field : (lib.redeclare ds).layoutField = lib.layoutField := by
    funext s role siblings field
    simp only [layoutField, resolve_redeclare]
  simp only [layout, field, resolve_redeclare, flatten, defaults]
  rfl

@[simp] theorem declaredLayout_redeclare :
    (lib.redeclare ds).declaredLayout = lib.declaredLayout := by
  funext name
  simp only [declaredLayout, layout_redeclare]
  rfl

@[simp] theorem root_redeclare (s : StructDecl) : (lib.redeclare ds).root s = lib.root s := by
  simp only [root, lifecycle, firstPointingTo_redeclare, resolve_redeclare]
  rfl

@[simp] theorem addRoot_redeclare : (lib.redeclare ds).addRoot = lib.addRoot := by
  funext roots f
  simp only [addRoot, root_redeclare]
  rfl

@[simp] theorem wrapper_redeclare (roots : List Root) :
    (lib.redeclare ds).wrapper roots = lib.wrapper roots := by
  funext f
  simp only [wrapper, arguments_redeclare, resolve_redeclare]
  rfl

@[simp] theorem global_redeclare : (lib.redeclare ds).global = lib.global := by
  funext g
  simp only [global, resolve_redeclare]
  rfl

end Library

end Bindery
