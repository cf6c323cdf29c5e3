import Bindery.Native.Handle

/-!
# Counted handles

The references to an object are its live handles. So it is freed with the last of them, once, and
no call is made on it from then on.
-/
namespace Bindery

def Call.object : Call → ObjectId
  | .retain id | .release id => id

namespace Objects

variable {o : Objects} {id : ObjectId} {calls : List Call}

structure Sound (o : Objects) : Prop where
  freed : ∀ id, id ∈ o.freed ↔ id < o.counts.length ∧ o.count id = 0
  once : o.freed.Nodup

@[simp] theorem length_call (o : Objects) (c : Call) :
    (o.call c).counts.length = o.counts.length := by
  cases c <;> simp [call]

theorem lt_length_of_count_pos (live : 0 < o.count id) : id < o.counts.length := by
  rcases Nat.lt_or_ge id o.counts.length with inside | outside
  · exact inside
  · simp [count, List.getElem?_eq_none outside] at live

theorem count_retain (live : 0 < o.count id) (other : ObjectId) :
    (o.call (.retain id)).count other = o.count other + if other = id then 1 else 0 := by
  have inside := lt_length_of_count_pos live
  by_cases same : other = id
  · subst same
    simp [call, count, inside]
  · simp [call, count, same, Ne.symm same]

theorem count_release (o : Objects) (id other : ObjectId) :
    (o.call (.release id)).count other = o.count other - if other = id then 1 else 0 := by
  by_cases same : other = id
  · subst same
    by_cases inside : other < o.counts.length
    · simp [call, count, inside]
    · simp [call, count, List.getElem?_eq_none (Nat.not_lt.1 inside)]
  · simp [call, count, same, Ne.symm same]

/-- A call on a referenced object frees it exactly if it takes the last reference. -/
theorem Sound.call (sound : o.Sound) {c : Call} (live : 0 < o.count c.object) :
    (o.call c).Sound := by
  cases c with
  | retain id =>
    refine ⟨fun other => ?_, sound.once⟩
    change other ∈ o.freed ↔ _
    change 0 < o.count id at live
    rw [sound.freed, length_call, count_retain live]
    by_cases same : other = id
    · subst same
      simp only [if_true]
      omega
    · simp [same]
  | release id =>
    change 0 < o.count id at live
    have alive : id ∉ o.freed := fun freed => by
      have := (sound.freed id).1 freed
      omega
    have freed : (o.call (.release id)).freed =
        if o.count id = 1 then o.freed ++ [id] else o.freed := rfl
    constructor
    · intro other
      rw [freed, length_call, count_release]
      have inside := lt_length_of_count_pos live
      by_cases last : o.count id = 1
      · rw [if_pos last, List.mem_append, sound.freed, List.mem_singleton]
        by_cases same : other = id
        · subst same
          simp [inside, last]
        · simp [same]
      · rw [if_neg last, sound.freed]
        by_cases same : other = id
        · subst same
          simp only [if_true]
          omega
        · simp [same]
    · rw [freed]
      by_cases last : o.count id = 1
      · rw [if_pos last]
        refine List.nodup_append.2 ⟨sound.once, by simp, ?_⟩
        rintro a member b single rfl
        exact alive (List.mem_singleton.1 single ▸ member)
      · rw [if_neg last]
        exact sound.once

/-- Each call is made on an object that has references when its turn comes. -/
def Admits : Objects → List Call → Prop
  | _, [] => True
  | o, c :: rest => 0 < o.count c.object ∧ (o.call c).Admits rest

theorem Sound.foldl_call (sound : o.Sound) (admits : o.Admits calls) :
    (calls.foldl Objects.call o).Sound := by
  induction calls generalizing o with
  | nil => exact sound
  | cons c rest ih => exact ih (sound.call admits.1) admits.2

theorem Admits.live {before after : List Call} {c : Call}
    (admits : o.Admits (before ++ c :: after)) :
    0 < (before.foldl Objects.call o).count c.object := by
  induction before generalizing o with
  | nil => exact admits.1
  | cons _ _ ih => exact ih admits.2

theorem Admits.sound {before after : List Call} (sound : o.Sound)
    (admits : o.Admits (before ++ after)) : (before.foldl Objects.call o).Sound := by
  induction before generalizing o with
  | nil => exact sound
  | cons _ _ ih => exact ih (sound.call admits.1) admits.2

theorem length_foldl_call (o : Objects) (calls : List Call) :
    (calls.foldl Objects.call o).counts.length = o.counts.length := by
  induction calls generalizing o with
  | nil => rfl
  | cons c rest ih => rw [List.foldl_cons, ih, length_call]

theorem freed_prefix_call (o : Objects) (c : Call) : o.freed <+: (o.call c).freed := by
  cases c with
  | retain id => exact List.prefix_rfl
  | release id =>
    simp only [call]
    split
    · exact List.prefix_append _ _
    · exact List.prefix_rfl

theorem freed_prefix_foldl_call (o : Objects) (calls : List Call) :
    o.freed <+: (calls.foldl Objects.call o).freed := by
  induction calls generalizing o with
  | nil => exact List.prefix_rfl
  | cons c rest ih => exact (o.freed_prefix_call c).trans (ih _)

/-- Releasing takes as many references of an object as it is named. -/
theorem count_foldl_release (o : Objects) (ids : List ObjectId) (id : ObjectId) :
    ((ids.map .release).foldl Objects.call o).count id = o.count id - ids.count id := by
  induction ids generalizing o with
  | nil => simp
  | cons other ids ih =>
    rw [List.map_cons, List.foldl_cons, ih, count_release, List.count_cons]
    by_cases same : id = other
    · subst same
      simp only [if_true, beq_self_eq_true]
      omega
    · simp [same, Ne.symm same]

theorem admits_release {ids : List ObjectId} (enough : ∀ id, ids.count id ≤ o.count id) :
    o.Admits (ids.map .release) := by
  induction ids generalizing o with
  | nil => trivial
  | cons first ids ih =>
    constructor
    · have here := enough first
      rw [List.count_cons_self] at here
      change 0 < o.count first
      omega
    · apply ih
      intro id
      have here := enough id
      rw [List.count_cons] at here
      rw [count_release]
      by_cases same : id = first
      · subst same
        simp only [if_true, beq_self_eq_true] at here ⊢
        omega
      · simpa [same, Ne.symm same] using here

end Objects

namespace Handles

variable {h : Handles} {object : ObjectId} {slot : Nat}

def live (h : Handles) (object : ObjectId) : Nat := h.slots.count (some object)

structure Counted (h : Handles) : Prop where
  sound : h.objects.Sound
  count : ∀ object, h.objects.count object = h.live object

theorem live_pos_of_object? (held : h.object? slot = some object) : 0 < h.live object := by
  have member : some object ∈ h.slots := List.mem_of_getElem? (Option.join_eq_some_iff.1 held)
  exact List.count_pos_iff.2 member

/-- Dropping an empty slot does nothing. -/
theorem set_none_of_object? (empty : h.object? slot = none) : h.slots.set slot none = h.slots := by
  apply List.ext_getElem?
  intro position
  rw [List.getElem?_set]
  split
  next same =>
    subst same
    split
    next inside =>
      have here : h.slots[slot]? = some h.slots[slot] := List.getElem?_eq_getElem inside
      rw [object?, here, Option.join_some] at empty
      rw [here, empty]
    next outside => exact (List.getElem?_eq_none (Nat.not_lt.1 outside)).symm
  next => rfl

/-! ### Steps -/

/-- The object in a slot behind a step. A new handle is put behind all slots. -/
def objectAfter (h : Handles) (slot : Nat) : HandleStep → Option ObjectId
  | .allocate => if slot = h.slots.length then some h.objects.counts.length else h.object? slot
  | .adoptNull | .unwind _ => h.object? slot
  | .clone original =>
    if slot = h.slots.length then h.object? original else h.object? slot
  | .drop gone => if slot = gone then none else h.object? slot
  | .clear => none

/-- The live handles on an object behind a step: one on a new object, one more where a handle on it
is copied, one less where such a handle is dropped. -/
def liveAfter (h : Handles) (object : ObjectId) : HandleStep → Nat
  | .allocate => if object = h.objects.counts.length then 1 else h.live object
  | .adoptNull | .unwind _ => h.live object
  | .clone original => h.live object + if h.object? original = some object then 1 else 0
  | .drop gone => h.live object - if h.object? gone = some object then 1 else 0
  | .clear => 0

theorem join_getElem?_concat (slots : List (Option ObjectId)) (last : Option ObjectId)
    (slot : Nat) : ((slots ++ [last])[slot]?).join =
      if slot = slots.length then last else (slots[slot]?).join := by
  rcases Nat.lt_trichotomy slot slots.length with inside | rfl | outside
  · rw [List.getElem?_append_left inside, if_neg (Nat.ne_of_lt inside)]
  · simp
  · rw [if_neg (Nat.ne_of_gt outside), List.getElem?_eq_none (Nat.le_of_lt outside),
      List.getElem?_eq_none (by rw [List.length_append]; exact outside)]

theorem object?_step (h : Handles) (slot : Nat) (s : HandleStep) :
    (h.step s).object? slot = h.objectAfter slot s := by
  cases s with
  | allocate => exact join_getElem?_concat ..
  | adoptNull =>
    have last : (h.step .adoptNull).object? slot = ((h.slots ++ [none])[slot]?).join := rfl
    rw [last, join_getElem?_concat, objectAfter]
    split
    next beyond => simp [object?, beyond]
    next => rfl
  | clone original => exact join_getElem?_concat ..
  | drop gone =>
    have emptied : (h.step (.drop gone)).object? slot = ((h.slots.set gone none)[slot]?).join := rfl
    rw [emptied, List.getElem?_set, objectAfter]
    by_cases same : slot = gone
    · subst same
      rw [if_pos rfl, if_pos rfl]
      split <;> rfl
    · rw [if_neg (Ne.symm same), if_neg same]
      rfl
  | clear => rfl
  | unwind _ => rfl

theorem live_allocate (h : Handles) (object : ObjectId) : (h.step .allocate).live object =
    h.live object + if object = h.objects.counts.length then 1 else 0 := by
  have slots : (h.step .allocate).slots = h.slots ++ [some h.objects.counts.length] := rfl
  rw [live, live, slots, List.count_append, List.count_singleton]
  by_cases new : object = h.objects.counts.length
  · simp [new]
  · simp [new, Ne.symm new]

theorem live_adoptNull (h : Handles) (object : ObjectId) :
    (h.step .adoptNull).live object = h.live object := by
  have slots : (h.step .adoptNull).slots = h.slots ++ [none] := rfl
  simp [live, slots]

theorem live_clone (h : Handles) (original : Nat) (object : ObjectId) :
    (h.step (.clone original)).live object =
      h.live object + if h.object? original = some object then 1 else 0 := by
  have slots : (h.step (.clone original)).slots = h.slots ++ [h.object? original] := rfl
  rw [live, live, slots, List.count_append, List.count_singleton]
  simp

theorem live_drop (h : Handles) (gone : Nat) (object : ObjectId) :
    (h.step (.drop gone)).live object =
      h.live object - if h.object? gone = some object then 1 else 0 := by
  have slots : (h.step (.drop gone)).slots = h.slots.set gone none := rfl
  rw [live, slots]
  cases held : h.object? gone with
  | none =>
    rw [set_none_of_object? held]
    simp [live]
  | some other =>
    obtain ⟨inside, here⟩ := List.getElem?_eq_some_iff.1 (Option.join_eq_some_iff.1 held)
    rw [List.count_set inside, here]
    simp [live]

theorem count_filterMap_id (h : Handles) (object : ObjectId) :
    (h.slots.filterMap id).count object = h.live object := by
  rw [List.count_filterMap, live, List.count]
  rfl

/-- Only what a step calls shows in objects that are there already. -/
theorem objects_step (h : Handles) {s : HandleStep} (old : s ≠ .allocate) :
    (h.step s).objects = (h.calls s).foldl Objects.call h.objects := by
  cases s with
  | allocate => contradiction
  | _ => rfl

/-- The calls of a step are made on live objects, as many as handles come and go. -/
def Balanced (h : Handles) (s : HandleStep) : Prop :=
  h.objects.Admits (h.calls s) ∧
    ∀ object, ((h.calls s).foldl Objects.call h.objects).count object = (h.step s).live object

section Balanced

variable (count : ∀ object, h.objects.count object = h.live object)

include count

theorem balanced_of_no_calls {s : HandleStep} (silent : h.calls s = [])
    (same : ∀ object, (h.step s).live object = h.live object) : h.Balanced s := by
  rw [Balanced, silent]
  refine ⟨trivial, fun object => ?_⟩
  rw [List.foldl_nil, count, same]

theorem count_pos_of_object? (held : h.object? slot = some object) :
    0 < h.objects.count object := by
  rw [count]
  exact live_pos_of_object? held

theorem clone_balanced (slot : Nat) : h.Balanced (.clone slot) := by
  cases held : h.object? slot with
  | none =>
    apply balanced_of_no_calls count
    · simp [calls, held]
    · simp [live_clone, held]
  | some object =>
    have one : h.calls (.clone slot) = [.retain object] := by simp [calls, held]
    have retained := count_pos_of_object? count held
    rw [Balanced, one]
    refine ⟨⟨retained, trivial⟩, fun other => ?_⟩
    rw [List.foldl_cons, List.foldl_nil, Objects.count_retain retained, count, live_clone, held]
    simp [eq_comm]

theorem drop_balanced (slot : Nat) : h.Balanced (.drop slot) := by
  cases held : h.object? slot with
  | none =>
    apply balanced_of_no_calls count
    · simp [calls, held]
    · simp [live_drop, held]
  | some object =>
    have one : h.calls (.drop slot) = [.release object] := by simp [calls, held]
    rw [Balanced, one]
    refine ⟨⟨count_pos_of_object? count held, trivial⟩, fun other => ?_⟩
    rw [List.foldl_cons, List.foldl_nil, Objects.count_release, count, live_drop, held]
    simp [eq_comm]

theorem clear_balanced : h.Balanced .clear := by
  have enough object : (h.slots.filterMap id).count object ≤ h.objects.count object := by
    apply Nat.le_of_eq
    rw [count, count_filterMap_id]
  refine ⟨Objects.admits_release enough, fun object => ?_⟩
  have gone : (h.step .clear).live object = 0 := rfl
  rw [calls, Objects.count_foldl_release, count_filterMap_id, count, gone, Nat.sub_self]

theorem unwind_balanced (slot : Nat) : h.Balanced (.unwind slot) := by
  have slots : (h.step (.unwind slot)).slots = h.slots := rfl
  cases held : h.object? slot with
  | none =>
    apply balanced_of_no_calls count
    · simp [calls, held]
    · intro other
      rw [live, slots, live]
  | some object =>
    have two : h.calls (.unwind slot) = [.retain object, .release object] := by simp [calls, held]
    have retained := count_pos_of_object? count held
    rw [Balanced, two]
    refine ⟨⟨retained, ?_, trivial⟩, fun other => ?_⟩
    · rw [Objects.count_retain retained]
      exact Nat.lt_of_lt_of_le retained (Nat.le_add_right _ _)
    · rw [List.foldl_cons, List.foldl_cons, List.foldl_nil, Objects.count_release,
        Objects.count_retain retained, Nat.add_sub_cancel, count, live, live, slots]

theorem step_balanced {s : HandleStep} (old : s ≠ .allocate) : h.Balanced s := by
  cases s with
  | allocate => contradiction
  | adoptNull => exact balanced_of_no_calls count rfl h.live_adoptNull
  | clone slot => exact clone_balanced count slot
  | drop slot => exact drop_balanced count slot
  | clear => exact clear_balanced count
  | unwind slot => exact unwind_balanced count slot

end Balanced

theorem count_allocate (h : Handles) (other : ObjectId) :
    (h.step .allocate).objects.count other =
      h.objects.count other + if other = h.objects.counts.length then 1 else 0 := by
  have counts : (h.step .allocate).objects.counts = h.objects.counts ++ [1] := rfl
  simp only [Objects.count, counts, List.getD_eq_getElem?_getD]
  rcases Nat.lt_trichotomy other h.objects.counts.length with old | rfl | beyond
  · rw [List.getElem?_append_left old, if_neg (Nat.ne_of_lt old), Nat.add_zero]
  · simp
  · rw [List.getElem?_eq_none (by simp; omega), List.getElem?_eq_none (by omega),
      if_neg (Nat.ne_of_gt beyond), Nat.add_zero]

/-- A new object comes with its one handle. -/
theorem Counted.allocate (counted : h.Counted) : (h.step .allocate).Counted := by
  have size : (h.step .allocate).objects.counts.length = h.objects.counts.length + 1 :=
    List.length_append
  have freed : (h.step .allocate).objects.freed = h.objects.freed := rfl
  refine ⟨⟨fun other => ?_, ?_⟩, fun other => ?_⟩
  · rw [freed, counted.sound.freed, size, count_allocate]
    by_cases new : other = h.objects.counts.length
    · simp [new]
    · have old := Nat.lt_succ_iff_lt_or_eq.trans (or_iff_left new)
      rw [if_neg new, old]
      rfl
  · rw [freed]
    exact counted.sound.once
  · rw [count_allocate, counted.count, live_allocate]

theorem Counted.step (counted : h.Counted) (s : HandleStep) : (h.step s).Counted := by
  by_cases new : s = .allocate
  · rw [new]
    exact counted.allocate
  · have ⟨admits, balance⟩ := step_balanced counted.count new
    refine ⟨?_, fun object => ?_⟩
    · rw [objects_step h new]
      exact counted.sound.foldl_call admits
    · rw [objects_step h new]
      exact balance object

def run (h : Handles) (steps : List HandleStep) : Handles := steps.foldl step h

theorem counted_empty : ({} : Handles).Counted where
  sound := ⟨fun object => by simp, List.nodup_nil⟩
  count object := rfl

theorem Counted.run (counted : h.Counted) (steps : List HandleStep) : (h.run steps).Counted := by
  induction steps generalizing h with
  | nil => exact counted
  | cons s rest ih => exact ih (counted.step s)

/-- Every call is made on an object that has references by then. -/
theorem Counted.live_of_call (counted : h.Counted) (s : HandleStep) {before after : List Call}
    {c : Call} (split : h.calls s = before ++ c :: after) :
    c.object ∉ (before.foldl Objects.call h.objects).freed := by
  have new : s ≠ .allocate := by
    rintro rfl
    cases before <;> cases split
  have admits := (step_balanced counted.count new).1
  rw [split] at admits
  intro freed
  have gone := ((admits.sound counted.sound).freed _).1 freed
  have live := admits.live
  omega

/-- What is freed stays so. -/
theorem freed_prefix_step (h : Handles) (s : HandleStep) :
    h.objects.freed <+: (h.step s).objects.freed := by
  by_cases new : s = .allocate
  · subst new
    exact List.prefix_rfl
  · rw [objects_step h new]
    exact Objects.freed_prefix_foldl_call _ _

theorem freed_prefix_run (h : Handles) (steps : List HandleStep) :
    h.objects.freed <+: (h.run steps).objects.freed := by
  induction steps generalizing h with
  | nil => exact List.prefix_rfl
  | cons s rest ih => exact (h.freed_prefix_step s).trans (ih _)

theorem Counted.mem_freed_iff (counted : h.Counted) : object ∈ h.objects.freed ↔
    object < h.objects.counts.length ∧ h.live object = 0 := by
  rw [counted.sound.freed, counted.count]

/-- A step frees an object by taking its last handle. -/
theorem Counted.freed_by_step_iff (counted : h.Counted) (s : HandleStep) :
    object ∉ h.objects.freed ∧ object ∈ (h.step s).objects.freed ↔
      0 < h.live object ∧ (h.step s).live object = 0 := by
  have inside (live : 0 < h.live object) : object < h.objects.counts.length := by
    rw [← counted.count] at live
    exact Objects.lt_length_of_count_pos live
  by_cases new : s = .allocate
  · subst new
    have freed : (h.step .allocate).objects.freed = h.objects.freed := rfl
    have kept : h.live object ≤ (h.step .allocate).live object := by
      rw [live_allocate]
      exact Nat.le_add_right _ _
    rw [freed]
    constructor
    · rintro ⟨alive, dead⟩
      exact absurd dead alive
    · rintro ⟨live, gone⟩
      omega
  · have size : (h.step s).objects.counts.length = h.objects.counts.length := by
      rw [objects_step h new, Objects.length_foldl_call]
    rw [counted.mem_freed_iff, (counted.step s).mem_freed_iff, size]
    constructor
    · rintro ⟨alive, known, gone⟩
      refine ⟨Nat.pos_of_ne_zero fun none => alive ⟨known, none⟩, gone⟩
    · rintro ⟨live, gone⟩
      exact ⟨fun dead => Nat.ne_of_gt live dead.2, inside live, gone⟩

/-- A new object has no handles yet. -/
theorem Counted.live_new (counted : h.Counted) : h.live h.objects.counts.length = 0 := by
  rw [← counted.count]
  simp [Objects.count]

theorem Counted.live_step (counted : h.Counted) (object : ObjectId) (s : HandleStep) :
    (h.step s).live object = h.liveAfter object s := by
  cases s with
  | allocate =>
    rw [live_allocate, liveAfter]
    by_cases new : object = h.objects.counts.length
    · rw [if_pos new, if_pos new, new, counted.live_new]
    · rw [if_neg new, if_neg new, Nat.add_zero]
  | adoptNull => exact h.live_adoptNull object
  | clone original => exact h.live_clone original object
  | drop gone => exact h.live_drop gone object
  | clear => rfl
  | unwind _ => rfl

/-- The object of a handle is freed when its last handle is dropped. -/
theorem Counted.freed_by_drop_iff (counted : h.Counted) (gone : Nat) :
    object ∉ h.objects.freed ∧ object ∈ (h.step (.drop gone)).objects.freed ↔
      h.object? gone = some object ∧ h.live object = 1 := by
  rw [counted.freed_by_step_iff, live_drop]
  by_cases held : h.object? gone = some object
  · have live := live_pos_of_object? held
    simp only [held, if_true, true_and]
    omega
  · simp only [held, if_false, Nat.sub_zero, false_and, iff_false, not_and]
    exact Nat.ne_of_gt

/-- The references to an object are its live handles, now and behind every step. -/
structure Exact (h : Handles) (object : ObjectId) : Prop where
  count : h.objects.count object = h.live object
  /-- An object with a live handle is not freed, and none is freed twice. -/
  alive : 0 < h.live object → object ∉ h.objects.freed
  once : h.objects.freed.count object ≤ 1
  /-- A step leaves these handles, -/
  slots : ∀ s slot, (h.step s).object? slot = h.objectAfter slot s
  live : ∀ s, (h.step s).live object = h.liveAfter object s
  /-- and it frees the object exactly if it takes the last of them, -/
  freed : ∀ s, object ∉ h.objects.freed ∧ object ∈ (h.step s).objects.freed ↔
    0 < h.live object ∧ (h.step s).live object = 0
  /-- as the drop of the last one does. -/
  dropped : ∀ slot, object ∉ h.objects.freed ∧ object ∈ (h.step (.drop slot)).objects.freed ↔
    h.object? slot = some object ∧ h.live object = 1
  /-- Each call is made on an object that is not freed, when the step begins or within it, -/
  calls : ∀ s before c after, h.calls s = before ++ c :: after →
    c.object ∉ (before.foldl Objects.call h.objects).freed
  /-- and none is made on this one from then on. -/
  silent : object ∈ h.objects.freed → ∀ later s, ∀ c ∈ (h.run later).calls s, c.object ≠ object

/-- Whatever is done with handles, an object has as many references as live handles. Its last handle
frees it, once, and no call is made on it from then on. -/
theorem references_exact (steps : List HandleStep) (object : ObjectId) :
    (({} : Handles).run steps).Exact object := by
  generalize reached : ({} : Handles).run steps = h
  have counted : h.Counted := reached ▸ counted_empty.run steps
  constructor
  case count => exact counted.count object
  case alive =>
    intro live freed
    have gone := (counted.mem_freed_iff.1 freed).2
    omega
  case once => exact List.nodup_iff_count.1 counted.sound.once object
  case slots => exact fun s slot => h.object?_step slot s
  case live => exact counted.live_step object
  case freed => exact counted.freed_by_step_iff
  case dropped => exact counted.freed_by_drop_iff
  case calls => exact fun s before c after split => counted.live_of_call s split
  case silent =>
    rintro freed later s c member rfl
    obtain ⟨before, after, split⟩ := List.append_of_mem member
    apply (counted.run later).live_of_call s split
    have kept := (h.freed_prefix_run later).subset freed
    exact (Objects.freed_prefix_foldl_call _ before).subset kept

/-- A copy outlives its original, which is dropped first, and frees their object in the end. -/
theorem copy_outlives_original :
    let both := ({} : Handles).run [.allocate, .clone 0]
    let copy := ({} : Handles).run [.allocate, .clone 0, .drop 0]
    let last := ({} : Handles).run [.allocate, .clone 0, .drop 0, .drop 1]
    (both.Exact 0 ∧ both.live 0 = 2 ∧ both.objects.count 0 = 2) ∧
      (copy.Exact 0 ∧ copy.object? 0 = none ∧ copy.object? 1 = some 0 ∧ copy.live 0 = 1 ∧
        copy.objects.count 0 = 1 ∧ 0 ∉ copy.objects.freed) ∧
      (last.Exact 0 ∧ last.live 0 = 0 ∧ last.objects.freed = [0] ∧
        ∀ later s, ∀ c ∈ (last.run later).calls s, c.object ≠ 0) := by
  intro both copy last
  have two : both.Exact 0 := references_exact _ 0
  have one : copy.Exact 0 := references_exact _ 0
  have zero : last.Exact 0 := references_exact _ 0
  exact ⟨⟨two, rfl, two.count⟩, ⟨one, rfl, rfl, rfl, one.count, one.alive (by decide)⟩,
    zero, rfl, rfl, zero.silent (by decide)⟩

end Handles

end Bindery
