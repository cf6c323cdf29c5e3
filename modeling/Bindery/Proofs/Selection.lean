import Bindery.Proofs.Members

/-!
# Selected members

What the expansion of anonymous members yields: the named members that it meets, and of each union
those of the selected alternative only.
-/
namespace Bindery

theorem FirstOf.mem {p : FieldDecl → Bool} {fields : List FieldDecl} {f : FieldDecl}
    (first : FirstOf p fields f) : f ∈ fields := by
  obtain ⟨_, before, after, rfl, _⟩ := first
  simp

theorem StructDecl.Selects.mem {u : StructDecl} {f : FieldDecl} (selected : u.Selects f) :
    f ∈ u.fields := by
  rcases selected with first | ⟨_, first⟩ <;> exact first.mem

namespace Description

section Selected

variable {d : Description} {owner : StructDecl} {fields : List FieldDecl} {f : FieldDecl}
  {out : List FieldDecl} {e : Error}

def Describes (d : Description) (f : FieldDecl) : Prop :=
  ∃ name s, d.structs.find? name = some s ∧ f ∈ s.fields

theorem Replaces.described {members : List FieldDecl} (replaces : d.Replaces f members) :
    ∀ g ∈ members, d.Describes g := by
  intro g member
  cases replaces with
  | struct found => exact ⟨_, _, found, member⟩
  | union found _ selected =>
    obtain rfl := List.mem_singleton.1 member
    exact ⟨_, _, found, selected.mem⟩

theorem turns_described {fields' : List FieldDecl}
    (turns : Relation.ReflTransGen d.Turn fields fields') :
    ∀ g ∈ fields', g ∈ fields ∨ d.Describes g := by
  induction turns with
  | refl => exact fun _ => .inl
  | tail _ turn ih =>
    intro g member
    cases turn with
    | pass => exact ih g (List.mem_cons_of_mem _ member)
    | replace _ replaces =>
      rcases List.mem_append.1 member with inside | behind
      · exact .inr (replaces.described g inside)
      · exact ih g (List.mem_cons_of_mem _ behind)

/-- What is met is one of the members given, or a field of a described struct. -/
theorem Meets.described (meets : d.Meets fields f) : f ∈ fields ∨ d.Describes f := by
  obtain ⟨rest, turns⟩ := meets
  exact turns_described turns f List.mem_cons_self

/-- The outcome of an expansion holds the named members that it meets. -/
theorem Expands.mem_iff (expands : d.Expands owner fields (.ok out)) :
    f ∈ out ↔ f.name ≠ "" ∧ d.Meets fields f := by
  generalize ended : Except.ok out = r at expands
  induction expands generalizing out with
  | nil =>
    cases ended
    exact ⟨nofun, fun ⟨_, meets⟩ => absurd meets not_meets_nil⟩
  | @named first rest r named _ ih =>
    cases r with
    | error e => cases ended
    | ok more =>
      cases ended
      rw [List.mem_cons, ih rfl, meets_cons_iff]
      constructor
      · rintro (rfl | ⟨visible, later⟩)
        · exact ⟨named, .inl rfl⟩
        · exact ⟨visible, .inr (.inl ⟨named, later⟩)⟩
      · rintro ⟨visible, rfl | ⟨_, later⟩ | ⟨_, unnamed, _⟩⟩
        · exact .inl rfl
        · exact .inr ⟨visible, later⟩
        · exact absurd unnamed named
  | @anonymous first members rest r unnamed replaces _ ih =>
    rw [ih ended, meets_cons_iff]
    constructor
    · exact fun ⟨visible, later⟩ => ⟨visible, .inr (.inr ⟨members, unnamed, replaces, later⟩)⟩
    · rintro ⟨visible, rfl | ⟨named, _⟩ | ⟨_, _, replaces', later⟩⟩
      · exact absurd unnamed visible
      · exact absurd unnamed named
      · obtain rfl := replaces.unique rfl replaces'
        exact ⟨visible, later⟩
  | faulty => cases ended

theorem Turn.expands {fields' : List FieldDecl} (turn : d.Turn fields fields')
    (expands : d.Expands owner fields' (.error e)) : d.Expands owner fields (.error e) := by
  cases turn with
  | pass named => exact .named named expands
  | replace unnamed replaces => exact .anonymous unnamed replaces expands

/-- An expansion fails where it meets a member that cannot be replaced. -/
theorem expands_error_iff : d.Expands owner fields (.error e) ↔
    ∃ f, d.Meets fields f ∧ f.name = "" ∧ d.Faulty owner f e := by
  constructor
  · intro expands
    generalize ended : Except.error e = r at expands
    induction expands with
    | nil => cases ended
    | @named first rest r named _ ih =>
      cases r with
      | ok more => cases ended
      | error e' =>
        cases ended
        obtain ⟨f, meets, faulty⟩ := ih rfl
        exact ⟨f, meets.after (.single (.pass named)), faulty⟩
    | anonymous unnamed replaces _ ih =>
      obtain ⟨f, meets, faulty⟩ := ih ended
      exact ⟨f, meets.after (.single (.replace unnamed replaces)), faulty⟩
    | faulty unnamed faulty =>
      cases ended
      exact ⟨_, meets_self d _ _, unnamed, faulty⟩
  · rintro ⟨f, ⟨rest, turns⟩, unnamed, faulty⟩
    induction turns using Relation.ReflTransGen.head_induction_on with
    | refl => exact .faulty unnamed faulty
    | head turn _ ih => exact turn.expands ih

theorem flatten_eq_ok_iff :
    d.flatten owner fields = .ok out ↔ d.Expands owner fields (.ok out) := by
  refine ⟨fun run => ?_, Expands.flatten⟩
  rw [← run]
  exact expands_flatten fun recurs => nomatch run.symm.trans recurs.flatten

theorem flatten_eq_error_iff : d.flatten owner fields = .error e ↔
    (∃ f, d.Meets fields f ∧ f.name = "" ∧ d.Faulty owner f e) ∨
      d.Recurs fields ∧ e = .endless owner.name := by
  rw [← expands_error_iff]
  constructor
  · intro run
    by_cases recurs : d.Recurs fields
    · exact .inr ⟨recurs, Except.error.inj (run.symm.trans recurs.flatten)⟩
    · exact .inl (run ▸ expands_flatten recurs)
  · rintro (expands | ⟨recurs, rfl⟩)
    · exact expands.flatten
    · exact recurs.flatten

theorem flatten_append (d : Description) (owner : StructDecl) (front back : List FieldDecl) :
    d.flatten owner (front ++ back) = (do
      let first ← d.flatten owner front
      let second ← d.flatten owner back
      return first ++ second) := by
  unfold flatten
  rw [List.mapM_append]
  cases front.mapM (d.expandIn owner []) with
  | error e => rfl
  | ok first =>
    cases back.mapM (d.expandIn owner []) with
    | error e => rfl
    | ok second => exact congrArg Except.ok List.flatten_append

end Selected

/-- Flattening yields the named members that the expansion meets, unchanged and from left to right.
It fails at the first member that cannot be replaced, and does not end if the expansion comes
back. -/
theorem flatten_selects (d : Description) (owner : StructDecl) (fields : List FieldDecl) :
    (∀ out, d.flatten owner fields = .ok out ↔ d.Expands owner fields (.ok out)) ∧
    (∀ out, d.flatten owner fields = .ok out → ∀ f,
      (f ∈ out ↔ f.name ≠ "" ∧ d.Meets fields f) ∧ (f ∈ out → f ∈ fields ∨ d.Describes f)) ∧
    (∀ more, d.flatten owner (fields ++ more) = (do
      let first ← d.flatten owner fields
      let second ← d.flatten owner more
      return first ++ second)) ∧
    ∀ e, d.flatten owner fields = .error e ↔
      (∃ f, d.Meets fields f ∧ f.name = "" ∧ d.Faulty owner f e) ∨
        d.Recurs fields ∧ e = .endless owner.name := by
  refine ⟨fun _ => flatten_eq_ok_iff, fun out run f => ?_, flatten_append d owner fields,
    fun _ => flatten_eq_error_iff⟩
  have mem_iff := (flatten_eq_ok_iff.1 run).mem_iff (f := f)
  exact ⟨mem_iff, fun member => (mem_iff.1 member).2.described⟩

def shapes : Description where
  structs := ⟨[
    ("box",
      { name := "box", fields := [{ name := "width", type := "int" }, { type := "extent" }] }),
    ("extent",
      { name := "extent", isUnion := true
        fields := [{ name := "depth", type := "int" },
          { name := "height", type := "int", unionSized := true }] }),
    ("payload",
      { name := "payload", isUnion := true
        fields := [{ name := "small", type := "int", unionSized := true },
          { type := "box", unionSized := true, unionPreferred := true }] })], by decide⟩

/-- The box is preferred to what is small, and its height stands for its extent. -/
theorem shape_flattened :
    let owner : StructDecl :=
      { name := "shape", fields := [{ name := "tag", type := "int" }, { type := "payload" }] }
    let small : FieldDecl := { name := "small", type := "int", unionSized := true }
    shapes.flatten owner owner.fields = .ok [{ name := "tag", type := "int" },
      { name := "width", type := "int" }, { name := "height", type := "int", unionSized := true }] ∧
    ¬shapes.Meets owner.fields small := by
  intro owner small
  let tag : FieldDecl := { name := "tag", type := "int" }
  let width : FieldDecl := { name := "width", type := "int" }
  let height : FieldDecl := { name := "height", type := "int", unionSized := true }
  let box : FieldDecl := { type := "box", unionSized := true, unionPreferred := true }
  have extent : shapes.Replaces { type := "extent" } [height] :=
    .union rfl rfl (.inr ⟨by decide, rfl, [{ name := "depth", type := "int" }], [], rfl, by decide⟩)
  have boxed : shapes.Replaces box [width, { type := "extent" }] :=
    .struct (s := { name := "box", fields := [width, { type := "extent" }] }) rfl rfl
  have payload : shapes.Replaces { type := "payload" } [box] :=
    .union rfl rfl (.inl ⟨rfl, [small], [], rfl, by decide⟩)
  have tall : shapes.Expands owner [height] (.ok [height]) :=
    .named (r := .ok []) (by decide) .nil
  have wide : shapes.Expands owner [width, { type := "extent" }] (.ok [width, height]) :=
    .named (r := .ok [height]) (by decide) (.anonymous rfl extent tall)
  have expands : shapes.Expands owner owner.fields (.ok [tag, width, height]) :=
    .named (r := .ok [width, height]) (by decide)
      (.anonymous rfl payload (.anonymous rfl boxed wide))
  obtain ⟨ends, holds, _⟩ := flatten_selects shapes owner owner.fields
  have run := (ends _).2 expands
  exact ⟨run, fun meets => absurd (((holds _ run small).1).2 ⟨by decide, meets⟩) (by decide)⟩

end Description

end Bindery
