import Bindery.Description.Validate
import Bindery.Members
import Bindery.Proofs.Resolution
import Bindery.Proofs.Saving
import Mathlib.Logic.Relation

/-!
# Expanding anonymous members

Members are expanded from left to right, an anonymous one in its place. This comes to an end exactly
if the expansion of no member leads back to the struct of that member.
-/
namespace Bindery

def FirstOf (p : FieldDecl → Bool) (fields : List FieldDecl) (f : FieldDecl) : Prop :=
  p f ∧ ∃ before after, fields = before ++ f :: after ∧ ∀ g ∈ before, !p g

/-- The alternative that stands for a union: the first that is both sized and preferred, or else the
first that is sized. -/
def StructDecl.Selects (u : StructDecl) (f : FieldDecl) : Prop :=
  FirstOf (fun g => g.unionSized && g.unionPreferred) u.fields f ∨
    (∀ g ∈ u.fields, !(g.unionSized && g.unionPreferred)) ∧ FirstOf (·.unionSized) u.fields f

namespace Description

/-- What an anonymous member is replaced by: all members of its struct, or the alternative that is
selected of its union. -/
inductive Replaces (d : Description) (f : FieldDecl) : List FieldDecl → Prop where
  | struct {s} : d.structs.find? (d.memberStruct f) = some s → s.isUnion = false →
      Replaces d f s.fields
  | union {u alternative} : d.structs.find? (d.memberStruct f) = some u → u.isUnion →
      u.Selects alternative → Replaces d f [alternative]

inductive Faulty (d : Description) (owner : StructDecl) (f : FieldDecl) : Error → Prop where
  | unknown : d.structs.find? (d.memberStruct f) = none →
      Faulty d owner f (.unknownStruct (d.memberStruct f))
  | ambiguous {u} : d.structs.find? (d.memberStruct f) = some u → u.isUnion →
      (∀ g ∈ u.fields, ¬g.unionSized) → Faulty d owner f (.ambiguousUnion owner.name u.name)

/-- How the expansion of some members of `owner` ends, if it does: with named members, or where a
member cannot be replaced. -/
inductive Expands (d : Description) (owner : StructDecl) :
    List FieldDecl → Outcome (List FieldDecl) → Prop where
  | nil : Expands d owner [] (.ok [])
  | named {f rest r} : f.name ≠ "" → Expands d owner rest r →
      Expands d owner (f :: rest) (r.map (f :: ·))
  | anonymous {f members rest r} : f.name = "" → d.Replaces f members →
      Expands d owner (members ++ rest) r → Expands d owner (f :: rest) r
  | faulty {f rest e} : f.name = "" → d.Faulty owner f e → Expands d owner (f :: rest) (.error e)

inductive Turn (d : Description) : List FieldDecl → List FieldDecl → Prop where
  | pass {f rest} : f.name ≠ "" → Turn d (f :: rest) rest
  | replace {f members rest} : f.name = "" → d.Replaces f members →
      Turn d (f :: rest) (members ++ rest)

def Meets (d : Description) (fields : List FieldDecl) (f : FieldDecl) : Prop :=
  ∃ rest, Relation.ReflTransGen d.Turn fields (f :: rest)

/-- The expansion of some members comes to one whose own expansion leads back to its struct. -/
def Recurs (d : Description) (fields : List FieldDecl) : Prop :=
  ∃ f members g, d.Meets fields f ∧ f.name = "" ∧ d.Replaces f members ∧ d.Meets members g ∧
    g.name = "" ∧ d.memberStruct g = d.memberStruct f

section Replacing

variable {d : Description} {owner s : StructDecl} {f : FieldDecl} {members : List FieldDecl}
  {e : Error}

theorem alternative?_eq_some_iff : alternative? s = some f ↔ s.Selects f := by
  simp only [alternative?, StructDecl.Selects, FirstOf, Option.orElse_eq_orElse,
    Option.orElse_eq_or, Option.or_eq_some_iff, List.find?_eq_none, List.find?_eq_some_iff_append,
    Bool.not_eq_true']
  simp

theorem alternative?_eq_none_iff : alternative? s = none ↔ ∀ g ∈ s.fields, ¬g.unionSized := by
  simp only [alternative?, Option.orElse_eq_orElse, Option.orElse_eq_or, Option.or_eq_none_iff,
    List.find?_eq_none, Bool.and_eq_true]
  exact and_iff_right_of_imp fun unsized g member both => unsized g member both.1

/-- A member of a known struct is replaced by what the struct contributes. -/
theorem replaces_iff (owner : StructDecl) (known : d.structs.find? (d.memberStruct f) = some s) :
    d.Replaces f members ↔ contents owner s = .ok members := by
  unfold contents
  constructor
  · rintro (⟨found, plain⟩ | ⟨found, union, selected⟩) <;>
      obtain rfl := Option.some.inj (known.symm.trans found)
    · simp [plain]
    · simp [union, alternative?_eq_some_iff.2 selected]
  · intro made
    split at made
    next union =>
      split at made
      next => cases made
      next alternative selected =>
        cases made
        exact .union known union (alternative?_eq_some_iff.1 selected)
    next plain =>
      cases made
      exact .struct known (by simpa using plain)

theorem faulty_iff (known : d.structs.find? (d.memberStruct f) = some s) :
    d.Faulty owner f e ↔ contents owner s = .error e := by
  unfold contents
  constructor
  · rintro (absent | ⟨found, union, unsized⟩)
    · cases known.symm.trans absent
    · obtain rfl := Option.some.inj (known.symm.trans found)
      simp [union, alternative?_eq_none_iff.2 unsized]
  · intro failed
    split at failed
    next union =>
      split at failed
      next unselected =>
        cases failed
        exact .ambiguous known union (alternative?_eq_none_iff.1 unselected)
      next => cases failed
    next => cases failed

theorem Replaces.known (replaces : d.Replaces f members) :
    ∃ s, d.structs.find? (d.memberStruct f) = some s := by
  cases replaces with
  | struct found | union found => exact ⟨_, found⟩

/-- Members of one struct are replaced alike. -/
theorem Replaces.unique {g : FieldDecl} {members' : List FieldDecl}
    (replaces : d.Replaces f members) (same : d.memberStruct g = d.memberStruct f)
    (replaces' : d.Replaces g members') : members' = members := by
  obtain ⟨s, known⟩ := replaces.known
  rw [replaces_iff s known] at replaces
  rw [replaces_iff s (same ▸ known), replaces] at replaces'
  exact (Except.ok.inj replaces').symm

theorem Replaces.transfer {g : FieldDecl} (replaces : d.Replaces f members)
    (same : d.memberStruct g = d.memberStruct f) : d.Replaces g members := by
  cases replaces with
  | struct found plain => exact .struct (same ▸ found) plain
  | union found union selected => exact .union (same ▸ found) union selected

theorem Faulty.unique {e' : Error} (faulty : d.Faulty owner f e) (faulty' : d.Faulty owner f e') :
    e' = e := by
  cases known : d.structs.find? (d.memberStruct f) with
  | none =>
    cases faulty with
    | unknown =>
      cases faulty' with
      | unknown => rfl
      | ambiguous found => cases known.symm.trans found
    | ambiguous found => cases known.symm.trans found
  | some s =>
    rw [faulty_iff known] at faulty faulty'
    exact Except.error.inj (faulty'.symm.trans faulty)

theorem Replaces.not_faulty (replaces : d.Replaces f members) : ¬d.Faulty owner f e := by
  obtain ⟨s, known⟩ := replaces.known
  rw [replaces_iff owner known] at replaces
  rw [faulty_iff known, replaces]
  exact nofun

end Replacing

section Turns

variable {d : Description} {owner : StructDecl} {fields fields' rest members : List FieldDecl}
  {f g : FieldDecl} {r r' : Outcome (List FieldDecl)} {out : List FieldDecl} {e : Error}

/-- Members behind those that are expanded stay as they are. -/
theorem turns_append (turns : Relation.ReflTransGen d.Turn fields fields') (rest : List FieldDecl) :
    Relation.ReflTransGen d.Turn (fields ++ rest) (fields' ++ rest) := by
  refine turns.lift (· ++ rest) fun _ _ turn => ?_
  cases turn with
  | pass named => exact .pass named
  | @replace f members left anonymous replaces =>
    change d.Turn (f :: (left ++ rest)) (members ++ left ++ rest)
    rw [List.append_assoc]
    exact .replace anonymous replaces

theorem meets_self (d : Description) (f : FieldDecl) (rest : List FieldDecl) :
    d.Meets (f :: rest) f := ⟨rest, .refl⟩

theorem Meets.append (meets : d.Meets fields f) (rest : List FieldDecl) :
    d.Meets (fields ++ rest) f := by
  obtain ⟨left, turns⟩ := meets
  exact ⟨left ++ rest, turns_append turns rest⟩

theorem Meets.after (turns : Relation.ReflTransGen d.Turn fields fields')
    (meets : d.Meets fields' f) : d.Meets fields f := by
  obtain ⟨left, more⟩ := meets
  exact ⟨left, turns.trans more⟩

theorem Recurs.after (turns : Relation.ReflTransGen d.Turn fields fields')
    (recurs : d.Recurs fields') : d.Recurs fields := by
  obtain ⟨f, members, g, meets, back⟩ := recurs
  exact ⟨f, members, g, meets.after turns, back⟩

theorem Recurs.append (recurs : d.Recurs fields) (rest : List FieldDecl) :
    d.Recurs (fields ++ rest) := by
  obtain ⟨f, members, g, meets, back⟩ := recurs
  exact ⟨f, members, g, meets.append rest, back⟩

/-- What is met first is the first member, or it is met after one turn. -/
theorem meets_cons_iff : d.Meets (f :: rest) g ↔ g = f ∨ f.name ≠ "" ∧ d.Meets rest g ∨
    ∃ members, f.name = "" ∧ d.Replaces f members ∧ d.Meets (members ++ rest) g := by
  constructor
  · rintro ⟨left, turns⟩
    rcases turns.cases_head with same | ⟨next, turn, more⟩
    · exact .inl (List.cons.inj same).1.symm
    · cases turn with
      | pass named => exact .inr (.inl ⟨named, left, more⟩)
      | replace anonymous replaces => exact .inr (.inr ⟨_, anonymous, replaces, left, more⟩)
  · rintro (rfl | ⟨named, meets⟩ | ⟨members, anonymous, replaces, meets⟩)
    · exact meets_self d g rest
    · exact meets.after (.single (.pass named))
    · exact meets.after (.single (.replace anonymous replaces))

theorem not_meets_nil : ¬d.Meets [] f := by
  rintro ⟨left, turns⟩
  rcases turns.cases_head with same | ⟨next, turn, _⟩
  · cases same
  · cases turn

/-- An expansion that ends in named members is followed by that of the members behind. -/
theorem Expands.append (first : d.Expands owner fields (.ok out))
    (second : d.Expands owner rest r) : d.Expands owner (fields ++ rest) (r.map (out ++ ·)) := by
  generalize ended : Except.ok out = r' at first
  induction first generalizing out with
  | nil =>
    cases ended
    cases r <;> exact second
  | @named f left r' named _ ih =>
    cases r' with
    | error e => cases ended
    | ok more =>
      cases ended
      have both := Expands.named named (ih rfl)
      cases r <;> exact both
  | anonymous anonymous replaces _ ih =>
    have both := ih ended
    rw [List.append_assoc] at both
    exact .anonymous anonymous replaces both
  | faulty => cases ended

/-- An expansion that ends at a member that cannot be replaced goes no further. -/
theorem Expands.append_error (first : d.Expands owner fields (.error e)) (rest : List FieldDecl) :
    d.Expands owner (fields ++ rest) (.error e) := by
  generalize ended : Except.error e = r' at first
  induction first with
  | nil => cases ended
  | @named f left r' named _ ih =>
    cases r' with
    | error e' =>
      cases ended
      exact .named named (ih rfl)
    | ok more => cases ended
  | anonymous anonymous replaces _ ih =>
    have both := ih ended
    rw [List.append_assoc] at both
    exact .anonymous anonymous replaces both
  | faulty anonymous faulty =>
    cases ended
    exact .faulty anonymous faulty

theorem Expands.unique (expands : d.Expands owner fields r) (expands' : d.Expands owner fields r') :
    r' = r := by
  induction expands generalizing r' with
  | nil =>
    cases expands'
    rfl
  | named named _ ih =>
    cases expands' with
    | named _ rest => rw [ih rest]
    | anonymous anonymous | faulty anonymous => exact absurd anonymous named
  | anonymous anonymous replaces _ ih =>
    cases expands' with
    | named named => exact absurd anonymous named
    | anonymous _ replaces' rest =>
      obtain rfl := replaces.unique rfl replaces'
      exact ih rest
    | faulty _ faulty => exact absurd faulty replaces.not_faulty
  | faulty anonymous faulty =>
    cases expands' with
    | named named => exact absurd anonymous named
    | anonymous _ replaces => exact absurd faulty replaces.not_faulty
    | faulty _ faulty' => rw [faulty.unique faulty']

/-- The turns of an expansion that ends in named members leave nothing. -/
theorem Expands.turns (expands : d.Expands owner fields (.ok out)) :
    Relation.ReflTransGen d.Turn fields [] := by
  generalize ended : Except.ok out = r at expands
  induction expands generalizing out with
  | nil => exact .refl
  | @named f left r named _ ih =>
    cases r with
    | error e => cases ended
    | ok more => exact .head (.pass named) (ih rfl)
  | anonymous anonymous replaces _ ih => exact .head (.replace anonymous replaces) (ih ended)
  | faulty => cases ended

theorem Expands.not_recurs (expands : d.Expands owner fields r) : ¬d.Recurs fields := by
  -- Where the expansion comes back, it does so after every turn too, and this one has a last turn.
  induction expands with
  | nil =>
    rintro ⟨f, members, g, meets, _⟩
    exact not_meets_nil meets
  | @named first rest r named _ ih =>
    rintro ⟨f, members, g, meets, anonymous, back⟩
    rcases meets_cons_iff.1 meets with rfl | ⟨_, later⟩ | ⟨_, unnamed, _⟩
    · exact named anonymous
    · exact ih ⟨f, members, g, later, anonymous, back⟩
    · exact named unnamed
  | @anonymous first members rest r unnamed replaces _ ih =>
    rintro ⟨f, members', g, meets, anonymous, replaces', back, anonymous', same⟩
    rcases meets_cons_iff.1 meets with rfl | ⟨named, _⟩ | ⟨members'', _, replaces'', later⟩
    · -- The member that comes back meets what has just been met, one turn later.
      obtain rfl := replaces.unique rfl replaces'
      exact ih ⟨g, members', g, back.append rest, anonymous', replaces.transfer same, back,
        anonymous', rfl⟩
    · exact named unnamed
    · obtain rfl := replaces.unique rfl replaces''
      exact ih ⟨f, members', g, later, anonymous, replaces', back, anonymous', same⟩
  | @faulty first rest e unnamed faulty =>
    rintro ⟨f, members, g, meets, anonymous, replaces, _⟩
    rcases meets_cons_iff.1 meets with rfl | ⟨named, _⟩ | ⟨members', _, replaces', _⟩
    · exact replaces.not_faulty faulty
    · exact named unnamed
    · exact replaces'.not_faulty faulty

end Turns

def expandAll (d : Description) (owner : StructDecl) (active : List String)
    (fields : List FieldDecl) : Outcome (List FieldDecl) := do
  let parts ← fields.mapM (d.expandIn owner active)
  return parts.flatten

section Guard

variable {d : Description} {owner s : StructDecl} {active : List String}
  {fields rest : List FieldDecl} {f : FieldDecl} {r : Outcome (List FieldDecl)}

theorem expandAll_cons (d : Description) (owner : StructDecl) (active : List String)
    (f : FieldDecl) (rest : List FieldDecl) :
    d.expandAll owner active (f :: rest) = (do
      let part ← d.expandIn owner active f
      let others ← d.expandAll owner active rest
      return part ++ others) := by
  unfold expandAll
  rw [List.mapM_cons]
  cases d.expandIn owner active f with
  | error e => rfl
  | ok part => cases rest.mapM (d.expandIn owner active) <;> rfl

/-- Members are expanded as each of them is, unless one is held up. -/
theorem expands_of_each
    (each : ∀ f, d.expandIn owner active f ≠ .error (.endless owner.name) →
      d.Expands owner [f] (d.expandIn owner active f))
    (ends : d.expandAll owner active fields ≠ .error (.endless owner.name)) :
    d.Expands owner fields (d.expandAll owner active fields) := by
  induction fields with
  | nil => exact .nil
  | cons f rest ih =>
    have first := each f
    rw [expandAll_cons] at ends ⊢
    cases here : d.expandIn owner active f with
    | error e =>
      rw [here] at ends first
      exact (first ends).append_error rest
    | ok part =>
      rw [here] at ends first
      have passed := first nofun
      cases later : d.expandAll owner active rest with
      | error e =>
        rw [later] at ends ih
        exact passed.append (ih ends)
      | ok others =>
        rw [later] at ih
        exact passed.append (ih nofun)

theorem expands_expandIn (ends : d.expandIn owner active f ≠ .error (.endless owner.name)) :
    d.Expands owner [f] (d.expandIn owner active f) := by
  -- The list only decides where the run is held up, so nothing is assumed of it.
  fun_induction d.expandIn owner active f with
  | case1 active f named => exact .named named .nil
  | case2 active f anonymous name absent => exact .faulty (not_not.1 anonymous) (.unknown absent)
  | case3 active f anonymous name inner found waits => exact absurd rfl ends
  | case4 active f anonymous name inner found fresh ih =>
    change d.Expands owner [f] (do d.expandAll owner (name :: active) (← contents owner inner))
    change (do d.expandAll owner (name :: active) (← contents owner inner)) ≠ _ at ends
    cases made : contents owner inner with
    | error e => exact .faulty (not_not.1 anonymous) ((faulty_iff found).2 made)
    | ok members =>
      rw [made] at ends
      refine .anonymous (not_not.1 anonymous) ((replaces_iff owner found).2 made) ?_
      rw [List.append_nil]
      exact expands_of_each ih ends

def ComesBack (d : Description) (active : List String) (fields : List FieldDecl) : Prop :=
  (∃ g, d.Meets fields g ∧ g.name = "" ∧ d.memberStruct g ∈ active) ∨ d.Recurs fields

theorem ComesBack.after {fields' : List FieldDecl}
    (turns : Relation.ReflTransGen d.Turn fields fields') (back : d.ComesBack active fields') :
    d.ComesBack active fields := by
  rcases back with ⟨g, meets, back⟩ | recurs
  · exact .inl ⟨g, meets.after turns, back⟩
  · exact .inr (recurs.after turns)

theorem ComesBack.append (back : d.ComesBack active fields) (rest : List FieldDecl) :
    d.ComesBack active (fields ++ rest) := by
  rcases back with ⟨g, meets, back⟩ | recurs
  · exact .inl ⟨g, meets.append rest, back⟩
  · exact .inr (recurs.append rest)

theorem comesBack_of_each
    (each : ∀ f, d.expandIn owner active f = .error (.endless owner.name) →
      d.ComesBack active [f])
    (run : d.expandAll owner active fields = .error (.endless owner.name)) :
    d.ComesBack active fields := by
  induction fields with
  | nil => cases run
  | cons f rest ih =>
    rw [expandAll_cons] at run
    cases here : d.expandIn owner active f with
    | error e =>
      rw [here] at run
      cases run
      exact (each f here).append rest
    | ok part =>
      rw [here] at run
      have ended : d.Expands owner [f] (.ok part) := here ▸ expands_expandIn (here ▸ nofun)
      have passed := turns_append ended.turns rest
      cases later : d.expandAll owner active rest with
      | error e =>
        rw [later] at run
        cases run
        exact (ih later).after passed
      | ok others =>
        rw [later] at run
        cases run

theorem comesBack_of_expandIn
    (run : d.expandIn owner active f = .error (.endless owner.name)) : d.ComesBack active [f] := by
  -- A way back to the struct that is added here closes a circle. Any other was open before.
  fun_induction d.expandIn owner active f with
  | case1 => cases run
  | case2 => cases run
  | case3 active f anonymous name inner found waits =>
    exact .inl ⟨f, meets_self d f [], not_not.1 anonymous, waits⟩
  | case4 active f anonymous name inner found fresh ih =>
    have unnamed := not_not.1 anonymous
    change (do d.expandAll owner (d.memberStruct f :: active) (← contents owner inner)) = _ at run
    cases made : contents owner inner with
    | error e =>
      rw [made] at run
      cases run
      cases (faulty_iff found).2 made
    | ok members =>
      rw [made] at run
      have replaces := (replaces_iff owner found).2 made
      have turn : Relation.ReflTransGen d.Turn [f] members := by
        rw [← List.append_nil members]
        exact .single (.replace unnamed replaces)
      rcases comesBack_of_each ih run with ⟨g, meets, anonymous', waits⟩ | recurs
      · rcases List.mem_cons.1 waits with same | waits
        · exact .inr ⟨f, members, g, meets_self d f [], unnamed, replaces, meets, anonymous', same⟩
        · exact .inl ⟨g, meets.after turn, anonymous', waits⟩
      · exact .inr (recurs.after turn)

end Guard

section Flatten

variable {d : Description} {owner : StructDecl} {fields : List FieldDecl} {f : FieldDecl}
  {r : Outcome (List FieldDecl)} {out : List FieldDecl} {e : Error}

theorem recurs_of_flatten (run : d.flatten owner fields = .error (.endless owner.name)) :
    d.Recurs fields := by
  rcases comesBack_of_each (fun _ => comesBack_of_expandIn) run with ⟨g, _, _, waits⟩ | recurs
  · cases waits
  · exact recurs

/-- Flattening yields the end of the expansion, unless that comes back. -/
theorem expands_flatten (straight : ¬d.Recurs fields) :
    d.Expands owner fields (d.flatten owner fields) :=
  expands_of_each (fun _ => expands_expandIn) fun run => straight (recurs_of_flatten run)

theorem Expands.flatten (expands : d.Expands owner fields r) : d.flatten owner fields = r :=
  expands.unique (expands_flatten expands.not_recurs)

theorem Recurs.flatten (recurs : d.Recurs fields) :
    d.flatten owner fields = .error (.endless owner.name) := by
  by_contra ended
  exact (expands_of_each (fun _ => expands_expandIn) ended).not_recurs recurs

/-- Expansion ends, in named members or at a member that cannot be replaced, exactly if it does not
come back to a struct that is being expanded. Flattening yields that end, and tells where there is
none. -/
theorem expansion_ends_iff (d : Description) (owner : StructDecl) (fields : List FieldDecl) :
    ((∃ r, d.Expands owner fields r) ↔ ¬d.Recurs fields) ∧
      (∀ r, d.Expands owner fields r → d.flatten owner fields = r) ∧
      (d.flatten owner fields = .error (.endless owner.name) ↔ d.Recurs fields) :=
  ⟨⟨fun ⟨_, expands⟩ => expands.not_recurs, fun straight => ⟨_, expands_flatten straight⟩⟩,
    fun _ => Expands.flatten, recurs_of_flatten, Recurs.flatten⟩

end Flatten

def knot : Description where
  types := ⟨[("int", { key := "int", kind := .primitive }),
    ("node", { key := "node", kind := .struct })], by decide⟩
  structs := ⟨[("node",
    { name := "node", shortName := "node",
      fields := [{ name := "value", type := "int" }, { type := "node" }] })], by decide⟩
  declarations := [⟨.struct, "node"⟩]

def knotText : String :=
  String.join [
    "\x7b\"types\": \x7b",
    "\"int\": \x7b\"kind\": \"primitive\"\x7d, \"node\": \x7b\"kind\": \"struct\"\x7d\x7d,",
    "\"structs\": \x7b\"node\": \x7b\"short_name\": \"node\", \"fields\": [",
    "\x7b\"name\": \"value\", \"type\": \"int\"\x7d, \x7b\"name\": \"\", \"type\": \"node\"\x7d]\x7d\x7d,",
    "\"declarations\": [\x7b\"kind\": \"struct\", \"name\": \"node\"\x7d]\x7d"]

theorem parse_knotText : parse knotText = .ok knot := by
  apply parse_join (by repeat constructor)
  decide +kernel

/-- The description of the node is accepted, and the expansion of its members does not end. -/
theorem knot_endless : parse knotText = .ok knot ∧ ∃ s, knot.structs.find? "node" = some s ∧
    knot.Recurs s.fields ∧ (¬∃ r, knot.Expands s s.fields r) ∧
    knot.flatten s s.fields = .error (.endless "node") := by
  let again : FieldDecl := { type := "node" }
  let node : StructDecl :=
    { name := "node", shortName := "node", fields := [{ name := "value", type := "int" }, again] }
  have known : knot.structs.find? (knot.memberStruct again) = some node := by decide +kernel
  have replaces : knot.Replaces again node.fields := .struct known rfl
  have meets : knot.Meets node.fields again := ⟨[], .single (.pass (by decide))⟩
  have recurs : knot.Recurs node.fields := ⟨again, _, again, meets, rfl, replaces, meets, rfl, rfl⟩
  obtain ⟨ends, _, endless⟩ := expansion_ends_iff knot node node.fields
  exact ⟨parse_knotText, node, known, recurs, fun ended => ends.1 ended recurs, endless.2 recurs⟩

end Description

end Bindery
