import Bindery.Native.Input

/-!
# Lowering and reading back

What a value is lowered to can be read back from the arena, now and after anything is added to it.
A lowering takes one block for each list that has items, those of inner lists first.
-/
namespace Bindery

variable {a a' a'' : Arena} {block : List Raw} {raw : Raw} {c : Content} {position count : Nat}

namespace Arena

theorem block?_of_suffix (grows : a.blocks <:+ a'.blocks) (inside : position < a.size) :
    a'.block? position = a.block? position := by
  obtain ⟨fresh, split⟩ := grows
  have inside' : position < a.blocks.reverse.length := by simpa [size] using inside
  rw [block?, ← split, List.reverse_append, List.getElem?_append_left inside', block?]

theorem size_le_of_suffix (grows : a.blocks <:+ a'.blocks) : a.size ≤ a'.size := grows.length_le

theorem lt_size_of_block? (found : a.block? position = some block) : position < a.size := by
  obtain ⟨inside, _⟩ := List.getElem?_eq_some_iff.1 found
  simpa [size] using inside

theorem block?_cons_self (block : List Raw) (blocks : List (List Raw)) :
    (⟨block :: blocks⟩ : Arena).block? blocks.length = some block := by
  simp [block?]

end Arena

namespace Raw

theorem lt_length_of_content? {blocks : List (List Raw)}
    (found : content? blocks (.list (some position) count) = some c) :
    position < blocks.length := by
  induction blocks with
  | nil => simp [content?] at found
  | cons block older ih =>
    rw [content?] at found
    split at found
    next newest =>
      rw [newest]
      exact Nat.lt_succ_self _
    next => exact Nat.lt_succ_of_lt (ih found)

/-- A raw value does not see blocks that are newer than it. -/
theorem content?_cons {older : List (List Raw)} (block : List Raw)
    (found : content? older raw = some c) : content? (block :: older) raw = some c := by
  cases raw with
  | int | bool | text | bytes => simpa only [content?] using found
  | list start count =>
    cases start with
    | none => simpa only [content?] using found
    | some position =>
      have old := lt_length_of_content? found
      rw [content?, if_neg (Nat.ne_of_lt old)]
      exact found

/-- Where a raw value in a block at `position` points: a list without items nowhere, any other to
an earlier block from `start` on, which holds its items. -/
def Placed (a : Arena) (start position : Nat) : Raw → Prop
  | .list none count => count = 0
  | .list (some inner) count => start ≤ inner ∧ inner < position ∧
      ∃ items, a.block? inner = some items ∧ items.length = count ∧ 0 < count
  | _ => True

theorem Placed.mono {start start' position' : Nat} (placed : raw.Placed a start position)
    (grows : a.blocks <:+ a'.blocks) (before : start' ≤ start) (behind : position ≤ position') :
    raw.Placed a' start' position' := by
  cases raw with
  | int | bool | text | bytes => trivial
  | list inner count =>
    cases inner with
    | none => exact placed
    | some inner =>
      obtain ⟨first, last, items, found, length, filled⟩ := placed
      refine ⟨by omega, by omega, items, ?_, length, filled⟩
      rw [Arena.block?_of_suffix grows (Arena.lt_size_of_block? found)]
      exact found

end Raw

namespace Arena

theorem read_of_suffix (grows : a.blocks <:+ a'.blocks) (found : a.read raw = some c) :
    a'.read raw = some c := by
  obtain ⟨fresh, split⟩ := grows
  rw [read, ← split]
  clear split
  induction fresh with
  | nil => exact found
  | cons block fresh ih => exact Raw.content?_cons block ih

/-- The second arena is the first with some blocks added, each behind what its items point to. -/
structure Grown (a a' : Arena) (count : Nat) : Prop where
  kept : a.blocks <:+ a'.blocks
  size : a'.size = a.size + count
  placed : ∀ position block, a.size ≤ position → a'.block? position = some block →
    ∀ raw ∈ block, raw.Placed a' a.size position

namespace Grown

theorem refl (a : Arena) : Grown a a 0 where
  kept := List.suffix_rfl
  size := rfl
  placed position block new found := by
    have old := lt_size_of_block? found
    omega

theorem trans {more : Nat} (first : Grown a a' count) (second : Grown a' a'' more) :
    Grown a a'' (count + more) where
  kept := first.kept.trans second.kept
  size := by
    rw [second.size, first.size, Nat.add_assoc]
  placed position block new found raw member := by
    have grown := size_le_of_suffix first.kept
    by_cases old : position < a'.size
    · rw [block?_of_suffix second.kept old] at found
      have placed := first.placed position block new found raw member
      exact placed.mono second.kept (Nat.le_refl _) (Nat.le_refl _)
    · have placed := second.placed position block (Nat.not_lt.1 old) found raw member
      exact placed.mono List.suffix_rfl grown (Nat.le_refl _)

/-- A block whose items point to blocks that were added before it. -/
theorem push (grown : Grown a a' count) (placed : ∀ raw ∈ block, raw.Placed a' a.size a'.size) :
    Grown a ⟨block :: a'.blocks⟩ (count + 1) where
  kept := grown.kept.trans (List.suffix_cons _ _)
  size := by
    have size := grown.size
    simp only [Arena.size, List.length_cons] at size ⊢
    omega
  placed position items new found raw member := by
    have inside := lt_size_of_block? found
    rcases Nat.lt_succ_iff_lt_or_eq.1 inside with old | last
    · rw [block?_of_suffix (List.suffix_cons _ _) old] at found
      have before := grown.placed position items new found raw member
      exact before.mono (List.suffix_cons _ _) (Nat.le_refl _) (Nat.le_refl _)
    · subst last
      rw [block?_cons_self] at found
      cases found
      exact (placed raw member).mono (List.suffix_cons _ _) (Nat.le_refl _) (Nat.le_refl _)

end Grown

end Arena

namespace Input

mutual

def isStable : Input → Bool
  | .counter _ => false
  | .list _ items => allStable items
  | _ => true

def allStable : List Input → Bool
  | [] => true
  | item :: rest => item.isStable && allStable rest

end

mutual

/-- The number of lists in a value that have items, at any depth. -/
def listCount : Input → Nat
  | .list _ [] => 0
  | .list _ (item :: rest) => listCounts (item :: rest) + 1
  | _ => 0

def listCounts : List Input → Nat
  | [] => 0
  | item :: rest => item.listCount + listCounts rest

end

structure Lowers (a : Arena) (v : Input) (a' : Arena) (raw : Raw) : Prop where
  run : v.lower .shared a = (a', v, .ok raw)
  grown : Arena.Grown a a' v.listCount
  placed : raw.Placed a' a.size a'.size
  read : a'.read raw = some v.content
  null : raw = .list none 0 ↔ v.content = .list []

structure LowersAll (a : Arena) (items : List Input) (a' : Arena) (raws : List Raw) : Prop where
  run : lowerAll .shared a items = (a', items, .ok raws)
  grown : Arena.Grown a a' (listCounts items)
  placed : ∀ raw ∈ raws, raw.Placed a' a.size a'.size
  read : raws.mapM a'.read = some (contents items)

theorem LowersAll.cons {item : Input} {rest : List Input} {raws : List Raw}
    (first : Lowers a item a' raw) (others : LowersAll a' rest a'' raws) :
    LowersAll a (item :: rest) a'' (raw :: raws) where
  run := by
    rw [lowerAll, first.run]
    simp only [others.run]
    rfl
  grown := first.grown.trans others.grown
  placed := by
    intro other member
    have smaller := Arena.size_le_of_suffix first.grown.kept
    have larger := Arena.size_le_of_suffix others.grown.kept
    rcases List.mem_cons.1 member with rfl | later
    · exact first.placed.mono others.grown.kept (Nat.le_refl _) larger
    · exact (others.placed other later).mono List.suffix_rfl smaller (Nat.le_refl _)
  read := by
    have here := Arena.read_of_suffix others.grown.kept first.read
    rw [List.mapM_cons, here, others.read]
    rfl

/-- The items of a list that has some take one block more, the newest. -/
theorem LowersAll.list {item : Input} {rest : List Input} {raws : List Raw} (hold : Hold)
    (lowered : LowersAll a (item :: rest) a' raws) :
    ∃ a'' raw, Lowers a (.list hold (item :: rest)) a'' raw := by
  have read := lowered.read
  cases raws with
  | nil => simp [contents] at read
  | cons first others =>
    have all : Access.through .shared hold = .shared := by cases hold <;> rfl
    refine ⟨⟨(first :: others) :: a'.blocks⟩, .list (some a'.size) (others.length + 1), ?run,
      lowered.grown.push lowered.placed, ?placed, ?read, ?null⟩
    case run =>
      rw [lower, all, lowered.run]
      rfl
    case placed =>
      refine ⟨Arena.size_le_of_suffix lowered.grown.kept, Nat.lt_succ_self _, first :: others, ?_,
        rfl, Nat.succ_pos _⟩
      exact Arena.block?_cons_self _ _
    case read =>
      change Raw.content? _ _ = _
      rw [Raw.content?, if_pos (show a'.size = a'.blocks.length from rfl),
        if_pos (show (first :: others).length = others.length + 1 from rfl)]
      exact congrArg (Option.map Content.list) read
    case null => simp [content, contents]

/-- A value that is no list with items takes no block. -/
theorem lowers_at_once {v : Input} (run : v.lower .shared a = (a, v, .ok raw))
    (flat : v.listCount = 0) (placed : raw.Placed a a.size a.size)
    (read : a.read raw = some v.content) (null : raw = .list none 0 ↔ v.content = .list []) :
    ∃ a' raw, Lowers a v a' raw := by
  refine ⟨a, raw, run, ?_, placed, read, null⟩
  rw [flat]
  exact .refl a

mutual

theorem exists_lowers (a : Arena) : ∀ v : Input, v.isStable → ∃ a' raw, Lowers a v a' raw
  | .int n, _ => by
    refine lowers_at_once rfl rfl trivial ?_ ?_ <;> simp [Arena.read, Raw.content?, content]
  | .bool b, _ => by
    refine lowers_at_once rfl rfl trivial ?_ ?_ <;> simp [Arena.read, Raw.content?, content]
  | .text given, _ => by
    refine lowers_at_once rfl rfl trivial ?_ ?_ <;> simp [Arena.read, Raw.content?, content]
  | .bytes given, _ => by
    refine lowers_at_once rfl rfl trivial ?_ ?_ <;> simp [Arena.read, Raw.content?, content]
  | .unsetList, _ => by
    refine lowers_at_once rfl rfl rfl ?_ ?_ <;> simp [Arena.read, Raw.content?, content]
  | .list hold [], _ => by
    refine lowers_at_once rfl rfl rfl ?_ ?_ <;>
      simp [Arena.read, Raw.content?, content, contents]
  | .list hold (item :: rest), stable =>
    have ⟨_, _, lowered⟩ := exists_lowersAll a (item :: rest) stable
    lowered.list hold

theorem exists_lowersAll (a : Arena) :
    ∀ items : List Input, allStable items → ∃ a' raws, LowersAll a items a' raws
  | [], _ => ⟨a, [], rfl, .refl a, by simp, rfl⟩
  | item :: rest, stable => by
    have ⟨here, later⟩ : item.isStable ∧ allStable rest := by simpa [allStable] using stable
    obtain ⟨a', raw, first⟩ := exists_lowers a item here
    obtain ⟨a'', raws, others⟩ := exists_lowersAll a' rest later
    exact ⟨a'', raw :: raws, .cons first others⟩

end

mutual

/-- Only a state asks for the right to change it. -/
theorem lower_eq_shared (access : Access) (a : Arena) :
    ∀ v : Input, v.isStable → v.lower access a = v.lower .shared a
  | .int _, _ | .bool _, _ | .text _, _ | .bytes _, _ | .unsetList, _ => rfl
  | .list hold items, stable => by
    have all : Access.through .shared hold = .shared := by cases hold <;> rfl
    rw [lower, lower, all, lowerAll_eq_shared (access.through hold) a items stable]

theorem lowerAll_eq_shared (access : Access) (a : Arena) :
    ∀ items : List Input, allStable items → lowerAll access a items = lowerAll .shared a items
  | [], _ => rfl
  | item :: rest, stable => by
    have ⟨here, later⟩ : item.isStable ∧ allStable rest := by simpa [allStable] using stable
    obtain ⟨a', raw, first⟩ := exists_lowers a item here
    rw [lowerAll, lowerAll, lower_eq_shared access a item here, first.run]
    simp only [lowerAll_eq_shared access a' rest later]

end

def lowerings : List Access → Arena → Input → Arena × Input × List (Except LoweringFault Raw)
  | [], a, v => (a, v, [])
  | access :: rest, a, v =>
    let (a, v, raw) := v.lower access a
    let (a, v, raws) := lowerings rest a v
    (a, v, raw :: raws)

section Lowerings

variable {v : Input} (stable : v.isStable)

include stable

theorem Lowers.lowerings_cons (lowers : Lowers a v a' raw) (access : Access)
    (rest : List Access) : v.lowerings (access :: rest) a =
      ((v.lowerings rest a').1, (v.lowerings rest a').2.1,
        .ok raw :: (v.lowerings rest a').2.2) := by
  rw [lowerings, lower_eq_shared access a v stable, lowers.run]

theorem exists_lowerings (accesses : List Access) (a : Arena) :
    ∃ after, ∃ raws : List Raw, v.lowerings accesses a = (after, v, raws.map .ok) ∧
      raws.length = accesses.length ∧ Arena.Grown a after (accesses.length * v.listCount) ∧
      ∀ raw ∈ raws, raw.Placed after a.size after.size ∧ after.read raw = some v.content ∧
        (raw = .list none 0 ↔ v.content = .list []) := by
  induction accesses generalizing a with
  | nil => exact ⟨a, [], rfl, rfl, by simpa using Arena.Grown.refl a, by simp⟩
  | cons access rest ih =>
    obtain ⟨a', raw, lowers⟩ := exists_lowers a v stable
    obtain ⟨after, raws, run, length, grown, each⟩ := ih a'
    have smaller := Arena.size_le_of_suffix lowers.grown.kept
    have larger := Arena.size_le_of_suffix grown.kept
    refine ⟨after, raw :: raws, ?_, by rw [List.length_cons, length, List.length_cons], ?_, ?_⟩
    · rw [lowers.lowerings_cons stable, run]
      rfl
    · rw [List.length_cons, Nat.succ_mul, Nat.add_comm]
      exact lowers.grown.trans grown
    · intro other member
      rcases List.mem_cons.1 member with rfl | later
      · exact ⟨lowers.placed.mono grown.kept (Nat.le_refl _) larger,
          Arena.read_of_suffix grown.kept lowers.read, lowers.null⟩
      · have ⟨placed, found⟩ := each other later
        exact ⟨placed.mono List.suffix_rfl smaller (Nat.le_refl _), found⟩

theorem lowerings_eq {accesses others : List Access} (same : others.length = accesses.length)
    (a : Arena) : v.lowerings others a = v.lowerings accesses a := by
  induction accesses generalizing a others with
  | nil =>
    rw [List.length_eq_zero_iff.1 same]
  | cons access rest ih =>
    cases others with
    | nil => cases same
    | cons other others =>
      obtain ⟨a', raw, lowers⟩ := exists_lowers a v stable
      rw [lowers.lowerings_cons stable, lowers.lowerings_cons stable, ih (Nat.succ.inj same)]

/-- A value without state is lowered in the same way however it is accessed and however often. Each
raw value reads as the value, and is null exactly if that is an empty list. Each lowering takes as
many blocks as the value has lists with items; in every new block lists point to blocks before it,
and the blocks that were there stay. -/
theorem lowerings_faithful (accesses : List Access) (a : Arena) :
    ∃ after, ∃ raws : List Raw, v.lowerings accesses a = (after, v, raws.map .ok) ∧
      (∀ others, others.length = accesses.length →
        v.lowerings others a = v.lowerings accesses a) ∧
      raws.length = accesses.length ∧
      (∀ raw ∈ raws, raw.Placed after a.size after.size ∧ after.read raw = some v.content ∧
        (raw = .list none 0 ↔ v.content = .list [])) ∧
      after.size = a.size + accesses.length * v.listCount ∧
      (∀ position block, a.size ≤ position → after.block? position = some block →
        ∀ raw ∈ block, raw.Placed after a.size position) ∧
      ∀ position < a.size, after.block? position = a.block? position := by
  obtain ⟨after, raws, run, length, grown, each⟩ := exists_lowerings stable accesses a
  refine ⟨after, raws, run, fun others same => lowerings_eq stable same a, length, each,
    grown.size, grown.placed, fun position old => ?_⟩
  exact Arena.block?_of_suffix grown.kept old

end Lowerings

def nestedNames : Input :=
  .list .shared [.list .owned [.text .unset, .text (.lent "")], .unsetList, .list .exclusive []]

/-- Two lowerings into an arena with one block add two blocks each. -/
theorem nestedNames_faithful : nestedNames.isStable ∧ ∃ after, ∃ raws : List Raw,
    nestedNames.lowerings [.exclusive, .shared] ⟨[[.int 7]]⟩ =
      (after, nestedNames, raws.map .ok) ∧
    raws.length = 2 ∧ after.size = 5 ∧ after.block? 0 = some [.int 7] ∧
    ∀ raw ∈ raws, after.read raw =
      some (.list [.list [.text none, .text (some "")], .list [], .list []]) := by
  refine ⟨rfl, ?_⟩
  obtain ⟨after, raws, run, _, length, each, size, _, kept⟩ :=
    lowerings_faithful (v := nestedNames) rfl [.exclusive, .shared] ⟨[[.int 7]]⟩
  refine ⟨after, raws, run, length, size, ?_, fun raw member => (each raw member).2.1⟩
  rw [kept 0 (Nat.zero_lt_one)]
  rfl

end Input

end Bindery
