import Mathlib.Data.List.Forall2
import Mathlib.Data.List.Induction
import Mathlib.Data.List.Nodup
import Mathlib.Data.List.Perm.Basic
import Std.Data.ExtTreeMap
import Std.Data.ExtTreeSet

/-!
# Finite maps seen by their iterators

A hash map has no order of its own, but a loop over it meets its entries in some
order. `IterMap` is a finite map together with that order: a list of entries in
which no key occurs twice. Loops over it are folds over the list.

The main tool is the pointwise fold. When the body of a loop acts only on the
part of the state which its key names, the state after the loop is known key by
key, whatever the order of iteration was. `BTreeMap` is the ordered map which
such a loop can be collected into.
-/

universe u v w

/-- A hash map which is never iterated, up to the order of its entries. -/
abbrev HashMap (K : Type u) (V : Type v) [Ord K] := Std.ExtTreeMap K V compare

/-- A hash set which is never iterated. -/
abbrev HashSet (K : Type u) [Ord K] := Std.ExtTreeSet K compare

/-- A map which iterates in increasing order of its keys. -/
abbrev BTreeMap (K : Type u) (V : Type v) [Ord K] := Std.ExtTreeMap K V compare

theorem BTreeMap.nodup_toList {K : Type u} {V : Type v} [Ord K] [Std.TransOrd K]
    (sorted : BTreeMap K V) : sorted.toList.Nodup := by
  apply (Std.ExtTreeMap.ordered_keys_toList (t := sorted)).imp
  rintro ⟨leftKey, leftValue⟩ ⟨rightKey, rightValue⟩ increasing same
  simp only [Prod.mk.injEq] at same
  simp [same.1] at increasing

/-- An ordered map iterates over the only sorted list which has its entries. -/
theorem BTreeMap.toList_eq_of_sorted {K : Type u} {V : Type v} [Ord K] [Std.TransOrd K]
    {sorted : BTreeMap K V} {entries : List (K × V)}
    (increasing : entries.Pairwise (fun left right => compare left.1 right.1 = .lt))
    (same : ∀ entry, entry ∈ sorted.toList ↔ entry ∈ entries) : sorted.toList = entries := by
  have entries_nodup : entries.Nodup := by
    apply increasing.imp
    rintro left right lt rfl
    simp at lt
  have increasing' : sorted.toList.Pairwise (fun left right => compare left.1 right.1 = .lt) :=
    Std.ExtTreeMap.ordered_keys_toList
  refine List.Perm.eq_of_pairwise ?_ increasing' increasing ?_
  · intro left right _ _ lt gt
    exact absurd gt (Std.OrientedCmp.not_lt_of_lt lt)
  · exact (List.perm_ext_iff_of_nodup (BTreeMap.nodup_toList sorted) entries_nodup).mpr same

theorem nodup_keys_of_sorted {K : Type u} {V : Type v} [Ord K] [Std.TransOrd K]
    {entries : List (K × V)}
    (increasing : entries.Pairwise (fun left right => compare left.1 right.1 = .lt)) :
    (entries.map Prod.fst).Nodup := by
  apply List.pairwise_map.mpr
  apply increasing.imp
  intro left right lt same
  simp [same] at lt

theorem List.exists_mem_of_forall₂ {α : Type u} {β : Type v} {related : α → β → Prop}
    {left : List α} {right : List β} (agree : List.Forall₂ related left right) {element : α}
    (element_mem : element ∈ left) : ∃ other ∈ right, related element other := by
  induction agree with
  | nil => simp at element_mem
  | cons head tail ih =>
      rcases List.mem_cons.mp element_mem with rfl | later
      · exact ⟨_, List.mem_cons_self, head⟩
      · rcases ih later with ⟨other, other_mem, holds⟩
        exact ⟨other, List.mem_cons_of_mem _ other_mem, holds⟩

namespace Option.Rel

variable {α : Type u} {β : Type v} {γ : Type w} {related : α → β → Prop} {left : Option α}
  {right : Option β}

theorem elim_eq (agree : Option.Rel related left right) {onLeft : α → γ} {onRight : β → γ}
    (same : ∀ value other, related value other → onLeft value = onRight other) (default : γ) :
    left.elim default onLeft = right.elim default onRight := by
  cases agree with
  | some holds => exact same _ _ holds
  | none => rfl

theorem map_eq (agree : Option.Rel related left right) {onLeft : α → γ} {onRight : β → γ}
    (same : ∀ value other, related value other → onLeft value = onRight other) :
    left.map onLeft = right.map onRight := by
  cases agree with
  | some holds => exact congrArg Option.some (same _ _ holds)
  | none => rfl

theorem mono {implied : α → β → Prop} (agree : Option.Rel related left right)
    (implies : ∀ value other, related value other → implied value other) :
    Option.Rel implied left right := by
  cases agree with
  | some holds => exact .some (implies _ _ holds)
  | none => exact .none

/-- Related options are related as the values they hold. -/
theorem attach (agree : Option.Rel related left right) :
    Option.Rel (fun value other =>
        left = Option.some value ∧ right = Option.some other ∧ related value other)
      left right := by
  cases agree with
  | some holds => exact .some ⟨rfl, rfl, holds⟩
  | none => exact .none

end Option.Rel

section Writes

variable {K : Type u} {V : Type v}

/-- A list of writes in which no key is written with two values. -/
def Consistent (writes : List (K × V)) : Prop :=
  ∀ key value other, (key, value) ∈ writes → (key, other) ∈ writes → value = other

theorem consistent_of_same_value {writes : List (K × V)} {value : V}
    (same : ∀ write ∈ writes, write.2 = value) : Consistent writes :=
  fun _ _ _ left right => (same _ left).trans (same _ right).symm

variable [Ord K] [Std.TransOrd K] [Std.LawfulEqOrd K]

/-- A write is read back if no other one disagrees with it. -/
theorem HashMap.getElem?_insertMany_of_mem {writes : List (K × V)} (map : HashMap K V)
    (consistent : Consistent writes) {key : K} {value : V} (written : (key, value) ∈ writes) :
    (map.insertMany writes)[key]? = some value := by
  induction writes using List.reverseRecOn with
  | nil => simp at written
  | append_singleton writes last ih =>
      rcases last with ⟨lastKey, lastValue⟩
      rw [Std.ExtTreeMap.insertMany_append, Std.ExtTreeMap.insertMany_list_singleton,
        Std.ExtTreeMap.getElem?_insert]
      by_cases same : lastKey = key
      · subst same
        rw [if_pos Std.ReflCmp.compare_self,
          consistent lastKey value lastValue written (by simp)]
      · have earlier : (key, value) ∈ writes := by simpa [Ne.symm same] using written
        rw [if_neg (by simpa using same)]
        exact ih (fun key value other left right =>
          consistent key value other (List.mem_append_left _ left)
            (List.mem_append_left _ right)) earlier

variable [DecidableEq K]

theorem HashMap.getElem?_insertMany_of_unwritten {writes : List (K × V)}
    (map : HashMap K V) {key : K} (unwritten : ∀ value, (key, value) ∉ writes) :
    (map.insertMany writes)[key]? = map[key]? := by
  apply Std.ExtTreeMap.getElem?_insertMany_list_of_contains_eq_false
  simpa using unwritten

/-- Consistent writes leave the same map, in whatever order and however often each is made. -/
theorem HashMap.insertMany_congr {left right : List (K × V)} (map : HashMap K V)
    (consistent : Consistent left) (same : ∀ write, write ∈ left ↔ write ∈ right) :
    map.insertMany left = map.insertMany right := by
  have consistent' : Consistent right := by
    intro key value other first second
    exact consistent key value other ((same _).mpr first) ((same _).mpr second)
  apply Std.ExtTreeMap.ext_getElem?
  intro key
  by_cases written : ∃ value, (key, value) ∈ left
  · rcases written with ⟨value, mem⟩
    rw [map.getElem?_insertMany_of_mem consistent mem,
      map.getElem?_insertMany_of_mem consistent' ((same _).mp mem)]
  · rw [map.getElem?_insertMany_of_unwritten (not_exists.mp written),
      map.getElem?_insertMany_of_unwritten fun value mem => written ⟨value, (same _).mpr mem⟩]

end Writes

/-- A finite map in the order in which its iterator yields the entries. -/
@[ext]
structure IterMap (K : Type u) (V : Type v) where
  /-- The entries, in iteration order. -/
  entries : List (K × V)
  /-- No key is yielded twice. -/
  nodupKeys : (entries.map Prod.fst).Nodup
deriving DecidableEq

namespace IterMap

variable {K : Type u} {V : Type v} [DecidableEq K]

/-- The map without entries. -/
def empty : IterMap K V := ⟨[], List.nodup_nil⟩

/-- The value stored under a key. -/
def get? (map : IterMap K V) (key : K) : Option V :=
  map.entries.lookup key

/-- Replaces the value of a key in its place, or adds an entry behind the others. -/
def insert (map : IterMap K V) (key : K) (value : V) : IterMap K V where
  entries := (key, value) :: map.entries.filter (fun entry => entry.1 ≠ key)
  nodupKeys := by
    rw [List.map_cons, List.nodup_cons]
    constructor
    · intro key_mem
      rcases List.mem_map.mp key_mem with ⟨entry, entry_mem, key_eq⟩
      simp [key_eq] at entry_mem
    · exact map.nodupKeys.sublist (List.filter_sublist.map Prod.fst)

@[simp]
theorem get?_empty (key : K) : (empty : IterMap K V).get? key = none := rfl

theorem lookup_eq_some_iff {entries : List (K × V)} (nodup : (entries.map Prod.fst).Nodup)
    {key : K} {value : V} : entries.lookup key = some value ↔ (key, value) ∈ entries := by
  induction entries with
  | nil => simp
  | cons entry rest ih =>
      rcases entry with ⟨entryKey, entryValue⟩
      rw [List.map_cons, List.nodup_cons] at nodup
      by_cases same : key = entryKey
      · subst same
        have absent : (key, value) ∉ rest :=
          fun mem => nodup.1 (List.mem_map.mpr ⟨_, mem, rfl⟩)
        simp [absent, eq_comm]
      · have differs : (key == entryKey) = false := by simpa using same
        simp [List.lookup_cons, differs, same, ih nodup.2]

theorem get?_eq_some_iff (map : IterMap K V) {key : K} {value : V} :
    map.get? key = some value ↔ (key, value) ∈ map.entries :=
  lookup_eq_some_iff map.nodupKeys

theorem lookup_filter_ne {entries : List (K × V)} {key other : K} (differs : other ≠ key) :
    (entries.filter (fun entry => entry.1 ≠ key)).lookup other = entries.lookup other := by
  induction entries with
  | nil => rfl
  | cons entry rest ih =>
      rcases entry with ⟨entryKey, entryValue⟩
      by_cases removed : entryKey = key
      · subst removed
        have unmatched : (other == entryKey) = false := by simpa using differs
        rw [List.filter_cons_of_neg (by simp)]
        simpa [List.lookup_cons, unmatched] using ih
      · by_cases same : other = entryKey
        · simp [removed, same]
        · have unmatched : (other == entryKey) = false := by simpa using same
          simpa [List.lookup_cons, removed, unmatched] using ih

theorem get?_insert (map : IterMap K V) (key other : K) (value : V) :
    (map.insert key value).get? other = if key = other then some value else map.get? other := by
  by_cases same : key = other
  · subst same
    simp [get?, insert]
  · have unmatched : (other == key) = false := by simpa using Ne.symm same
    have kept : (map.entries.filter (fun entry => entry.1 ≠ key)).lookup other =
        map.entries.lookup other :=
      lookup_filter_ne (Ne.symm same)
    simpa [get?, insert, List.lookup_cons, same, unmatched] using kept

/-- The map which a list of entries describes; an earlier entry wins. -/
def ofList (entries : List (K × V)) : IterMap K V :=
  entries.foldr (fun entry map => map.insert entry.1 entry.2) empty

theorem entries_ofList {entries : List (K × V)} (nodup : (entries.map Prod.fst).Nodup) :
    (ofList entries).entries = entries := by
  induction entries with
  | nil => rfl
  | cons entry rest ih =>
      rw [List.map_cons, List.nodup_cons] at nodup
      change entry :: (ofList rest).entries.filter (fun other => other.1 ≠ entry.1) = _
      rw [ih nodup.2, List.filter_eq_self.mpr]
      intro other other_mem
      simp only [ne_eq, decide_eq_true_eq]
      intro same
      exact nodup.1 (List.mem_map.mpr ⟨other, other_mem, same⟩)

/-- The entries whose values are kept, in the same order. -/
def filter (keep : V → Bool) (map : IterMap K V) : IterMap K V where
  entries := map.entries.filter fun entry => keep entry.2
  nodupKeys := map.nodupKeys.sublist (List.filter_sublist.map Prod.fst)

theorem get?_filter (keep : V → Bool) (map : IterMap K V) (key : K) :
    (map.filter keep).get? key = (map.get? key).filter keep := by
  apply Option.ext
  intro value
  rw [Option.filter_eq_some_iff, get?_eq_some_iff, get?_eq_some_iff]
  simp [filter]

theorem get?_isSome_iff (map : IterMap K V) (key : K) :
    (map.get? key).isSome ↔ ∃ entry ∈ map.entries, entry.1 = key := by
  rw [Option.isSome_iff_exists]
  simp only [get?_eq_some_iff]
  constructor
  · rintro ⟨value, mem⟩
    exact ⟨_, mem, rfl⟩
  · rintro ⟨⟨_, value⟩, mem, rfl⟩
    exact ⟨value, mem⟩

/-- The entries of the two maps correspond, whatever the order in which each map yields them. -/
def Reordered {W : Type w} (related : V → W → Prop) (left : IterMap K V) (right : IterMap K W) :
    Prop :=
  ∃ entries, left.entries.Perm entries ∧
    List.Forall₂ (fun left right => left.1 = right.1 ∧ related left.2 right.2) entries
      right.entries

/-- Maps with the same entries in any order hold related values. -/
theorem Reordered.get?_rel {W : Type w} {related : V → W → Prop} {left : IterMap K V}
    {right : IterMap K W} (reordered : left.Reordered related right) (key : K) :
    Option.Rel related (left.get? key) (right.get? key) := by
  rcases reordered with ⟨entries, perm, corresponding⟩
  have forward : ∀ value, left.get? key = some value →
      ∃ other, right.get? key = some other ∧ related value other := by
    intro value held
    rw [get?_eq_some_iff, perm.mem_iff] at held
    rcases List.exists_mem_of_forall₂ corresponding held with ⟨⟨_, other⟩, mem, rfl, holds⟩
    exact ⟨other, right.get?_eq_some_iff.mpr mem, holds⟩
  have backward : ∀ other, right.get? key = some other → (left.get? key).isSome := by
    intro other found
    rw [get?_eq_some_iff] at found
    rcases List.exists_mem_of_forall₂ corresponding.flip found with ⟨⟨_, value⟩, mem, rfl, -⟩
    rw [left.get?_eq_some_iff.mpr (perm.mem_iff.mpr mem)]
    rfl
  cases held : left.get? key with
  | some value =>
      rcases forward value held with ⟨other, found, holds⟩
      rw [found]
      exact .some holds
  | none =>
      cases found : right.get? key with
      | none => exact .none
      | some other => simpa [held] using backward other found

section Fold

variable {σ : Type w} {ω : Type*}

/-- A fold over entries with distinct keys acts on each key once. -/
theorem foldl_view_of_nodup (view : σ → K → ω) (step : σ → K × V → σ) (merge : V → ω → ω)
    (pointwise : ∀ state key value other, view (step state (key, value)) other =
      if key = other then merge value (view state other) else view state other)
    {entries : List (K × V)} (nodup : (entries.map Prod.fst).Nodup) (state : σ) (key : K) :
    view (entries.foldl step state) key =
      (entries.lookup key).elim (view state key) fun value => merge value (view state key) := by
  induction entries generalizing state with
  | nil => rfl
  | cons entry rest ih =>
      rcases entry with ⟨entryKey, entryValue⟩
      rw [List.map_cons, List.nodup_cons] at nodup
      rw [List.foldl_cons, ih nodup.2, pointwise]
      by_cases same : key = entryKey
      · subst same
        have absent : rest.lookup key = none := by
          rw [Option.eq_none_iff_forall_ne_some]
          intro value found
          exact nodup.1 (List.mem_map.mpr ⟨_, (lookup_eq_some_iff nodup.2).mp found, rfl⟩)
        simp [absent]
      · have unmatched : (key == entryKey) = false := by simpa using same
        simp [List.lookup_cons, unmatched, Ne.symm same]

/-- A loop whose body acts only on what its key names leaves, at every key,
what one application of the body at that key leaves. -/
theorem foldl_view (view : σ → K → ω) (step : σ → K × V → σ) (merge : V → ω → ω)
    (pointwise : ∀ state key value other, view (step state (key, value)) other =
      if key = other then merge value (view state other) else view state other)
    (map : IterMap K V) (state : σ) (key : K) :
    view (map.entries.foldl step state) key =
      (map.get? key).elim (view state key) fun value => merge value (view state key) :=
  foldl_view_of_nodup view step merge pointwise map.nodupKeys state key

end Fold

section Collect

variable {W : Type w} [Ord K] [Std.TransOrd K] [Std.LawfulEqOrd K]

/-- Insert every entry into an ordered map, with a projection of its value. -/
def collect (project : V → W) (map : IterMap K V) : BTreeMap K W :=
  map.entries.foldl (fun sorted entry => sorted.insert entry.1 (project entry.2)) ∅

/-- Collecting keeps the value of every key. -/
theorem getElem?_collect (project : V → W) (map : IterMap K V) (key : K) :
    (map.collect project)[key]? = (map.get? key).map project := by
  have pointwise := foldl_view (fun (sorted : BTreeMap K W) key => sorted[key]?)
    (fun sorted entry => sorted.insert entry.1 (project entry.2))
    (fun value _ => some (project value))
    (fun sorted key value other => by simp [Std.ExtTreeMap.getElem?_insert]) map ∅ key
  rw [collect, pointwise]
  cases map.get? key <;> simp

theorem mem_toList_collect (project : V → W) (map : IterMap K V) {key : K} {value : W} :
    (key, value) ∈ (map.collect project).toList ↔
      ∃ source, map.get? key = some source ∧ project source = value := by
  rw [Std.ExtTreeMap.mem_toList_iff_getElem?_eq_some, getElem?_collect, Option.map_eq_some_iff]

/-- Collecting with a projection is collecting and then projecting every value. -/
theorem toList_collect (project : V → W) (map : IterMap K V) :
    (map.collect project).toList =
      (map.collect id).toList.map fun entry => (entry.1, project entry.2) := by
  apply BTreeMap.toList_eq_of_sorted
  · exact List.pairwise_map.mpr Std.ExtTreeMap.ordered_keys_toList
  · rintro ⟨key, value⟩
    rw [mem_toList_collect]
    simp only [List.mem_map, Prod.mk.injEq, Prod.exists, mem_toList_collect, id_eq]
    constructor
    · rintro ⟨source, found, rfl⟩
      exact ⟨key, source, ⟨source, found, rfl⟩, rfl, rfl⟩
    · rintro ⟨_, _, ⟨source, found, rfl⟩, rfl, rfl⟩
      exact ⟨source, found, rfl⟩

/-- Collecting keeps every entry once. -/
theorem perm_toList_collect (project : V → W) (map : IterMap K V) :
    (map.collect project).toList.Perm
      (map.entries.map fun entry => (entry.1, project entry.2)) := by
  have nodup : (map.entries.map fun entry => (entry.1, project entry.2)).Nodup := by
    apply List.Nodup.of_map Prod.fst
    rw [List.map_map]
    exact map.nodupKeys
  rw [List.perm_ext_iff_of_nodup (BTreeMap.nodup_toList _) nodup]
  rintro ⟨key, value⟩
  rw [mem_toList_collect]
  simp only [map.get?_eq_some_iff, List.mem_map, Prod.mk.injEq, Prod.exists]
  constructor
  · rintro ⟨source, source_mem, rfl⟩
    exact ⟨key, source, source_mem, rfl, rfl⟩
  · rintro ⟨_, source, source_mem, rfl, rfl⟩
    exact ⟨source, source_mem, rfl⟩

theorem toList_collect_of_sorted (project : V → W) (map : IterMap K V)
    (sorted : map.entries.Pairwise (fun left right => compare left.1 right.1 = .lt)) :
    (map.collect project).toList = map.entries.map (fun entry => (entry.1, project entry.2)) := by
  apply BTreeMap.toList_eq_of_sorted
  · exact List.pairwise_map.mpr sorted
  · exact fun _ => (perm_toList_collect project map).mem_iff

/-- Maps which agree at every key under their projections are collected into the same map. -/
theorem collect_congr {V' : Type*} {project : V → W} {project' : V' → W} {map : IterMap K V}
    {map' : IterMap K V'}
    (agree : ∀ key, (map.get? key).map project = (map'.get? key).map project') :
    map.collect project = map'.collect project' := by
  apply Std.ExtTreeMap.ext_getElem?
  intro key
  rw [getElem?_collect, getElem?_collect, agree]

end Collect

end IterMap
