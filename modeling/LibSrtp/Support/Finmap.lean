import Mathlib.Data.Finmap
import Mathlib.Data.Finset.Dedup

/-!
# Walks over finite maps

A hash map is a finite map (`Finmap`) together with an order in which it happens to be walked. Such
an order is a list of its keys (`Enumerates`); a program that walks a hash map is given that list.
-/

namespace Finmap

variable {K V W : Type}

/-- Apply `f` to every value. -/
def mapVals (f : V → W) (m : Finmap fun _ : K => V) : Finmap fun _ : K => W :=
  m.liftOn (fun l => (⟨l.entries.map (.map id fun _ => f), l.nodupKeys.map₂ fun _ => f⟩ :
      AList fun _ : K => W).toFinmap) fun _ _ h => by
    rw [AList.toFinmap_eq]
    exact h.map _

/-- `ks` lists every key of `m` once: an order in which `m` can be walked. -/
def Enumerates (m : Finmap fun _ : K => V) (ks : List K) : Prop :=
  ks.Nodup ∧ ∀ k, k ∈ ks ↔ k ∈ m

variable [DecidableEq K]

@[simp] theorem lookup_mapVals {f : V → W} {m : Finmap fun _ : K => V} {k : K} :
    (m.mapVals f).lookup k = (m.lookup k).map f := by
  induction m using Finmap.induction_on with
  | H l => exact List.dlookup_map₂ (f := fun _ => f) k

theorem mem_mapVals {f : V → W} {m : Finmap fun _ : K => V} {k : K} : k ∈ m.mapVals f ↔ k ∈ m := by
  rw [← lookup_isSome, ← lookup_isSome, lookup_mapVals, Option.isSome_map]

theorem lookup_insert_eq {m : Finmap fun _ : K => V} {k k' : K} {v : V} :
    (m.insert k v).lookup k' = if k' = k then some v else m.lookup k' := by
  by_cases h : k' = k
  · subst h; simp
  · simp [h]

/-- An entry after an insertion is the new one, or an old one. -/
theorem lookup_insert_cases {m : Finmap fun _ : K => V} {k k' : K} {v v' : V}
    (h : (m.insert k v).lookup k' = some v') : k' = k ∧ v = v' ∨ m.lookup k' = some v' := by
  rw [lookup_insert_eq] at h
  split at h
  · next hk => exact .inl ⟨hk, Option.some.inj h⟩
  · exact .inr h

theorem lookup_erase_eq {m : Finmap fun _ : K => V} {k k' : K} :
    (m.erase k).lookup k' = if k' = k then none else m.lookup k' := by
  by_cases h : k' = k
  · subst h; simp
  · simp [h]

/-- Writing back the value that is already there changes nothing. -/
theorem insert_lookup_self {m : Finmap fun _ : K => V} {k : K} {v : V} (h : m.lookup k = some v) :
    m.insert k v = m := by
  apply ext_lookup
  intro k'
  rw [lookup_insert_eq]
  split
  · next hk => rw [hk, h]
  · rfl

/-- Adding a fresh entry and dropping it again changes nothing. -/
theorem erase_insert_of_absent {m : Finmap fun _ : K => V} {k : K} {v : V}
    (h : m.lookup k = none) : (m.insert k v).erase k = m := by
  apply ext_lookup
  intro k'
  rw [lookup_erase_eq, lookup_insert_eq]
  split
  · next hk => rw [hk, h]
  · rfl

theorem mapVals_insert (f : V → W) (m : Finmap fun _ : K => V) (k : K) (v : V) :
    (m.insert k v).mapVals f = (m.mapVals f).insert k (f v) := by
  apply ext_lookup
  intro k'
  rw [lookup_mapVals, lookup_insert_eq, lookup_insert_eq, lookup_mapVals]
  split <;> rfl

theorem mapVals_erase (f : V → W) (m : Finmap fun _ : K => V) (k : K) :
    (m.erase k).mapVals f = (m.mapVals f).erase k := by
  apply ext_lookup
  intro k'
  rw [lookup_mapVals, lookup_erase_eq, lookup_erase_eq, lookup_mapVals]
  split <;> rfl

theorem mapVals_eq_empty_iff {f : V → W} {m : Finmap fun _ : K => V} :
    m.mapVals f = ∅ ↔ m.keys = ∅ := by
  constructor
  · intro h
    refine Finset.eq_empty_of_forall_notMem fun k hk => ?_
    have hmem : k ∈ m.mapVals f := mem_mapVals.mpr (mem_keys.mp hk)
    rw [h] at hmem
    exact notMem_empty hmem
  · intro h
    apply ext_lookup
    intro k
    have hk : k ∉ m := by
      rw [← mem_keys, h]
      exact Finset.notMem_empty k
    rw [lookup_mapVals, lookup_eq_none.mpr hk, lookup_empty]
    rfl

/-- A union looks in the first map first. -/
theorem lookup_union_or {m m' : Finmap fun _ : K => V} {k : K} :
    (m ∪ m').lookup k = (m.lookup k).or (m'.lookup k) := by
  cases h : m.lookup k with
  | none => rw [lookup_union_right (lookup_eq_none.mp h), Option.none_or]
  | some v => rw [lookup_union_left (mem_of_lookup_eq_some h), h, Option.some_or]

theorem enumerates_of_keys {m : Finmap fun _ : K => V} {ks : List K} (hn : ks.Nodup)
    (h : m.keys = ks.toFinset) : m.Enumerates ks :=
  ⟨hn, fun k => by rw [← mem_keys, h, List.mem_toFinset]⟩

omit [DecidableEq K] in
theorem exists_enumeration (m : Finmap fun _ : K => V) : ∃ ks, m.Enumerates ks :=
  ⟨m.keys.toList, Finset.nodup_toList _, fun k => by rw [Finset.mem_toList, mem_keys]⟩

/-- Any entries may be walked first. -/
theorem exists_enumeration_from (m : Finmap fun _ : K => V) {front : List K} (hf : front.Nodup)
    (hm : ∀ k ∈ front, k ∈ m) : ∃ back, m.Enumerates (front ++ back) := by
  obtain ⟨ks, hks, hmem⟩ := m.exists_enumeration
  refine ⟨ks.filter (· ∉ front), ?_, fun k => ?_⟩
  · refine List.nodup_append.mpr ⟨hf, hks.filter _, ?_⟩
    rintro a ha b hb rfl
    exact (of_decide_eq_true (List.mem_filter.mp hb).2) ha
  · rw [List.mem_append, List.mem_filter, decide_eq_true_eq, hmem]
    constructor
    · rintro (h | h)
      · exact hm k h
      · exact h.1
    · intro h
      by_cases hk : k ∈ front
      · exact .inl hk
      · exact .inr ⟨h, hk⟩

end Finmap
