import Raster.Dictionary
import Mathlib

/-!
# Facts about dictionaries

The number of values with a property goes up and down with the values that come and go
(`Dictionary.count_insert`, `Dictionary.count_erase`).  A dictionary is settled by its keys, in
their order, and the value of each (`Dictionary.ext_get?`); so what happens at different keys can
happen in either order (`Dictionary.assign_comm`).  `Dictionary.map` turns each value into another.
-/

namespace Raster.Dictionary

variable {κ ν : Type}

/-! ## Counting values -/

/-- The number of values with a property. -/
def count (d : Dictionary κ ν) (p : ν → Bool) : Nat := d.entries.countP fun e => p e.2

section

variable [DecidableEq κ] (d : Dictionary κ ν) (k : κ) (v : ν) (p : ν → Bool)

lemma countP_filter_ne {l : List (κ × ν)} (h : (l.map Prod.fst).Nodup) :
    (l.filter (·.1 ≠ k)).countP (fun e => p e.2)
        + (((l.find? (·.1 = k)).map Prod.snd).any p).toNat =
      l.countP fun e => p e.2 := by
  induction l with
  | nil => rfl
  | cons e l ih =>
    rw [List.map_cons, List.nodup_cons] at h
    have ih := ih h.2
    by_cases he : e.1 = k
    · -- no other entry has this key, so the others are all kept
      have habsent : l.find? (·.1 = k) = none := by
        rw [List.find?_eq_none]
        intro e' he' hk
        exact h.1 (List.mem_map.2 ⟨e', he', (of_decide_eq_true hk).trans he.symm⟩)
      rw [habsent, Option.map_none, Option.any_none, Bool.toNat_false, Nat.add_zero] at ih
      rw [List.filter_cons_of_neg (by simp [he]), List.find?_cons_of_pos (by simp [he]),
        List.countP_cons, ih, Option.map_some, Option.any_some]
      cases p e.2 <;> rfl
    · rw [List.filter_cons_of_pos (by simp [he]), List.find?_cons_of_neg (by simp [he]),
        List.countP_cons, List.countP_cons, ← ih]
      omega

lemma count_erase :
    (d.erase k).count p + ((d.get? k).any p).toNat = d.count p := countP_filter_ne k p d.nodup

lemma filter_replaceIn (l : List (κ × ν)) :
    (replaceIn k v l).filter (·.1 ≠ k) = l.filter (·.1 ≠ k) := by
  induction l with
  | nil => rfl
  | cons e l ih =>
    rw [replaceIn, List.map_cons]
    by_cases he : e.1 = k
    · rw [if_pos he, List.filter_cons_of_neg (by simp), List.filter_cons_of_neg (by simp [he])]
      exact ih
    · rw [if_neg he, List.filter_cons_of_pos (by simp [he]),
        List.filter_cons_of_pos (by simp [he])]
      exact congrArg (e :: ·) ih

lemma erase_insert : ((d.insert k v).erase k).entries = (d.erase k).entries := by
  unfold insert
  split
  · exact filter_replaceIn k v d.entries
  · simp [erase]

lemma count_insert :
    (d.insert k v).count p + ((d.get? k).any p).toNat = d.count p + (p v).toNat := by
  have hafter := count_erase (d.insert k v) k p
  have hbefore := count_erase d k p
  rw [get?_insert, if_pos rfl, Option.any_some, count, erase_insert] at hafter
  rw [count] at hbefore
  omega

/-- An entry of a dictionary is the only one of its key. -/
lemma get?_of_mem {e : κ × ν} (h : e ∈ d.entries) : d.get? e.1 = some e.2 := by
  cases hfind : d.entries.find? (·.1 = e.1) with
  | none =>
    have hother := List.find?_eq_none.1 hfind e h
    exact absurd (decide_eq_true rfl) hother
  | some e' =>
    have hfound := List.find?_some hfind
    have hkey : e'.1 = e.1 := of_decide_eq_true hfound
    have hsame := List.inj_on_of_nodup_map d.nodup (List.mem_of_find?_eq_some hfind) h hkey
    rw [get?, hfind, hsame]
    rfl

/-- The value of a key is in an entry. -/
lemma mem_of_get? {d : Dictionary κ ν} {k : κ} {v : ν} (h : d.get? k = some v) :
    (k, v) ∈ d.entries := by
  obtain ⟨e, he, rfl⟩ := Option.map_eq_some_iff.1 h
  have hfound := List.find?_some he
  obtain rfl : e.1 = k := of_decide_eq_true hfound
  exact List.mem_of_find?_eq_some he

section

variable {d} {P : ν → Prop}

/-- What is true of all values is true of those that are left. -/
lemma forall_get?_erase (hd : ∀ k v, d.get? k = some v → P v) :
    ∀ k' v', (d.erase k).get? k' = some v' → P v' := by
  intro k' v' h
  rw [get?_erase] at h
  split at h
  · cases h
  · exact hd k' v' h

/-- What is true of all values and of a new one is true of all values afterwards. -/
lemma forall_get?_insert (hd : ∀ k v, d.get? k = some v → P v) {v : ν} (hv : P v) :
    ∀ k' v', (d.insert k v).get? k' = some v' → P v' := by
  intro k' v' h
  rw [get?_insert] at h
  split at h
  · cases h
    exact hv
  · exact hd k' v' h

end

lemma count_eq_zero (h : ∀ k v, d.get? k = some v → p v = false) : d.count p = 0 := by
  rw [count, List.countP_eq_zero]
  intro e he
  rw [h e.1 e.2 (get?_of_mem d he)]
  exact Bool.false_ne_true

end

/-! ## Equal dictionaries -/

section

variable [DecidableEq κ] {d : Dictionary κ ν} {k l : κ}

lemma entries_eq (d : Dictionary κ ν) :
    d.entries = d.keys.filterMap fun k => (d.get? k).map (Prod.mk k) := by
  have hentry : ∀ e ∈ d.entries, (d.get? e.1).map (Prod.mk e.1) = some e := by
    intro e he
    rw [get?_of_mem d he]
    rfl
  rw [keys, List.filterMap_map]
  exact (List.filterMap_some.symm.trans (List.filterMap_congr fun e he => (hentry e he).symm))

/-- Dictionaries that have the same keys in the same order, with the same values, are equal. -/
lemma ext_get? {d' : Dictionary κ ν} (hkeys : d.keys = d'.keys)
    (hvalues : ∀ k, d.get? k = d'.get? k) : d = d' := by
  have hentries : d.entries = d'.entries := by
    rw [entries_eq, entries_eq, hkeys]
    exact List.filterMap_congr fun k _ => by rw [hvalues]
  cases d
  cases d'
  cases hentries
  rfl

lemma mem_keys_of_get? {v : ν} (hk : d.get? k = some v) : k ∈ d.keys := by
  by_contra habsent
  rw [get?_eq_none_iff.2 habsent] at hk
  cases hk

lemma keys_erase (d : Dictionary κ ν) (k : κ) : (d.erase k).keys = d.keys.filter (· ≠ k) := by
  simp [erase, keys, List.filter_map, Function.comp_def]

/-- A new key comes last. -/
lemma keys_insert (d : Dictionary κ ν) (k : κ) (v : ν) :
    (d.insert k v).keys = if k ∈ d.keys then d.keys else d.keys ++ [k] := by
  rw [insert]
  split
  · next h => rw [if_pos (by exact h), keys, map_fst_replaceIn, keys]
  · next h => rw [if_neg (by exact h), keys, List.map_append, keys, List.map_singleton]

/-- Gives a key a value, or takes away the one it has. -/
def assign (d : Dictionary κ ν) (k : κ) : Option ν → Dictionary κ ν
  | some v => d.insert k v
  | none => d.erase k

lemma get?_assign (d : Dictionary κ ν) (k l : κ) (v : Option ν) :
    (d.assign k v).get? l = if l = k then v else d.get? l := by
  cases v with
  | some v => exact get?_insert d k l v
  | none => exact get?_erase d k l

/-- A key that gets another value keeps its place. -/
lemma keys_assign (hk : k ∈ d.keys) (v : Option ν) :
    (d.assign k v).keys = d.keys.filter fun l => l ≠ k ∨ v.isSome := by
  cases v with
  | some v =>
    rw [assign, keys_insert, if_pos hk, List.filter_eq_self.2]
    intro l _
    simp
  | none =>
    rw [assign, keys_erase]
    simp

/-- A value that is given to the key that has it changes nothing. -/
lemma assign_get? {v : ν} (hk : d.get? k = some v) : d.assign k (some v) = d := by
  have hmem : k ∈ d.keys := mem_keys_of_get? hk
  refine ext_get? ?_ fun l => ?_
  · rw [keys_assign hmem]
    exact List.filter_eq_self.2 fun l _ => by simp
  · rw [get?_assign]
    split
    · next h => rw [h, hk]
    · rfl

/-- What happens at different keys can happen in either order. -/
lemma assign_comm (hkl : k ≠ l) (hk : k ∈ d.keys) (hl : l ∈ d.keys) (v w : Option ν) :
    (d.assign k v).assign l w = (d.assign l w).assign k v := by
  have hl' : l ∈ (d.assign k v).keys := by
    rw [keys_assign hk]
    simp [hl, Ne.symm hkl]
  have hk' : k ∈ (d.assign l w).keys := by
    rw [keys_assign hl]
    simp [hk, hkl]
  refine ext_get? ?_ fun j => ?_
  · rw [keys_assign hl', keys_assign hk', keys_assign hk, keys_assign hl, List.filter_filter,
      List.filter_filter]
    exact List.filter_congr fun j _ => Bool.and_comm _ _
  · rw [get?_assign, get?_assign, get?_assign, get?_assign]
    by_cases hj : j = l
    · rw [if_pos hj, if_pos hj, if_neg (by rw [hj]; exact hkl.symm)]
    · rw [if_neg hj, if_neg hj]

/-- Taking away a key that is not there changes nothing. -/
lemma erase_of_get? (hk : d.get? k = none) : d.erase k = d := by
  refine ext_get? ?_ fun l => ?_
  · rw [keys_erase, List.filter_eq_self]
    intro l hl
    rw [decide_eq_true_eq]
    rintro rfl
    exact get?_eq_none_iff.1 hk hl
  · rw [get?_erase]
    split
    · next h => rw [h, hk]
    · rfl

end

/-! ## Other values -/

section

variable {μ : Type} (f : ν → μ)

/-- The dictionary with each value turned into another. -/
def map (d : Dictionary κ ν) : Dictionary κ μ where
  entries := d.entries.map fun e => (e.1, f e.2)
  nodup := by
    rw [List.map_map]
    exact d.nodup

lemma keys_map (d : Dictionary κ ν) : (d.map f).keys = d.keys := by
  rw [keys, map, List.map_map]
  rfl

lemma count_map (d : Dictionary κ ν) (p : μ → Bool) :
    (d.map f).count p = d.count fun v => p (f v) := by
  rw [count, map, List.countP_map]
  rfl

variable [DecidableEq κ] (d : Dictionary κ ν) (k : κ)

lemma get?_map : (d.map f).get? k = (d.get? k).map f := by
  rw [get?, map, List.find?_map, Option.map_map, get?, Option.map_map]
  rfl

lemma map_erase : (d.erase k).map f = (d.map f).erase k := by
  refine ext_get? ?_ fun l => ?_
  · rw [keys_map, keys_erase, keys_erase, keys_map]
  · rw [get?_map, get?_erase, get?_erase, get?_map]
    split <;> rfl

lemma map_insert (v : ν) : (d.insert k v).map f = (d.map f).insert k (f v) := by
  refine ext_get? ?_ fun l => ?_
  · rw [keys_map, keys_insert, keys_insert, keys_map]
  · rw [get?_map, get?_insert, get?_insert, get?_map]
    split <;> rfl

end

end Raster.Dictionary
