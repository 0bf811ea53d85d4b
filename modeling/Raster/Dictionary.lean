/-!
# Dictionaries

A `Dictionary` holds a value for each of finitely many keys.  It is a list of pairs in which no key
occurs twice, in the order in which the keys came in; a key that gets a new value keeps its place.
`get?` is the view of a dictionary, and `get?_insert` and `get?_erase` say what the operations do to
it.
-/

namespace Raster

variable {κ ν : Type}

/-- Finitely many keys, each with a value. -/
structure Dictionary (κ ν : Type) where
  entries : List (κ × ν)
  nodup : (entries.map Prod.fst).Nodup

namespace Dictionary

/-- No keys. -/
def empty : Dictionary κ ν := ⟨[], List.nodup_nil⟩

instance : Inhabited (Dictionary κ ν) := ⟨empty⟩

/-- The keys, in the order in which they came in. -/
def keys (d : Dictionary κ ν) : List κ := d.entries.map Prod.fst

variable [DecidableEq κ]

/-- The value of a key. -/
def get? (d : Dictionary κ ν) (k : κ) : Option ν := (d.entries.find? (·.1 = k)).map Prod.snd

/-- The dictionary without a key. -/
def erase (d : Dictionary κ ν) (k : κ) : Dictionary κ ν where
  entries := d.entries.filter (·.1 ≠ k)
  nodup := d.nodup.sublist (List.filter_sublist.map Prod.fst)

/-- Entries in which a key that is there has a new value. -/
def replaceIn (k : κ) (v : ν) (entries : List (κ × ν)) : List (κ × ν) :=
  entries.map fun e => if e.1 = k then (k, v) else e

@[simp] theorem map_fst_replaceIn (k : κ) (v : ν) (entries : List (κ × ν)) :
    (replaceIn k v entries).map Prod.fst = entries.map Prod.fst := by
  simp only [replaceIn, List.map_map]
  refine List.map_congr_left fun e _ => ?_
  by_cases h : e.1 = k <;> simp [h]

/-- The dictionary with a new value for a key. -/
def insert (d : Dictionary κ ν) (k : κ) (v : ν) : Dictionary κ ν :=
  if h : k ∈ d.entries.map Prod.fst then ⟨replaceIn k v d.entries, by simpa using d.nodup⟩
  else ⟨d.entries ++ [(k, v)], by
    rw [List.map_append, List.nodup_append]
    refine ⟨d.nodup, by simp, fun a ha b hb e => h ?_⟩
    simp only [List.map_cons, List.map_nil, List.mem_singleton] at hb
    rwa [← hb, ← e]⟩

@[simp] theorem get?_empty (k : κ) : (empty : Dictionary κ ν).get? k = none := rfl

/-- A key has a value exactly if it is among the keys. -/
theorem get?_eq_none_iff {d : Dictionary κ ν} {k : κ} : d.get? k = none ↔ k ∉ d.keys := by
  simp only [get?, keys, Option.map_eq_none_iff, List.find?_eq_none, decide_eq_true_eq,
    List.mem_map, not_exists, not_and]

theorem get?_erase (d : Dictionary κ ν) (k l : κ) :
    (d.erase k).get? l = if l = k then none else d.get? l := by
  unfold get? erase
  simp only [List.find?_filter]
  split
  · next h =>
    subst h
    rw [Option.map_eq_none_iff, List.find?_eq_none]
    simp
  · next h =>
    congr 2
    funext e
    by_cases he : e.1 = l <;> simp [he, h]

/-- Replacing a value changes the value of that key alone. -/
theorem find?_replaceIn (k l : κ) (v : ν) (entries : List (κ × ν)) :
    (replaceIn k v entries).find? (·.1 = l)
      = (entries.find? (·.1 = l)).map fun e => if l = k then (k, v) else e := by
  have key (e : κ × ν) : (if e.1 = k then (k, v) else e).1 = e.1 := by
    split <;> simp_all
  have same : ((fun e : κ × ν => decide (e.1 = l)) ∘ fun e => if e.1 = k then (k, v) else e)
      = fun e => decide (e.1 = l) := by
    funext e
    simp only [Function.comp_apply, key]
  rw [replaceIn, List.find?_map, same]
  refine Option.map_congr fun e he => ?_
  have found := List.find?_some he
  rw [of_decide_eq_true found]

theorem get?_insert (d : Dictionary κ ν) (k l : κ) (v : ν) :
    (d.insert k v).get? l = if l = k then some v else d.get? l := by
  unfold insert
  split
  · next h =>
    by_cases hl : l = k
    · subst hl
      obtain ⟨x, hx⟩ := Option.ne_none_iff_exists'.1 (mt get?_eq_none_iff.1 (not_not_intro h))
      obtain ⟨e, he, -⟩ := Option.map_eq_some_iff.1 hx
      simp [get?, find?_replaceIn, he]
    · simp [get?, find?_replaceIn, hl]
  · next h =>
    have absent : d.get? k = none := get?_eq_none_iff.2 h
    by_cases hl : l = k
    · subst hl
      simp only [get?, Option.map_eq_none_iff] at absent
      simp [get?, absent]
    · have hkl : ¬ k = l := fun e => hl e.symm
      simp [get?, hl, hkl]

end Dictionary

end Raster
