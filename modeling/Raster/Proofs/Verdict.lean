import Raster.Error
import Raster.Require
import Mathlib

/-!
# Verdicts

A reader of a file makes one check after another and stops at the first that fails.  A `Check` is a
condition with the error that is reported if it does not hold, and `verdict` goes through a list of
checks.  A computation that has been brought into the form `(verdict checks).map f` shows at a
glance when it succeeds (`verdict_eq_ok_iff`), and two such computations are compared check by
check (`require_bind_congr`).
-/

namespace Raster

variable {ε α β : Type}

/-! ## Computations that can fail -/

@[simp] lemma ok_bind (a : α) (f : α → Except ε β) : ((Except.ok a : Except ε α) >>= f) = f a := rfl

@[simp] lemma error_bind (e : ε) (f : α → Except ε β) :
    ((Except.error e : Except ε α) >>= f) = .error e := rfl

lemma bind_eq_ok_iff {x : Except ε α} {f : α → Except ε β} {b : β} :
    (x >>= f) = .ok b ↔ ∃ a, x = .ok a ∧ f a = .ok b := by
  cases x with
  | error e => simp
  | ok a => simp

lemma map_eq_ok_iff {x : Except ε α} {f : α → β} {b : β} :
    x.map f = .ok b ↔ ∃ a, x = .ok a ∧ f a = b := by
  cases x with
  | error e => simp [Except.map]
  | ok a => simp [Except.map]

lemma mapError_eq_ok_iff {ε' : Type} {x : Except ε α} {f : ε → ε'} {a : α} :
    x.mapError f = .ok a ↔ x = .ok a := by
  cases x with
  | error e => simp [Except.mapError]
  | ok a => simp [Except.mapError]

lemma mapError_eq_error_iff {ε' : Type} {x : Except ε α} {f : ε → ε'} {e' : ε'} :
    x.mapError f = .error e' ↔ ∃ e, x = .error e ∧ e' = f e := by
  cases x with
  | error e => simp [Except.mapError, eq_comm]
  | ok a => simp [Except.mapError]

lemma mapError_bind {ε' : Type} (x : Except ε α) (f : α → Except ε β) (g : ε → ε') :
    (x >>= f).mapError g = x.mapError g >>= fun a => (f a).mapError g := by
  cases x <;> rfl

lemma mapError_map {ε' : Type} (x : Except ε α) (f : α → β) (g : ε → ε') :
    (x.map f).mapError g = (x.mapError g).map f := by
  cases x <;> rfl

lemma map_eq_bind (x : Except ε α) (f : α → β) : x.map f = x >>= fun a => .ok (f a) := by
  cases x <;> rfl

lemma map_bind (x : Except ε Unit) (f : Unit → α) (g : α → Except ε β) :
    (x.map f >>= g) = x >>= fun u => g (f u) := by
  cases x with
  | error e => rfl
  | ok u => rfl

/-- Going through a list succeeds if and only if it does so at every element. -/
lemma mapM_eq_ok_iff {f : α → Except ε β} {l : List α} {r : List β} :
    l.mapM f = .ok r ↔ List.Forall₂ (fun a b => f a = .ok b) l r := by
  induction l generalizing r with
  | nil =>
    rw [List.mapM_nil, List.forall₂_nil_left_iff]
    exact ⟨fun h => (Except.ok.inj h).symm, fun h => h ▸ rfl⟩
  | cons a l ih =>
    rw [List.mapM_cons, bind_eq_ok_iff]
    constructor
    · rintro ⟨b, hb, h⟩
      obtain ⟨bs, hbs, h⟩ := bind_eq_ok_iff.1 h
      obtain rfl := Except.ok.inj h
      exact List.Forall₂.cons hb (ih.1 hbs)
    · intro h
      obtain ⟨b, bs, hb, hbs, rfl⟩ := List.forall₂_cons_left_iff.1 h
      exact ⟨b, hb, bind_eq_ok_iff.2 ⟨bs, ih.2 hbs, rfl⟩⟩

/-- Going through two lists ends in the same way if each step does. -/
lemma mapM_congr_forall₂ {γ : Type} {f : α → Except ε γ} {g : β → Except ε γ} {l : List α}
    {r : List β} (h : List.Forall₂ (fun a b => f a = g b) l r) : l.mapM f = r.mapM g := by
  induction h with
  | nil => rfl
  | cons hab _ ih => rw [List.mapM_cons, List.mapM_cons, hab, ih]

/-- Going through a list fails at its first element that fails. -/
lemma mapM_eq_error_iff {f : α → Except ε β} {l : List α} {e : ε} :
    l.mapM f = .error e ↔ ∃ (k : Nat) (a : α), l[k]? = some a ∧ f a = .error e ∧
      ∀ j < k, ∀ b, l[j]? = some b → ∃ c, f b = .ok c := by
  induction l with
  | nil =>
    refine ⟨nofun, ?_⟩
    rintro ⟨k, a, hk, -⟩
    cases hk
  | cons a l ih =>
    rw [List.mapM_cons]
    cases ha : f a with
    | error e' =>
      rw [error_bind]
      constructor
      · intro h
        obtain rfl := Except.error.inj h
        exact ⟨0, a, rfl, ha, nofun⟩
      · rintro ⟨_ | k, b, hb, hfail, hbefore⟩
        · obtain rfl := Option.some.inj hb
          obtain rfl := Except.error.inj (ha.symm.trans hfail)
          rfl
        · obtain ⟨c, hc⟩ := hbefore 0 (Nat.succ_pos k) a rfl
          rw [ha] at hc
          cases hc
    | ok b =>
      have htail : (l.mapM f >>= fun bs => (Except.ok (b :: bs) : Except ε (List β))) = .error e ↔
          l.mapM f = .error e := by
        cases l.mapM f <;> simp
      rw [ok_bind]
      refine htail.trans (ih.trans ⟨?_, ?_⟩)
      · rintro ⟨k, c, hc, hfail, hbefore⟩
        refine ⟨k + 1, c, hc, hfail, ?_⟩
        rintro (_ | j) hj d hd
        · obtain rfl := Option.some.inj hd
          exact ⟨b, ha⟩
        · exact hbefore j (Nat.lt_of_succ_lt_succ hj) d hd
      · rintro ⟨_ | k, c, hc, hfail, hbefore⟩
        · obtain rfl := Option.some.inj hc
          rw [ha] at hfail
          cases hfail
        · exact ⟨k, c, hc, hfail, fun j hj => hbefore (j + 1) (Nat.succ_lt_succ hj)⟩

/-- If going through a list fails, it does so at one of its elements. -/
lemma exists_of_mapM_eq_error {f : α → Except ε β} {l : List α} {e : ε}
    (h : l.mapM f = .error e) : ∃ a ∈ l, f a = .error e := by
  obtain ⟨k, a, hk, hfail, -⟩ := mapM_eq_error_iff.1 h
  exact ⟨a, List.mem_of_getElem? hk, hfail⟩

/-- Going through a list of lists is going through each of them. -/
lemma mapM_flatMap (l : List α) (f : α → List β) {γ : Type} (g : β → Except ε γ) :
    (l.flatMap f).mapM g = (l.mapM fun a => (f a).mapM g) >>= fun r => .ok r.flatten := by
  induction l with
  | nil => rfl
  | cons a l ih =>
    rw [List.flatMap_cons, List.mapM_append, List.mapM_cons, ih]
    cases (f a).mapM g with
    | error e => rfl
    | ok first =>
      simp only [ok_bind]
      cases l.mapM fun a => (f a).mapM g <;> rfl

/-- Two computations that start with the same condition agree if they go on in the same way once
the condition holds. -/
lemma require_bind_congr {p q : Prop} {_ : Decidable p} {_ : Decidable q} {e : ε}
    {f g : Unit → Except ε α} (hpq : p ↔ q) (hfg : p → f () = g ()) :
    (require p e >>= f) = require q e >>= g := by
  by_cases hp : p
  · rw [require_bind hp, require_bind (hpq.1 hp), hfg hp]
  · rw [require_bind_of_not hp, require_bind_of_not fun hq => hp (hpq.2 hq)]

/-- A condition that a later one implies need not be checked, if both have the same error. -/
lemma require_absorb {p q : Prop} {_ : Decidable p} {_ : Decidable q} {e : ε}
    {f : Unit → Except ε α} (hqp : q → p) :
    (require p e >>= fun _ => require q e >>= f) = require q e >>= f := by
  by_cases hq : q
  · rw [require_bind (hqp hq)]
  · rw [require_bind_of_not hq]
    by_cases hp : p
    · rw [require_bind hp]
    · rw [require_bind_of_not hp]

/-! ## Lists of checks -/

/-- A condition, with the error of what does not meet it. -/
structure Check where
  condition : Prop
  error : Error
  [decidable : Decidable condition]

instance (c : Check) : Decidable c.condition := c.decidable

/-- Goes through a list of checks up to the first that fails. -/
def verdict : List Check → Except Error Unit
  | [] => .ok ()
  | c :: cs => require c.condition c.error >>= fun _ => verdict cs

@[simp] lemma verdict_nil : verdict [] = .ok () := rfl

lemma verdict_cons (c : Check) (cs : List Check) :
    verdict (c :: cs) = require c.condition c.error >>= fun _ => verdict cs := rfl

lemma verdict_append (cs ds : List Check) :
    verdict (cs ++ ds) = verdict cs >>= fun _ => verdict ds := by
  induction cs with
  | nil => rfl
  | cons c cs ih => rw [List.cons_append, verdict_cons, verdict_cons, ih, bind_assoc]

lemma verdict_append_congr {cs ds ds' : List Check} (h : verdict ds = verdict ds') :
    verdict (cs ++ ds) = verdict (cs ++ ds') := by
  rw [verdict_append, verdict_append, h]

lemma verdict_append_of_ok {cs ds : List Check} (h : verdict cs = .ok ()) :
    verdict (cs ++ ds) = verdict ds := by
  rw [verdict_append, h, ok_bind]

lemma verdict_eq_ok_iff {cs : List Check} : verdict cs = .ok () ↔ ∀ c ∈ cs, c.condition := by
  induction cs with
  | nil => simp
  | cons c cs ih =>
    rw [verdict_cons, bind_eq_ok_iff]
    simp [ih]

/-- The first check of a list comes before the others. -/
lemma map_verdict_cons (c : Check) (cs : List Check) (f : Unit → α) :
    (verdict (c :: cs)).map f = require c.condition c.error >>= fun _ => (verdict cs).map f := by
  rw [verdict_cons]
  by_cases hc : c.condition
  · rw [require_bind hc, require_bind hc]
  · rw [require_bind_of_not hc, require_bind_of_not hc]
    rfl

lemma map_verdict_append (cs ds : List Check) (f : Unit → α) :
    (verdict (cs ++ ds)).map f = verdict cs >>= fun _ => (verdict ds).map f := by
  rw [verdict_append]
  cases verdict cs <;> rfl

@[simp] lemma map_verdict_nil (f : Unit → α) : (verdict []).map f = .ok (f ()) := rfl

/-- The same condition with another error. -/
def Check.mapError (f : Error → Error) (c : Check) : Check := { c with error := f c.error }

lemma mapError_verdict (f : Error → Error) (cs : List Check) :
    (verdict cs).mapError f = verdict (cs.map (Check.mapError f)) := by
  induction cs with
  | nil => rfl
  | cons c cs ih =>
    rw [List.map_cons, verdict_cons, verdict_cons, ← ih]
    by_cases hc : c.condition
    · have hc' : (c.mapError f).condition := hc
      rw [require_bind hc, require_bind hc']
    · have hc' : ¬ (c.mapError f).condition := hc
      rw [require_bind_of_not hc, require_bind_of_not hc']
      rfl

/-- What follows a list of checks may rely on all of them. -/
lemma verdict_bind_congr {cs : List Check} {f g : Unit → Except Error α}
    (h : (∀ c ∈ cs, c.condition) → f () = g ()) : (verdict cs >>= f) = verdict cs >>= g := by
  cases hv : verdict cs with
  | error e => rfl
  | ok u => exact h (verdict_eq_ok_iff.1 hv)

end Raster
