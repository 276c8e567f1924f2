import Mathlib.Data.List.Forall2

/-!
# Results of steps that may fail

A sequence of steps succeeds if each step does, and it fails with the error of the first one that
does not.
-/

namespace Colloquy

theorem eq_ok_of_toOption {x : Except ε α} {a : α} (h : x.toOption = some a) : x = .ok a := by
  cases x with
  | ok b =>
      cases h
      rfl
  | error e => cases h

theorem bind_eq_ok_iff {x : Except ε α} {f : α -> Except ε β} {b : β} :
    (x >>= f) = .ok b <-> exists a, x = .ok a ∧ f a = .ok b := by
  cases x with
  | ok a =>
      constructor
      · intro h
        exact ⟨a, rfl, h⟩
      · intro h
        rcases h with ⟨a', ha, h⟩
        cases ha
        exact h
  | error e =>
      constructor
      · intro h
        cases h
      · intro h
        rcases h with ⟨a, ha, _⟩
        cases ha

theorem bind_eq_error_iff {x : Except ε α} {f : α -> Except ε β} {e : ε} :
    (x >>= f) = .error e <-> x = .error e ∨ exists a, x = .ok a ∧ f a = .error e := by
  cases x with
  | ok a => simp [bind, Except.bind]
  | error e' => simp [bind, Except.bind]

theorem map_eq_ok_iff {x : Except ε α} {f : α -> β} {b : β} :
    x.map f = .ok b <-> exists a, x = .ok a ∧ f a = b := by
  cases x with
  | ok a => simp [Except.map]
  | error e => simp [Except.map]

theorem map_eq_error_iff {x : Except ε α} {f : α -> β} {e : ε} :
    x.map f = .error e <-> x = .error e := by
  cases x with
  | ok a => simp [Except.map]
  | error e' => simp [Except.map]

theorem mapM_eq_ok_iff {f : α -> Except ε β} {as : List α} {bs : List β} :
    as.mapM f = .ok bs <-> List.Forall₂ (fun a b => f a = .ok b) as bs := by
  induction as generalizing bs with
  | nil =>
      rw [List.mapM_nil, List.forall₂_nil_left_iff]
      constructor
      · intro h
        cases h
        rfl
      · intro h
        rw [h]
        rfl
  | cons a as ih =>
      rw [List.mapM_cons, bind_eq_ok_iff, List.forall₂_cons_left_iff]
      constructor
      · intro h
        rcases h with ⟨b, hb, h⟩
        rcases bind_eq_ok_iff.mp h with ⟨bs', hbs, h⟩
        cases h
        exact ⟨b, bs', hb, ih.mp hbs, rfl⟩
      · intro h
        rcases h with ⟨b, bs', hb, hbs, rfl⟩
        exact ⟨b, hb, bind_eq_ok_iff.mpr ⟨bs', ih.mpr hbs, rfl⟩⟩

theorem mapM_eq_error {f : α -> Except ε β} {as : List α} {e : ε} (h : as.mapM f = .error e) :
    exists front a, front ++ [a] <+: as ∧ f a = .error e ∧
      forall a', a' ∈ front -> exists b, f a' = .ok b := by
  induction as with
  | nil => cases h
  | cons a as ih =>
      rw [List.mapM_cons] at h
      rcases bind_eq_error_iff.mp h with ha | ⟨b, hb, h⟩
      · exact ⟨[], a, List.prefix_append [a] as, ha, fun a' ha' => (List.not_mem_nil ha').elim⟩
      · rcases bind_eq_error_iff.mp h with hrest | ⟨bs, _, h⟩
        · rcases ih hrest with ⟨front, a', hprefix, ha', hfront⟩
          exact ⟨a :: front, a', (List.prefix_cons_inj a).mpr hprefix, ha',
            List.forall_mem_cons.mpr ⟨⟨b, hb⟩, hfront⟩⟩
        · cases h

/-!
# Lists that are read one element at a time
-/

theorem exists_forall₂ {r : α -> β -> Prop} {as : List α}
    (h : forall a, a ∈ as -> exists b, r a b) : exists bs, List.Forall₂ r as bs := by
  induction as with
  | nil => exact ⟨[], List.Forall₂.nil⟩
  | cons a as ih =>
      rcases h a List.mem_cons_self with ⟨b, hb⟩
      rcases ih fun a ha => h a (List.mem_cons_of_mem _ ha) with ⟨bs, hbs⟩
      exact ⟨b :: bs, List.Forall₂.cons hb hbs⟩

theorem exists_of_forall₂ {r : α -> β -> Prop} {as : List α} {bs : List β} {a : α}
    (h : List.Forall₂ r as bs) (ha : a ∈ as) : exists b, r a b := by
  induction h with
  | nil => cases ha
  | cons hab _ ih =>
      rcases List.mem_cons.mp ha with rfl | ha
      · exact ⟨_, hab⟩
      · exact ih ha

/-- Elements that are read if they are well shaped make lists of which the same is true. -/
theorem forall₂_iff_shaped {r means : α -> β -> Prop} {shaped : α -> Prop} {as : List α}
    {bs : List β} (h : forall a, a ∈ as -> forall b, r a b <-> shaped a ∧ means a b) :
    List.Forall₂ r as bs <-> (forall a, a ∈ as -> shaped a) ∧ List.Forall₂ means as bs := by
  induction as generalizing bs with
  | nil => simp
  | cons a as ih =>
      have hrest := fun b hb => h b (List.mem_cons_of_mem a hb)
      rw [List.forall₂_cons_left_iff, List.forall₂_cons_left_iff, List.forall_mem_cons]
      constructor
      · intro hr
        rcases hr with ⟨b, bs', hab, hbs, rfl⟩
        rcases (h a List.mem_cons_self b).mp hab with ⟨hshaped, hmeans⟩
        rcases (ih hrest).mp hbs with ⟨hshapedRest, hmeansRest⟩
        exact ⟨⟨hshaped, hshapedRest⟩, b, bs', hmeans, hmeansRest, rfl⟩
      · intro hr
        rcases hr with ⟨⟨hshaped, hshapedRest⟩, b, bs', hmeans, hmeansRest, rfl⟩
        exact ⟨b, bs', (h a List.mem_cons_self b).mpr ⟨hshaped, hmeans⟩,
          (ih hrest).mpr ⟨hshapedRest, hmeansRest⟩, rfl⟩

end Colloquy
