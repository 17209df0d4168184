import Mathlib.Data.List.Forall2

/-!
# What a computation went through

A computation that succeeds has gone through all its steps, and one that fails has failed at one of
them.

* `bind_ok`, `bind_error` — two computations in a row;
* `forall₂_of_mapM`, `exists_of_mapM_error`, `mapM_eq_error_iff` — one computation for each member
  of a list;
* `exists_of_foldlM_error` — one after the other;
* `exists_of_forall₂`, `forall₂_trans`, `forall₂_eq_iff` — lists that correspond;
* `exists_mapM_of_sublist` — lists of which some members are left out.
-/

namespace TemplateCheck

theorem bind_ok {ε α β : Type} {x : Except ε α} {f : α → Except ε β} {b : β}
    (h : x >>= f = .ok b) : ∃ a, x = .ok a ∧ f a = .ok b := by
  cases x with
  | error p => exact absurd h (by simp [bind, Except.bind])
  | ok a => exact ⟨a, rfl, h⟩

theorem bind_error {ε α β : Type} {x : Except ε α} {f : α → Except ε β} {p : ε}
    (h : x >>= f = .error p) : x = .error p ∨ ∃ a, x = .ok a ∧ f a = .error p := by
  cases x with
  | error q =>
    obtain rfl := Except.error.inj h
    exact .inl rfl
  | ok a => exact .inr ⟨a, rfl, h⟩

theorem eq_ok_of_toOption {ε α : Type} {x : Except ε α} {a : α} (h : x.toOption = some a) :
    x = .ok a := by
  cases x with
  | error p => exact absurd h (by simp [Except.toOption])
  | ok b => rw [Option.some.inj h]

/-- A list that was gone through without a fault has one result for each member. -/
theorem forall₂_of_mapM {ε α β : Type} {f : α → Except ε β} {as : List α} {bs : List β}
    (h : as.mapM f = .ok bs) : List.Forall₂ (fun a b => f a = .ok b) as bs := by
  induction as generalizing bs with
  | nil =>
    obtain rfl := Except.ok.inj h
    exact .nil
  | cons a as ih =>
    rw [List.mapM_cons] at h
    obtain ⟨b, hb, h⟩ := bind_ok h
    obtain ⟨bs', hbs, h⟩ := bind_ok h
    obtain rfl := Except.ok.inj h
    exact .cons hb (ih hbs)

theorem exists_of_mapM_error {ε α β : Type} {f : α → Except ε β} {as : List α} {p : ε}
    (h : as.mapM f = .error p) : ∃ a ∈ as, f a = .error p := by
  induction as with
  | nil => simp [pure, Except.pure] at h
  | cons a as ih =>
    rw [List.mapM_cons] at h
    rcases bind_error h with h | ⟨b, -, h⟩
    · exact ⟨a, List.mem_cons_self, h⟩
    · rcases bind_error h with h | ⟨bs, -, h⟩
      · obtain ⟨a', ha', h⟩ := ih h
        exact ⟨a', List.mem_cons_of_mem _ ha', h⟩
      · simp [pure, Except.pure] at h

/-- One computation for each member of a list fails with the fault of the first that fails. -/
theorem mapM_eq_error_iff {ε α β : Type} {f : α → Except ε β} {as : List α} {p : ε} :
    as.mapM f = .error p ↔
      ∃ before a after, as = before ++ a :: after ∧ (∀ b ∈ before, ∃ c, f b = .ok c) ∧
        f a = .error p := by
  constructor
  · intro h
    induction as with
    | nil => simp [pure, Except.pure] at h
    | cons a as ih =>
      rw [List.mapM_cons] at h
      rcases bind_error h with h | ⟨b, hb, h⟩
      · exact ⟨[], a, as, rfl, by simp, h⟩
      · rcases bind_error h with h | ⟨bs, -, h⟩
        · obtain ⟨before, a', after, rfl, hbefore, ha'⟩ := ih h
          exact ⟨a :: before, a', after, rfl, List.forall_mem_cons.mpr ⟨⟨b, hb⟩, hbefore⟩, ha'⟩
        · simp [pure, Except.pure] at h
  · rintro ⟨before, a, after, rfl, hbefore, ha⟩
    induction before with
    | nil => simp [List.mapM_cons, ha, bind, Except.bind]
    | cons b before ih =>
      obtain ⟨⟨c, hc⟩, hbefore⟩ := List.forall_mem_cons.mp hbefore
      rw [List.cons_append, List.mapM_cons, hc, ih hbefore]
      rfl

theorem exists_of_foldlM_error {ε α β : Type} {f : β → α → Except ε β} {as : List α} {b : β} {p : ε}
    (h : as.foldlM f b = .error p) : ∃ b', ∃ a ∈ as, f b' a = .error p := by
  induction as generalizing b with
  | nil => simp [pure, Except.pure] at h
  | cons a as ih =>
    rw [List.foldlM_cons] at h
    rcases bind_error h with h | ⟨b', -, h⟩
    · exact ⟨b, a, List.mem_cons_self, h⟩
    · obtain ⟨b'', a', ha', h⟩ := ih h
      exact ⟨b'', a', List.mem_cons_of_mem _ ha', h⟩

theorem exists_of_forall₂ {α β : Type} {R : α → β → Prop} {as : List α} {bs : List β}
    (h : List.Forall₂ R as bs) : ∀ b ∈ bs, ∃ a ∈ as, R a b := by
  induction h with
  | nil => simp
  | cons hab _ ih =>
    intro b hb
    rcases List.mem_cons.mp hb with rfl | hb
    · exact ⟨_, List.mem_cons_self, hab⟩
    · obtain ⟨a, ha, hab⟩ := ih b hb
      exact ⟨a, List.mem_cons_of_mem _ ha, hab⟩

/-- Two correspondences, one after the other. -/
theorem forall₂_trans {α β γ : Type} {R : α → β → Prop} {S : β → γ → Prop} {as : List α}
    {bs : List β} {cs : List γ} (h : List.Forall₂ R as bs) (h' : List.Forall₂ S bs cs) :
    List.Forall₂ (fun a c => ∃ b, R a b ∧ S b c) as cs := by
  induction h generalizing cs with
  | nil =>
    cases h'
    exact .nil
  | cons hab _ ih =>
    cases h' with
    | cons hbc hrest => exact .cons ⟨_, hab, hbc⟩ (ih hrest)

/-- A computation for each member of a list leaves out members of it: what it gives for those that
stay stands in the order of what the other one gives for all of them. -/
theorem exists_mapM_of_sublist {ε α β : Type} {f g : α → Except ε β} {R : β → β → Prop}
    {as as' : List α} {bs : List β} (hsub : as'.Sublist as)
    (h : List.Forall₂ (fun a b => f a = .ok b) as bs)
    (hstep : ∀ a ∈ as', ∀ b, f a = .ok b → ∃ b', g a = .ok b' ∧ R b' b) :
    ∃ bs', as'.mapM g = .ok bs' ∧ List.SublistForall₂ R bs' bs := by
  induction hsub generalizing bs with
  | slnil => exact ⟨[], rfl, .nil⟩
  | cons a _ ih =>
    cases h with
    | cons _ hrest =>
      obtain ⟨bs', hbs', hsub'⟩ := ih hrest hstep
      exact ⟨bs', hbs', .cons_right hsub'⟩
  | cons_cons a _ ih =>
    cases h with
    | cons hab hrest =>
      obtain ⟨hhead, htail⟩ := List.forall_mem_cons.mp hstep
      obtain ⟨b', hb', hrel⟩ := hhead _ hab
      obtain ⟨bs', hbs', hsub'⟩ := ih hrest htail
      refine ⟨b' :: bs', ?_, .cons hrel hsub'⟩
      rw [List.mapM_cons, hb', hbs']
      rfl

/-- Two lists that correspond to one list, member by member, are equal just if all members of the
first have what makes them equal to those of the second. -/
theorem forall₂_eq_iff {α β : Type} {R S : α → β → Prop} {P : β → Prop} {as : List α}
    {bs cs : List β} (h : List.Forall₂ R as bs) (h' : List.Forall₂ S as cs)
    (heq : ∀ a ∈ as, ∀ b c, R a b → S a c → (b = c ↔ P b)) : bs = cs ↔ ∀ b ∈ bs, P b := by
  induction h generalizing cs with
  | nil =>
    cases h'
    simp
  | cons hab _ ih =>
    cases h' with
    | cons hac hrest =>
      rw [List.cons.injEq, List.forall_mem_cons, heq _ List.mem_cons_self _ _ hab hac,
        ih hrest fun a ha => heq a (List.mem_cons_of_mem _ ha)]

end TemplateCheck
