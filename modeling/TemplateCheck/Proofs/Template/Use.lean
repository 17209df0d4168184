import TemplateCheck.Proofs.Success
import TemplateCheck.Template.Argument

/-!
# Results that a laxer policy keeps

The policy for missing values is asked where a value is used, and all that it can do there is to
forbid. So a computation that succeeds under one policy succeeds under a laxer one, with the same
result. This is shown here for the two questions that the policy is asked, `Use.accept` and
`Use.part`, and for all the ways in which computations are combined and arguments are taken; the
closure lemmas are tagged, so that `grind` finds its way through a computation made of such pieces.

* `Policy.RelaxedTo` — a policy permits what another one permits;
* `Use.Stable` — a result stays the same under a laxer policy;
* `Taking.Stable` — the same for computations that take arguments.
-/

namespace TemplateCheck

/-- The policy `q` permits all that `p` permits: it accepts the undefined values that `p` accepts,
and lets one look into the undefined values that `p` lets one look into. -/
structure Policy.RelaxedTo (p q : Policy) : Prop where
  accepts : q = .strict → p = .strict
  looksInto : p = .chainable → q = .chainable

namespace Template

/-! ### Uses -/

namespace Use

variable {α β : Type}

/-- What comes out under a policy comes out under every laxer policy. -/
def Stable (u : Use α) : Prop :=
  ∀ ⦃p q : Policy⦄, p.RelaxedTo q → ∀ escaping a,
    u ⟨p, escaping⟩ = .ok a → u ⟨q, escaping⟩ = .ok a

@[grind .]
theorem Stable.pure (a : α) : Stable (pure a) :=
  fun _ _ _ _ _ h => h

@[grind .]
theorem Stable.of (r : Except FaultKind α) : Stable (Use.of r) :=
  fun _ _ _ _ _ h => h

@[grind .]
theorem Stable.fail (kind : FaultKind) : Stable (Use.fail kind : Use α) :=
  fun _ _ _ _ _ h => h

theorem bind_eq_ok_iff {u : Use α} {f : α → Use β} {rules : Rules} {b : β} :
    (u >>= f) rules = .ok b ↔ ∃ a, u rules = .ok a ∧ f a rules = .ok b := by
  refine ⟨fun h => bind_ok h, ?_⟩
  rintro ⟨a, ha, hb⟩
  change (u rules >>= fun a => f a rules) = .ok b
  rw [ha]
  exact hb

@[grind .]
theorem Stable.bind {u : Use α} {f : α → Use β} (hu : Stable u) (hf : ∀ a, Stable (f a)) :
    Stable (u >>= f) := by
  intro p q hpq escaping b h
  obtain ⟨a, ha, hb⟩ := bind_eq_ok_iff.mp h
  exact bind_eq_ok_iff.mpr ⟨a, hu hpq escaping a ha, hf a hpq escaping b hb⟩

/-! ### The questions to the policy -/

/-- A laxer policy accepts what a policy accepts. -/
@[grind .]
theorem stable_accept (v : Value) : Stable (accept v) := by
  intro p q hpq escaping a h
  unfold accept at h ⊢
  split at h
  · by_cases hq : q = .strict
    · rw [if_pos (hpq.accepts hq)] at h
      cases h
    · exact if_neg hq
  · exact h

/-- A part that is not there stays undefined under a laxer policy. -/
@[grind .]
theorem stable_part (v : Value) (found : Option Value) : Stable (part v found) := by
  intro p q hpq escaping a h
  unfold part at h ⊢
  split at h
  · exact h
  · by_cases hp : v.isUndefined ∧ p ≠ .chainable
    · rw [if_pos hp] at h
      cases h
    · rw [if_neg hp] at h
      rw [if_neg fun hq => hp ⟨hq.1, mt hpq.looksInto hq.2⟩]
      exact h

@[grind .]
theorem stable_itemsOf (v : Value) : Stable (itemsOf v) := by
  unfold itemsOf
  grind

/-- The fault is another one, but what comes out is not. -/
@[grind .]
theorem stable_itemsOrInvalid (v : Value) : Stable (itemsOrInvalid v) := by
  intro p q hpq escaping items h
  rw [itemsOrInvalid] at h ⊢
  split at h
  · rename_i found hfound
    rw [stable_itemsOf v hpq escaping found hfound]
    exact h
  · cases h

@[grind .]
theorem stable_condition (v : Value) : Stable (condition v) := by
  unfold condition
  grind

/-! ### One item after the other -/

section Lists

variable {f : α → Use β} {l : List α}

@[grind .]
theorem Stable.mapM (hf : ∀ a, Stable (f a)) : Stable (l.mapM f) := by
  induction l with
  | nil => exact .pure []
  | cons a l ih =>
    rw [List.mapM_cons]
    exact (hf a).bind fun b => ih.bind fun bs => .pure (b :: bs)

@[grind .]
theorem Stable.filterM {f : α → Use Bool} (hf : ∀ a, Stable (f a)) : Stable (l.filterM f) := by
  have onto : ∀ kept, Stable (List.filterAuxM f l kept) := by
    induction l with
    | nil => exact fun kept => .pure kept
    | cons a l ih => exact fun kept => (hf a).bind fun b => ih _
  exact (onto []).bind fun kept => .pure kept.reverse

@[grind .]
theorem Stable.foldlM {f : β → α → Use β} (hf : ∀ b a, Stable (f b a)) (b : β) :
    Stable (l.foldlM f b) := by
  induction l generalizing b with
  | nil => exact .pure b
  | cons a l ih => exact (hf b a).bind ih

@[grind .]
theorem Stable.forM {f : α → Use Unit} (hf : ∀ a, Stable (f a)) : Stable (l.forM f) := by
  induction l with
  | nil => exact .pure ()
  | cons a l ih => exact (hf a).bind fun _ => ih

end Lists

end Use

open Use (Stable)

/-! ### Keyword arguments -/

namespace Keywords

variable {α : Type} (keywords : Keywords)

@[grind .]
theorem stable_get? (name : String) (f : Reading α) : Stable (keywords.get? name f) := by
  unfold get?
  grind

@[grind .]
theorem stable_orGiven (name : String) (f : Reading α) (given : Option α) :
    Stable (keywords.orGiven name f given) := by
  unfold orGiven
  grind

@[grind .]
theorem stable_flag (name : String) : Stable (keywords.flag name) := by
  unfold flag
  grind

@[grind .]
theorem stable_only (names : List String) : Stable (keywords.only names) := by
  unfold only
  grind

end Keywords

/-! ### Taking arguments -/

namespace Taking

variable {α β : Type}

/-- What is taken from a list of arguments under a policy is taken under every laxer policy. -/
def Stable (t : Taking α) : Prop := ∀ args, Use.Stable (t args)

@[grind .]
theorem Stable.pure (a : α) : Stable (pure a : Taking α) :=
  fun _ => Use.Stable.pure _

@[grind .]
theorem Stable.bind {t : Taking α} {f : α → Taking β} (ht : Stable t) (hf : ∀ a, Stable (f a)) :
    Stable (t >>= f) :=
  fun args => (ht args).bind fun (a, left) => hf a left

@[grind .]
theorem stable_value : Stable value := by
  intro args
  cases args <;> grind [value]

@[grind .]
theorem stable_one (f : Reading α) : Stable (one f) := by
  intro args
  cases args <;> grind [one]

@[grind .]
theorem stable_optional (f : Reading α) : Stable (optional f) := by
  intro args
  cases args <;> grind [optional]

@[grind .]
theorem stable_value? : Stable value? := by
  intro args
  cases args <;> grind [value?]

@[grind .]
theorem stable_others : Stable others :=
  fun _ => Use.Stable.pure _

@[grind .]
theorem stable_keywords : Stable keywords :=
  fun _ => Use.Stable.pure _

/-- Whatever is taken, what is left over is a fault under every policy. -/
@[grind .]
theorem stable_all {t : Taking α} (ht : Stable t) (args : List Value) :
    Use.Stable (all t args) := by
  unfold all
  have := ht args
  grind

end Taking

end Template

end TemplateCheck
