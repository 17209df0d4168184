import TemplateCheck.Proofs.Glob.Match

/-!
# Reading flat patterns

Without classes, groups and escapes a pattern is read character by character, except that two stars
may fill a component. Where none is made of two stars alone, each character gives one token.

* `Glob.IsFlat` — patterns of that kind;
* `Glob.Reading.stars_pair` — two stars, by what stands around them;
* `Glob.Reading.readFrom_piece` — a component is read by itself, whatever stands behind its slash;
* `Glob.read_flat` — the tokens of a flat pattern.
-/

namespace TemplateCheck.Glob

/-- The token of a character that is a wildcard or stands for itself. -/
def Token.ofChar (c : Char) : Token :=
  if c = '?' then .any else if c = '*' then .star else .literal c

/-- Does a character open or close neither a class nor a group, and escape nothing? -/
def IsBare (c : Char) : Prop :=
  c ≠ '[' ∧ c ≠ '\x7b' ∧ c ≠ '\x7d' ∧ c ≠ '\\'

instance (c : Char) : Decidable (IsBare c) :=
  inferInstanceAs (Decidable (_ ∧ _))

/-- Has a pattern neither classes nor groups nor escapes, and no component `**`? -/
structure IsFlat (pattern : String) : Prop where
  bare : ∀ c ∈ pattern.toList, IsBare c
  no_two_stars : "**" ∉ Path.segments pattern

instance (pattern : String) : Decidable (IsFlat pattern) :=
  have : Decidable (∀ c ∈ pattern.toList, IsBare c) := List.decidableBAll IsBare pattern.toList
  decidable_of_iff ((∀ c ∈ pattern.toList, IsBare c) ∧ "**" ∉ Path.segments pattern)
    ⟨fun ⟨hbare, hstars⟩ => ⟨hbare, hstars⟩, fun h => ⟨h.bare, h.no_two_stars⟩⟩

namespace Reading

/-! ### One step -/

/-- Two stars, `prev` standing before them and `after` behind them. -/
theorem stars_pair (r : Reading) (prev : Option Char) (after : List Char) :
    r.stars prev ('*' :: after) =
      if r.tokens.isEmpty then
        match after with
        | [] => (r.push .leading, 1)
        | '/' :: _ => (r.push .leading, 2)
        | _ => (r.twoStars, 1)
      else if prev ≠ some '/' ∧ (!r.inGroup ∨ (prev ≠ some ',' ∧ prev ≠ some '\x7b')) then
        (r.twoStars, 1)
      else
        match after with
        | [] => (r.fill .trailing, 1)
        | '/' :: _ => (r.fill .between, 2)
        | c :: _ =>
          if r.inGroup ∧ (c = ',' ∨ c = '\x7d') then (r.fill .trailing, 1) else (r.twoStars, 1) :=
  rfl

/-- A star that no star follows is a wildcard within a component. -/
theorem stars_one (r : Reading) (prev : Option Char) {rest : List Char}
    (h : rest.head? ≠ some '*') :
    r.stars prev rest = (r.push .star, 0) := by
  cases rest with
  | nil => rfl
  | cons d rest =>
    unfold stars
    split
    · rename_i heq
      obtain ⟨rfl, -⟩ := List.cons.inj heq
      exact absurd rfl h
    · rfl

/-- Outside of groups two stars are no more than that where something else stands in their
component, behind them or before them. -/
theorem stars_two {r : Reading} {prev : Option Char} {after : List Char} (hout : r.outer = [])
    (h : (∃ d, after.head? = some d ∧ d ≠ '/') ∨ r.tokens ≠ [] ∧ prev ≠ some '/') :
    r.stars prev ('*' :: after) = (r.twoStars, 1) := by
  have hgroup : r.inGroup = false := by simp [inGroup, hout]
  rw [stars_pair]
  rcases h with ⟨d, hhead, hd⟩ | ⟨htokens, hprev⟩
  · obtain ⟨after, rfl⟩ : ∃ ds, after = d :: ds := List.head?_eq_some_iff.mp hhead
    simp [hgroup, hd]
  · have hempty : r.tokens.isEmpty = false := List.isEmpty_eq_false_iff.mpr htokens
    simp [hempty, hprev, hgroup]

/-- Outside of groups a bare character other than a star is read by itself. -/
theorem step_bare {r : Reading} {c : Char} (hout : r.outer = []) (hc : IsBare c) (hstar : c ≠ '*')
    (prev : Option Char) (rest : List Char) :
    r.step false prev c rest = .ok (r.push (.ofChar c), 0) := by
  obtain ⟨hopen, hbrace, hclose, hescape⟩ := hc
  have hgroup : r.inGroup = false := by simp [inGroup, hout]
  by_cases hany : c = '?'
  · simp [step, Token.ofChar, hany]
  · simp [step, Token.ofChar, hany, hstar, hopen, hbrace, hclose, hescape, hgroup]

theorem step_star (r : Reading) (prev : Option Char) (rest : List Char) :
    r.step false prev '*' rest = .ok (r.stars prev rest) :=
  rfl

/-- One step, and on from there. -/
theorem readFrom_step {r r' : Reading} {prev : Option Char} {c : Char} {cs : List Char}
    {width : Nat} (h : r.step false prev c cs = .ok (r', width)) :
    readFrom false r prev 0 (c :: cs) = readFrom false r' (some c) width cs := by
  rw [readFrom, h]

/-! ### Many steps -/

/-- The tokens of some characters are put to those that were read. -/
def pushAll (r : Reading) (cs : List Char) : Reading :=
  { r with tokens := (cs.map Token.ofChar).reverse ++ r.tokens }

theorem pushAll_cons (r : Reading) (c : Char) (cs : List Char) :
    r.pushAll (c :: cs) = (r.push (.ofChar c)).pushAll cs := by
  simp [pushAll, push]

theorem pushAll_append (r : Reading) (cs ds : List Char) :
    r.pushAll (cs ++ ds) = (r.pushAll cs).pushAll ds := by
  simp [pushAll]

theorem tokens_push_ne_nil (r : Reading) (t : Token) : (r.push t).tokens ≠ [] :=
  List.cons_ne_nil t r.tokens

/-- A component is read character by character, whatever stands behind its slash. It is not made of
two stars alone, or something was read of it before. -/
theorem readFrom_piece (cs rest : List Char) (r : Reading) (prev : Option Char)
    (hout : r.outer = []) (hbare : ∀ c ∈ cs, IsBare c ∧ c ≠ '/')
    (hrest : ∀ d, rest.head? = some d → d = '/')
    (hstars : cs ≠ ['*', '*'] ∨ r.tokens ≠ [] ∧ prev ≠ some '/') :
    ∃ prev', readFrom false r prev 0 (cs ++ rest) = readFrom false (r.pushAll cs) prev' 0 rest := by
  match cs with
  | [] => exact ⟨prev, rfl⟩
  | c :: cs =>
    obtain ⟨⟨hc, hslash⟩, hcs⟩ := List.forall_mem_cons.mp hbare
    have hprev : some c ≠ some '/' := fun h => hslash (Option.some.inj h)
    have hmore := tokens_push_ne_nil r (.ofChar c)
    by_cases hstar : c = '*'
    · subst hstar
      by_cases hnext : (cs ++ rest).head? = some '*'
      · -- The two stars are taken at once.
        obtain ⟨ds, rfl⟩ : ∃ ds, cs = '*' :: ds := by
          cases cs with
          | nil => exact absurd (hrest _ hnext) (by decide)
          | cons d ds => exact ⟨ds, by rw [Option.some.inj hnext]⟩
        have hds : ∀ d ∈ ds, IsBare d ∧ d ≠ '/' := fun d hd => hcs d (List.mem_cons_of_mem _ hd)
        have hpair : r.stars prev ('*' :: (ds ++ rest)) = (r.twoStars, 1) := by
          refine stars_two hout ?_
          rcases hstars with hne | hbefore
          · cases ds with
            | nil => exact absurd rfl hne
            | cons d ds => exact .inl ⟨d, rfl, (hds d List.mem_cons_self).2⟩
          · exact .inr hbefore
        have hstep : r.step false prev '*' ('*' :: (ds ++ rest)) = .ok (r.twoStars, 1) := by
          rw [step_star, hpair]
        obtain ⟨prev', hread⟩ := readFrom_piece ds rest r.twoStars (some '*') hout hds hrest
          (.inr ⟨tokens_push_ne_nil _ _, hprev⟩)
        refine ⟨prev', ?_⟩
        show readFrom false r prev 0 ('*' :: '*' :: (ds ++ rest)) = _
        rw [readFrom_step hstep, readFrom, hread, pushAll_cons, pushAll_cons]
        rfl
      · have hstep : r.step false prev '*' (cs ++ rest) = .ok (r.push .star, 0) := by
          rw [step_star, stars_one r prev hnext]
        obtain ⟨prev', hread⟩ :=
          readFrom_piece cs rest (r.push .star) (some '*') hout hcs hrest (.inr ⟨hmore, hprev⟩)
        refine ⟨prev', ?_⟩
        show readFrom false r prev 0 ('*' :: (cs ++ rest)) = _
        rw [readFrom_step hstep, hread, pushAll_cons]
        rfl
    · obtain ⟨prev', hread⟩ :=
        readFrom_piece cs rest (r.push (.ofChar c)) (some c) hout hcs hrest (.inr ⟨hmore, hprev⟩)
      refine ⟨prev', ?_⟩
      show readFrom false r prev 0 (c :: (cs ++ rest)) = _
      rw [readFrom_step (step_bare hout hc hstar prev _), hread, pushAll_cons]
termination_by cs.length

/-- Component after component, a pattern is read character by character. -/
theorem readFrom_joinSlash (pieces : List (List Char)) (r : Reading) (prev : Option Char)
    (hout : r.outer = []) (hbare : ∀ p ∈ pieces, ∀ c ∈ p, IsBare c ∧ c ≠ '/')
    (hstars : ['*', '*'] ∉ pieces) :
    readFrom false r prev 0 (Path.joinSlash pieces) = .ok (r.pushAll (Path.joinSlash pieces)) := by
  induction pieces generalizing r prev with
  | nil => rfl
  | cons piece pieces ih =>
    rw [List.mem_cons, not_or] at hstars
    obtain ⟨hpiece, hpieces⟩ := List.forall_mem_cons.mp hbare
    cases pieces with
    | nil =>
      obtain ⟨prev', hread⟩ := readFrom_piece piece [] r prev hout hpiece (by simp)
        (.inl (Ne.symm hstars.1))
      rw [List.append_nil] at hread
      rw [Path.joinSlash, hread]
      rfl
    | cons next pieces =>
      obtain ⟨prev', hread⟩ := readFrom_piece piece ('/' :: Path.joinSlash (next :: pieces))
        r prev hout hpiece (by simp) (.inl (Ne.symm hstars.1))
      have hslash : (r.pushAll piece).step false prev' '/' (Path.joinSlash (next :: pieces)) =
          .ok ((r.pushAll piece).push (.ofChar '/'), 0) :=
        step_bare (r := r.pushAll piece) (c := '/') hout (by decide) (by decide) prev' _
      have hbehind : ((r.pushAll piece).push (.ofChar '/')).outer = [] := hout
      rw [Path.joinSlash, hread, readFrom_step hslash, ih _ _ hbehind hpieces hstars.2,
        pushAll_append, pushAll_cons]

end Reading

/-- A flat pattern has one token for each character. -/
theorem read_flat {pattern : String} (h : IsFlat pattern) :
    read false pattern = .ok (pattern.toList.map .ofChar) := by
  have hjoin : Path.joinSlash (Path.splitSlash pattern.toList) = pattern.toList :=
    Path.joinSlash_splitSlash pattern.toList
  have hbare : ∀ p ∈ Path.splitSlash pattern.toList, ∀ c ∈ p, IsBare c ∧ c ≠ '/' := by
    intro p hp c hc
    have hslash : c ≠ '/' := fun heq => Path.slash_notMem_of_mem_splitSlash hp (heq ▸ hc)
    refine ⟨h.bare c ?_, hslash⟩
    rw [← hjoin, Path.mem_joinSlash_iff hslash]
    exact ⟨p, hp, hc⟩
  have hstars : ['*', '*'] ∉ Path.splitSlash pattern.toList := fun hmem =>
    h.no_two_stars (List.mem_map.mpr ⟨_, hmem, rfl⟩)
  have hread := Reading.readFrom_joinSlash _ .start none rfl hbare hstars
  rw [hjoin] at hread
  rw [read, hread]
  simp [Reading.pushAll, Reading.start, Reading.inGroup, bind, Except.bind, pure, Except.pure]

end TemplateCheck.Glob
