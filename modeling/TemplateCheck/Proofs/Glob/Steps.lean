import TemplateCheck.Proofs.Glob.Reading

/-!
# What a step of the reading does

A step puts one or two tokens to those that were read, makes a wildcard of the last one, or opens,
closes or goes on with a group. Told once for every step, and from there of whole runs.

* `Glob.Reading.Does`, `Glob.Reading.step_does` — what a step can do;
* `Glob.Reading.readFrom_keeps` — what each step keeps, a run keeps;
* `Glob.Reading.Begun` — outside of groups something was read; `Glob.Reading.Leads` — a pattern
  begins with a wildcard for directories, and no step changes that any more;
* `Glob.Reading.IsWild` — the pattern is not wholly literal; `Glob.Spells` — how to write the
  others.
-/

namespace TemplateCheck.Glob

/-- Does a pattern begin with a wildcard for directories? -/
def BeginsAnywhere (cs : List Char) : Prop :=
  cs = ['*', '*'] ∨ ∃ more, cs = '*' :: '*' :: '/' :: more

namespace Reading

variable {r r' : Reading} {prev : Option Char} {c : Char} {rest cs : List Char} {width skip : Nat}

/-! ### One step -/

theorem outer_ne_nil (h : r.inGroup = true) : r.outer ≠ [] := by
  intro hnil
  rw [inGroup, hnil] at h
  exact Bool.false_ne_true h

/-- A wildcard for directories stays the last token, and any other token gives way. -/
theorem fill_cases (h : r.tokens ≠ []) (wildcard : Token) :
    (r.fill wildcard = r ∧ ∃ t ∈ r.tokens, t = .leading ∨ t = .trailing) ∨
      ∃ t tokens, r.tokens = t :: tokens ∧ t ≠ .leading ∧
        r.fill wildcard = { r with tokens := wildcard :: tokens } := by
  unfold fill
  split
  · rename_i heq
    exact .inl ⟨rfl, .leading, by rw [heq]; exact List.mem_cons_self, .inl rfl⟩
  · rename_i heq
    exact .inl ⟨rfl, .trailing, by rw [heq]; exact List.mem_cons_self, .inr rfl⟩
  · exact .inr ⟨_, _, ‹_›, ‹_›, rfl⟩
  · exact absurd ‹_› h

/-- What a step at the character `c` can do, with `rest` behind it. It takes `width` more
characters. -/
inductive Does (r : Reading) (c : Char) (rest : List Char) : Reading → Nat → Prop where
  | plain : Does r c rest (r.push (.literal c)) 0
  | escaped {e : Char} {more : List Char} (hc : c = '\\') (hrest : rest = e :: more) :
    Does r c rest (r.push (.literal e)) 1
  | wild {t : Token} {width : Nat} (hwild : ∀ d, t ≠ .literal d)
    (hleading : t = .leading → r.tokens = [] ∧ BeginsAnywhere (c :: rest)) :
    Does r c rest (r.push t) width
  | starred {width : Nat} : Does r c rest r.twoStars width
  | filled {wildcard : Token} {width : Nat} (hwild : wildcard = .trailing ∨ wildcard = .between)
    (htokens : r.tokens ≠ []) : Does r c rest (r.fill wildcard) width
  | opened : Does r c rest r.openGroup 0
  | closed {r' : Reading} (h : r.closeGroup = .ok r') : Does r c rest r' 0
  | next (h : r.inGroup = true) : Does r c rest r.nextBranch 0

theorem stars_does (r : Reading) (prev : Option Char) (rest : List Char) :
    Does r '*' rest (r.stars prev rest).1 (r.stars prev rest).2 := by
  by_cases hstar : rest.head? = some '*'
  · obtain ⟨after, rfl⟩ : ∃ after, rest = '*' :: after := List.head?_eq_some_iff.mp hstar
    rw [stars_pair]
    split
    · have htokens : r.tokens = [] := List.isEmpty_iff.mp ‹_›
      split
      · exact .wild (by simp) fun _ => ⟨htokens, .inl rfl⟩
      · exact .wild (by simp) fun _ => ⟨htokens, .inr ⟨_, rfl⟩⟩
      · exact .starred
    · have htokens : r.tokens ≠ [] := mt List.isEmpty_iff.mpr ‹_›
      split
      · exact .starred
      · split
        · exact .filled (.inl rfl) htokens
        · exact .filled (.inr rfl) htokens
        · split
          · exact .filled (.inl rfl) htokens
          · exact .starred
  · rw [stars_one r prev hstar]
    exact .wild (by simp) (by simp)

/-- A bracket gives one class, if it closes. -/
theorem bracket_eq_ok (h : r.bracket false rest = .ok (r', width)) :
    ∃ negated ranges, r' = r.push (.byteClass negated ranges) := by
  unfold bracket at h
  dsimp only at h
  generalize readClass [] true false _ = found at h
  cases found with
  | error fault => exact absurd h (by simp [bind, Except.bind])
  | ok found =>
    cases found with
    | none => exact absurd h (by simp [bind, Except.bind])
    | some found =>
      have hpush := congrArg Prod.fst (Except.ok.inj h)
      exact ⟨_, _, hpush.symm⟩

theorem closeGroup_eq_ok (h : r.closeGroup = .ok r') :
    ∃ branches tokens outer, r.outer = (tokens, branches) :: outer ∧
      r' = { r with
        tokens := .alternates (r.tokens.reverse :: r.branches).reverse :: tokens
        branches := branches
        outer := outer } := by
  unfold closeGroup at h
  split at h
  · cases h
  · exact ⟨_, _, _, ‹_›, (Except.ok.inj h).symm⟩

theorem step_does (h : r.step false prev c rest = .ok (r', width)) : Does r c rest r' width := by
  unfold step at h
  split_ifs at h with hany hstar hopen hbrace hclose hcomma hescape
  · cases h
    exact .wild (by simp) (by simp)
  · subst hstar
    have hstep := Except.ok.inj h
    rw [← show (r.stars prev rest).1 = r' by rw [hstep],
      ← show (r.stars prev rest).2 = width by rw [hstep]]
    exact stars_does r prev rest
  · obtain ⟨negated, ranges, rfl⟩ := bracket_eq_ok h
    exact .wild (by simp) (by simp)
  · cases h
    exact .opened
  · cases hclosed : r.closeGroup with
    | error fault => exact absurd h (by simp [hclosed, Except.map])
    | ok after =>
      rw [hclosed] at h
      cases h
      exact .closed hclosed
  · cases h
    exact .next hcomma.2
  · split at h
    · cases h
    · cases h
      exact .escaped hescape rfl
  · cases h
    exact .plain

/-- What each step keeps, a run keeps. -/
theorem readFrom_keeps {P : Reading → Prop}
    (hstep : ∀ {r r' c rest width}, P r → Does r c rest r' width → P r')
    (h : readFrom false r prev skip cs = .ok r') (hr : P r) : P r' := by
  induction cs generalizing r prev skip with
  | nil => exact Except.ok.inj h ▸ hr
  | cons c cs ih =>
    cases skip with
    | succ skip => exact ih h hr
    | zero =>
      rw [readFrom] at h
      split at h
      · cases h
      · rename_i after width hafter
        exact ih h (hstep hr (step_does hafter))

/-! ### The front of a pattern -/

/-- Was something read, or is a group open? -/
def Begun (r : Reading) : Prop :=
  r.outer = [] → r.tokens ≠ []

theorem Does.begun (h : Does r c rest r' width) : r'.Begun := by
  intro hout
  cases h with
  | plain => exact tokens_push_ne_nil r _
  | escaped => exact tokens_push_ne_nil r _
  | wild => exact tokens_push_ne_nil r _
  | starred => exact tokens_push_ne_nil (r.push .star) _
  | @filled wildcard _ _ htokens =>
    rcases fill_cases htokens wildcard with ⟨hfill, -⟩ | ⟨t, tokens, -, -, hfill⟩
    · rwa [hfill]
    · rw [hfill]
      exact List.cons_ne_nil _ _
  | opened => exact absurd hout (List.cons_ne_nil _ _)
  | closed h =>
    obtain ⟨branches, tokens, outer, -, rfl⟩ := closeGroup_eq_ok h
    exact List.cons_ne_nil _ _
  | next h => exact absurd hout (outer_ne_nil h)

/-- The tokens outside of all groups, last one first. -/
def ground (r : Reading) : List Token :=
  match r.outer.getLast? with
  | some (tokens, _) => tokens
  | none => r.tokens

theorem ground_cons {tokens : List Token} {branches : List (List Token)}
    {outer : List (List Token × List (List Token))} (h : r.outer = (tokens, branches) :: outer) :
    r.ground = ground ⟨tokens, branches, outer, r.classes⟩ := by
  cases outer with
  | nil =>
    rw [ground, h]
    rfl
  | cons frame outer =>
    rw [ground, h, List.getLast?_cons_cons, ground,
      List.getLast?_eq_some_getLast (List.cons_ne_nil _ _)]

/-- Does the pattern begin with a wildcard for directories? -/
def Leads (r : Reading) : Prop :=
  r.ground.getLast? = some .leading

/-- That depends on the open groups, or else on the tokens. -/
theorem leads_congr (houter : r'.outer = r.outer)
    (h : r.outer = [] → (r'.tokens.getLast? = some .leading ↔ r.tokens.getLast? = some .leading)) :
    r'.Leads ↔ r.Leads := by
  rw [Leads, Leads, ground, ground, houter]
  cases hlast : r.outer.getLast? with
  | none => exact h (List.getLast?_eq_none_iff.mp hlast)
  | some frame => exact Iff.rfl

theorem leads_push {t : Token} (h : t = .leading → r.Begun ∧ r.tokens = []) :
    (r.push t).Leads ↔ r.Leads := by
  refine leads_congr rfl fun hout => ?_
  show (t :: r.tokens).getLast? = _ ↔ _
  cases htokens : r.tokens with
  | nil =>
    refine iff_of_false (fun hlast => ?_) (by simp)
    exact (h (Option.some.inj hlast)).1 hout htokens
  | cons t' ts => rw [List.getLast?_cons_cons]

theorem leads_fill {wildcard : Token} (hwild : wildcard = .trailing ∨ wildcard = .between)
    (h : r.tokens ≠ []) : (r.fill wildcard).Leads ↔ r.Leads := by
  rcases fill_cases h wildcard with ⟨hfill, -⟩ | ⟨t, tokens, htokens, hleading, hfill⟩
  · rw [hfill]
  · rw [hfill]
    refine leads_congr rfl fun _ => ?_
    show (wildcard :: tokens).getLast? = _ ↔ _
    rw [htokens]
    cases tokens with
    | nil =>
      refine iff_of_false (fun hlast => ?_) fun hlast => hleading (Option.some.inj hlast)
      rcases hwild with rfl | rfl <;> cases hlast
    | cons t' ts => rw [List.getLast?_cons_cons, List.getLast?_cons_cons]

/-- Once something was read it stays the same whether the pattern begins with a wildcard for
directories. Before that it takes two stars. -/
theorem Does.leads (h : Does r c rest r' width) (hr : r.Begun ∨ ¬ BeginsAnywhere (c :: rest)) :
    r'.Leads ↔ r.Leads := by
  cases h with
  | plain => exact leads_push (by simp)
  | escaped => exact leads_push (by simp)
  | wild _ hleading =>
    refine leads_push fun ht => ?_
    obtain ⟨htokens, hbegins⟩ := hleading ht
    exact ⟨hr.resolve_right (not_not_intro hbegins), htokens⟩
  | starred => exact (leads_push (by simp)).trans (leads_push (by simp))
  | filled hwild htokens => exact leads_fill hwild htokens
  | opened =>
    rw [Leads, Leads, ground_cons (r := r.openGroup) rfl]
    exact Iff.rfl
  | closed h =>
    obtain ⟨branches, tokens, outer, houter, rfl⟩ := closeGroup_eq_ok h
    rw [Leads, Leads, ground_cons houter]
    exact leads_push (r := ⟨tokens, branches, outer, r.classes⟩) (by simp)
  | next h => exact leads_congr rfl fun hnil => absurd hnil (outer_ne_nil h)

theorem readFrom_leads (h : readFrom false r prev skip cs = .ok r') (hr : r.Begun) :
    r'.Begun ∧ (r'.Leads ↔ r.Leads) := by
  refine readFrom_keeps (P := fun after => after.Begun ∧ (after.Leads ↔ r.Leads)) ?_ h ⟨hr, Iff.rfl⟩
  rintro before after c rest width ⟨hbegun, hleads⟩ hdoes
  exact ⟨hdoes.begun, (hdoes.leads (.inl hbegun)).trans hleads⟩

/-- The first step decides it. -/
theorem leads_of_step_start (h : start.step false none c rest = .ok (r', width)) :
    r'.Leads ↔ BeginsAnywhere (c :: rest) := by
  by_cases hbegins : BeginsAnywhere (c :: rest)
  · refine iff_of_true ?_ hbegins
    rcases hbegins with hpair | ⟨more, hmore⟩
    · obtain ⟨rfl, rfl⟩ := List.cons.inj hpair
      cases h
      rfl
    · obtain ⟨rfl, rfl⟩ := List.cons.inj hmore
      cases h
      rfl
  · rw [(step_does h).leads (.inr hbegins)]
    exact iff_of_false (by simp [Leads, ground, start]) hbegins

/-! ### Literal patterns -/

/-- Is the pattern not wholly literal? -/
def IsWild (r : Reading) : Prop :=
  r.outer ≠ [] ∨ ∃ t ∈ r.tokens, ∀ d, t ≠ .literal d

/-- A step reads one character, by itself or escaped, or else the pattern is not literal any
more. -/
theorem Does.literal_or_wild (h : Does r c rest r' width) :
    (∃ d, r' = r.push (.literal d) ∧
      ((d = c ∧ width = 0) ∨ c = '\\' ∧ width = 1 ∧ rest.head? = some d)) ∨ r'.IsWild := by
  cases h with
  | plain => exact .inl ⟨c, rfl, .inl ⟨rfl, rfl⟩⟩
  | escaped hc hrest => exact .inl ⟨_, rfl, .inr ⟨hc, rfl, by rw [hrest]; rfl⟩⟩
  | wild hwild => exact .inr (.inr ⟨_, List.mem_cons_self, hwild⟩)
  | starred => exact .inr (.inr ⟨.star, List.mem_cons_self, by simp⟩)
  | @filled wildcard _ hwild htokens =>
    rcases fill_cases htokens wildcard with ⟨hfill, t, ht, hkept⟩ | ⟨_, tokens, -, -, hfill⟩
    · rw [hfill]
      exact .inr (.inr ⟨t, ht, by rcases hkept with rfl | rfl <;> simp⟩)
    · rw [hfill]
      exact .inr (.inr ⟨wildcard, List.mem_cons_self, by rcases hwild with rfl | rfl <;> simp⟩)
  | opened => exact .inr (.inl (List.cons_ne_nil _ _))
  | closed h =>
    obtain ⟨branches, tokens, outer, -, rfl⟩ := closeGroup_eq_ok h
    exact .inr (.inr ⟨_, List.mem_cons_self, by simp⟩)
  | next h => exact .inr (.inl (outer_ne_nil h))

theorem Does.isWild (h : Does r c rest r' width) (hr : r.IsWild) : r'.IsWild := by
  rcases h.literal_or_wild with ⟨d, rfl, -⟩ | hwild
  · rcases hr with hout | ⟨t, ht, hwild⟩
    · exact .inl hout
    · exact .inr ⟨t, List.mem_cons_of_mem _ ht, hwild⟩
  · exact hwild

theorem not_isWild_of_literals {ds : List Char} (hout : r.outer = [])
    (htokens : r.tokens = (ds.map Token.literal).reverse) : ¬ r.IsWild := by
  rintro (hne | ⟨t, ht, hwild⟩)
  · exact hne hout
  · rw [htokens, List.mem_reverse] at ht
    obtain ⟨d, -, rfl⟩ := List.mem_map.mp ht
    exact hwild d rfl

end Reading

/-- How to write a text as a pattern: some of its characters are escaped. -/
inductive Spells : List Char → List Char → Prop where
  | nil : Spells [] []
  | plain {c : Char} {cs ds : List Char} (h : Spells cs ds) : Spells (c :: cs) (c :: ds)
  | escaped {d : Char} {cs ds : List Char} (h : Spells cs ds) : Spells ('\\' :: d :: cs) (d :: ds)

namespace Reading

/-- What was read of a literal pattern is spelled by its characters. -/
theorem exists_spells (h : readFrom false r prev skip cs = .ok r') (hliteral : ¬ r'.IsWild) :
    ∃ ds, Spells (cs.drop skip) ds ∧ r'.tokens = (ds.map Token.literal).reverse ++ r.tokens := by
  induction cs generalizing r prev skip with
  | nil =>
    rw [List.drop_nil]
    exact ⟨[], .nil, by rw [← Except.ok.inj h]; rfl⟩
  | cons c cs ih =>
    cases skip with
    | succ skip => exact ih h
    | zero =>
      rw [readFrom] at h
      split at h
      · cases h
      · rename_i after width hafter
        obtain ⟨ds, hspells, htokens⟩ := ih h
        rcases (step_does hafter).literal_or_wild with ⟨d, rfl, hd⟩ | hwild
        · refine ⟨d :: ds, ?_, by rw [htokens]; simp [push]⟩
          rcases hd with ⟨rfl, rfl⟩ | ⟨rfl, rfl, hhead⟩
          · exact .plain hspells
          · obtain ⟨more, rfl⟩ := List.head?_eq_some_iff.mp hhead
            exact .escaped hspells
        · exact absurd (readFrom_keeps (fun hr hdoes => hdoes.isWild hr) h hwild) hliteral

end Reading

/-! ### Whole patterns -/

theorem read_eq_ok_iff {pattern : String} {ts : List Token} :
    read false pattern = .ok ts ↔
      ∃ r : Reading, Reading.readFrom false .start none 0 pattern.toList = .ok r ∧ r.outer = [] ∧
        ts = r.tokens.reverse := by
  unfold read
  cases Reading.readFrom false .start none 0 pattern.toList with
  | error fault => simp [bind, Except.bind]
  | ok r =>
    show (if r.inGroup = true then _ else _) = _ ↔ _
    rw [Reading.inGroup]
    cases hout : r.outer with
    | nil => simp [hout, pure, Except.pure, eq_comm]
    | cons frame outer => simp [hout]

/-- The tokens of a pattern are literal only if it spells a text. -/
theorem spells_of_read {pattern : String} {ds : List Char}
    (h : read false pattern = .ok (ds.map .literal)) : Spells pattern.toList ds := by
  obtain ⟨r, hread, hout, htokens⟩ := read_eq_ok_iff.mp h
  have hliteral : r.tokens = (ds.map Token.literal).reverse := by rw [htokens, List.reverse_reverse]
  obtain ⟨es, hspells, hes⟩ :=
    Reading.exists_spells hread (Reading.not_isWild_of_literals hout hliteral)
  have hsame : es.map Token.literal = ds.map Token.literal := by
    rw [htokens, hes]
    simp [Reading.start]
  have hinj : Function.Injective Token.literal := fun d e => Token.literal.inj
  rwa [← List.map_injective_iff.mpr hinj hsame]

/-- A pattern has tokens, and whether the first one is a wildcard for directories can be seen from
its first characters. -/
theorem head?_of_read {pattern : String} {ts : List Token} (hpattern : pattern ≠ "")
    (h : read false pattern = .ok ts) :
    ts ≠ [] ∧ (ts.head? = some .leading ↔ BeginsAnywhere pattern.toList) := by
  obtain ⟨r, hread, hout, rfl⟩ := read_eq_ok_iff.mp h
  have hground : r.tokens.reverse.head? = some .leading ↔ r.Leads := by
    rw [List.head?_reverse, Reading.Leads, Reading.ground, hout]
    exact Iff.rfl
  obtain ⟨c, cs, hcs⟩ := List.exists_cons_of_ne_nil (Path.toList_ne_nil hpattern)
  rw [hcs, Reading.readFrom] at hread
  split at hread
  · cases hread
  · rename_i first width hfirst
    obtain ⟨hbegun, hleads⟩ := Reading.readFrom_leads hread (Reading.step_does hfirst).begun
    rw [hground, hleads, Reading.leads_of_step_start hfirst, hcs]
    exact ⟨fun hnil => hbegun hout (List.reverse_eq_nil_iff.mp hnil), Iff.rfl⟩

end TemplateCheck.Glob
