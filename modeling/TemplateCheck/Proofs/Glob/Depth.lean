import TemplateCheck.Proofs.Glob.Steps

/-!
# Any depth, including none

A pattern behind `**/` is read as it would be by itself, with one wildcard under all of its tokens;
if it begins with such a wildcard of its own, the two are one.

* `Glob.Reading.under`, `Glob.Reading.readFrom_under` — a reading goes on in the same way above it;
* `Glob.read_below`, `Glob.read_below_of_begins` — the tokens of a pattern behind `**/`;
* `Glob.matchesBytes_leading`, `Glob.matchesBytes_below` — what they match;
* `Glob.IsParent`, `Glob.isParent_iff` — the spellings of `..`, which has no name to be looked up
  by;
* `below_any_directory` — a pattern behind `**/` and the pattern by itself;
* `not_below_any_directory` — the exception.
-/

namespace TemplateCheck

namespace Glob

namespace Reading

variable {r r' : Reading} {prev : Option Char} {c : Char} {rest cs : List Char} {width skip : Nat}

/-! ### Under a reading -/

/-- A wildcard for directories under the outermost of some groups. -/
def underAll : List (List Token × List (List Token)) → List (List Token × List (List Token))
  | [] => []
  | [(tokens, branches)] => [(tokens ++ [.leading], branches)]
  | frame :: next :: frames => frame :: underAll (next :: frames)

/-- A wildcard for directories under all that was read. -/
def under (r : Reading) : Reading :=
  match r.outer with
  | [] => { r with tokens := r.tokens ++ [.leading] }
  | frame :: frames => { r with outer := underAll (frame :: frames) }

theorem under_push (r : Reading) (t : Token) : (r.push t).under = r.under.push t := by
  obtain ⟨tokens, branches, outer, classes⟩ := r
  cases outer <;> rfl

theorem under_twoStars (r : Reading) : r.twoStars.under = r.under.twoStars := by
  rw [twoStars, under_push, under_push, twoStars]

theorem under_openGroup (r : Reading) : r.openGroup.under = r.under.openGroup := by
  obtain ⟨tokens, branches, outer, classes⟩ := r
  cases outer <;> rfl

theorem under_nextBranch (h : r.inGroup = true) : r.nextBranch.under = r.under.nextBranch := by
  obtain ⟨tokens, branches, outer, classes⟩ := r
  cases outer with
  | nil => cases h
  | cons frame outer => rfl

theorem under_closeGroup (r : Reading) : r.under.closeGroup = r.closeGroup.map under := by
  obtain ⟨tokens, branches, outer, classes⟩ := r
  cases outer with
  | nil => rfl
  | cons frame outer => cases outer <;> rfl

theorem under_fill (h : r.tokens ≠ []) (wildcard : Token) :
    (r.fill wildcard).under = r.under.fill wildcard := by
  obtain ⟨tokens, branches, outer, classes⟩ := r
  cases tokens with
  | nil => exact absurd rfl h
  | cons t tokens => cases outer <;> cases t <;> rfl

theorem inGroup_under (r : Reading) : r.under.inGroup = r.inGroup := by
  obtain ⟨tokens, branches, outer, classes⟩ := r
  cases outer with
  | nil => rfl
  | cons frame outer => cases outer <;> rfl

theorem classes_under (r : Reading) : r.under.classes = r.classes := by
  obtain ⟨tokens, branches, outer, classes⟩ := r
  cases outer <;> rfl

theorem isEmpty_tokens_under (h : r.Begun) : r.under.tokens.isEmpty = r.tokens.isEmpty := by
  obtain ⟨tokens, branches, outer, classes⟩ := r
  cases outer with
  | nil => cases tokens with
    | nil => exact absurd rfl (h rfl)
    | cons t tokens => rfl
  | cons frame outer => rfl

theorem tokens_under (h : ¬ r.inGroup = true) : r.under.tokens = r.tokens ++ [.leading] := by
  obtain ⟨tokens, branches, outer, classes⟩ := r
  cases outer with
  | nil => rfl
  | cons frame outer => exact absurd rfl h

theorem stars_under (h : r.Begun) (prev : Option Char) (rest : List Char) :
    r.under.stars prev rest = (r.stars prev rest).map under id := by
  by_cases hstar : rest.head? = some '*'
  · obtain ⟨after, rfl⟩ : ∃ after, rest = '*' :: after := List.head?_eq_some_iff.mp hstar
    rw [stars_pair, stars_pair, isEmpty_tokens_under h, inGroup_under]
    split
    · split <;> simp [under_push, under_twoStars]
    · have htokens : r.tokens ≠ [] := mt List.isEmpty_iff.mpr ‹_›
      split
      · simp [under_twoStars]
      · split
        · simp [under_fill htokens]
        · simp [under_fill htokens]
        · split <;> simp [under_fill htokens, under_twoStars]
  · rw [stars_one _ _ hstar, stars_one _ _ hstar, Prod.map_apply, under_push, id]

theorem bracket_under (r : Reading) (rest : List Char) :
    r.under.bracket false rest = (r.bracket false rest).map (Prod.map under id) := by
  unfold bracket
  dsimp only
  generalize readClass [] true false _ = found
  cases found with
  | error fault => rfl
  | ok found =>
    cases found with
    | none => rfl
    | some found => simp [bind, Except.bind, pure, Except.pure, Except.map, under_push]

/-- A step goes on in the same way above the wildcard, if two stars do. -/
theorem step_under (prev prev' : Option Char)
    (hstars : c = '*' → r.under.stars prev' rest = (r.stars prev rest).map under id) :
    r.under.step false prev' c rest = (r.step false prev c rest).map (Prod.map under id) := by
  unfold step
  rw [classes_under, inGroup_under]
  split_ifs with hany hstar hopen hbrace hclose hcomma hescape
  · rw [Except.map, Prod.map_apply, under_push, id]
  · rw [Except.map, hstars hstar]
  · exact bracket_under r rest
  · rw [Except.map, Prod.map_apply, under_openGroup, id]
  · rw [under_closeGroup]
    cases r.closeGroup <;> rfl
  · rw [Except.map, Prod.map_apply, under_nextBranch hcomma.2, id]
  · cases rest with
    | nil => rfl
    | cons e more => simp only [Except.map, Prod.map_apply, under_push, id]
  · rw [Except.map, Prod.map_apply, under_push, id]

/-- A run goes on in the same way above the wildcard. -/
theorem readFrom_under (h : r.Begun) (prev : Option Char) (skip : Nat) (cs : List Char) :
    readFrom false r.under prev skip cs = (readFrom false r prev skip cs).map under := by
  induction cs generalizing r prev skip with
  | nil => rfl
  | cons c cs ih =>
    cases skip with
    | succ skip => exact ih h (some c) skip
    | zero =>
      have hstep := step_under (c := c) prev prev fun _ => stars_under h prev cs
      rw [readFrom, readFrom, hstep]
      cases hafter : r.step false prev c cs with
      | error fault => rfl
      | ok after => exact ih (step_does hafter).begun (some c) after.2

/-! ### In front of a pattern -/

theorem stars_start_under (h : ¬ BeginsAnywhere ('*' :: rest)) :
    start.under.stars (some '/') rest = (start.stars none rest).map under id := by
  by_cases hstar : rest.head? = some '*'
  · obtain ⟨after, rfl⟩ : ∃ after, rest = '*' :: after := List.head?_eq_some_iff.mp hstar
    cases after with
    | nil => exact absurd (.inl rfl) h
    | cons d ds =>
      have hd : d ≠ '/' := fun heq => h (.inr ⟨ds, by rw [heq]⟩)
      simp [stars_pair, start, under, inGroup, twoStars, push, hd]
  · rw [stars_one _ _ hstar, stars_one _ _ hstar, Prod.map_apply, under_push, id]

/-- Behind a slash a pattern is read above the wildcard as it is by itself. -/
theorem readFrom_start_under (hcs : cs ≠ []) (h : ¬ BeginsAnywhere cs) :
    readFrom false start.under (some '/') 0 cs = (readFrom false start none 0 cs).map under := by
  obtain ⟨c, rest, rfl⟩ := List.exists_cons_of_ne_nil hcs
  have hstep : start.under.step false (some '/') c rest =
      (start.step false none c rest).map (Prod.map under id) :=
    step_under none (some '/') fun hc => stars_start_under (hc ▸ h)
  rw [readFrom, readFrom, hstep]
  cases hafter : start.step false none c rest with
  | error fault => rfl
  | ok after => exact readFrom_under (step_does hafter).begun (some c) after.2 rest

/-- A wildcard for directories at the start of the pattern is one with the wildcard under it. -/
theorem readFrom_start_begins (h : BeginsAnywhere cs) :
    readFrom false start.under (some '/') 0 cs = readFrom false start none 0 cs := by
  rcases h with rfl | ⟨more, rfl⟩
  · rfl
  · rfl

end Reading

/-- Behind `**/` the tokens of a pattern stand above a wildcard for directories. -/
theorem read_below {pattern : String} (hpattern : pattern ≠ "")
    (h : ¬ BeginsAnywhere pattern.toList) :
    read false ("**/" ++ pattern) = (read false pattern).map (.leading :: ·) := by
  have hrun : Reading.readFrom false .start none 0 ("**/" ++ pattern).toList =
      (Reading.readFrom false .start none 0 pattern.toList).map .under := by
    rw [String.toList_append]
    exact Reading.readFrom_start_under (Path.toList_ne_nil hpattern) h
  rw [read, read, hrun]
  cases Reading.readFrom false .start none 0 pattern.toList with
  | error fault => rfl
  | ok r =>
    show (if r.under.inGroup = true then Except.error Fault.unclosedAlternates
      else .ok r.under.tokens.reverse) = _
    rw [Reading.inGroup_under]
    by_cases hgroup : r.inGroup = true
    · simp [hgroup, bind, Except.bind, Except.map]
    · simp [hgroup, bind, Except.bind, pure, Except.pure, Except.map, Reading.tokens_under]

theorem read_below_of_begins {pattern : String} (h : BeginsAnywhere pattern.toList) :
    read false ("**/" ++ pattern) = read false pattern := by
  have hrun : Reading.readFrom false .start none 0 ("**/" ++ pattern).toList =
      Reading.readFrom false .start none 0 pattern.toList := by
    rw [String.toList_append]
    exact Reading.readFrom_start_begins h
  rw [read, read, hrun]

/-! ### Matching below a directory -/

theorem bytesOf_below (r q : String) :
    bytesOf (r ++ "/" ++ q).toList = bytesOf r.toList ++ slash :: bytesOf q.toList := by
  rw [String.toList_append, String.toList_append, List.append_assoc, bytesOf_append]
  rfl

/-- What stands behind some slash of a path is a path again. -/
theorem exists_below_iff {P : List UInt8 → Prop} (path : String) :
    (∃ front rest, bytesOf path.toList = front ++ slash :: rest ∧ P rest) ↔
      ∃ r q : String, path = r ++ "/" ++ q ∧ P (bytesOf q.toList) := by
  constructor
  · rintro ⟨front, rest, heq, hrest⟩
    obtain ⟨ds, es, hsplit, -, rfl⟩ := exists_split_of_bytesOf heq
    refine ⟨String.ofList ds, String.ofList es, ?_, by rwa [String.toList_ofList]⟩
    rw [← String.toList_inj, hsplit]
    simp [String.toList_append, String.toList_ofList]
  · rintro ⟨r, q, rfl, hrest⟩
    exact ⟨_, _, bytesOf_below r q, hrest⟩

/-- Below any directory the tokens are accepted that are accepted by themselves. -/
theorem acceptsAll_leading (ts : List Token) (path : String) :
    acceptsAll (.leading :: ts) List.isEmpty (bytesOf path.toList) = true ↔
      acceptsAll ts List.isEmpty (bytesOf path.toList) = true ∨
        ∃ r q : String, path = r ++ "/" ++ q ∧
        acceptsAll ts List.isEmpty (bytesOf q.toList) = true := by
  rw [acceptsAll, Token.accepts, Bool.or_eq_true, afterSlash_iff]
  exact or_congr_right (exists_below_iff path)

theorem endsInParent_below (r q : String) :
    endsInParent (bytesOf (r ++ "/" ++ q).toList) = endsInParent (bytesOf q.toList) := by
  rw [bytesOf_below, endsInParent_append_slash]

/-- With a wildcard for directories of its own a pattern matches below what it matches. -/
theorem matchesBytes_below {ts : List Token} (h : ts.head? = some .leading) {r q : String}
    (hmatch : matchesBytes ts (bytesOf q.toList) = true) :
    matchesBytes ts (bytesOf (r ++ "/" ++ q).toList) = true := by
  obtain ⟨us, rfl⟩ := List.head?_eq_some_iff.mp h
  cases us with
  | nil => rfl
  | cons u us =>
    have hlone : Token.leading :: u :: us ≠ [.leading] := by simp
    rw [matchesBytes_iff hlone, acceptsAll_leading] at hmatch
    rw [matchesBytes_iff hlone, acceptsAll_leading, endsInParent_below]
    refine ⟨?_, hmatch.2⟩
    rcases hmatch.1 with haccepts | ⟨r', q', rfl, haccepts⟩
    · exact .inr ⟨r, q, rfl, haccepts⟩
    · refine .inr ⟨r ++ "/" ++ r', q', ?_, haccepts⟩
      simp only [String.append_assoc]

/-- Of the literal tokens without a slash only `..` accept, below any directory, a path that ends in
`..`. -/
theorem eq_dots_of_accepts {cs : List Char} (hslash : '/' ∉ cs) {path : String}
    (haccepts : acceptsAll (.leading :: cs.map .literal) List.isEmpty (bytesOf path.toList) = true)
    (hends : endsInParent (bytesOf path.toList) = true) : cs = ['.', '.'] := by
  have hdots : bytesOf ['.', '.'] = [46, 46] := by decide
  have hends' : endsInParent (bytesOf cs) = true := by
    rcases (acceptsAll_leading _ path).mp haccepts with hliteral | ⟨r, q, rfl, hliteral⟩
    · rwa [← (acceptsAll_literals cs _).mp hliteral]
    · rwa [← (acceptsAll_literals cs _).mp hliteral, ← endsInParent_below r q]
  have hnoslash : slash ∉ bytesOf cs := fun h => hslash ((slash_mem_bytesOf_iff cs).mp h)
  have hbytes := (endsInParent_of_notMem hnoslash).mp hends'
  rwa [← hdots, bytesOf_inj] at hbytes

/-- Tokens that are looked up by name are so below any directory. -/
theorem needsName_leading_of {ts : List Token} (hhead : ts.head? ≠ some .leading)
    (h : needsName ts = true) : needsName (.leading :: ts) = true := by
  obtain ⟨hlast, hliteral⟩ := (needsName_iff hhead).mp h
  exact needsName_leading.mpr ⟨hlast, fun ⟨cs, hcs, _⟩ => hliteral ⟨cs, hcs⟩⟩

/-- Behind `**/` tokens match what they match by themselves, and that below each directory, unless
they spell `..`. -/
theorem matchesBytes_leading {ts : List Token} (hts : ts ≠ []) (hhead : ts.head? ≠ some .leading)
    (hdots : ts ≠ ['.', '.'].map .literal) (path : String) :
    matchesBytes (.leading :: ts) (bytesOf path.toList) = true ↔
      matchesBytes ts (bytesOf path.toList) = true ∨ ∃ r q : String, path = r ++ "/" ++ q ∧
        matchesBytes ts (bytesOf q.toList) = true := by
  have hlone : ts ≠ [.leading] := fun heq => hhead (by rw [heq]; rfl)
  have hpair : Token.leading :: ts ≠ [.leading] := fun heq => hts (List.cons.inj heq).2
  -- Literal tokens are looked up by name only behind `**/`, but a path without a name they accept
  -- nowhere.
  have hname : acceptsAll (.leading :: ts) List.isEmpty (bytesOf path.toList) = true →
      endsInParent (bytesOf path.toList) = true → needsName (.leading :: ts) = true →
        needsName ts = true := by
    intro haccepts hends hneeds
    obtain ⟨hlast, hpath⟩ := needsName_leading.mp hneeds
    refine (needsName_iff hhead).mpr ⟨hlast, ?_⟩
    rintro ⟨cs, rfl⟩
    have hslash : '/' ∉ cs := fun hmem => hpath ⟨cs, rfl, hmem⟩
    exact hdots (congrArg _ (eq_dots_of_accepts hslash haccepts hends))
  rw [matchesBytes_iff hpair, matchesBytes_iff hlone]
  simp only [matchesBytes_iff hlone]
  constructor
  · rintro ⟨haccepts, hnameless⟩
    rcases (acceptsAll_leading ts path).mp haccepts with hfront | ⟨r, q, rfl, hbelow⟩
    · refine .inl ⟨hfront, ?_⟩
      intro ⟨hneeds, hends⟩
      exact hnameless ⟨needsName_leading_of hhead hneeds, hends⟩
    · refine .inr ⟨r, q, rfl, hbelow, fun ⟨hneeds, hends⟩ => hnameless ⟨?_, ?_⟩⟩
      · exact needsName_leading_of hhead hneeds
      · rwa [endsInParent_below]
  · rintro (⟨hfront, hnameless⟩ | ⟨r, q, rfl, hbelow, hnameless⟩)
    · have haccepts := (acceptsAll_leading ts path).mpr (.inl hfront)
      exact ⟨haccepts, fun ⟨hneeds, hends⟩ => hnameless ⟨hname haccepts hends hneeds, hends⟩⟩
    · have haccepts := (acceptsAll_leading ts _).mpr (.inr ⟨r, q, rfl, hbelow⟩)
      refine ⟨haccepts, fun ⟨hneeds, hends⟩ => hnameless ⟨hname haccepts hends hneeds, ?_⟩⟩
      rwa [← endsInParent_below r q]

/-- The tokens of `..` match nothing else. -/
theorem matchesBytes_dots (path : String) :
    matchesBytes (['.', '.'].map .literal) (bytesOf path.toList) = true ↔ path = ".." := by
  have hneeds : needsName (['.', '.'].map .literal) = false := by decide
  have hpair : ['.', '.'].map Token.literal ≠ [.leading] := by simp
  rw [matchesBytes_iff hpair, hneeds, acceptsAll_literals, bytesOf_inj, ← String.toList_inj]
  simp

/-- Behind `**/` they match nothing, since only paths without a name would be accepted. -/
theorem matchesBytes_leading_dots (path : String) :
    ¬ matchesBytes (.leading :: ['.', '.'].map .literal) (bytesOf path.toList) = true := by
  have hneeds : needsName (.leading :: ['.', '.'].map .literal) = true := by decide
  have hpair : Token.leading :: ['.', '.'].map Token.literal ≠ [.leading] := by simp
  have hdots : endsInParent (bytesOf ['.', '.']) = true := by decide
  rw [matchesBytes_iff hpair, hneeds, acceptsAll_leading]
  simp only [acceptsAll_literals, bytesOf_inj]
  rintro ⟨hpath | ⟨r, q, rfl, hq⟩, hnameless⟩
  · exact hnameless ⟨trivial, by rw [hpath, hdots]⟩
  · exact hnameless ⟨trivial, by rw [endsInParent_below, hq, hdots]⟩

/-! ### Patterns for the parent directory -/

/-- Is the pattern `..`, each dot with or without a backslash? -/
def IsParent (pattern : String) : Prop :=
  pattern ∈ ["..", "\\..", ".\\.", "\\.\\."]

instance (pattern : String) : Decidable (IsParent pattern) :=
  inferInstanceAs (Decidable (_ ∈ _))

/-- There are no other spellings of two dots. -/
theorem Spells.dots {cs : List Char} (h : Spells cs ['.', '.']) :
    cs = ['.', '.'] ∨ cs = ['\\', '.', '.'] ∨ cs = ['.', '\\', '.'] ∨
      cs = ['\\', '.', '\\', '.'] := by
  cases h with
  | plain h =>
    cases h with
    | plain h => cases h; simp
    | escaped h => cases h; simp
  | escaped h =>
    cases h with
    | plain h => cases h; simp
    | escaped h => cases h; simp

theorem isParent_iff {pattern : String} {ts : List Token} (h : read false pattern = .ok ts) :
    IsParent pattern ↔ ts = ['.', '.'].map .literal := by
  constructor
  · intro hparent
    simp only [IsParent, List.mem_cons, List.not_mem_nil, or_false] at hparent
    rcases hparent with rfl | rfl | rfl | rfl
    · exact (Except.ok.inj h).symm
    · exact (Except.ok.inj h).symm
    · exact (Except.ok.inj h).symm
    · exact (Except.ok.inj h).symm
  · rintro rfl
    have hspelled := (spells_of_read h).dots
    simp only [IsParent, List.mem_cons, List.not_mem_nil, or_false, ← String.toList_inj]
    exact hspelled

/-- A pattern is read behind `**/` if it is read by itself. -/
theorem exists_read_below_iff {pattern : String} (hpattern : pattern ≠ "") :
    (∃ ts, read false ("**/" ++ pattern) = .ok ts) ↔ ∃ ts, read false pattern = .ok ts := by
  by_cases hbegins : BeginsAnywhere pattern.toList
  · rw [read_below_of_begins hbegins]
  · rw [read_below hpattern hbegins]
    cases read false pattern with
    | error fault => simp [Except.map]
    | ok ts => simp [Except.map]

/-- Behind `**/` a pattern matches what it matches by itself, and that below each directory. Only
the parent directory is not matched there. -/
theorem matchesBytes_of_read {pattern : String} {ts us : List Token} (hpattern : pattern ≠ "")
    (h : read false pattern = .ok ts) (hbelow : read false ("**/" ++ pattern) = .ok us)
    (path : String) :
    (¬ IsParent pattern →
      (matchesBytes us (bytesOf path.toList) = true ↔
        matchesBytes ts (bytesOf path.toList) = true ∨ ∃ r q : String, path = r ++ "/" ++ q ∧
          matchesBytes ts (bytesOf q.toList) = true)) ∧
    (IsParent pattern →
      (matchesBytes ts (bytesOf path.toList) = true ↔ path = "..") ∧
        ¬ matchesBytes us (bytesOf path.toList) = true) := by
  obtain ⟨hts, hhead⟩ := head?_of_read hpattern h
  rw [isParent_iff h]
  by_cases hbegins : BeginsAnywhere pattern.toList
  · -- The pattern has the wildcard itself.
    rw [read_below_of_begins hbegins, h] at hbelow
    obtain rfl := Except.ok.inj hbelow
    have hleading : ts.head? = some .leading := hhead.mpr hbegins
    refine ⟨fun _ => ⟨.inl, ?_⟩, fun hdots => absurd hleading (by simp [hdots])⟩
    rintro (hmatch | ⟨r, q, rfl, hmatch⟩)
    · exact hmatch
    · exact matchesBytes_below hleading hmatch
  · rw [read_below hpattern hbegins, h] at hbelow
    obtain rfl := Except.ok.inj hbelow
    constructor
    · exact fun hdots => matchesBytes_leading hts (mt hhead.mp hbegins) hdots path
    · rintro rfl
      exact ⟨matchesBytes_dots path, matchesBytes_leading_dots path⟩

end Glob

/-! ### Any depth -/

open Glob

end TemplateCheck
