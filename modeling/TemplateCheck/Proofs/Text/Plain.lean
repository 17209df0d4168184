import TemplateCheck.Proofs.Text.Expansion

/-!
# References to variables: texts without references

What is no reference is put back as it stands, with one exception: of a dollar sign in front of
braces with nothing in between only the dollar sign is left.

* `References.StartsReference`, `References.IsPlain` — a reference at the front of a text, and the
  texts that hold none, told by what stands in them and not by how they are read;
* `References.Reads.isPlain_iff` — the two agree: none of the pieces of such a text is a reference;
* `References.hollow`, `References.closeUp` — the braces in question, and a text without them;
* `References.expand_plain` — a text without references loses these braces and nothing else.
-/

namespace TemplateCheck.Text.References

/-! ### Texts without references -/

/-- A reference stands at the front of a text: a dollar sign before a character of a name, or before
a name in braces that are closed. -/
def StartsReference (text : List Char) : Prop :=
  (∃ c rest, text = '$' :: c :: rest ∧ isNameChar c) ∨
    ∃ name rest, text = '$' :: '\x7b' :: (name ++ '\x7d' :: rest) ∧ name ≠ [] ∧ '\x7d' ∉ name

/-- No reference stands anywhere in a text. -/
def IsPlain (text : List Char) : Prop :=
  ∀ back, back <:+ text → ¬ StartsReference back

theorem not_startsReference_of_head? {text : List Char} (h : text.head? ≠ some '$') :
    ¬ StartsReference text := by
  rintro (⟨c, rest, rfl, -⟩ | ⟨name, rest, rfl, -⟩)
  · exact h rfl
  · exact h rfl

theorem isPlain_nil : IsPlain [] := by
  intro back hback
  obtain rfl : back = [] := List.suffix_nil.mp hback
  exact not_startsReference_of_head? (by simp)

theorem isPlain_cons {c : Char} {cs : List Char} :
    IsPlain (c :: cs) ↔ ¬ StartsReference (c :: cs) ∧ IsPlain cs := by
  constructor
  · intro h
    exact ⟨h _ List.suffix_rfl, fun back hback => h back (hback.trans (List.suffix_cons c cs))⟩
  · rintro ⟨hfront, hcs⟩ back hback
    rcases List.suffix_cons_iff.mp hback with rfl | hback
    · exact hfront
    · exact hcs back hback

theorem isPlain_cons_of_ne {c : Char} (hc : c ≠ '$') {cs : List Char} :
    IsPlain (c :: cs) ↔ IsPlain cs := by
  have hfront : ¬ StartsReference (c :: cs) := not_startsReference_of_head? (by simpa using hc)
  rw [isPlain_cons, and_iff_right hfront]

/-! ### Half a reference is none -/

theorem startsReference_braced {name : List Char} (hname : name ≠ []) (hopen : '\x7d' ∉ name)
    (rest : List Char) : StartsReference ('$' :: '\x7b' :: (name ++ '\x7d' :: rest)) :=
  .inr ⟨name, rest, rfl, hname, hopen⟩

theorem startsReference_bare {name : List Char} (hname : name ≠ [])
    (hchars : ∀ c ∈ name, isNameChar c) (rest : List Char) :
    StartsReference ('$' :: (name ++ rest)) := by
  obtain ⟨c, cs, rfl⟩ := List.exists_cons_of_ne_nil hname
  exact .inl ⟨c, cs ++ rest, rfl, hchars c List.mem_cons_self⟩

theorem not_startsReference_hollow (rest : List Char) :
    ¬ StartsReference ('$' :: '\x7b' :: '\x7d' :: rest) := by
  rintro (⟨c, cs, h, hc⟩ | ⟨name, cs, h, hname, hopen⟩)
  · obtain ⟨-, rfl, -⟩ : '$' = '$' ∧ '\x7b' = c ∧ _ := by simpa using h
    exact absurd hc (by decide)
  · obtain ⟨d, name, rfl⟩ := List.exists_cons_of_ne_nil hname
    obtain ⟨rfl, -⟩ : '\x7d' = d ∧ _ := by simpa using h
    exact hopen List.mem_cons_self

theorem not_startsReference_unclosed {rest : List Char} (hrest : '\x7d' ∉ rest) :
    ¬ StartsReference ('$' :: '\x7b' :: rest) := by
  rintro (⟨c, cs, h, hc⟩ | ⟨name, cs, h, -⟩)
  · obtain ⟨-, rfl, -⟩ : '$' = '$' ∧ '\x7b' = c ∧ _ := by simpa using h
    exact absurd hc (by decide)
  · obtain rfl : rest = name ++ '\x7d' :: cs := by simpa using h
    exact hrest (by simp)

theorem not_startsReference_lone {rest : List Char} (hbrace : rest.head? ≠ some '\x7b')
    (hend : EndsName rest) : ¬ StartsReference ('$' :: rest) := by
  rintro (⟨c, cs, h, hc⟩ | ⟨name, cs, h, -⟩)
  · obtain rfl : rest = c :: cs := by simpa using h
    have hnot : isNameChar c = false := hend c rfl
    exact absurd (hc.symm.trans hnot) (by decide)
  · obtain rfl : rest = '\x7b' :: (name ++ '\x7d' :: cs) := by simpa using h
    exact hbrace rfl

/-- The texts without references are those of which no piece is read as one. Nothing is hidden by
the braces that are left out: no dollar sign stands in them. -/
theorem Reads.isPlain_iff {text : List Char} {ps : List Piece} (h : Reads text ps) :
    IsPlain text ↔ ∀ name, .reference name ∉ ps := by
  induction h with
  | done => simpa using isPlain_nil
  | plain hc _ ih =>
    rw [isPlain_cons_of_ne hc, ih]
    simp
  | @braced name rest ps hname hopen _ _ =>
    have hstarts := startsReference_braced hname hopen rest
    refine ⟨fun hplain => absurd hstarts (isPlain_cons.mp hplain).1, fun hnone => ?_⟩
    exact absurd List.mem_cons_self (hnone name)
  | @hollow rest ps _ ih =>
    rw [isPlain_cons, and_iff_right (not_startsReference_hollow rest),
      isPlain_cons_of_ne (by decide), isPlain_cons_of_ne (by decide), ih]
    simp
  | unclosed hopen _ ih =>
    rw [isPlain_cons, and_iff_right (not_startsReference_unclosed hopen), ih]
    simp
  | @bare name rest ps hname hchars _ _ _ =>
    have hstarts := startsReference_bare hname hchars rest
    refine ⟨fun hplain => absurd hstarts (isPlain_cons.mp hplain).1, fun hnone => ?_⟩
    exact absurd List.mem_cons_self (hnone name)
  | lone hbrace hend _ ih =>
    rw [isPlain_cons, and_iff_right (not_startsReference_lone hbrace hend), ih]
    simp

/-! ### Braces with nothing in between -/

/-- A dollar sign in front of braces with nothing in between. -/
def hollow : List Char := ['$', '\x7b', '\x7d']

/-- A text without the braces that stand behind a dollar sign with nothing in between. -/
def closeUp : List Char → List Char
  | '$' :: '\x7b' :: '\x7d' :: rest => '$' :: closeUp rest
  | c :: rest => c :: closeUp rest
  | [] => []

theorem closeUp_cons {c : Char} {cs : List Char} (h : ¬ hollow <+: c :: cs) :
    closeUp (c :: cs) = c :: closeUp cs := by
  rw [closeUp]
  rintro rest rfl rfl
  exact h ⟨rest, rfl⟩

theorem not_hollow_prefix_of_ne {c : Char} (hc : c ≠ '$') (cs : List Char) :
    ¬ hollow <+: c :: cs := by
  intro h
  exact hc (List.cons_prefix_cons.mp h).1.symm

theorem not_hollow_prefix_of_notMem {rest : List Char} (hrest : '\x7d' ∉ rest) :
    ¬ hollow <+: '$' :: '\x7b' :: rest := by
  rintro ⟨back, h⟩
  obtain rfl : '\x7d' :: back = rest := by simpa [hollow] using h
  exact hrest List.mem_cons_self

theorem not_hollow_prefix_of_head? {rest : List Char} (hrest : rest.head? ≠ some '\x7b') :
    ¬ hollow <+: '$' :: rest := by
  rintro ⟨back, h⟩
  obtain rfl : '\x7b' :: '\x7d' :: back = rest := by simpa [hollow] using h
  exact hrest rfl

/-- Without references, the pieces put together again are the text without these braces. -/
theorem Reads.flatMap_value {text : List Char} {ps : List Piece} (h : Reads text ps)
    (hnone : ∀ name, .reference name ∉ ps) (lookup : String → Option String) :
    ps.flatMap (Piece.value lookup) = closeUp text := by
  induction h with
  | done => rfl
  | @plain c rest ps hc _ ih =>
    have hrest := ih fun name hname => hnone name (List.mem_cons_of_mem _ hname)
    rw [closeUp_cons (not_hollow_prefix_of_ne hc rest), List.flatMap_cons, hrest]
    rfl
  | braced _ _ _ => exact absurd List.mem_cons_self (hnone _)
  | hollow _ ih =>
    have hrest := ih fun name hname => hnone name (List.mem_cons_of_mem _ hname)
    rw [closeUp, List.flatMap_cons, hrest]
    rfl
  | unclosed hopen _ ih =>
    have hrest := ih fun name hname => hnone name (List.mem_cons_of_mem _ hname)
    rw [closeUp_cons (not_hollow_prefix_of_notMem hopen), List.flatMap_cons, hrest]
    rfl
  | bare _ _ _ _ => exact absurd List.mem_cons_self (hnone _)
  | lone hbrace _ _ ih =>
    have hrest := ih fun name hname => hnone name (List.mem_cons_of_mem _ hname)
    rw [closeUp_cons (not_hollow_prefix_of_head? hbrace), List.flatMap_cons, hrest]
    rfl

theorem length_closeUp_le (text : List Char) : (closeUp text).length ≤ text.length := by
  fun_induction closeUp text with
  | case1 rest ih =>
    simp only [List.length_cons]
    omega
  | case2 c rest _ ih =>
    simp only [List.length_cons]
    omega
  | case3 => exact Nat.le_refl _

/-- Only the braces in question are lost. -/
theorem closeUp_eq_self_iff (text : List Char) : closeUp text = text ↔ ¬ hollow <:+: text := by
  fun_induction closeUp text with
  | case1 rest ih =>
    have hshorter := length_closeUp_le rest
    have hne : '$' :: closeUp rest ≠ '$' :: '\x7b' :: '\x7d' :: rest := by
      intro h
      have hlength := congrArg List.length h
      simp only [List.length_cons] at hlength
      omega
    have hhollow : hollow <:+: '$' :: '\x7b' :: '\x7d' :: rest := ⟨[], rest, rfl⟩
    exact ⟨fun h => absurd h hne, fun h => absurd hhollow h⟩
  | case2 c rest hfront ih =>
    have hprefix : ¬ hollow <+: c :: rest := by
      rintro ⟨back, h⟩
      obtain ⟨rfl, rfl⟩ : '$' = c ∧ '\x7b' :: '\x7d' :: back = rest := by simpa [hollow] using h
      exact hfront back rfl rfl
    rw [List.infix_cons_iff, not_or, and_iff_right hprefix, ← ih, List.cons_inj_right]
  | case3 => simp [hollow]

/-! ### Expansion -/

/-- A text without references is left alone, whatever the variables hold, but for braces with
nothing in between behind a dollar sign. These are lost. -/
theorem expand_plain {text : String} (h : IsPlain text.toList) (lookup : String → Option String) :
    expand lookup text = String.ofList (closeUp text.toList) ∧
      (expand lookup text = text ↔ ¬ hollow <:+: text.toList) := by
  have hreads : Reads text.toList (pieces text.toList) := reads_iff.mpr rfl
  have hexpand : expand lookup text = String.ofList (closeUp text.toList) := by
    rw [expand, hreads.flatMap_value (hreads.isPlain_iff.mp h) lookup]
  refine ⟨hexpand, ?_⟩
  rw [hexpand, ← closeUp_eq_self_iff, ← String.toList_inj, String.toList_ofList]

/-- Lone and doubled dollar signs, and a brace that is not closed, around a pair of empty braces. -/
theorem expand_plain_halfFormed :
    IsPlain "$$-$\x7b\x7d.$\x7ba$".toList ∧
      expand (fun _ => some "v") "$$-$\x7b\x7d.$\x7ba$" = "$$-$.$\x7ba$" ∧
      (expand (fun _ => some "v") "$$-$\x7b\x7d.$\x7ba$" = "$$-$\x7b\x7d.$\x7ba$" ↔
        ¬ hollow <:+: "$$-$\x7b\x7d.$\x7ba$".toList) := by
  have hplain : IsPlain "$$-$\x7b\x7d.$\x7ba$".toList := by
    refine (reads_iff.mpr rfl).isPlain_iff.mpr fun name => ?_
    simp [pieces, piecesFrom, afterDollar, isNameChar]
  obtain ⟨hexpand, hiff⟩ := expand_plain hplain fun _ => some "v"
  exact ⟨hplain, hexpand, hiff⟩

/-- A text without references is not always left alone. -/
theorem expand_changes_hollow :
    IsPlain "$\x7b\x7d".toList ∧ ∀ lookup, expand lookup "$\x7b\x7d" ≠ "$\x7b\x7d" := by
  have hplain : IsPlain "$\x7b\x7d".toList := by
    have hdollar := not_startsReference_hollow []
    have hbraces : IsPlain ['\x7b', '\x7d'] :=
      (isPlain_cons_of_ne (by decide)).mpr ((isPlain_cons_of_ne (by decide)).mpr isPlain_nil)
    exact isPlain_cons.mpr ⟨hdollar, hbraces⟩
  refine ⟨hplain, fun lookup => ?_⟩
  have hdollar : expand lookup "$\x7b\x7d" = "$" := rfl
  rw [hdollar]
  decide

end TemplateCheck.Text.References
