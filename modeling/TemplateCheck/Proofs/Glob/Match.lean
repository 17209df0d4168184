import TemplateCheck.Glob.Matcher
import TemplateCheck.Proofs.Path.Components
import TemplateCheck.Proofs.Text.Utf8
import Mathlib.Data.Set.List

/-!
# What a pattern matches

Matching goes on from token to token, each one handing the bytes behind its own to the next. Told
here without that: which bytes a token takes off the front, and where a text falls apart when its
bytes do.

* `Glob.afterBytes_iff`, `Glob.afterMany_iff`, `Glob.afterSlash_iff` — the bytes in front and the
  rest;
* `Glob.acceptsAll_literals` — literal tokens match one text;
* `Glob.exists_split_of_bytesOf` — a text whose bytes are split at a slash is split there;
* `Glob.endsInParent_encode` — whose last component is `..`;
* `Glob.needsName_iff`, `Glob.needsName_leading` — the patterns that are looked up by name;
* `Matcher.ofPatterns_singleton`, `Matcher.isMatch_singleton` — matchers of one pattern.
-/

namespace TemplateCheck

namespace Glob

/-! ### Bytes in front -/

theorem afterBytes_iff {expected : List UInt8} {k : List UInt8 → Bool} {bytes : List UInt8} :
    afterBytes expected k bytes = true ↔ ∃ rest, bytes = expected ++ rest ∧ k rest = true := by
  induction expected generalizing bytes with
  | nil => simp [afterBytes]
  | cons e expected ih =>
    cases bytes with
    | nil => simp [afterBytes]
    | cons b bytes =>
      rw [afterBytes, Bool.and_eq_true, beq_iff_eq, ih]
      constructor
      · rintro ⟨rfl, rest, rfl, hk⟩
        exact ⟨rest, rfl, hk⟩
      · rintro ⟨rest, heq, hk⟩
        obtain ⟨rfl, rfl⟩ := List.cons.inj heq
        exact ⟨rfl, rest, rfl, hk⟩

theorem afterOne_iff {p : UInt8 → Bool} {k : List UInt8 → Bool} {bytes : List UInt8} :
    afterOne p k bytes = true ↔ ∃ b rest, bytes = b :: rest ∧ p b = true ∧ k rest = true := by
  cases bytes with
  | nil => simp [afterOne]
  | cons b bytes => simp [afterOne]

theorem afterMany_iff {p : UInt8 → Bool} {k : List UInt8 → Bool} {bytes : List UInt8} :
    afterMany p k bytes = true ↔
      ∃ front rest, bytes = front ++ rest ∧ (∀ b ∈ front, p b = true) ∧ k rest = true := by
  induction bytes with
  | nil => simp [afterMany]
  | cons b bytes ih =>
    rw [afterMany, Bool.or_eq_true, Bool.and_eq_true, ih]
    constructor
    · rintro (hk | ⟨hb, front, rest, rfl, hfront, hk⟩)
      · exact ⟨[], b :: bytes, rfl, by simp, hk⟩
      · exact ⟨b :: front, rest, rfl, List.forall_mem_cons.mpr ⟨hb, hfront⟩, hk⟩
    · rintro ⟨front, rest, heq, hfront, hk⟩
      cases front with
      | nil => exact .inl (by rwa [heq])
      | cons b' front =>
        obtain ⟨rfl, rfl⟩ := List.cons.inj heq
        obtain ⟨hb, hfront⟩ := List.forall_mem_cons.mp hfront
        exact .inr ⟨hb, front, rest, rfl, hfront, hk⟩

theorem afterSlash_iff {k : List UInt8 → Bool} {bytes : List UInt8} :
    afterSlash k bytes = true ↔ ∃ front rest, bytes = front ++ slash :: rest ∧ k rest = true := by
  induction bytes with
  | nil => simp [afterSlash]
  | cons b bytes ih =>
    rw [afterSlash, Bool.or_eq_true, Bool.and_eq_true, beq_iff_eq, ih]
    constructor
    · rintro (⟨rfl, hk⟩ | ⟨front, rest, rfl, hk⟩)
      · exact ⟨[], bytes, rfl, hk⟩
      · exact ⟨b :: front, rest, rfl, hk⟩
    · rintro ⟨front, rest, heq, hk⟩
      cases front with
      | nil =>
        obtain ⟨rfl, rfl⟩ := List.cons.inj heq
        exact .inl ⟨rfl, hk⟩
      | cons b' front =>
        obtain ⟨rfl, rfl⟩ := List.cons.inj heq
        exact .inr ⟨front, rest, rfl, hk⟩

/-- Tokens in a row hand on to each other. -/
theorem acceptsAll_append (ts us : List Token) (k : List UInt8 → Bool) :
    acceptsAll (ts ++ us) k = acceptsAll ts (acceptsAll us k) := by
  induction ts with
  | nil =>
    funext bytes
    rw [List.nil_append, acceptsAll]
  | cons t ts ih =>
    funext bytes
    rw [List.cons_append, acceptsAll, acceptsAll, ih]

/-! ### Literal tokens -/

/-- The bytes of some characters. -/
def bytesOf (cs : List Char) : List UInt8 :=
  cs.flatMap String.utf8EncodeChar

theorem encode_eq_bytesOf (s : String) : Text.Utf8.encode s = bytesOf s.toList :=
  Text.Utf8.encode_eq_flatMap s

theorem charBytes_eq (c : Char) : charBytes c = String.utf8EncodeChar c := by
  rw [charBytes, Text.Utf8.encode_eq_flatMap, String.toList_ofList, List.flatMap_singleton]

theorem bytesOf_append (cs ds : List Char) : bytesOf (cs ++ ds) = bytesOf cs ++ bytesOf ds :=
  List.flatMap_append

theorem bytesOf_inj {cs ds : List Char} : bytesOf cs = bytesOf ds ↔ cs = ds := by
  constructor
  · intro h
    have hdecode := Text.Utf8.decodeFrom_encode 0 ds
    rw [← show bytesOf ds = ds.flatMap String.utf8EncodeChar from rfl, ← h] at hdecode
    exact Except.ok.inj ((Text.Utf8.decodeFrom_encode 0 cs).symm.trans hdecode)
  · rintro rfl
    rfl

/-- Literal tokens match the text that they spell. -/
theorem acceptsAll_literals (cs : List Char) (bytes : List UInt8) :
    acceptsAll (cs.map .literal) List.isEmpty bytes = true ↔ bytes = bytesOf cs := by
  induction cs generalizing bytes with
  | nil => exact List.isEmpty_iff
  | cons c cs ih =>
    rw [List.map_cons, acceptsAll, Token.accepts, afterBytes_iff, charBytes_eq]
    constructor
    · rintro ⟨rest, rfl, hrest⟩
      rw [(ih rest).mp hrest]
      rfl
    · intro h
      exact ⟨bytesOf cs, h, (ih _).mpr rfl⟩

/-! ### Slashes -/

theorem slash_mem_utf8EncodeChar {c : Char} (h : slash ∈ String.utf8EncodeChar c) : c = '/' := by
  have hnat := Text.Utf8.toNat_of_mem_utf8EncodeChar (by decide) h
  exact Char.toNat_inj.mp hnat

theorem slash_mem_bytesOf_iff (cs : List Char) : slash ∈ bytesOf cs ↔ '/' ∈ cs := by
  constructor
  · intro h
    obtain ⟨c, hc, hbytes⟩ := List.mem_flatMap.mp h
    exact slash_mem_utf8EncodeChar hbytes ▸ hc
  · intro h
    exact List.mem_flatMap.mpr ⟨'/', h, by decide⟩

/-- Characters whose bytes are split at a slash are split at a slash. -/
theorem exists_split_of_bytesOf {cs : List Char} {front rest : List UInt8}
    (h : bytesOf cs = front ++ slash :: rest) :
    ∃ ds es, cs = ds ++ '/' :: es ∧ bytesOf ds = front ∧ bytesOf es = rest := by
  induction cs generalizing front with
  | nil => simp [bytesOf] at h
  | cons c cs ih =>
    have hcons : String.utf8EncodeChar c ++ bytesOf cs = front ++ slash :: rest := h
    rcases List.append_eq_append_iff.mp hcons with ⟨more, hfront, hcs⟩ | ⟨more, hchar, hslash⟩
    · obtain ⟨ds, es, rfl, hds, hes⟩ := ih hcs
      refine ⟨c :: ds, es, rfl, ?_, hes⟩
      rw [hfront, ← hds]
      rfl
    · -- The slash is a byte of `c`, or the first one behind it.
      cases more with
      | nil =>
        have hbehind : bytesOf cs = [] ++ slash :: rest := hslash.symm
        obtain ⟨ds, es, rfl, hds, hes⟩ := ih hbehind
        refine ⟨c :: ds, es, rfl, ?_, hes⟩
        rw [List.append_nil] at hchar
        rw [← hchar]
        exact (congrArg (_ ++ ·) hds).trans (List.append_nil _)
      | cons b more =>
        obtain ⟨rfl, hrest⟩ := List.cons.inj hslash
        have hc : c = '/' := slash_mem_utf8EncodeChar (by rw [hchar]; simp)
        subst hc
        have hlength := congrArg List.length hchar
        have hone : (String.utf8EncodeChar '/').length = 1 := by decide
        rw [hone, List.length_append, List.length_cons] at hlength
        obtain rfl : front = [] := List.length_eq_zero_iff.mp (by omega)
        obtain rfl : more = [] := List.length_eq_zero_iff.mp (by omega)
        exact ⟨[], cs, rfl, rfl, hrest.symm⟩

/-! ### The last component -/

theorem takeWhile_append_slash (front rest : List UInt8) :
    (front ++ slash :: rest).takeWhile (· != slash) = front.takeWhile (· != slash) := by
  induction front with
  | nil => rfl
  | cons b front ih => rw [List.cons_append, List.takeWhile_cons, List.takeWhile_cons, ih]

/-- What stands behind a slash has the same last component. -/
theorem endsInParent_append_slash (front rest : List UInt8) :
    endsInParent (front ++ slash :: rest) = endsInParent rest := by
  rw [endsInParent, endsInParent, List.reverse_append, List.reverse_cons, List.append_assoc,
    List.singleton_append, takeWhile_append_slash]

theorem endsInParent_of_notMem {bytes : List UInt8} (h : slash ∉ bytes) :
    endsInParent bytes = true ↔ bytes = [46, 46] := by
  have hall : ∀ b ∈ bytes.reverse, (b != slash) = true := fun b hb =>
    bne_iff_ne.mpr fun heq => h (heq ▸ List.mem_reverse.mp hb)
  have htake : bytes.reverse.takeWhile (· != slash) = bytes.reverse := by
    have happend := @List.takeWhile_append_of_pos _ _ bytes.reverse [] hall
    simpa using happend
  rw [endsInParent, htake, beq_iff_eq, List.reverse_eq_iff]
  rfl

theorem endsInParent_joinSlash {pieces : List (List Char)} (h : ∀ p ∈ pieces, '/' ∉ p) :
    endsInParent (bytesOf (Path.joinSlash pieces)) = true ↔ pieces.getLast? = some ['.', '.'] := by
  induction pieces with
  | nil => exact iff_of_false (by decide) (by simp)
  | cons piece pieces ih =>
    cases pieces with
    | nil =>
      have hslash : slash ∉ bytesOf piece := fun hmem =>
        h piece List.mem_cons_self ((slash_mem_bytesOf_iff piece).mp hmem)
      have hdots : bytesOf ['.', '.'] = [46, 46] := by decide
      rw [Path.joinSlash, endsInParent_of_notMem hslash, ← hdots, bytesOf_inj,
        List.getLast?_singleton,
        Option.some.injEq]
    | cons next pieces =>
      rw [Path.joinSlash, bytesOf_append,
        show bytesOf ('/' :: Path.joinSlash (next :: pieces)) =
          slash :: bytesOf (Path.joinSlash (next :: pieces)) from rfl,
        endsInParent_append_slash, ih fun p hp => h p (List.mem_cons_of_mem piece hp),
        List.getLast?_cons_cons]

/-- A path ends in the parent directory just if its last component is `..`. -/
theorem endsInParent_encode (path : String) :
    endsInParent (bytesOf path.toList) = true ↔ (Path.segments path).getLast? = some ".." := by
  have hslash : ∀ p ∈ Path.splitSlash path.toList, '/' ∉ p := fun p hp =>
    Path.slash_notMem_of_mem_splitSlash hp
  have hjoin := endsInParent_joinSlash hslash
  rw [Path.joinSlash_splitSlash] at hjoin
  rw [hjoin, Path.segments, List.getLast?_map, Option.map_eq_some_iff]
  constructor
  · intro hlast
    exact ⟨_, hlast, rfl⟩
  · rintro ⟨piece, hlast, hdots⟩
    rw [hlast, ← String.toList_ofList (l := piece), hdots]
    rfl

/-! ### Lookup by name -/

theorem all_isLiteral_iff {ts : List Token} :
    ts.all (Token.isLiteral fun _ => true) = true ↔ ∃ cs : List Char, ts = cs.map .literal := by
  rw [List.all_eq_true]
  constructor
  · intro h
    have hrange : ts ∈ {l : List Token | ∀ t ∈ l, t ∈ Set.range Token.literal} := by
      intro t ht
      cases t with
      | literal c => exact Set.mem_range_self c
      | _ => exact absurd (h _ ht) Bool.false_ne_true
    rw [← Set.range_list_map] at hrange
    obtain ⟨cs, rfl⟩ := hrange
    exact ⟨cs, rfl⟩
  · rintro ⟨cs, rfl⟩ t ht
    obtain ⟨c, -, rfl⟩ := List.mem_map.mp ht
    rfl

theorem any_isLiteral_iff {cs : List Char} :
    (cs.map Token.literal).any (Token.isLiteral (· == '/')) = true ↔ '/' ∈ cs := by
  simp [Token.isLiteral]

theorem getLast?_of_needsName {ts : List Token} (h : needsName ts = true) :
    ts.getLast? = some (.literal '.') := by
  by_contra hlast
  apply absurd h
  rw [Bool.not_eq_true]
  unfold needsName
  generalize ts.getLast? = last at hlast
  dsimp only
  split
  · exact absurd rfl hlast
  · rfl

/-- Without a wildcard for directories in front, the patterns that end in a dot are looked up by
name unless they are literal. -/
theorem needsName_iff {ts : List Token} (hleading : ts.head? ≠ some .leading) :
    needsName ts = true ↔
      ts.getLast? = some (.literal '.') ∧ ¬ ∃ cs : List Char, ts = cs.map .literal := by
  by_cases hlast : ts.getLast? = some (.literal '.')
  · rw [← all_isLiteral_iff]
    unfold needsName
    rw [hlast]
    cases ts with
    | nil => exact absurd hlast (by simp)
    | cons t ts =>
      cases t with
      | leading => exact absurd rfl hleading
      | _ =>
        simp only [Bool.not_false, Bool.and_true, Bool.not_eq_true', Bool.not_eq_true, true_and]
  · exact iff_of_false (fun h => hlast (getLast?_of_needsName h)) fun h => hlast h.1

/-- Below any directory, the patterns that end in a dot are looked up by name unless they are a
literal path. -/
theorem needsName_leading {ts : List Token} :
    needsName (.leading :: ts) = true ↔
      ts.getLast? = some (.literal '.') ∧ ¬ ∃ cs : List Char, ts = cs.map .literal ∧ '/' ∈ cs := by
  have hlasts : (Token.leading :: ts).getLast? = some (.literal '.') ↔
      ts.getLast? = some (.literal '.') := by
    cases ts with
    | nil => simp
    | cons t ts => rw [List.getLast?_cons_cons]
  have hliteral : ((ts.all (Token.isLiteral fun _ => true) &&
      ts.any (Token.isLiteral (· == '/'))) = true) ↔
      ∃ cs : List Char, ts = cs.map .literal ∧ '/' ∈ cs := by
    rw [Bool.and_eq_true, all_isLiteral_iff]
    constructor
    · rintro ⟨⟨cs, rfl⟩, hslash⟩
      exact ⟨cs, rfl, any_isLiteral_iff.mp hslash⟩
    · rintro ⟨cs, rfl, hslash⟩
      exact ⟨⟨cs, rfl⟩, any_isLiteral_iff.mpr hslash⟩
  rw [← hlasts, ← hliteral]
  by_cases hlast : (Token.leading :: ts).getLast? = some (.literal '.')
  · unfold needsName
    rw [hlast]
    simp only [List.all_cons, Token.isLiteral, Bool.false_and, Bool.not_false, Bool.true_and,
      Bool.not_eq_true', Bool.not_eq_true, true_and]
  · exact iff_of_false (fun h => hlast (getLast?_of_needsName h)) fun h => hlast h.1

/-- A pattern other than a lone wildcard for directories matches what its tokens accept, but for the
paths without a name where it is looked up by name. -/
theorem matchesBytes_iff {ts : List Token} (h : ts ≠ [.leading]) (bytes : List UInt8) :
    matchesBytes ts bytes = true ↔
      acceptsAll ts List.isEmpty bytes = true ∧
        ¬ (needsName ts = true ∧ endsInParent bytes = true) := by
  unfold matchesBytes
  split
  · exact absurd rfl h
  · rw [Bool.and_eq_true, Bool.not_eq_true', ← Bool.not_eq_true, Bool.and_eq_true]

end Glob

/-! ### Matchers of one pattern -/

namespace Matcher

theorem ofPatterns_singleton {pattern : String} {m : Matcher} :
    ofPatterns [pattern] = .ok m ↔
      ∃ tokens, Glob.read false pattern = .ok tokens ∧ m = ⟨[(pattern, tokens)]⟩ := by
  have hmap : ofPatterns [pattern] = (readPattern pattern).map fun glob => ⟨[glob]⟩ := by
    rw [ofPatterns, List.mapM_cons, List.mapM_nil]
    cases readPattern pattern <;> rfl
  rw [hmap, readPattern]
  cases Glob.read false pattern with
  | error fault => simp [Except.map]
  | ok tokens => simp [Except.map, eq_comm]

theorem isMatch_singleton (pattern path : String) (tokens : List Glob.Token) :
    isMatch ⟨[(pattern, tokens)]⟩ path = Glob.matchesBytes tokens (Glob.bytesOf path.toList) := by
  rw [isMatch, List.any_cons, List.any_nil, Bool.or_false, Glob.encode_eq_bytesOf]

end Matcher

end TemplateCheck
