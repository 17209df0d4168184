import Mathlib.Data.List.DropRight
import Mathlib.Data.List.Forall2
import Mathlib.Tactic.SplitIfs
import TemplateCheck.Json.Reader
import TemplateCheck.Json.Writer

/-!
# JSON that is written is read back

The reader takes a string one character or escape at a time, and the writer escapes just what it
must. Whatever a value is written in front of is left for the next reader.

* `Writer.put_append` — what follows a value has no part in how it is written;
* `Reader.string_body` — a written string is read back;
* `Visible` — a text adds no control character to the text at its end;
* `ReadsBack` — a value is written without control characters and read back, whatever follows it;
* `readsBack_str`, `readsBack_arr`, `readsBack_obj` — how such values are put together. The members
  of an object are read in ascending order of their keys.

Numbers are left out: whether one is read back hangs on what follows it.
-/

namespace TemplateCheck.Json

open Reader Writer

/-! ### What follows a value -/

namespace Writer

/-- The characters of a string and its closing quote, in front of `rest`. -/
def body (cs rest : List Char) : List Char :=
  cs.foldr (fun c rest => escape c ++ rest) ('"' :: rest)

theorem putString_eq (s : String) (rest : List Char) :
    putString s rest = '"' :: body s.toList rest :=
  rfl

theorem body_append (cs a b : List Char) : body cs (a ++ b) = body cs a ++ b := by
  induction cs with
  | nil => rfl
  | cons c cs ih =>
    have hbody : body cs (a ++ b) = body cs a ++ b := ih
    show escape c ++ body cs (a ++ b) = (escape c ++ body cs a) ++ b
    rw [hbody, List.append_assoc]

theorem putString_append (s : String) (a b : List Char) :
    putString s (a ++ b) = putString s a ++ b := by
  rw [putString_eq, putString_eq, body_append]
  rfl

mutual

theorem put_append : ∀ (v : Json) (a b : List Char), put v (a ++ b) = put v a ++ b
  | .str s, a, b => by
    rw [put, put, putString_append]
  | .arr vs, a, b => by
    have hitems := putItems_append true vs (']' :: a) b
    rw [put, put, List.cons_append, ← hitems]
    rfl
  | .obj ms, a, b => by
    have hmembers := putMembers_append true ms ('\x7d' :: a) b
    rw [put, put, List.cons_append, ← hmembers]
    rfl
  | .null, a, b => by rw [put, put, List.append_assoc]
  | .bool _, a, b => by rw [put, put, List.append_assoc]
  | .int _, a, b => by rw [put, put, List.append_assoc]
  | .float _, a, b => by rw [put, put, List.append_assoc]

theorem putItems_append (first : Bool) :
    ∀ (vs : List Json) (a b : List Char), putItems first vs (a ++ b) = putItems first vs a ++ b
  | [], a, b => by rw [putItems, putItems]
  | v :: vs, a, b => by
    have hbody : put v (putItems false vs (a ++ b)) = put v (putItems false vs a) ++ b := by
      rw [putItems_append false vs a b, put_append v]
    rw [putItems, putItems, hbody]
    split <;> rfl

theorem putMembers_append (first : Bool) : ∀ (ms : List (String × Json)) (a b : List Char),
    putMembers first ms (a ++ b) = putMembers first ms a ++ b
  | [], a, b => by rw [putMembers, putMembers]
  | (key, v) :: ms, a, b => by
    have hvalue : put v (putMembers false ms (a ++ b)) = put v (putMembers false ms a) ++ b := by
      rw [putMembers_append false ms a b, put_append v]
    have hbody : putString key (':' :: put v (putMembers false ms (a ++ b))) =
        putString key (':' :: put v (putMembers false ms a)) ++ b := by
      rw [hvalue, ← List.cons_append, putString_append]
    rw [putMembers, putMembers, hbody]
    split <;> rfl

end

/-- Each item but the first takes at least its comma. -/
theorem length_putItems (first : Bool) (vs : List Json) (rest : List Char) :
    vs.length + rest.length ≤ (putItems first vs rest).length + first.toNat := by
  induction vs generalizing first with
  | nil => simp [putItems]
  | cons v vs ih =>
    have hrest := ih false
    have hput : put v (putItems false vs rest) = put v [] ++ putItems false vs rest :=
      put_append v [] (putItems false vs rest)
    cases first with
    | false =>
      simp only [putItems, hput, Bool.false_eq_true, if_false, List.length_cons, List.length_append,
        Bool.toNat_false] at hrest ⊢
      omega
    | true =>
      simp only [putItems, hput, if_true, List.length_cons, List.length_append, Bool.toNat_false,
        Bool.toNat_true] at hrest ⊢
      omega

/-- Each member takes at least the quote in front of its key. -/
theorem length_putMembers (first : Bool) (ms : List (String × Json)) (rest : List Char) :
    ms.length + rest.length ≤ (putMembers first ms rest).length := by
  induction ms generalizing first with
  | nil => simp [putMembers]
  | cons m ms ih =>
    obtain ⟨key, v⟩ := m
    have hrest := ih false
    have hput : put v (putMembers false ms rest) = put v [] ++ putMembers false ms rest :=
      put_append v [] (putMembers false ms rest)
    have hkey : putString key (':' :: put v (putMembers false ms rest)) =
        '"' :: (body key.toList [] ++ ':' :: put v (putMembers false ms rest)) := by
      rw [putString_eq, ← body_append]
      rfl
    rw [putMembers, hkey, hput]
    split <;> simp only [List.length_cons, List.length_append] <;> omega

end Writer

/-! ### Strings -/

namespace Reader

theorem hexDigit?_hexChar : ∀ n < 16, hexDigit? (hexChar n) = some n := by
  decide

/-- The escape of a control character. -/
theorem unicodeEscape_control {n : Nat} (hn : n < 0x20) (rest : List Char) :
    unicodeEscape ('0' :: '0' :: hexChar (n / 16) :: hexChar (n % 16) :: rest) =
      .ok (Char.ofNat n, rest) := by
  have hhigh := hexDigit?_hexChar (n / 16) (by omega)
  have hlow := hexDigit?_hexChar (n % 16) (by omega)
  have hzero : hexDigit? '0' = some 0 := by decide
  have hquad : hexQuad ('0' :: '0' :: hexChar (n / 16) :: hexChar (n % 16) :: rest) =
      .ok (n, rest) := by
    have hvalue : ((0 * 16 + 0) * 16 + n / 16) * 16 + n % 16 = n := by omega
    simp only [hexQuad, hzero, hhigh, hlow, hvalue]
  rw [unicodeEscape, hquad]
  show (if 0xDC00 ≤ n ∧ n ≤ 0xDFFF then _ else if n < 0xD800 ∨ 0xDFFF < n then _ else _) = _
  rw [if_neg (by omega), if_pos (.inl (by omega))]
  rfl

/-- A round of the reader takes a character as the writer puts it. -/
theorem stringFrom_escape (c : Char) (read rest : List Char) (fuel : Nat) :
    stringFrom read (fuel + 1) (escape c ++ rest) = stringFrom (c :: read) fuel rest := by
  unfold escape
  split_ifs with hquote hslash hb hf hn hr ht hcontrol
  · obtain rfl := eq_of_beq hquote
    rfl
  · obtain rfl := eq_of_beq hslash
    rfl
  · obtain rfl := eq_of_beq hb
    rfl
  · obtain rfl := eq_of_beq hf
    rfl
  · obtain rfl := eq_of_beq hn
    rfl
  · obtain rfl := eq_of_beq hr
    rfl
  · obtain rfl := eq_of_beq ht
    rfl
  · have hescape := unicodeEscape_control hcontrol rest
    rw [Char.ofNat_toNat] at hescape
    simp only [List.cons_append, List.nil_append, stringFrom, hescape]
    rfl
  · simp only [List.cons_append, List.nil_append, stringFrom, hquote, hslash, hcontrol,
      Bool.false_eq_true, if_false]

theorem stringFrom_body {cs : List Char} {fuel : Nat} (hfuel : cs.length < fuel)
    (read rest : List Char) :
    stringFrom read fuel (body cs rest) = .ok (String.ofList (read.reverse ++ cs), rest) := by
  induction cs generalizing fuel read with
  | nil =>
    obtain ⟨fuel, rfl⟩ := Nat.exists_eq_succ_of_ne_zero (Nat.ne_zero_of_lt hfuel)
    rw [List.append_nil]
    rfl
  | cons c cs ih =>
    obtain ⟨fuel, rfl⟩ := Nat.exists_eq_succ_of_ne_zero (Nat.ne_zero_of_lt hfuel)
    have hcs : cs.length < fuel := Nat.lt_of_succ_lt_succ hfuel
    show stringFrom read (fuel + 1) (escape c ++ body cs rest) = _
    rw [stringFrom_escape, ih hcs, List.reverse_cons, List.append_assoc]
    rfl

theorem escape_ne_nil (c : Char) : escape c ≠ [] := by
  unfold escape
  split_ifs <;> simp

theorem length_le_body (cs rest : List Char) : cs.length ≤ (body cs rest).length := by
  induction cs with
  | nil => exact Nat.zero_le _
  | cons c cs ih =>
    have hpos : 0 < (escape c).length := List.length_pos_iff.mpr (escape_ne_nil c)
    show cs.length + 1 ≤ (escape c ++ body cs rest).length
    rw [List.length_append]
    omega

/-- A written string is read back, and what follows it is left. -/
theorem string_body (s : String) (rest : List Char) :
    string (body s.toList rest) = .ok (s, rest) := by
  have hfuel : s.toList.length < (body s.toList rest).length + 1 := by
    have hlength := length_le_body s.toList rest
    omega
  rw [string, stringFrom_body hfuel]
  simp

/-! ### Items -/

theorem skipSpace_of_not {c : Char} (hc : isSpace c = false) (cs : List Char) :
    skipSpace (c :: cs) = c :: cs := by
  rw [skipSpace, List.dropWhile_cons, hc]
  rfl

/-- Spaces in front of a value do not matter. -/
theorem value_skipSpace (depth : Nat) (cs : List Char) :
    value depth (skipSpace cs) = value depth cs := by
  have hskip : skipSpace (skipSpace cs) = skipSpace cs := List.dropWhile_idempotent _ cs
  cases depth with
  | zero => rw [value, value, hskip]
  | succ depth => rw [value, value, hskip]

/-- In front of a value stands no closing bracket. -/
theorem exists_skipSpace_of_value {depth : Nat} {cs : List Char} {r : Json × List Char}
    (h : value depth cs = .ok r) : ∃ c back, skipSpace cs = c :: back ∧ c ≠ ']' := by
  rw [← value_skipSpace] at h
  cases hcs : skipSpace cs with
  | nil =>
    rw [hcs] at h
    cases depth <;> cases h
  | cons c back =>
    refine ⟨c, back, rfl, ?_⟩
    rintro rfl
    rw [hcs] at h
    cases depth <;> cases h

theorem nextItem_close {close : Char} (hclose : isSpace close = false) (first : Bool)
    (rest : List Char) : nextItem close first (close :: rest) = .ok (false, rest) := by
  rw [nextItem, skipSpace_of_not hclose]
  simp

/-- In front of the first item, and behind the comma in front of each other, the next item is
found. -/
theorem nextItem_open (close : Char) {c : Char} {cs back : List Char} (hcomma : close ≠ ',')
    (hcs : skipSpace cs = c :: back) (hc : c ≠ close) (first : Bool) :
    nextItem close first (if first then cs else ',' :: cs) = .ok (true, c :: back) := by
  have hitem : (c == close) = false := beq_false_of_ne hc
  cases first with
  | true => simp [nextItem, hcs, hitem]
  | false =>
    have hskip : skipSpace (',' :: cs) = ',' :: cs := skipSpace_of_not (by decide) cs
    have hclose : (',' == close) = false := beq_false_of_ne (Ne.symm hcomma)
    simp [nextItem, hskip, hclose, hcs, hitem]

end Reader

/-! ### Control characters -/

/-- A text adds no control character to the text at its end. -/
def Visible (text rest : List Char) : Prop :=
  ∀ c ∈ text, 0x20 ≤ c.toNat ∨ c ∈ rest

theorem Visible.refl (rest : List Char) : Visible rest rest :=
  fun _ hc => .inr hc

theorem Visible.trans {a b rest : List Char} (h : Visible a b) (hb : Visible b rest) :
    Visible a rest :=
  fun c hc => (h c hc).elim .inl (hb c)

theorem Visible.cons {d : Char} (hd : 0x20 ≤ d.toNat) {text rest : List Char}
    (h : Visible text rest) : Visible (d :: text) rest := by
  intro c hc
  rcases List.mem_cons.mp hc with rfl | hc
  · exact .inl hd
  · exact h c hc

theorem visible_append {word : List Char} (hword : ∀ c ∈ word, 0x20 ≤ c.toNat) (rest : List Char) :
    Visible (word ++ rest) rest :=
  fun c hc => (List.mem_append.mp hc).imp_left (hword c)

/-- No control character is written inside a string. -/
theorem visible_escape (c d : Char) (hd : d ∈ escape c) : 0x20 ≤ d.toNat := by
  have hpair (e : Char) (he : 0x20 ≤ e.toNat) (hd : d ∈ ['\\', e]) : 0x20 ≤ d.toNat := by
    rcases List.mem_pair.mp hd with rfl | rfl
    · decide
    · exact he
  have hhex : ∀ n < 16, 0x20 ≤ (hexChar n).toNat := by decide
  unfold escape at hd
  split_ifs at hd with hquote hslash hb hf hn hr ht hcontrol
  · exact hpair '"' (by decide) hd
  · exact hpair '\\' (by decide) hd
  · exact hpair 'b' (by decide) hd
  · exact hpair 'f' (by decide) hd
  · exact hpair 'n' (by decide) hd
  · exact hpair 'r' (by decide) hd
  · exact hpair 't' (by decide) hd
  · have hhigh := hhex (c.toNat / 16) (by omega)
    have hlow := hhex (c.toNat % 16) (by omega)
    simp only [List.mem_cons, List.not_mem_nil, or_false] at hd
    rcases hd with rfl | rfl | rfl | rfl | rfl | rfl
    · decide
    · decide
    · decide
    · decide
    · exact hhigh
    · exact hlow
  · obtain rfl := List.mem_singleton.mp hd
    exact Nat.not_lt.mp hcontrol

theorem visible_putString (s : String) (rest : List Char) : Visible (putString s rest) rest := by
  have hbody (cs : List Char) : Visible (body cs rest) rest := by
    induction cs with
    | nil => exact (Visible.refl rest).cons (by decide)
    | cons c cs ih => exact (visible_append (visible_escape c) (body cs rest)).trans ih
  exact (hbody s.toList).cons (by decide)

/-! ### Values that are read back -/

/-- A value is written without control characters, and what is written is read back as `read` by a
reader that allows so many containers inside one another. Whatever follows it is left. -/
structure ReadsBack (depth : Nat) (v read : Json) : Prop where
  value_put : ∀ rest, value depth (put v rest) = .ok (read, rest)
  visible : ∀ rest, Visible (put v rest) rest

theorem readsBack_null (depth : Nat) : ReadsBack depth .null .null where
  value_put rest := by cases depth <;> rfl
  visible rest := by
    have hword : ∀ c ∈ Writer.scalar .null, 0x20 ≤ c.toNat := by simp [Writer.scalar]
    exact visible_append hword rest

theorem readsBack_bool (depth : Nat) (b : Bool) : ReadsBack depth (.bool b) (.bool b) where
  value_put rest := by cases depth <;> cases b <;> rfl
  visible rest := by
    have hword : ∀ c ∈ Writer.scalar (.bool b), 0x20 ≤ c.toNat := by
      cases b <;> simp [Writer.scalar]
    exact visible_append hword rest

theorem readsBack_str (depth : Nat) (s : String) : ReadsBack depth (.str s) (.str s) where
  value_put rest := by
    have hscalar : Reader.scalar ('"' :: body s.toList rest) = .ok (.str s, rest) := by
      rw [Reader.scalar, string_body]
      rfl
    have hskip : skipSpace ('"' :: body s.toList rest) = '"' :: body s.toList rest :=
      skipSpace_of_not (by decide) _
    rw [put, putString_eq, ← hscalar]
    cases depth with
    | zero =>
      rw [value, hskip]
      rfl
    | succ depth =>
      rw [value, hskip]
      rfl
  visible rest := visible_putString s rest

/-! ### Containers -/

variable {depth : Nat}

/-- Items that are read back one by one are read back as a list. -/
theorem items_putItems {vs read : List Json} (h : List.Forall₂ (ReadsBack depth) vs read)
    (first : Bool) (done : List Json) {fuel : Nat} (hfuel : vs.length < fuel) (rest : List Char) :
    items (value depth) first done fuel (putItems first vs (']' :: rest)) =
      .ok (done.reverse ++ read, rest) := by
  induction h generalizing first done fuel with
  | nil =>
    obtain ⟨fuel, rfl⟩ := Nat.exists_eq_succ_of_ne_zero (Nat.ne_zero_of_lt hfuel)
    rw [putItems, items, nextItem_close (by decide)]
    simp
  | @cons v w vs ws hv _ ih =>
    obtain ⟨fuel, rfl⟩ := Nat.exists_eq_succ_of_ne_zero (Nat.ne_zero_of_lt hfuel)
    have hvalue := hv.value_put (putItems false vs (']' :: rest))
    obtain ⟨c, back, hskip, hc⟩ := exists_skipSpace_of_value hvalue
    have hnext := nextItem_open ']' (by decide) hskip hc first
    have hitem : value depth (c :: back) = .ok (w, putItems false vs (']' :: rest)) := by
      rw [← hskip, value_skipSpace, hvalue]
    have hvs : vs.length < fuel := Nat.lt_of_succ_lt_succ hfuel
    rw [putItems, items, hnext]
    simp only [hitem]
    rw [ih false (w :: done) hvs, List.reverse_cons, List.append_assoc]
    rfl

theorem visible_putItems {vs read : List Json} (h : List.Forall₂ (ReadsBack depth) vs read)
    (first : Bool) (rest : List Char) : Visible (putItems first vs rest) rest := by
  induction h generalizing first with
  | nil => exact Visible.refl rest
  | @cons v w vs ws hv _ ih =>
    have hbody : Visible (put v (putItems false vs rest)) rest := (hv.visible _).trans (ih false)
    rw [putItems]
    split
    · exact hbody
    · exact hbody.cons (by decide)

/-- A list is read back item by item. -/
theorem readsBack_arr {vs read : List Json} (h : List.Forall₂ (ReadsBack depth) vs read) :
    ReadsBack (depth + 1) (.arr vs) (.arr read) where
  value_put rest := by
    have hfuel : vs.length < (putItems true vs (']' :: rest)).length + 1 := by
      have hlength := length_putItems true vs (']' :: rest)
      rw [List.length_cons, Bool.toNat_true] at hlength
      omega
    have hskip : skipSpace ('[' :: putItems true vs (']' :: rest)) =
        '[' :: putItems true vs (']' :: rest) := skipSpace_of_not (by decide) _
    rw [put, value, hskip]
    simp only [items_putItems h true [] hfuel rest]
    rfl
  visible rest := by
    have hclose : Visible (']' :: rest) rest := (Visible.refl rest).cons (by decide)
    exact ((visible_putItems h true _).trans hclose).cons (by decide)

/-- A member is read back under its key. -/
def MemberReadsBack (depth : Nat) (m read : String × Json) : Prop :=
  m.1 = read.1 ∧ ReadsBack depth m.2 read.2

/-- Members as the reader collects them: in ascending order of their keys, and of two with one key
the later one. -/
def collected (done ms : List (String × Json)) : List (String × Json) :=
  ms.foldl (fun done m => insertEntry m.1 m.2 done) done

theorem memberKey_putString (key : String) (rest : List Char) :
    memberKey (putString key (':' :: rest)) = .ok (key, rest) := by
  have hskip : skipSpace (':' :: rest) = ':' :: rest := skipSpace_of_not (by decide) rest
  rw [putString_eq, memberKey, string_body]
  simp only [hskip]

/-- Members that are read back one by one are collected. -/
theorem members_putMembers {ms read : List (String × Json)}
    (h : List.Forall₂ (MemberReadsBack depth) ms read) (first : Bool) (done : List (String × Json))
    {fuel : Nat} (hfuel : ms.length < fuel) (rest : List Char) :
    members (value depth) first done fuel (putMembers first ms ('\x7d' :: rest)) =
      .ok (collected done read, rest) := by
  induction h generalizing first done fuel with
  | nil =>
    obtain ⟨fuel, rfl⟩ := Nat.exists_eq_succ_of_ne_zero (Nat.ne_zero_of_lt hfuel)
    rw [putMembers, members, nextItem_close (by decide)]
    rfl
  | @cons m m' ms ms' hm _ ih =>
    obtain ⟨key, v⟩ := m
    obtain ⟨key', w⟩ := m'
    obtain ⟨rfl, hv⟩ : key = key' ∧ ReadsBack depth v w := hm
    obtain ⟨fuel, rfl⟩ := Nat.exists_eq_succ_of_ne_zero (Nat.ne_zero_of_lt hfuel)
    have hvalue := hv.value_put (putMembers false ms ('\x7d' :: rest))
    have hskip := skipSpace_of_not (c := '"') (by decide)
      (body key.toList (':' :: put v (putMembers false ms ('\x7d' :: rest))))
    have hnext := nextItem_open '\x7d' (by decide) hskip (by decide) first
    rw [← putString_eq] at hnext
    have hms : ms.length < fuel := Nat.lt_of_succ_lt_succ hfuel
    rw [putMembers, members, hnext]
    simp only [memberKey_putString, hvalue]
    exact ih false (insertEntry key w done) hms

theorem visible_putMembers {ms read : List (String × Json)}
    (h : List.Forall₂ (MemberReadsBack depth) ms read) (first : Bool) (rest : List Char) :
    Visible (putMembers first ms rest) rest := by
  induction h generalizing first with
  | nil => exact Visible.refl rest
  | @cons m m' ms ms' hm _ ih =>
    obtain ⟨key, v⟩ := m
    have hvalue : Visible (put v (putMembers false ms rest)) rest :=
      (hm.2.visible _).trans (ih false)
    have hbody : Visible (putString key (':' :: put v (putMembers false ms rest))) rest :=
      (visible_putString key _).trans (hvalue.cons (by decide))
    rw [putMembers]
    split
    · exact hbody
    · exact hbody.cons (by decide)

/-- An object is read back member by member. -/
theorem readsBack_obj {ms read : List (String × Json)}
    (h : List.Forall₂ (MemberReadsBack depth) ms read) :
    ReadsBack (depth + 1) (.obj ms) (.obj (collected [] read)) where
  value_put rest := by
    have hfuel : ms.length < (putMembers true ms ('\x7d' :: rest)).length + 1 := by
      have hlength := length_putMembers true ms ('\x7d' :: rest)
      omega
    have hskip : skipSpace ('\x7b' :: putMembers true ms ('\x7d' :: rest)) =
        '\x7b' :: putMembers true ms ('\x7d' :: rest) := skipSpace_of_not (by decide) _
    rw [put, value, hskip]
    simp only [members_putMembers h true [] hfuel rest]
    rfl
  visible rest := by
    have hclose : Visible ('\x7d' :: rest) rest := (Visible.refl rest).cons (by decide)
    exact ((visible_putMembers h true _).trans hclose).cons (by decide)

/-! ### Whole texts -/

/-- A whole text holds the value that was written, also with a line break behind it. -/
theorem ReadsBack.read_write {v w : Json} (h : ReadsBack maxDepth v w) :
    read v.write = .ok w ∧ read (v.write ++ "\n") = .ok w := by
  have hread (rest : List Char) (hrest : skipSpace rest = []) :
      read (String.ofList (put v rest)) = .ok w := by
    have hend : atEnd rest = .ok () := by rw [atEnd, hrest]; rfl
    rw [read, String.toList_ofList, h.value_put rest]
    show (do atEnd rest; return w) = _
    rw [hend]
    rfl
  have hbreak : v.write ++ "\n" = String.ofList (put v ['\n']) := by
    have hput : put v ['\n'] = put v [] ++ ['\n'] := put_append v [] ['\n']
    rw [hput, String.ofList_append]
    rfl
  exact ⟨hread [] rfl, hbreak ▸ hread ['\n'] rfl⟩

/-- No control character is written. -/
theorem ReadsBack.visible_write {v w : Json} (h : ReadsBack depth v w) :
    ∀ c ∈ v.write.toList, 0x20 ≤ c.toNat := by
  intro c hc
  rw [write, String.toList_ofList] at hc
  exact (h.visible [] c hc).resolve_right List.not_mem_nil

end TemplateCheck.Json
