import TemplateCheck.Proofs.KeyValues
import TemplateCheck.Scan

/-!
# Going through a model in any order

A model has no order of its own: its entries may be come upon in any. A key/value list has one, and
it counts where a key stands twice. So a list with the entries of a model behind its own may come
out in as many ways as the model can be gone through, and which way that was cannot be told from
what becomes of the samples.

* `KeyMap.Traversal` — the entries of a map, each once, in some order;
* `KeyMap.Traversal.lookup_entries` — whatever the order, a key leads to its value, from the front
  and from the back;
* `KeyValues.appendIn`, `ScanOptions.ofConfigIn` — a list and the options of a configuration, with
  the models gone through in a given order;
* `ScanOptions.TreatAlike` — options that make the same of every sample;
* `KeyValues.order_hidden` — the order changes neither what a list does nor what a scan reports.
-/

namespace TemplateCheck

/-! ### Orders of a map -/

/-- The entries of a map in an order in which they may be come upon. -/
structure KeyMap.Traversal {α : Type} (m : KeyMap α) where
  entries : List (String × α)
  perm : entries.Perm m.entries

namespace KeyMap.Traversal

variable {α : Type} {m : KeyMap α}

/-- The entries in key order. -/
def ascending (m : KeyMap α) : Traversal m :=
  ⟨m.entries, List.Perm.refl m.entries⟩

/-- The entries from the last one to the first. -/
def reverse (t : Traversal m) : Traversal m :=
  ⟨t.entries.reverse, (List.reverse_perm t.entries).trans t.perm⟩

theorem nodup_keys (t : Traversal m) : (t.entries.map (·.1)).Nodup :=
  (t.perm.map (·.1)).nodup_iff.mpr (nodup_keys_of_ascending m.ascending)

/-- No key stands twice, so a key leads to its value wherever that stands. -/
theorem lookup_entries (t : Traversal m) (k : String) : t.entries.lookup k = m.get? k := by
  apply Option.ext
  intro v
  constructor
  · intro h
    exact (m.mem_entries_iff k v).mp (t.perm.mem_iff.mp (mem_of_lookup h))
  · intro h
    have hmem : (k, v) ∈ t.entries := t.perm.mem_iff.mpr ((m.mem_entries_iff k v).mpr h)
    exact lookup_of_mem t.nodup_keys hmem

end KeyMap.Traversal

/-! ### Lists with the entries of a model -/

namespace KeyValues

theorem first?_extend (a b : KeyValues) (key : String) :
    (a.extend b).first? key = (a.first? key).or (b.first? key) := by
  rw [first?, extend, List.find?_append, Option.map_or]
  rfl

theorem last?_extend (a b : KeyValues) (key : String) :
    (a.extend b).last? key = (b.last? key).or (a.last? key) := by
  rw [last?, extend, List.reverse_append, List.find?_append, Option.map_or]
  rfl

theorem first?_ofPairs (pairs : List (String × Json)) (key : String) :
    (ofPairs pairs).first? key = pairs.lookup key := by
  have hlookup := lookup_map Prod.fst Prod.snd pairs key
  have hpairs : (pairs.map fun pair => (pair.1, pair.2)) = pairs := List.map_id pairs
  rw [hpairs] at hlookup
  rw [first?, ofPairs, List.find?_map, Option.map_map]
  exact hlookup.symm

theorem last?_ofPairs (pairs : List (String × Json)) (key : String) :
    (ofPairs pairs).last? key = pairs.reverse.lookup key := by
  rw [← first?_ofPairs, last?, first?, ofPairs, ofPairs, List.map_reverse]

/-- The entries of this list, then those of a model in the order in which they are come upon. -/
def appendIn (kv : KeyValues) {more : Model} (t : more.Traversal) : KeyValues :=
  kv.extend (ofPairs t.entries)

/-- Key order is one of the orders in which the entries of a model may be appended. -/
theorem append_eq_appendIn (kv : KeyValues) (more : Model) :
    kv.append more = kv.appendIn (.ascending more) := rfl

variable {more : Model}

theorem get?_applyDefaults_appendIn (kv : KeyValues) (t : more.Traversal) (m : Model)
    (key : String) :
    ((kv.appendIn t).applyDefaults m).get? key =
      (m.get? key).or ((kv.first? key).or (more.get? key)) := by
  rw [get?_applyDefaults, appendIn, first?_extend, first?_ofPairs, t.lookup_entries]

theorem get?_applyOverrides_appendIn (kv : KeyValues) (t : more.Traversal) (m : Model)
    (key : String) :
    ((kv.appendIn t).applyOverrides m).get? key =
      (more.get? key).or ((kv.last? key).or (m.get? key)) := by
  rw [get?_applyOverrides, appendIn, last?_extend, last?_ofPairs, Option.or_assoc]
  exact congrArg (Option.or · _) (t.reverse.lookup_entries key)

theorem applyDefaults_appendIn (kv : KeyValues) (t t' : more.Traversal) (m : Model) :
    (kv.appendIn t).applyDefaults m = (kv.appendIn t').applyDefaults m := by
  apply KeyMap.ext_get?
  intro key
  rw [get?_applyDefaults_appendIn, get?_applyDefaults_appendIn]

theorem applyOverrides_appendIn (kv : KeyValues) (t t' : more.Traversal) (m : Model) :
    (kv.appendIn t).applyOverrides m = (kv.appendIn t').applyOverrides m := by
  apply KeyMap.ext_get?
  intro key
  rw [get?_applyOverrides_appendIn, get?_applyOverrides_appendIn]

end KeyValues

/-! ### Options -/

namespace ScanOptions

/-- The options of a configuration whose defaults and overrides are gone through in the given
orders. -/
def ofConfigIn (c : Config) (d : c.defaults.Traversal) (o : c.overrides.Traversal) :
    Except Problem ScanOptions := do
  let samples ← c.sampleMatcher
  return { samples, defaults := KeyValues.empty.appendIn d, overrides := KeyValues.empty.appendIn o,
           gitignore := c.gitignore }

/-- Key order is one of the orders in which the options of a configuration may be made. -/
theorem ofConfig_eq_ofConfigIn (c : Config) :
    ofConfig c = ofConfigIn c (.ascending c.defaults) (.ascending c.overrides) := rfl

/-- Options that take the same files for samples, leave out the same files and complete every model
in the same way. -/
structure TreatAlike (a b : ScanOptions) : Prop where
  samples : a.samples = b.samples
  gitignore : a.gitignore = b.gitignore
  applyDefaults : ∀ m, a.defaults.applyDefaults m = b.defaults.applyDefaults m
  applyOverrides : ∀ m, a.overrides.applyOverrides m = b.overrides.applyOverrides m

/-- In whichever orders the two models of a configuration are gone through, there are options or
there are none for the same reason, and the options differ in nothing that a scan does with them. -/
theorem ofConfigIn_cases (c : Config) (d d' : c.defaults.Traversal) (o o' : c.overrides.Traversal) :
    (∃ p, ofConfigIn c d o = .error p ∧ ofConfigIn c d' o' = .error p) ∨
      ∃ a b, ofConfigIn c d o = .ok a ∧ ofConfigIn c d' o' = .ok b ∧ TreatAlike a b := by
  rw [ofConfigIn, ofConfigIn]
  cases c.sampleMatcher with
  | error p => exact .inl ⟨p, rfl, rfl⟩
  | ok samples =>
    refine .inr ⟨_, _, rfl, rfl, rfl, rfl, ?_, ?_⟩
    · intro m
      exact KeyValues.applyDefaults_appendIn .empty d d' m
    · intro m
      exact KeyValues.applyOverrides_appendIn .empty o o' m

end ScanOptions

/-! ### Scans -/

namespace ScanOptions.TreatAlike

variable {a b : ScanOptions}

theorem complete (h : TreatAlike a b) (m : Model) : Scan.complete a m = Scan.complete b m := by
  rw [Scan.complete, Scan.complete, h.applyDefaults, h.applyOverrides]

theorem problem? (h : TreatAlike a b) (t : Template) (m : Model) :
    Scan.problem? a t m = Scan.problem? b t m := by
  rw [Scan.problem?, Scan.problem?, h.complete]

theorem check (h : TreatAlike a b) (top : FileTree.Node) (t : Template) :
    Scan.check top a t = Scan.check top b t := by
  funext name
  unfold Scan.check
  simp only [h.problem?]

theorem checkAll (h : TreatAlike a b) (top : FileTree.Node) (t : Template) :
    Scan.checkAll top a t = Scan.checkAll top b t := by
  rw [Scan.checkAll, Scan.checkAll, h.check]

/-- Each result takes the next template with both options, so that the results can be gone through
side by side. -/
theorem withSamples (h : TreatAlike a b) (top : FileTree.Node) (templates : List Template)
    (results : List TemplateResult) :
    Scan.withSamples top a templates results = Scan.withSamples top b templates results := by
  induction results generalizing templates with
  | nil => rfl
  | cons r rs ih =>
    obtain ⟨name, problem, samples⟩ := r
    cases problem with
    | some p =>
      simp only [Scan.withSamples, ih]
    | none =>
      cases templates with
      | nil => rfl
      | cons t templates =>
        simp only [Scan.withSamples, h.checkAll, ih]

theorem scan (h : TreatAlike a b) (top : FileTree.Node) (root : String) (selector : Selector) :
    TemplateCheck.scan top root selector a = TemplateCheck.scan top root selector b := by
  unfold TemplateCheck.scan
  simp only [h.samples, h.gitignore, h.withSamples]

end ScanOptions.TreatAlike

/-- Two lists that come of appending a model, gone through in two orders, to a list with whatever
keys it has, make the same of every model, as defaults and as overrides. So do the options of a
configuration: with its defaults and overrides gone through in any two orders they cannot be made
for the same reason, or they complete every sample alike, find the same wrong with it in every
template, and lead every scan to the same report or problem. Key order is one of these orders. -/
theorem KeyValues.order_hidden (kv : KeyValues) (more m : Model) (t t' : more.Traversal)
    (c : Config) (d d' : c.defaults.Traversal) (o o' : c.overrides.Traversal) :
    (kv.append more = kv.appendIn (.ascending more) ∧
      (kv.appendIn t).applyDefaults m = (kv.appendIn t').applyDefaults m ∧
      (kv.appendIn t).applyOverrides m = (kv.appendIn t').applyOverrides m) ∧
    ScanOptions.ofConfig c =
      ScanOptions.ofConfigIn c (.ascending c.defaults) (.ascending c.overrides) ∧
    ((∃ p, ScanOptions.ofConfigIn c d o = .error p ∧ ScanOptions.ofConfigIn c d' o' = .error p) ∨
      ∃ a b, ScanOptions.ofConfigIn c d o = .ok a ∧ ScanOptions.ofConfigIn c d' o' = .ok b ∧
        ScanOptions.TreatAlike a b ∧
        (∀ template sample, Scan.problem? a template sample = Scan.problem? b template sample) ∧
        ∀ top root selector, scan top root selector a = scan top root selector b) := by
  have hdefaults := applyDefaults_appendIn kv t t' m
  have hoverrides := applyOverrides_appendIn kv t t' m
  refine ⟨⟨append_eq_appendIn kv more, hdefaults, hoverrides⟩,
    ScanOptions.ofConfig_eq_ofConfigIn c, ?_⟩
  rcases ScanOptions.ofConfigIn_cases c d d' o o' with hfails | ⟨a, b, ha, hb, halike⟩
  · exact .inl hfails
  · exact .inr ⟨a, b, ha, hb, halike, halike.problem?, halike.scan⟩

end TemplateCheck
