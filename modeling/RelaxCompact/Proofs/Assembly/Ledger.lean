import RelaxCompact.Proofs.Assembly.Expansion
import RelaxCompact.Proofs.Table

/-!
The books of an assembly: for each grammar what it is assembled from and which passages it has taken
so far, and the invariant that ties them to the state.
-/

namespace RelaxCompact

open Surface

/-- Changing an entry of the first part of a list does not touch the second. -/
theorem modify_append_of_lt {α : Type} {n : Nat} {l : List α} (h : n < l.length) (f : α → α)
    (more : List α) : (l ++ more).modify n f = l.modify n f ++ more := by
  induction l generalizing n with
  | nil => cases h
  | cons a l ih =>
    cases n with
    | zero => rfl
    | succ n =>
      rw [List.cons_append, List.modify_succ_cons, List.modify_succ_cons, List.cons_append,
        ih (Nat.lt_of_succ_lt_succ h)]

theorem modify_append_length {α : Type} (l : List α) (a : α) (f : α → α) :
    (l ++ [a]).modify l.length f = l ++ [f a] := by
  induction l with
  | nil => rfl
  | cons b l ih => rw [List.cons_append, List.length_cons, List.modify_succ_cons, ih]; rfl

/-- Two changes of an entry are the same if they are the same for the entry that is there. -/
theorem modify_congr_at {α : Type} {n : Nat} {l : List α} {f g : α → α}
    (h : ∀ a, l[n]? = some a → f a = g a) : l.modify n f = l.modify n g := by
  induction l generalizing n with
  | nil => rw [List.modify_nil, List.modify_nil]
  | cons a l ih =>
    cases n with
    | zero => rw [List.modify_zero_cons, List.modify_zero_cons, h a rfl]
    | succ n => rw [List.modify_succ_cons, List.modify_succ_cons, ih h]

/-- The account of one grammar: its origin, the definitions claimed for it, and the passages whose
sites it has. -/
structure Account where
  origin : Origin
  claimed : List Occurrence := []
  taken : List Passage := []

namespace Account

def claim (o : Occurrence) (a : Account) : Account := { a with claimed := a.claimed ++ [o] }

def enter (p : Passage) (a : Account) : Account := { a with taken := a.taken ++ [p] }

/-- The account after further passages, of which only those not met before count. -/
def take (ps : List Passage) (a : Account) : Account :=
  { a with
    claimed := a.claimed ++ (Passage.fresh a.claimed ps).map Passage.occurrence
    taken := a.taken ++ Passage.fresh a.claimed ps }

@[simp]
theorem origin_claim (o : Occurrence) (a : Account) : (a.claim o).origin = a.origin := rfl

@[simp]
theorem origin_enter (p : Passage) (a : Account) : (a.enter p).origin = a.origin := rfl

@[simp]
theorem origin_take (ps : List Passage) (a : Account) : (a.take ps).origin = a.origin := rfl

theorem take_nil (a : Account) : a.take [] = a := by
  simp only [take, Passage.fresh, List.map_nil, List.append_nil]

theorem take_take (ps qs : List Passage) (a : Account) :
    (a.take ps).take qs = a.take (ps ++ qs) := by
  simp only [take, Passage.fresh_append, List.map_append, List.append_assoc]

theorem take_of_mem {p : Passage} {a : Account} (h : p.occurrence ∈ a.claimed) :
    a.take [p] = a := by
  simp only [take, Passage.fresh, if_pos h, List.map_nil, List.append_nil]

theorem take_of_not_mem {p : Passage} {a : Account} (h : p.occurrence ∉ a.claimed) :
    (a.claim p.occurrence).enter p = a.take [p] := by
  simp only [take, Passage.fresh, if_neg h, List.map_cons, List.map_nil]
  rfl

/-- The grammar is finished: it has taken what its reference expansion says. -/
def Settled (src : Sources) (a : Account) : Prop :=
  ∃ ps, a.origin.Unfolds src ps ∧ a.taken = Passage.effective ps

end Account

/-- One account for each grammar. -/
abbrev Ledger := List Account

namespace Ledger

def origins (b : Ledger) : List Origin := b.map Account.origin

@[simp]
theorem origins_append (b new : Ledger) : origins (b ++ new) = b.origins ++ new.origins :=
  List.map_append

@[simp]
theorem length_origins (b : Ledger) : b.origins.length = b.length := List.length_map _

theorem origins_modify {φ : Account → Account} (hφ : ∀ a, (φ a).origin = a.origin) (b : Ledger)
    (n : Nat) : origins (b.modify n φ) = b.origins := by
  induction b generalizing n with
  | nil => rw [List.modify_nil]
  | cons a b ih =>
    cases n with
    | zero => simp only [List.modify_zero_cons, origins, List.map_cons, hφ]
    | succ n =>
      have := ih n
      simp only [origins] at this
      simp only [List.modify_succ_cons, origins, List.map_cons, this]

end Ledger

/-- The books agree with the state of an assembly. -/
structure Books (catalog : Catalog) (src : Sources) (b : Ledger) (s : Expansion) : Prop where
  sources : s.source.sources catalog = src
  length : b.length = s.grammars.length
  accounts : ∀ (n : Nat) (a : Account) (g : Grammar), b[n]? = some a → s.grammars[n]? = some g →
    g.parent = a.origin.parent ∧ g.Accounts src b.origins n a.taken
  registered : ∀ (n : Nat) (o : Occurrence),
    (n, o) ∈ s.registered ↔ ∃ a : Account, b[n]? = some a ∧ o ∈ a.claimed

namespace Books

variable {catalog : Catalog} {src : Sources} {b : Ledger} {s t : Expansion}

/-- Nothing is in the books of an assembly that begins. -/
theorem start {o : Origin} {label : Text} (hs : s.source.sources catalog = src)
    (hg : s.grammars = [{ label, parent := o.parent }]) (hr : s.registered = []) :
    Books catalog src [⟨o, [], []⟩] s where
  sources := hs
  length := by rw [hg]; rfl
  accounts n a g ha hgn := by
    rw [hg] at hgn
    cases n with
    | zero => cases ha; cases hgn; exact ⟨rfl, rfl, fun _ => .nil⟩
    | succ n => cases ha
  registered n o' := by
    rw [hr]
    constructor
    · intro hm
      cases hm
    · rintro ⟨a, ha, ho⟩
      cases n with
      | zero => cases ha; cases ho
      | succ n => cases ha

/-- A step that touches neither grammars nor what is registered keeps the books. -/
theorem quiet (h : Books catalog src b s) (hs : t.source.sources catalog = s.source.sources catalog)
    (hg : t.grammars = s.grammars) (hr : t.registered = s.registered) :
    Books catalog src b t where
  sources := hs.trans h.sources
  length := by rw [hg, h.length]
  accounts := by rw [hg]; exact h.accounts
  registered := by rw [hr]; exact h.registered

/-- A new grammar has an empty account. -/
theorem opened (h : Books catalog src b s) {o : Origin} {label : Text}
    (hs : t.source.sources catalog = s.source.sources catalog)
    (hg : t.grammars = s.grammars ++ [{ label, parent := o.parent }])
    (hr : t.registered = s.registered) : Books catalog src (b ++ [⟨o, [], []⟩]) t where
  sources := hs.trans h.sources
  length := by rw [hg, List.length_append, List.length_append, h.length]; rfl
  accounts n a g ha hgn := by
    rw [hg] at hgn
    rw [Ledger.origins_append]
    by_cases hn : n < b.length
    · rw [List.getElem?_append_left hn] at ha
      rw [List.getElem?_append_left (h.length ▸ hn)] at hgn
      obtain ⟨hp, hacc⟩ := h.accounts n a g ha hgn
      exact ⟨hp, hacc.append _⟩
    · rw [List.getElem?_append_right (Nat.le_of_not_lt hn)] at ha
      rw [List.getElem?_append_right (h.length ▸ Nat.le_of_not_lt hn), ← h.length] at hgn
      generalize n - b.length = m at ha hgn
      cases m with
      | zero => cases ha; cases hgn; exact ⟨rfl, rfl, fun _ => .nil⟩
      | succ m => cases ha
  registered n o' := by
    rw [hr, h.registered]
    constructor
    · rintro ⟨a, ha, ho⟩
      obtain ⟨hn, _⟩ := List.getElem?_eq_some_iff.1 ha
      exact ⟨a, by rw [List.getElem?_append_left hn, ha], ho⟩
    · rintro ⟨a, ha, ho⟩
      by_cases hn : n < b.length
      · rw [List.getElem?_append_left hn] at ha
        exact ⟨a, ha, ho⟩
      · rw [List.getElem?_append_right (Nat.le_of_not_lt hn)] at ha
        generalize n - b.length = m at ha
        cases m with
        | zero => cases ha; cases ho
        | succ m => cases ha

/-- A step that changes one grammar keeps the books if the account is changed to match. -/
theorem modify (h : Books catalog src b s) {n : Nat} {f : Grammar → Grammar}
    {φ : Account → Account} (hφ : ∀ a, (φ a).origin = a.origin)
    (hs : t.source.sources catalog = s.source.sources catalog)
    (hg : t.grammars = s.grammars.modify n f)
    (hr : ∀ (m : Nat) (o : Occurrence), (m, o) ∈ t.registered ↔
      ∃ a : Account, (b.modify n φ)[m]? = some a ∧ o ∈ a.claimed)
    (hacc : ∀ (a : Account) (g : Grammar), b[n]? = some a → s.grammars[n]? = some g →
      g.Accounts src b.origins n a.taken →
      (f g).parent = g.parent ∧ (f g).Accounts src b.origins n (φ a).taken) :
    Books catalog src (b.modify n φ) t where
  sources := hs.trans h.sources
  length := by rw [hg, List.length_modify, List.length_modify, h.length]
  accounts m a g ha hgm := by
    rw [Ledger.origins_modify hφ]
    rw [hg] at hgm
    by_cases hm : n = m
    · subst m
      rw [List.getElem?_modify_eq, Option.map_eq_map, Option.map_eq_some_iff] at ha hgm
      obtain ⟨a, ha, rfl⟩ := ha
      obtain ⟨g, hgn, rfl⟩ := hgm
      obtain ⟨hp, ho⟩ := h.accounts n a g ha hgn
      obtain ⟨hp', ho'⟩ := hacc a g ha hgn ho
      exact ⟨by rw [hp', hp, hφ], ho'⟩
    · rw [List.getElem?_modify_ne _ _ hm] at ha hgm
      exact h.accounts m a g ha hgm
  registered := hr

/-- What is registered stays in the books if no claims are changed. -/
theorem registered_modify (h : Books catalog src b s) {n : Nat} {φ : Account → Account}
    (hφ : ∀ a, (φ a).claimed = a.claimed) (hr : t.registered = s.registered) (m : Nat)
    (o : Occurrence) :
    (m, o) ∈ t.registered ↔ ∃ a : Account, (b.modify n φ)[m]? = some a ∧ o ∈ a.claimed := by
  rw [hr, h.registered]
  by_cases hm : n = m
  · subst m
    simp only [List.getElem?_modify_eq, Option.map_eq_map, Option.map_eq_some_iff]
    constructor
    · rintro ⟨a, ha, ho⟩
      exact ⟨φ a, ⟨a, ha, rfl⟩, by rw [hφ]; exact ho⟩
    · rintro ⟨_, ⟨a, ha, rfl⟩, ho⟩
      exact ⟨a, ha, by rw [← hφ]; exact ho⟩
  · rw [List.getElem?_modify_ne _ _ hm]

end Books

/-- The stacks of an assembly are as they were, but for what override blocks have suppressed. -/
structure Steady (s t : Expansion) : Prop where
  stack : t.stack = s.stack
  frames : t.frames.map OverrideFrame.spans = s.frames.map OverrideFrame.spans

theorem Steady.refl (s : Expansion) : Steady s s := ⟨rfl, rfl⟩

theorem Steady.trans {s t u : Expansion} (hst : Steady s t) (htu : Steady t u) : Steady s u :=
  ⟨htu.stack.trans hst.stack, htu.frames.trans hst.frames⟩

/-- The override blocks in effect define just the names that `covers` has. -/
def Guards (frames : List OverrideFrame) (covers : List (List DefineName)) : Prop :=
  ∀ name, (∃ f ∈ frames, f.spans.contains name = true) ↔ ∃ names ∈ covers, name ∈ names

theorem Guards.nil : Guards [] [] := by
  intro name
  constructor
  · rintro ⟨f, hf, _⟩
    cases hf
  · rintro ⟨names, hn, _⟩
    cases hn

theorem Guards.of_spans {frames frames' : List OverrideFrame} {covers : List (List DefineName)}
    (h : Guards frames covers)
    (hs : frames'.map OverrideFrame.spans = frames.map OverrideFrame.spans) :
    Guards frames' covers := by
  intro name
  have hmem (fs : List OverrideFrame) : (∃ f ∈ fs, f.spans.contains name = true) ↔
      ∃ spans ∈ fs.map OverrideFrame.spans, spans.contains name = true := by
    simp only [List.mem_map, exists_exists_and_eq_and]
  rw [hmem, hs, ← hmem]
  exact h name

/-- A block put into effect covers the names that it defines. -/
theorem Guards.push {frames : List OverrideFrame} {covers : List (List DefineName)}
    (h : Guards frames covers) {f : OverrideFrame} {names : List DefineName}
    (hf : ∀ name, f.spans.contains name = true ↔ name ∈ names) :
    Guards (f :: frames) (names :: covers) := by
  intro name
  simp only [List.mem_cons, exists_eq_or_imp, hf, h name]

/-- A block without names covers nothing. -/
theorem Guards.empty {frames : List OverrideFrame} {covers : List (List DefineName)}
    (h : Guards frames covers) : Guards frames ([] :: covers) := by
  intro name
  simp only [List.mem_cons, exists_eq_or_imp, List.not_mem_nil, false_or, h name]

theorem Guards.exposed {frames : List OverrideFrame} {p : Passage}
    (h : Guards frames p.covers) :
    p.exposed = !frames.any fun f => f.spans.contains p.name := by
  rw [Bool.eq_iff_iff, Bool.not_eq_true', List.any_eq_false, Passage.exposed, List.all_eq_true]
  constructor
  · intro hall f hf hc
    obtain ⟨names, hn, hm⟩ := (h p.name).1 ⟨f, hf, hc⟩
    exact of_decide_eq_true (hall names hn) hm
  · intro hall names hn
    apply decide_eq_true
    intro hm
    obtain ⟨f, hf, hc⟩ := (h p.name).2 ⟨names, hn, hm⟩
    exact hall f hf hc

end RelaxCompact
