import RelaxCompact.Proofs.Querying.Handles

/-!
Following references to what they stand for. It ends where there is no further reference, or where
references lead around: then with the first of those that are met again. In the schema of an
assembled grammar references do not lead around.
-/

namespace RelaxCompact

theorem Node.isReference_iff {n : Node} : n.isReference ↔ ∃ t, n.target? = some t := by
  cases n <;> simp [isReference, target?]

namespace Schema

variable {s : Schema} {h t r : Handle} {n : Node} {seen way : List Handle} {budget : Nat}

theorem derefFrom_stop (hn : s.node? h = some n) (hstop : ¬ n.isReference) (budget : Nat)
    (seen : List Handle) : s.derefFrom (budget + 1) seen h = .ok h := by
  rw [derefFrom, node_eq_ok.2 hn]
  cases n with
  | ref | parentRef => exact absurd rfl hstop
  | _ => rfl

theorem derefFrom_again (ht : s.Refers h t) (hh : h ∈ seen) (budget : Nat) :
    s.derefFrom (budget + 1) seen h = .ok h := by
  obtain ⟨n, hn, ht⟩ := ht
  rw [derefFrom, node_eq_ok.2 hn]
  cases n with
  | ref | parentRef => exact if_pos hh
  | _ => cases ht

theorem derefFrom_follow (ht : s.Refers h t) (hh : h ∉ seen) (budget : Nat) :
    s.derefFrom (budget + 1) seen h = s.derefFrom budget (h :: seen) t := by
  obtain ⟨n, hn, ht⟩ := ht
  rw [derefFrom, node_eq_ok.2 hn]
  cases n with
  | ref | parentRef =>
    cases ht
    exact if_neg hh
  | _ => cases ht

theorem Refers.mem_offspring (ht : s.Refers h t) : t ∈ s.offspring := by
  obtain ⟨n, hn, ht⟩ := ht
  exact Schema.mem_offspring hn (mem_children_of_target? ht)

theorem Closed.target (hs : s.Closed) (ht : s.Refers h t) : s.Addresses t := by
  obtain ⟨n, hn, ht⟩ := ht
  exact hs.child hn (mem_children_of_target? ht)

/-- References that lead from `r` through the others on the way, each met once, and back to it. -/
structure Around (s : Schema) (r : Handle) (way : List Handle) : Prop where
  chain : (r :: way ++ [r]).IsChain s.Refers
  nodup : (r :: way).Nodup

theorem Around.transGen (ha : s.Around r way) : Relation.TransGen s.Refers r r :=
  transGen_of_isChain_append ha.chain

theorem Around.exists_target (ha : s.Around r way) : ∃ t, s.Refers r t := by
  obtain ⟨t, ht, -⟩ := Relation.TransGen.head'_iff.1 ha.transGen
  exact ⟨t, ht⟩

/-- A reference to what has been seen closes a cycle. What is seen is a path to where it stands,
last handle first. -/
theorem exists_around (hpath : (h :: seen).IsChain (Function.swap s.Refers))
    (hnodup : (h :: seen).Nodup) (ht : s.Refers h t) (hmet : t ∈ h :: seen) :
    ∃ way, s.Around t way := by
  refine ⟨_, isChain_around hpath rfl ht hmet, List.nodup_cons.2 ⟨?again, ?nodup⟩⟩
  case again =>
    intro hmem
    have hne := List.mem_takeWhile_imp (List.mem_reverse.1 hmem)
    simp at hne
  case nodup => exact List.nodup_reverse.2 (hnodup.sublist (List.takeWhile_sublist _))

/-- On a way of handles not met before each is passed, up to a reference that has been met. -/
theorem derefFrom_way (hchain : (h :: way ++ [r]).IsChain s.Refers) (hway : (h :: way).Nodup)
    (hseen : ∀ x ∈ h :: way, x ∉ seen) (hr : r ∈ h :: seen) (ht : s.Refers r t) (budget : Nat) :
    s.derefFrom (budget + way.length + 2) seen h = .ok r := by
  induction way generalizing h seen with
  | nil =>
    exact (derefFrom_follow (List.isChain_pair.1 hchain) (hseen h List.mem_cons_self) _).trans
      (derefFrom_again ht hr _)
  | cons x way ih =>
    obtain ⟨hx, hrest⟩ := List.isChain_cons_cons.1 hchain
    obtain ⟨hh, hway⟩ := List.nodup_cons.1 hway
    obtain ⟨hhseen, hseen⟩ := List.forall_mem_cons.1 hseen
    have hseen' : ∀ y ∈ x :: way, y ∉ h :: seen := by
      intro y hy hmem
      rcases List.mem_cons.1 hmem with rfl | hmem
      · exact hh hy
      · exact hseen y hy hmem
    exact (derefFrom_follow hx hhseen _).trans
      (ih hrest hway hseen' (List.mem_cons_of_mem _ hr))

/-- From a reference that lies on a cycle the way leads once around. -/
theorem Around.deref_eq (ha : s.Around r way) : s.deref r = .ok r := by
  obtain ⟨t, ht⟩ := ha.exists_target
  have hlength : way.length + 1 ≤ s.edges := by
    rw [← length_offspring, ← List.length_singleton (a := r), ← List.length_append]
    refine (List.subperm_of_subset ?_ fun x hx => ?_).length_le
    · exact (List.perm_append_singleton r way).nodup_iff.2 ha.nodup
    · obtain ⟨y, hy⟩ := exists_of_isChain_cons ha.chain hx
      exact hy.mem_offspring
  have hbudget : s.edges + 2 = s.edges - way.length + way.length + 2 := by omega
  rw [deref, hbudget]
  exact derefFrom_way ha.chain ha.nodup (fun _ _ => List.not_mem_nil) List.mem_cons_self ht _

/-- Following ends: with what is no reference, or around a cycle. -/
theorem derefFrom_ends (hs : s.Closed) (hh : s.Addresses h) (hnew : h ∉ seen)
    (hpath : (h :: seen).IsChain (Function.swap s.Refers)) (hseen : seen.Nodup)
    (hbudget : unmet s.offspring (h :: seen) + 2 ≤ budget) :
    ∃ r n, s.derefFrom budget seen h = .ok r ∧ Relation.ReflTransGen s.Refers h r ∧
      s.node? r = some n ∧ (¬ n.isReference ∨ ∃ way, s.Around r way) := by
  induction budget generalizing h seen with
  | zero => omega
  | succ budget ih =>
    obtain ⟨n, hn⟩ := hh.exists_node
    by_cases href : n.isReference
    · obtain ⟨t, ht⟩ := Node.isReference_iff.1 href
      have ht : s.Refers h t := ⟨n, hn, ht⟩
      have hnodup : (h :: seen).Nodup := List.nodup_cons.2 ⟨hnew, hseen⟩
      rw [derefFrom_follow ht hnew]
      by_cases hmet : t ∈ h :: seen
      · obtain ⟨way, haround⟩ := exists_around hpath hnodup ht hmet
        obtain ⟨u, hu⟩ := haround.exists_target
        obtain ⟨budget, rfl⟩ : ∃ b, budget = b + 1 := ⟨budget - 1, by omega⟩
        have hagain := derefFrom_again hu hmet budget
        obtain ⟨m, hm, -⟩ := hu
        exact ⟨t, m, hagain, .single ht, hm, .inr ⟨way, haround⟩⟩
      · have hunmet := unmet_cons ht.mem_offspring hmet
        obtain ⟨r, m, hr, hway, hend⟩ := ih (hs.target ht) hmet
          (List.isChain_cons_cons.2 ⟨ht, hpath⟩) hnodup (by omega)
        exact ⟨r, m, hr, .head ht hway, hend⟩
    · exact ⟨h, n, derefFrom_stop hn href _ _, .refl, hn, .inl href⟩

theorem deref_ends (hs : s.Closed) (hh : s.Addresses h) :
    ∃ r n, s.deref h = .ok r ∧ Relation.ReflTransGen s.Refers h r ∧
      s.node? r = some n ∧ (¬ n.isReference ∨ ∃ way, s.Around r way) := by
  apply derefFrom_ends hs hh List.not_mem_nil (.singleton h) List.nodup_nil
  have hle := unmet_le s.offspring [h]
  rw [length_offspring] at hle
  omega

/-- References of an assembled grammar do not lead around. -/
theorem not_transGen_refers {a : Assembled} (ha : a.resolve = .ok s) (r : Handle) :
    ¬ Relation.TransGen s.Refers r r := by
  have hbelow : s.Refers ≤ Function.swap s.Below := by
    rintro h t ⟨n, hn, ht⟩
    refine ⟨n, hn, ?_, mem_children_of_target? ht⟩
    rintro holder name content rfl
    cases ht
  intro hback
  obtain ⟨-, ⟨n, hn, -⟩, -⟩ := Relation.TransGen.head'_iff.1 hback
  have hacc : Acc s.Below r := acc_of_resolve ha hn
  exact not_transGen_of_acc hacc (Relation.TransGen.mono hbelow r r hback)

end Schema

/-- Following references from a handle ends with one that stands for itself. It is that of a pattern
which is no reference, or lies on a cycle of references; in the schema of an assembled grammar it is
never that of a reference. -/
theorem deref_settles :
    (∀ s : Schema, s.Closed → ∀ h, s.Addresses h →
      ∃ r n, s.deref h = .ok r ∧ s.deref r = .ok r ∧ Relation.ReflTransGen s.Refers h r ∧
        s.node r = .ok n ∧ (¬ n.isReference ∨ Relation.TransGen s.Refers r r)) ∧
    ∀ (a : Assembled) s, a.resolve = .ok s → ∀ h, s.Addresses h →
      ∃ r n, s.deref h = .ok r ∧ s.node r = .ok n ∧ ¬ n.isReference := by
  refine ⟨fun s hs h hh => ?_, fun a s ha h hh => ?_⟩
  · obtain ⟨r, n, hderef, hway, hn, hend⟩ := Schema.deref_ends hs hh
    refine ⟨r, n, hderef, ?_, hway, Schema.node_eq_ok.2 hn, hend.imp_right ?_⟩
    · rcases hend with hstop | ⟨way, haround⟩
      · exact Schema.derefFrom_stop hn hstop _ _
      · exact haround.deref_eq
    · rintro ⟨way, haround⟩
      exact haround.transGen
  · obtain ⟨r, n, hderef, -, hn, hstop | ⟨way, haround⟩⟩ :=
      Schema.deref_ends (Schema.closed_of_resolve ha) hh
    · exact ⟨r, n, hderef, Schema.node_eq_ok.2 hn, hstop⟩
    · exact absurd haround.transGen (Schema.not_transGen_refers ha r)

namespace Chasing

/-- `0` and `1` lead into the cycle of `2` and `3`, and `4` to a pattern. -/
def chasing : Schema where
  start := 0
  nodes := #[.ref "a" 1, .ref "b" 2, .parentRef "c" 3, .ref "d" 2, .ref "e" 5, .leaf .text]

theorem deref_settles_chasing :
    (chasing.Closed ∧ chasing.Addresses 0 ∧ chasing.deref 0 = .ok 2 ∧ chasing.deref 2 = .ok 2 ∧
      Relation.TransGen chasing.Refers 2 2) ∧
    ∃ schema, Nesting.assembled.resolve = .ok schema ∧ schema.Addresses 0 ∧
      ∃ r n, schema.deref 0 = .ok r ∧ schema.node r = .ok n ∧ ¬ n.isReference := by
  have hclosed : chasing.Closed := by decide
  have hplace : chasing.Addresses 0 := by decide
  have hderef : chasing.deref 0 = .ok 2 := by rfl
  refine ⟨?_, ?_⟩
  · obtain ⟨r, n, hr, hagain, -, hn, hend⟩ := deref_settles.1 chasing hclosed 0 hplace
    cases hderef.symm.trans hr
    cases hn.symm.trans (show chasing.node 2 = .ok (.parentRef "c" 3) by rfl)
    exact ⟨hclosed, hplace, hderef, hagain, hend.resolve_left fun hstop => hstop rfl⟩
  · obtain ⟨schema, hschema, hsize⟩ := Nesting.exists_schema
    have hplace : schema.Addresses 0 := by
      rw [Schema.Addresses, hsize]
      decide
    exact ⟨schema, hschema, hplace, deref_settles.2 _ schema hschema 0 hplace⟩

end Chasing

end RelaxCompact
