import RelaxCompact.Proofs.Assembly.Causes
import RelaxCompact.Proofs.Assembly.Cycles
import RelaxCompact.Proofs.Caching.Loading
import RelaxCompact.Proofs.Parsing.Overflowing
import RelaxCompact.Proofs.Resolution.Forest

/-!
What loading ends with, over sources that are held in memory: with a schema, with an error of the
schema language, or with an escape beyond 32 bits in one of the sources. Nothing else can happen.
-/

namespace RelaxCompact

open Run Fragments

/-- The codes that refused schemas are reported with. -/
def SchemaError.codes : List Text :=
  ["LEX_ERROR", "PARSE_ERROR", "INCLUDE_ERROR", "DEFINE_CONFLICT", "UNDEFINED_REFERENCE",
    "CYCLE_ERROR", "UNDECLARED_PREFIX"]

/-- Every refused schema is reported with the code of its category, and none is of the general
one. -/
theorem SchemaError.code_mem (e : SchemaError) : e.diagnostic.code ∈ codes := by
  cases e <;> simp [diagnostic, codes, Diagnostic.atSpan, Category.code]

/-- Resolution fails for an error of the schema language only. -/
theorem resolve_fails {a : Assembled} {e : Failure} (h : a.resolve = .error e) :
    ∃ cause, e = .schema cause := by
  cases hw : Resolve.writeAll a {} with
  | error e' t =>
    obtain ⟨cause, _, rfl, -⟩ := Resolve.writeAll_failsOnly a _ _ _ hw
    unfold Assembled.resolve at h
    rw [hw] at h
    cases h
    exact ⟨cause, rfl⟩
  | ok start arena =>
    have hne := resolve_ne_exhausted a
    unfold Assembled.resolve at h hne
    rw [hw] at h hne
    dsimp only at h hne
    split at h
    next hnodes =>
      rw [hnodes] at hne
      exact absurd rfl hne
    next =>
      split at h
      next =>
        cases h
        exact ⟨_, rfl⟩
      next => cases h

namespace Mapping

/-- No text among the sources holds a surrogate. -/
def WithoutSurrogates (m : Mapping) : Prop :=
  ∀ key source, m.sources.get? key = some source → ¬ source.HoldsSurrogate

/-- One of the sources holds an escape beyond 32 bits. -/
def Overflowing (m : Mapping) : Prop :=
  ∃ key source, m.sources.get? key = some source ∧ source.Overflowing

/-- The schema is refused, or a source overflows. -/
def Admits (m : Mapping) (e : Failure) : Prop :=
  (∃ cause, e = .schema cause) ∨ e = .escapeOverflow ∧ m.Overflowing

variable {m : Mapping}

theorem admits_of_outcome (hm : m.WithoutSurrogates) {key : Text} {e : Failure}
    (h : outcome m.catalog {} key = .error e) : m.Admits e := by
  change (m.read key >>= fun source => source.parse key) = .error e at h
  unfold Mapping.read at h
  cases hs : m.sources.get? key with
  | none =>
    rw [hs] at h
    cases h
    exact .inl ⟨_, rfl⟩
  | some source =>
    rw [hs] at h
    rcases Source.fails_of_parse h with hcause | ⟨he, hover⟩ | ⟨-, hsurrogate⟩
    · exact .inl hcause
    · exact .inr ⟨he, key, source, hs, hover⟩
    · exact absurd hsurrogate (hm key source hs)

/-- Assembly fails for nothing else, whatever is known already. -/
theorem admits_of_assemble (hm : m.WithoutSurrogates) {strict : Bool} {root : Surface.File}
    {key : Option Text} {s t : Fragments} (hs : Agree m.catalog {} s) {e : Failure}
    (h : assemble ⟨m.catalog, strict⟩ root key s = .error e t) : m.Admits e := by
  have hterminates := m.assemble_not_exhausted strict root key hs
  cases assemble_cause h with
  | refused cause => exact .inl ⟨cause, rfl⟩
  | fragment hout => exact admits_of_outcome hm ((hs _).symm.trans hout)
  | href hkey => cases hkey
  | exhausted => exact absurd ⟨t, h⟩ hterminates

/-- Prefetching with a worker fails for nothing else, and leaves every outcome as it is. -/
theorem prefetch_ends (hm : m.WithoutSurrogates) {settings : Settings}
    (hworkers : 1 ≤ settings.maxWorkers) {root : Surface.File} {key : Text} {s : Fragments}
    (hs : Grows m.catalog {} s) :
    match prefetch m.catalog key root settings.maxWorkers s with
    | .ok _ t => Grows m.catalog {} t
    | .error e _ => m.Admits e := by
  have hprefetch : Alike (fun e _ _ => m.Admits e) (Grown m.catalog {} {}) (Grown m.catalog {} {})
      (fun _ => True) (prefetch m.catalog key root settings.maxWorkers)
      (prefetch m.catalog key root settings.maxWorkers) :=
    prefetch_alike (.refl m.catalog {}) m.mem_keys_of_outcome m.length_keys_le
      (fun hfew => absurd hfew (Int.not_lt.2 hworkers)) fun e he s u _ => ?admits
  case admits =>
    rcases he with ⟨href, base, hkey⟩ | ⟨key', -, hout, -⟩
    · cases hkey
    · exact admits_of_outcome hm hout
  split
  next hok => exact (hprefetch.ok ⟨hs, hs⟩ hok).choose_spec.2.2.left
  next herror => exact (hprefetch.error ⟨hs, hs⟩ herror).choose_spec.2

theorem admits_of_assembleRoot (hm : m.WithoutSurrogates) {settings : Settings}
    (hworkers : 1 ≤ settings.maxWorkers) {root : Surface.File} {key : Text} {s : Fragments}
    (hs : Grows m.catalog {} s) {e : Failure}
    (h : Fails (Loader.assembleRoot m.catalog settings root key) s e) : m.Admits e := by
  unfold Loader.assembleRoot at h
  split at h
  · have hends := @prefetch_ends _ hm settings hworkers root (rootKey root (some key)) s hs
    rcases fails_bind.1 h with ⟨t, hprefetch⟩ | ⟨count, t, hprefetch, h⟩
    · rw [hprefetch] at hends
      exact hends
    · rw [hprefetch] at hends
      rcases fails_bind.1 h with ⟨_, hreport⟩ | ⟨_, u, hreport, v, h⟩
      · cases hreport
      · exact admits_of_assemble hm (hends.agree.trans (report_agree hreport)) h
  · obtain ⟨t, h⟩ := h
    exact admits_of_assemble hm hs.agree h

/-- Loading fails for nothing else. -/
theorem admits_of_load (hm : m.WithoutSurrogates) {settings : Settings}
    (hworkers : 1 ≤ settings.maxWorkers) {path : Text} {e : Failure}
    (h : Loader.load m.catalog settings path = .error e) : m.Admits e := by
  have hfetch : Alike (fun e _ _ => m.Admits e) (Grown m.catalog {} {}) (Grown m.catalog {} {})
      (fun file => outcome m.catalog {} (canonicalize path []) = .ok file)
      (Fragments.fetch m.catalog (canonicalize path []))
      (Fragments.fetch m.catalog (canonicalize path [])) :=
    fetch_alike (.refl m.catalog {}) fun e he _ _ _ => admits_of_outcome hm he
  have hstart : Grown m.catalog {} {} {} {} := ⟨.refl _ _, .refl _ _⟩
  rcases fails_bind.1 (fails_of_ended h) with hgrammar | ⟨a, t, -, hresolve⟩
  · rcases fails_bind.1 hgrammar with ⟨_, hkey⟩ | ⟨key, t, hkey, hgrammar⟩
    · cases hkey
    cases hkey
    rcases fails_bind.1 hgrammar with ⟨u, hroot⟩ | ⟨root, u, hroot, hassemble⟩
    · obtain ⟨_, -, hadmits⟩ := hfetch.error hstart hroot
      exact hadmits
    · obtain ⟨_, -, -, hgrown⟩ := hfetch.ok hstart hroot
      exact admits_of_assembleRoot hm hworkers hgrown.left hassemble
  · rcases fails_bind.1 hresolve with ⟨u, hlift⟩ | ⟨schema, u, -, hreport⟩
    · have honly : FailsOnly (fun e => ∃ cause, e = .schema cause)
          (liftExcept a.resolve : Fetch Schema) := .liftExcept fun _ => resolve_fails
      exact .inl (honly t e u hlift)
    · rcases fails_bind.1 hreport with ⟨_, hreport⟩ | ⟨_, _, -, hpure⟩
      · cases hreport
      · exact (fails_pure hpure).elim

end Mapping

/-- With at least one worker, and no surrogates in texts, a path loads to a schema, or the schema is
refused with an error of a class of its own, or loading stops at an escape beyond 32 bits that one
of the sources holds. -/
theorem load_ends (m : Mapping) (hm : m.WithoutSurrogates) (settings : Settings)
    (hworkers : 1 ≤ settings.maxWorkers) (path : Text) :
    (∃ schema, Loader.load m.catalog settings path = .ok schema) ∨
      (∃ e, Loader.load m.catalog settings path = .error (.schema e) ∧
        e.diagnostic.code ∈ SchemaError.codes) ∨
      Loader.load m.catalog settings path = .error .escapeOverflow ∧ m.Overflowing := by
  cases hload : Loader.load m.catalog settings path with
  | ok schema => exact .inl ⟨schema, rfl⟩
  | error e =>
    rcases Mapping.admits_of_load hm hworkers hload with ⟨cause, rfl⟩ | ⟨rfl, hover⟩
    · exact .inr (.inl ⟨cause, rfl, cause.code_mem⟩)
    · exact .inr (.inr ⟨rfl, hover⟩)

namespace Oversized

/-! A literal with an escape beyond 32 bits. -/

def mapping : Mapping :=
  Mapping.ofList [("main.rnc", .text "start = \"\\x\x7bFFFFFFFFF\x7d\"")]

theorem withoutSurrogates : mapping.WithoutSurrogates := by
  have hall : ∀ entry ∈ mapping.sources.entries, ¬ entry.2.HoldsSurrogate := by decide
  exact fun key source h => hall _ (Table.mem_of_lookup h)

theorem load_eq : Loader.load mapping.catalog {} "main.rnc" = .error .escapeOverflow :=
  Run.eq_error_of_failure? (by decide +kernel)

/-- Loading stops at the escape. -/
theorem load_ends_oversized :
    Loader.load mapping.catalog {} "main.rnc" = .error .escapeOverflow ∧ mapping.Overflowing := by
  rcases load_ends mapping withoutSurrogates {} (by decide) "main.rnc" with
    ⟨schema, h⟩ | ⟨e, h, -⟩ | h
  · cases load_eq.symm.trans h
  · cases load_eq.symm.trans h
  · exact h

/-- So loading can end with neither a schema nor the refusal of one. -/
theorem load_ends_otherwise :
    ¬ ∀ (m : Mapping) (settings : Settings) (path : Text), m.WithoutSurrogates →
      1 ≤ settings.maxWorkers →
      (∃ schema, Loader.load m.catalog settings path = .ok schema) ∨
        ∃ e, Loader.load m.catalog settings path = .error (.schema e) := by
  intro hall
  rcases hall mapping {} "main.rnc" withoutSurrogates (by decide) with ⟨schema, h⟩ | ⟨e, h⟩
  · cases load_eq.symm.trans h
  · cases load_eq.symm.trans h

end Oversized

end RelaxCompact
