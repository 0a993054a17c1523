import RelaxCompact.Proofs.Caching.Requests

/-!
Loading with and without prefetching. Prefetching cannot be noticed, except that it asks for
fragments that assembly may never come to, and passes on a failure of one of them that no refused
schema is the cause of.
-/

namespace RelaxCompact

open Run Fragments

namespace Loader

/-- The schema that a path loads to, or the failure, over new fragments. -/
def load (catalog : Catalog) (settings : Settings) (path : Text) : Except Failure Schema :=
  ended (loadSchema catalog settings path {})

/-- Loading from the root file on. -/
def loadRoot (catalog : Catalog) (settings : Settings) (key : Text) (root : Surface.File) :
    Fetch Schema := do
  resolve (← assembleRoot catalog settings root key)

/-- Loading fetches the root file first. -/
theorem loadSchema_eq (m : Mapping) (settings : Settings) (path : Text) (s : Fragments) :
    loadSchema m.catalog settings path s =
      match fetch m.catalog (Mapping.canonicalize path []) s with
      | .ok root t => loadRoot m.catalog settings (Mapping.canonicalize path []) root t
      | .error e t => .error e t := by
  change EStateM.bind (EStateM.bind (fetch m.catalog (Mapping.canonicalize path [])) _) _ s = _
  unfold EStateM.bind
  cases fetch m.catalog (Mapping.canonicalize path []) s with
  | error e t => rfl
  | ok root t => rfl

theorem resolve_alike {catalog : Catalog} {o o' : Fragments} (a : Assembled) :
    Alike (fun _ => Grown catalog o o') (Grown catalog o o') (Grown catalog o o') (fun _ => True)
      (resolve a) (resolve a) := by
  refine Alike.bind (Alike.liftExcept fun _ _ _ _ => id) fun schema _ => ?_
  exact Alike.bind (report_alike (ne_parseRecord (by decide) _ _)) fun _ _ => Alike.pure trivial

/-- Where prefetching succeeds it makes no difference to what follows. -/
theorem loadRoot_eq (m : Mapping) (settings : Settings) (key : Text) (root : Surface.File)
    {t u : Fragments} (ht : Grows m.catalog {} t) (hu : Grows m.catalog {} u) {count : Nat}
    (hp : prefetch m.catalog (rootKey root (some key)) root settings.maxWorkers t = .ok count u) :
    ended (loadRoot m.catalog { settings with prefetch := true } key root t) =
      ended (loadRoot m.catalog { settings with prefetch := false } key root t) := by
  have hassemble := assemble_alike (.refl m.catalog {}) m.mem_keys_of_outcome m.length_keys_le
    settings.strictOverrides root (some key)
  have hrest := Alike.bind hassemble fun a _ => resolve_alike a
  have hprefetched : assembleRoot m.catalog { settings with prefetch := true } root key t =
      assemble ⟨m.catalog, settings.strictOverrides⟩ root (some key)
        (u.noted ⟨.loading, .debug,
          "Prefetched " ++ Text.ofInt count ++ " fragments for " ++ key⟩) :=
    bind_of_ok hp
  refine Eq.trans (congrArg ended (bind_congr hprefetched)) (hrest.ended_eq ⟨?_, ht⟩)
  exact hu.trans (noted_grows _ u (ne_parseRecord (by decide) _ _))

/-- Assembling the root ends with an assembly from fragments that stand for what they stood for. -/
theorem assembleRoot_ok {m : Mapping} {settings : Settings} {key : Text} {root : Surface.File}
    {s t : Fragments} (hs : Grows m.catalog {} s) {a : Assembled}
    (h : assembleRoot m.catalog settings root key s = .ok a t) :
    ∃ u, Agree m.catalog {} u ∧
      assemble ⟨m.catalog, settings.strictOverrides⟩ root (some key) u = .ok a t := by
  unfold assembleRoot at h
  split at h
  · obtain ⟨count, u, hprefetch, h⟩ := bind_ok h
    obtain ⟨_, v, hreport, h⟩ := bind_ok h
    have halike : Alike (fun _ _ _ => True) (Grown m.catalog {} {}) (Grown m.catalog {} {})
        (fun _ => True) (prefetch m.catalog (rootKey root (some key)) root settings.maxWorkers)
        (prefetch m.catalog (rootKey root (some key)) root settings.maxWorkers) :=
      prefetch_alike (.refl m.catalog {}) m.mem_keys_of_outcome m.length_keys_le
        (fun _ _ _ _ => trivial) fun _ _ _ _ _ => trivial
    obtain ⟨_, -, -, hu⟩ := halike.ok ⟨hs, hs⟩ hprefetch
    exact ⟨v, hu.left.agree.trans (report_agree hreport), h⟩
  · exact ⟨s, hs.agree, h⟩

/-- A schema that is loaded is resolved from the assembly of the file behind its path. -/
theorem load_ok {m : Mapping} {settings : Settings} {path : Text} {schema : Schema}
    (h : load m.catalog settings path = .ok schema) :
    ∃ root s a t, outcome m.catalog {} (Mapping.canonicalize path []) = .ok root ∧
      Agree m.catalog {} s ∧
      assemble ⟨m.catalog, settings.strictOverrides⟩ root (some (Mapping.canonicalize path [])) s =
        .ok a t ∧
      a.resolve = .ok schema := by
  unfold load at h
  rw [loadSchema_eq] at h
  have hstart : Grown m.catalog {} {} {} {} := ⟨.refl _ _, .refl _ _⟩
  generalize Mapping.canonicalize path [] = key at h ⊢
  cases hfetch : fetch m.catalog key {} with
  | error e s =>
    rw [hfetch] at h
    cases h
  | ok root s =>
    obtain ⟨_, -, hroot, hs⟩ :=
      (fetch_alike (E := fun _ _ _ => True) (.refl _ _) fun _ _ _ _ _ => trivial).ok hstart hfetch
    rw [hfetch] at h
    dsimp only at h
    cases hrest : loadRoot m.catalog settings key root s with
    | error e t =>
      rw [hrest] at h
      cases h
    | ok schema' t =>
      rw [hrest] at h
      cases h
      obtain ⟨a, u, hassemble, hresolve⟩ := bind_ok hrest
      obtain ⟨v, hv, hassemble⟩ := assembleRoot_ok hs.left hassemble
      obtain ⟨_, w, hlift, hreport⟩ := bind_ok hresolve
      obtain ⟨hresolve, rfl⟩ := liftExcept_ok hlift
      obtain ⟨_, _, -, hpure⟩ := bind_ok hreport
      obtain ⟨rfl, -⟩ := pure_ok hpure
      exact ⟨root, v, a, _, hroot, hv, hassemble, hresolve⟩

end Loader

/-- With at least one worker a path loads to the same with prefetching and without, unless a
fragment that is requested on the way from the root fails and no refused schema is the cause; then
loading may end with that failure. -/
theorem load_prefetching (m : Mapping) (settings : Settings) (path : Text)
    (hworkers : 1 ≤ settings.maxWorkers) :
    Loader.load m.catalog { settings with prefetch := true } path =
        Loader.load m.catalog { settings with prefetch := false } path ∨
      ∃ root key e, outcome m.catalog {} (Mapping.canonicalize path []) = .ok root ∧
        Requested m.catalog {} (rootKey root (some (Mapping.canonicalize path []))) root key ∧
        outcome m.catalog {} key = .error e ∧ e.schemaError? = none ∧
        Loader.load m.catalog { settings with prefetch := true } path = .error e := by
  let E (key : Text) (root : Surface.File) (e : Failure) (s u : Fragments) : Prop :=
    Grown m.catalog {} {} s u ∧ Breaks m.catalog {} key root e
  unfold Loader.load
  rw [Loader.loadSchema_eq, Loader.loadSchema_eq]
  generalize Mapping.canonicalize path [] = key
  have hstart : Grown m.catalog {} {} {} {} := ⟨.refl _ _, .refl _ _⟩
  cases hf : fetch m.catalog key {} with
  | error e t => exact .inl rfl
  | ok root t =>
    obtain ⟨_, -, hroot, ht⟩ := (fetch_alike (.refl _ _) fun _ _ _ _ => id).ok hstart hf
    have hprefetch := prefetch_alike (.refl m.catalog {}) m.mem_keys_of_outcome m.length_keys_le
      (fun hfew => absurd hfew (Int.not_lt.2 hworkers)) fun e he s u hg =>
        (⟨hg, he⟩ : E (rootKey root (some key)) root e s u)
    dsimp only
    cases hp : prefetch m.catalog (rootKey root (some key)) root settings.maxWorkers t with
    | ok count u =>
      obtain ⟨_, -, -, hu⟩ := hprefetch.ok ⟨ht.left, ht.left⟩ hp
      exact .inl (Loader.loadRoot_eq m settings key root ht.left hu.left hp)
    | error e u =>
      obtain ⟨_, -, -, hbreaks⟩ := hprefetch.error ⟨ht.left, ht.left⟩ hp
      rcases hbreaks with ⟨href, base, hcanonical⟩ | ⟨key', hrequested, hkey, hcause⟩
      · cases hcanonical
      · refine .inr ⟨root, key', e, hroot, hrequested, hkey, hcause, ?_⟩
        exact congrArg ended (bind_of_error (bind_of_error hp))

namespace Overridden

/-! A fragment that only an overridden definition refers to, with an escape beyond 32 bits. -/

def source (s : String) : Source := .text s

def mapping : Mapping := Mapping.ofList
  [("main.rnc", source "include \"a.rnc\" \x7b x = text \x7d start = x"),
    ("a.rnc", source "x = external \"bad.rnc\""),
    ("bad.rnc", source "start = \"\\x\x7bFFFFFFFFF\x7d\"")]

/-- Prefetching comes to the fragment, and assembly does not. -/
theorem failures :
    Run.failure? (Loader.load mapping.catalog { prefetch := true } "main.rnc") =
        some .escapeOverflow ∧
      Run.failure? (Loader.load mapping.catalog { prefetch := false } "main.rnc") = none := by
  decide +kernel

theorem load_ne : Loader.load mapping.catalog { prefetch := true } "main.rnc" ≠
    Loader.load mapping.catalog { prefetch := false } "main.rnc" := by
  intro he
  obtain ⟨hfirst, hsecond⟩ := failures
  rw [he] at hfirst
  cases hfirst.symm.trans hsecond

/-- The load fails as the fragment does. -/
theorem load_prefetching_overridden :
    ∃ root key e,
      outcome mapping.catalog {} (Mapping.canonicalize "main.rnc" []) = .ok root ∧
      Requested mapping.catalog {} (rootKey root (some (Mapping.canonicalize "main.rnc" []))) root
        key ∧
      outcome mapping.catalog {} key = .error e ∧ e.schemaError? = none ∧
      Loader.load mapping.catalog { prefetch := true } "main.rnc" = .error e :=
  (load_prefetching mapping {} "main.rnc" (by decide)).resolve_left load_ne

/-- So prefetching is not without effect. -/
theorem load_prefetching_differs :
    ¬ ∀ (m : Mapping) (settings : Settings) (path : Text), 1 ≤ settings.maxWorkers →
      Loader.load m.catalog { settings with prefetch := true } path =
        Loader.load m.catalog { settings with prefetch := false } path :=
  fun h => load_ne (h mapping {} "main.rnc" (by decide))

end Overridden

end RelaxCompact
