import RelaxCompact.Loader
import RelaxCompact.Proofs.Caching.Covering

/-!
What lasts while fragments are fetched. All that prefetching and assembly do to the fragments is to
note records and to try keys, those that hrefs lead to and never that of the root. So whatever these
two preserve holds afterwards if it held before, however a run ends.
-/

namespace RelaxCompact

namespace Fragments

open Run Surface

/-- A property of the fragments that is kept when a record is noted that reports no hit, and when a
wanted key is tried. -/
structure Lasting (catalog : Catalog) (wanted : Text → Prop) (I : Fragments → Prop) : Prop where
  noted : ∀ s r, (∀ key, r ≠ hitRecord key) → I s → I (s.noted r)
  attempt : ∀ key, wanted key → Maintains I (attempt catalog key)

/-- An href leads to a key, and this is not the one of the root. -/
def Foreign (catalog : Catalog) (top key : Text) : Prop :=
  key ≠ top ∧ ∃ href base, catalog.canonicalize href base = .ok key

/-! Records that report no hit -/

theorem hitRecord_injective {key key' : Text} (h : hitRecord key = hitRecord key') : key = key' :=
  List.append_cancel_left (congrArg Record.message h)

theorem ne_hitRecord {reporter : Reporter} (h : reporter ≠ .fragments) (severity : Severity)
    (message key : Text) : (⟨reporter, severity, message⟩ : Record) ≠ hitRecord key :=
  fun he => h (congrArg Record.reporter he)

theorem failed_ne_hitRecord (key message key' : Text) :
    (⟨.fragments, .debug, "Prefetch of " ++ key ++ " failed: " ++ message⟩ : Record) ≠
      hitRecord key' := by
  intro h
  have hmessage := congrArg Record.message h
  simp only [hitRecord, List.append_assoc] at hmessage
  exact append_ne_of_take 1 (by decide +kernel) (by decide +kernel) (by decide +kernel) _ _ hmessage

section

variable {catalog : Catalog} {o : Fragments} {top : Text} {root : File}
  {wanted wanted' : Text → Prop} {I : Fragments → Prop}

theorem Needed.foreign {key : Text} (h : Needed catalog o top root key) :
    Foreign catalog top key := by
  cases h with
  | root _ hkey hne => exact ⟨hne, _, _, hkey⟩
  | fragment _ _ _ hkey hne => exact ⟨hne, _, _, hkey⟩

/-- What comes of a key of which nothing is known is kept, and no more is reported than that its
source is parsed. -/
theorem attempt_of_unknown {s : Fragments} {key : Text} (h : s.entries.get? key = none)
    (catalog : Catalog) :
    ∃ t records, attempt catalog key s = .ok (outcome catalog s key) t ∧
      t.entries = s.entries.insert key (outcome catalog s key) ∧
      t.journal = s.journal ++ records ∧ ∀ r ∈ records, r = parseRecord key := by
  have houtcome : outcome catalog s key =
      catalog.read key >>= fun source => source.parse key := by
    rw [outcome, h]
  rw [houtcome]
  unfold attempt fetch
  rw [h, load_eq]
  cases catalog.read key with
  | error e =>
    exact ⟨_, [], rfl, rfl, (List.append_nil _).symm, fun r hr => absurd hr List.not_mem_nil⟩
  | ok source =>
    change ∃ (t : Fragments) (records : Journal), _ = EStateM.Result.ok (source.parse key) t ∧
      t.entries = s.entries.insert key (source.parse key) ∧ _
    have hreported : ∀ r ∈ [parseRecord key], r = parseRecord key :=
      fun r => List.mem_singleton.1
    cases hp : source.parse key with
    | error e =>
      simp only [hp]
      exact ⟨_, _, rfl, rfl, rfl, hreported⟩
    | ok file =>
      simp only [hp]
      exact ⟨_, _, rfl, rfl, rfl, hreported⟩

namespace Lasting

theorem mono (h : Lasting catalog wanted I) (hwanted : ∀ key, wanted' key → wanted key) :
    Lasting catalog wanted' I where
  noted := h.noted
  attempt key hkey := h.attempt key (hwanted key hkey)

theorem report (h : Lasting catalog wanted I) {reporter : Reporter} {severity : Severity}
    {message : Text} (hr : ∀ key, (⟨reporter, severity, message⟩ : Record) ≠ hitRecord key) :
    Maintains I (report reporter severity message) :=
  fun s hs => h.noted s _ hr hs

theorem fetch (h : Lasting catalog wanted I) {key : Text} (hkey : wanted key) :
    Maintains I (fetch catalog key) := by
  rw [fetch_eq]
  apply (h.attempt key hkey).bind
  intro result
  exact .liftExcept result

/-! Prefetching -/

theorem harvest (h : Lasting catalog wanted I) (results : List (Text × Except Failure File)) :
    Maintains I (harvest results) := by
  induction results with
  | nil => exact .pure []
  | cons first results ih =>
    obtain ⟨key, result⟩ := first
    cases result with
    | ok file => exact ih.bind fun next => .pure _
    | error e =>
      cases e with
      | schema e => exact (h.report (failed_ne_hitRecord key _)).bind fun _ => ih
      | _ => exact .throw _

/-- A key that counts as seen is requested in no round. -/
theorem rounds (h : Lasting catalog (Foreign catalog top) I) (budget : Nat) {seen : List Text}
    (hseen : top ∈ seen) (frontier : List (Text × File)) :
    Maintains I (rounds catalog budget seen frontier) := by
  induction budget generalizing seen frontier with
  | zero =>
    cases frontier with
    | nil => exact .pure 0
    | cons entry frontier => exact .throw _
  | succ budget ih =>
    cases frontier with
    | nil => exact .pure 0
    | cons entry frontier =>
      simp only [Fragments.rounds]
      apply Maintains.lifted
      intro keys hkeys
      have hfresh (key : Text) (hm : key ∈ (freshKeys seen keys.flatten).1) :
          Foreign catalog top key := by
        obtain ⟨hm, hnew⟩ := mem_freshKeys hm
        obtain ⟨ks, hks, hm⟩ := List.mem_flatten.1 hm
        obtain ⟨entry', -, hks⟩ := mem_of_mapM_ok hkeys hks
        obtain ⟨href, -, hkey⟩ := mem_of_mapM_ok hks hm
        exact ⟨fun he => hnew (he ▸ hseen), href, entry'.1, hkey⟩
      have hattempts := Maintains.mapM (f := Fragments.attempt catalog) fun key hm =>
        h.attempt key (hfresh key hm)
      apply hattempts.bind
      intro results
      apply (h.harvest _).bind
      intro next
      have hall : top ∈ (freshKeys seen keys.flatten).2 := by
        rw [freshKeys_eq]
        exact List.mem_append_left _ hseen
      exact (ih hall next).bind fun _ => .pure _

theorem prefetch (h : Lasting catalog (Foreign catalog top) I) (root : File) (workers : Int) :
    Maintains I (prefetch catalog top root workers) := by
  have hrounds : Maintains I
      (do
        let known := (← get).entries.size
        Fragments.rounds catalog (catalog.size + known + 1) [top] [(top, root)]) :=
    .get fun s => h.rounds _ List.mem_cons_self _
  exact .ite ((Maintains.throw _).bind fun _ => hrounds) hrounds

/-! Assembly -/

/-- Two runs that are one, over which a property lasts. -/
theorem pairing (h : Lasting catalog (Foreign catalog top) I) (o : Fragments) (root : File) :
    Expand.Pairing catalog catalog o top root fun s u => u = s ∧ Grows catalog o s ∧ I s where
  canonicalize := rfl
  report message := .modify fun s u ⟨he, hs, hI⟩ =>
    ⟨by rw [he], hs.trans (noted_grows catalog s (ne_parseRecord (by decide) _ _)),
      h.noted s _ (ne_hitRecord (by decide) _ _) hI⟩
  attempt key hneeded := by
    rintro s u ⟨rfl, hs, hI⟩
    obtain ⟨t, ht, hgrows⟩ := attempt_eq catalog key u
    have hkept : I (left (Fragments.attempt catalog key u)) :=
      h.attempt key hneeded.foreign u hI
    rw [ht] at hkept ⊢
    exact ⟨rfl, hs.agree key, rfl, hs.trans hgrows, hkept⟩

variable {m : Mapping} {key : Option Text}

theorem assemble (h : Lasting m.catalog (Foreign m.catalog (rootKey root key)) I)
    (strict : Bool) : Maintains I (assemble ⟨m.catalog, strict⟩ root key) := by
  intro s hs
  have htwin := assemble_twin (h.pairing s root) (fun _ _ => m.mem_of_outcome) strict
  have hsize := m.length_append_keys_le s
  have hstart : s = s ∧ Grows m.catalog s s ∧ I s := ⟨rfl, .refl _ _, hs⟩
  cases hx : RelaxCompact.assemble ⟨m.catalog, strict⟩ root key s with
  | ok a t => exact (htwin.ok ⟨hstart, hsize, hsize⟩ hx).choose_spec.2.2.2.2
  | error e t => exact (htwin.error ⟨hstart, hsize, hsize⟩ hx).choose_spec.2.2.2

theorem assembleRoot {key : Text}
    (h : Lasting m.catalog (Foreign m.catalog (rootKey root (some key))) I) (settings : Settings) :
    Maintains I (Loader.assembleRoot m.catalog settings root key) := by
  have hassemble := h.assemble settings.strictOverrides
  apply Maintains.ite _ hassemble
  apply (h.prefetch root settings.maxWorkers).bind
  intro count
  exact (h.report (ne_hitRecord (by decide) _ _)).bind fun _ => hassemble

end Lasting

end

end Fragments

end RelaxCompact
