import RelaxCompact.Proofs.Caching.Assembling
import RelaxCompact.Proofs.Table

/-!
Prefetching is enough for assembly. It requests just the keys that the root needs, and an assembly
after it finds all that it asks for.
-/

namespace RelaxCompact

namespace Fragments

open Run Surface

theorem mem_or_mem_freshKeys (seen : List Text) {keys : List Text} {key : Text} (h : key ∈ keys) :
    key ∈ seen ∨ key ∈ (freshKeys seen keys).1 := by
  induction keys generalizing seen with
  | nil => cases h
  | cons first keys ih =>
    rw [freshKeys]
    split
    next hfirst =>
      rcases List.mem_cons.1 h with rfl | h
      · exact .inl hfirst
      · exact ih seen h
    next =>
      rcases List.mem_cons.1 h with rfl | h
      · exact .inr List.mem_cons_self
      · rcases ih (seen ++ [first]) h with hm | hm
        · rcases List.mem_append.1 hm with hm | hm
          · exact .inl hm
          · cases List.mem_singleton.1 hm
            exact .inr List.mem_cons_self
        · exact .inr (List.mem_cons_of_mem _ hm)

theorem nodup_freshKeys {seen : List Text} (h : seen.Nodup) (keys : List Text) :
    (seen ++ (freshKeys seen keys).1).Nodup := by
  rw [← freshKeys_eq]
  induction keys generalizing seen with
  | nil => exact h
  | cons first keys ih =>
    rw [freshKeys]
    split
    · exact ih h
    next hfirst =>
      refine ih (List.nodup_append.2 ⟨h, by simp, fun a ha b hb he => ?_⟩)
      rw [List.mem_singleton.1 hb] at he
      exact hfirst (he ▸ ha)

/-- What comes of a key is kept. -/
theorem get?_of_attempt {catalog : Catalog} {key : Text} {s t : Fragments}
    {result : Except Failure File} (h : attempt catalog key s = .ok result t) :
    t.entries.get? key = some result := by
  unfold attempt fetch at h
  cases hk : s.entries.get? key with
  | some kept =>
    rw [hk] at h
    cases kept <;> cases h <;> exact hk
  | none =>
    rw [hk] at h
    dsimp only at h
    cases hl : load catalog key s with
    | ok file u =>
      rw [hl] at h
      cases h
      exact get?_keep_self u key _
    | error e u =>
      rw [hl] at h
      cases h
      exact get?_keep_self u key _

section

variable {catalog : Catalog} {o s t : Fragments} {top : Text} {root : File}

/-- The file behind a key in an assembly of `root` under the key `top`. -/
def Behind (catalog : Catalog) (s : Fragments) (top : Text) (root : File) (key : Text)
    (file : File) : Prop :=
  if key = top then file = root else outcome catalog s key = .ok file

theorem behind_top : Behind catalog s top root top root := by
  rw [Behind, if_pos rfl]

theorem Needed.ne {key : Text} (h : Needed catalog o top root key) : key ≠ top := by
  cases h <;> assumption

/-- The hrefs of the root and of files that it needs lead to keys that it needs. -/
theorem Needed.of_behind {base href key : Text} {file : File}
    (hbase : base ≠ top → Needed catalog o top root base)
    (hfile : Behind catalog o top root base file)
    (hhref : href ∈ file.hrefs) (hkey : catalog.canonicalize href base = .ok key)
    (hne : key ≠ top) : Needed catalog o top root key := by
  unfold Behind at hfile
  split at hfile
  next he =>
    subst he hfile
    exact .root hhref hkey hne
  next hb => exact .fragment (hbase hb) hfile hhref hkey hne

/-- What the root needs depends on the outcomes of keys only. -/
theorem Needed.congr (h : Agree catalog s t) {key : Text} :
    Needed catalog t top root key ↔ Needed catalog s top root key := by
  constructor
  · intro hn
    induction hn with
    | root hm hk hne => exact .root hm hk hne
    | fragment _ ho hm hk hne ih => exact .fragment ih ((h _).symm.trans ho) hm hk hne
  · intro hn
    induction hn with
    | root hm hk hne => exact .root hm hk hne
    | fragment _ ho hm hk hne ih => exact .fragment ih ((h _).trans ho) hm hk hne

/-! Prefetching -/

/-- Trying keys one after the other gives their outcomes, and keeps them. -/
theorem mapM_attempt_ok {keys : List Text} {results : List (Except Failure File)}
    (hs : Agree catalog o s) (h : keys.mapM (attempt catalog) s = .ok results t) :
    results = keys.map (outcome catalog o) ∧ Grows catalog s t ∧
      ∀ key ∈ keys, t.entries.get? key = some (outcome catalog o key) := by
  induction keys generalizing s results with
  | nil =>
    obtain ⟨rfl, rfl⟩ := pure_ok h
    exact ⟨rfl, .refl _ _, nofun⟩
  | cons key keys ih =>
    rw [List.mapM_cons] at h
    obtain ⟨result, u, hfirst, h₁⟩ := bind_ok h
    obtain ⟨more, v, hrest, h₂⟩ := bind_ok h₁
    obtain ⟨rfl, rfl⟩ := pure_ok h₂
    have hresult : result = outcome catalog o key := (attempt_ok hfirst).1.trans (hs key)
    have hsu := grows_of_attempt hfirst
    obtain ⟨hmore, hut, hkept⟩ := ih (hs.trans hsu.agree) hrest
    refine ⟨by rw [hresult, hmore, List.map_cons], hsu.trans hut, fun key' hm => ?_⟩
    rcases List.mem_cons.1 hm with rfl | hm
    · rw [← hresult]
      exact hut.kept _ _ (get?_of_attempt hfirst)
    · exact hkept key' hm

variable (catalog) in
/-- Where results do not end the run, all files among them are taken. -/
theorem harvest_ok {results : List (Text × Except Failure File)} {next : List (Text × File)}
    (h : harvest results s = .ok next t) :
    (∀ entry, entry ∈ next ↔ (entry.1, .ok entry.2) ∈ results) ∧ Grows catalog s t := by
  induction results generalizing s next with
  | nil =>
    obtain ⟨rfl, rfl⟩ := pure_ok h
    exact ⟨fun entry => ⟨nofun, nofun⟩, .refl _ _⟩
  | cons first results ih =>
    obtain ⟨key, result⟩ := first
    cases result with
    | ok file =>
      obtain ⟨rest, u, hrest, h₁⟩ := bind_ok h
      obtain ⟨rfl, rfl⟩ := pure_ok h₁
      obtain ⟨hmem, hgrows⟩ := ih hrest
      refine ⟨fun entry => ?_, hgrows⟩
      simp only [List.mem_cons, hmem, Except.ok.injEq, Prod.ext_iff]
    | error e =>
      cases e with
      | schema e =>
        obtain ⟨_, u, hreport, h₁⟩ := bind_ok h
        cases hreport
        obtain ⟨hmem, hgrows⟩ := ih h₁
        refine ⟨fun entry => ?_, .trans (noted_grows _ _ (failed_ne_parseRecord key _)) hgrows⟩
        rw [hmem, List.mem_cons, Prod.mk.injEq]
        simp only [reduceCtorEq, and_false, false_or]
      | _ => exact (not_throw_ok h).elim

/-- Where prefetching has come before a round: which keys were requested, each once, and of which
files the hrefs are still to be looked at. -/
structure Round (catalog : Catalog) (o : Fragments) (top : Text) (root : File) (seen : List Text)
    (frontier : List (Text × File)) : Prop where
  top_mem : top ∈ seen
  nodup : seen.Nodup
  needed : ∀ key ∈ seen, key ≠ top → Needed catalog o top root key
  opened : ∀ entry ∈ frontier, entry.1 ∈ seen ∧ Behind catalog o top root entry.1 entry.2
  closed : ∀ key ∈ seen, ∀ file, Behind catalog o top root key file →
    (key, file) ∈ frontier ∨
      ∀ href ∈ file.hrefs, ∀ key', catalog.canonicalize href key = .ok key' → key' ∈ seen

/-- A round looks at the files of its frontier, and leaves those that it finds. -/
theorem Round.next {seen : List Text} {frontier next : List (Text × File)}
    (h : Round catalog o top root seen frontier) {found : List (List Text)}
    (hfound : (frontier.mapM fun entry => keysOf catalog entry.1 entry.2) = .ok found)
    {fresh : List Text} (hfresh : fresh = (freshKeys seen found.flatten).1)
    (hnext : ∀ entry, entry ∈ next ↔
      (entry.1, .ok entry.2) ∈ fresh.zip (fresh.map (outcome catalog o))) :
    Round catalog o top root (seen ++ fresh) next := by
  have hnew {key : Text} (hm : key ∈ fresh) : key ∈ found.flatten ∧ key ∉ seen := by
    rw [hfresh] at hm
    exact mem_freshKeys hm
  have hbehind {key : Text} {file : File} (hm : key ∈ fresh) :
      Behind catalog o top root key file ↔ outcome catalog o key = .ok file := by
    have hne : key ≠ top := fun he => (hnew hm).2 (he ▸ h.top_mem)
    rw [Behind, if_neg hne]
  have hmem {key : Text} {file : File} :
      (key, file) ∈ next ↔ key ∈ fresh ∧ outcome catalog o key = .ok file := by
    rw [hnext]
    constructor
    · exact of_mem_zip_map
    · rintro ⟨hm, hout⟩
      rw [← List.map_prod_left_eq_zip]
      exact List.mem_map.2 ⟨key, hm, by rw [hout]⟩
  refine ⟨List.mem_append_left _ h.top_mem, ?nodup, fun key hm hne => ?needed,
    fun entry hm => ?opened, fun key hm file hfile => ?closed⟩
  case nodup =>
    rw [hfresh]
    exact nodup_freshKeys h.nodup _
  case needed =>
    rcases List.mem_append.1 hm with hm | hm
    · exact h.needed key hm hne
    · obtain ⟨ks, hks, hk⟩ := List.mem_flatten.1 (hnew hm).1
      obtain ⟨entry, hentry, hkeys⟩ := mem_of_mapM_ok hfound hks
      obtain ⟨href, hhref, hkey⟩ := mem_of_mapM_ok hkeys hk
      obtain ⟨hseen, hfile⟩ := h.opened entry hentry
      exact .of_behind (h.needed entry.1 hseen) hfile hhref hkey hne
  case opened =>
    obtain ⟨hm, hout⟩ := hmem.1 hm
    exact ⟨List.mem_append_right _ hm, (hbehind hm).2 hout⟩
  case closed =>
    rcases List.mem_append.1 hm with hm | hm
    · refine .inr fun href hhref key' hkey' => ?_
      rcases h.closed key hm file hfile with hentry | hclosed
      · obtain ⟨ks, hks, hkeys⟩ := exists_of_mapM_ok hfound hentry
        obtain ⟨k, hk, hcanonical⟩ := exists_of_mapM_ok hkeys hhref
        cases hcanonical.symm.trans hkey'
        have hflat := List.mem_flatten.2 ⟨ks, hks, hk⟩
        rw [hfresh]
        exact List.mem_append.2 (mem_or_mem_freshKeys seen hflat)
      · exact List.mem_append_left _ (hclosed href hhref key' hkey')
    · exact .inl (hmem.2 ⟨hm, (hbehind hm).1 hfile⟩)

/-- The rounds from a frontier on request the keys that are left, and keep what they come to. -/
theorem rounds_ok {b : Nat} {seen : List Text} {frontier : List (Text × File)} {count : Nat}
    (hround : Round catalog o top root seen frontier) (hs : Agree catalog o s)
    (h : rounds catalog b seen frontier s = .ok count t) :
    ∃ fresh : List Text, fresh.length = count ∧ Round catalog o top root (seen ++ fresh) [] ∧
      Grows catalog s t ∧ ∀ key ∈ fresh, t.entries.get? key = some (outcome catalog o key) := by
  induction b generalizing s seen frontier count with
  | zero =>
    cases frontier with
    | nil =>
      obtain ⟨rfl, rfl⟩ := pure_ok h
      exact ⟨[], rfl, by rwa [List.append_nil], .refl _ _, nofun⟩
    | cons entry frontier => exact (not_throw_ok h).elim
  | succ b ih =>
    cases frontier with
    | nil =>
      obtain ⟨rfl, rfl⟩ := pure_ok h
      exact ⟨[], rfl, by rwa [List.append_nil], .refl _ _, nofun⟩
    | cons entry frontier =>
      simp only [rounds] at h
      obtain ⟨found, s', hmap, h₁⟩ := bind_ok h
      obtain ⟨hfound, hs'⟩ := liftExcept_ok hmap
      subst s'
      rw [freshKeys_eq] at h₁
      generalize hfresh : (freshKeys seen found.flatten).1 = fresh at h₁
      obtain ⟨results, u, hresults, h₂⟩ := bind_ok h₁
      obtain ⟨rfl, hsu, hkept⟩ := mapM_attempt_ok hs hresults
      obtain ⟨next, v, hharvest, h₃⟩ := bind_ok h₂
      obtain ⟨hnext, huv⟩ := harvest_ok catalog hharvest
      obtain ⟨rest, w, hrest, h₄⟩ := bind_ok h₃
      obtain ⟨rfl, rfl⟩ := pure_ok h₄
      have hsv : Grows catalog s v := hsu.trans huv
      obtain ⟨more, hlength, hlast, hvt, hmore⟩ :=
        ih (hround.next hfound hfresh.symm hnext) (hs.trans hsv.agree) hrest
      refine ⟨fresh ++ more, ?_, ?_, hsv.trans hvt,
        List.forall_mem_append.2 ⟨fun key hm => ?_, hmore⟩⟩
      · rw [List.length_append, hlength]
      · rwa [← List.append_assoc]
      · exact hvt.kept _ _ (huv.kept _ _ (hkept key hm))

/-- Prefetching requests just the keys that the root needs, each once, and keeps what they come
to. -/
theorem prefetch_ok {workers : Int} {count : Nat}
    (h : prefetch catalog top root workers s = .ok count t) :
    ∃ requested : List Text, requested.Nodup ∧ requested.length = count ∧
      (∀ key, key ∈ requested ↔ Needed catalog s top root key) ∧ Grows catalog s t ∧
      ∀ key ∈ requested, t.entries.get? key = some (outcome catalog s key) := by
  unfold prefetch at h
  split at h
  · obtain ⟨_, _, hfew, _⟩ := bind_ok h
    exact (not_throw_ok hfew).elim
  · obtain ⟨_, _, hget, h⟩ := bind_ok h
    cases hget
    have hstart : Round catalog s top root [top] [(top, root)] := by
      refine ⟨List.mem_cons_self, by simp, ?_, ?_, ?_⟩
      · intro key hm hne
        exact absurd (List.mem_singleton.1 hm) hne
      · intro entry hm
        cases List.mem_singleton.1 hm
        exact ⟨List.mem_cons_self, behind_top⟩
      · intro key hm file hfile
        cases List.mem_singleton.1 hm
        rw [Behind, if_pos rfl] at hfile
        exact .inl (hfile ▸ List.mem_cons_self)
    obtain ⟨requested, hlength, hlast, hst, hkept⟩ := rounds_ok hstart (.refl _ _) h
    have hclosed {base : Text} (hbase : base ∈ [top] ++ requested) {file : File}
        (hfile : Behind catalog s top root base file) {href key : Text} (hm : href ∈ file.hrefs)
        (hkey : catalog.canonicalize href base = .ok key) (hne : key ≠ top) : key ∈ requested := by
      rcases hlast.closed base hbase file hfile with hnil | hall
      · cases hnil
      · rcases List.mem_append.1 (hall href hm key hkey) with htop | hreq
        · exact absurd (List.mem_singleton.1 htop) hne
        · exact hreq
    obtain ⟨-, hnodup, hdisjoint⟩ := List.nodup_append.1 hlast.nodup
    refine ⟨requested, hnodup, hlength, fun key => ⟨fun hm => ?_, fun hn => ?_⟩, hst, hkept⟩
    · exact hlast.needed key (List.mem_append_right _ hm) fun he =>
        hdisjoint top List.mem_cons_self key hm he.symm
    · induction hn with
      | root hm hkey hne => exact hclosed List.mem_cons_self behind_top hm hkey hne
      | fragment hn ho hm hkey hne ih =>
        exact hclosed (List.mem_append_right _ ih) (by rwa [Behind, if_neg hn.ne]) hm hkey hne

/-! Assembly afterwards -/

/-- The report that a key is found among those kept. -/
def hitRecord (key : Text) : Record := ⟨.fragments, .debug, "Fragment cache hit for " ++ key⟩

/-- A key that is kept is found, without looking for its source. -/
theorem attempt_of_entry {key : Text} {result : Except Failure File}
    (h : s.entries.get? key = some result) (catalog : Catalog) :
    attempt catalog key s = .ok result (s.noted (hitRecord key)) := by
  unfold attempt fetch
  rw [h]
  cases result <;> rfl

/-- From `t` to `s` nothing was done but to report; of the fragments it is reported only that
wanted keys were found. -/
def Recalls (wanted : Text → Prop) (t s : Fragments) : Prop :=
  ∃ records : Journal, s = { t with journal := t.journal ++ records } ∧
    ∀ r ∈ records, r.reporter = .assembly ∨ ∃ key, wanted key ∧ r = hitRecord key

theorem Recalls.refl (wanted : Text → Prop) (t : Fragments) : Recalls wanted t t :=
  ⟨[], by rw [List.append_nil], nofun⟩

theorem Recalls.noted {wanted : Text → Prop} (h : Recalls wanted t s) {r : Record}
    (hr : r.reporter = .assembly ∨ ∃ key, wanted key ∧ r = hitRecord key) :
    Recalls wanted t (s.noted r) := by
  obtain ⟨records, rfl, hall⟩ := h
  refine ⟨records ++ [r], by rw [Fragments.noted, List.append_assoc], ?_⟩
  exact List.forall_mem_append.2 ⟨hall, by simpa using hr⟩

/-- Where all that the root needs is kept, it does not matter how sources are read. -/
theorem pairing_recalls
    (hkept : ∀ key, Needed catalog t top root key →
      t.entries.get? key = some (outcome catalog t key))
    (read : Text → Except Failure Source) :
    Expand.Pairing catalog { catalog with read } t top root
      fun s u => u = s ∧ Recalls (Needed catalog t top root) t s where
  canonicalize := rfl
  report message := .modify fun s u ⟨he, hs⟩ => ⟨by rw [he], hs.noted (.inl rfl)⟩
  attempt key hneeded := by
    rintro s u ⟨rfl, hs⟩
    have hentry : u.entries.get? key = some (outcome catalog t key) := by
      obtain ⟨records, rfl, -⟩ := hs
      exact hkept key hneeded
    rw [attempt_of_entry hentry, attempt_of_entry hentry]
    exact ⟨rfl, rfl, rfl, hs.noted (.inr ⟨key, hneeded, rfl⟩)⟩

end

end Fragments

namespace Mapping

open Run Fragments Surface

/-- Prefetching from a root requests each key that the root needs once, and keeps what it comes to.
An assembly of the root after it, whether it succeeds or not, does nothing to the fragments but to
find requested keys, and it would not notice if sources were read in another way. -/
theorem assemble_prefetched (m : Mapping) (root : File) (key : Option Text) (workers : Int)
    {s t : Fragments} {count : Nat}
    (h : prefetch m.catalog (rootKey root key) root workers s = .ok count t) :
    ∃ requested : List Text, requested.Nodup ∧ requested.length = count ∧
      (∀ k, k ∈ requested ↔ Needed m.catalog s (rootKey root key) root k) ∧
      (∀ k ∈ requested, t.entries.get? k = some (outcome m.catalog s k)) ∧
      ∀ strict,
        Recalls (· ∈ requested) t (left (assemble ⟨m.catalog, strict⟩ root key t)) ∧
        ∀ read, assemble ⟨{ m.catalog with read }, strict⟩ root key t =
          assemble ⟨m.catalog, strict⟩ root key t := by
  obtain ⟨requested, hnodup, hlength, hneeded, hst, hkept⟩ := prefetch_ok h
  refine ⟨requested, hnodup, hlength, hneeded, hkept, fun strict => ?_⟩
  have hiff (k : Text) : k ∈ requested ↔ Needed m.catalog t (rootKey root key) root k :=
    (hneeded k).trans (Needed.congr hst.agree).symm
  have hkept' (k : Text) (hk : Needed m.catalog t (rootKey root key) root k) :
      t.entries.get? k = some (outcome m.catalog t k) := by
    rw [hkept k ((hiff k).2 hk), hst.agree k]
  have hsize := m.length_append_keys_le t
  have hsame (read : Text → Except Failure Source) :
      assemble ⟨{ m.catalog with read }, strict⟩ root key t =
          assemble ⟨m.catalog, strict⟩ root key t ∧
        Recalls (Needed m.catalog t (rootKey root key) root) t
          (left (assemble ⟨m.catalog, strict⟩ root key t)) := by
    have htwin := assemble_twin (pairing_recalls hkept' read) (fun _ _ => m.mem_of_outcome) strict
    have hstart := Recalls.refl (Needed m.catalog t (rootKey root key) root) t
    cases hx : assemble ⟨m.catalog, strict⟩ root key t with
    | ok a v =>
      obtain ⟨_, hy, -, rfl, hv⟩ := htwin.ok ⟨⟨rfl, hstart⟩, hsize, hsize⟩ hx
      exact ⟨hy, hv⟩
    | error e v =>
      obtain ⟨_, hy, rfl, hv⟩ := htwin.error ⟨⟨rfl, hstart⟩, hsize, hsize⟩ hx
      exact ⟨hy, hv⟩
  refine ⟨?_, fun read => (hsame read).1⟩
  obtain ⟨records, he, hall⟩ := (hsame m.catalog.read).2
  refine ⟨records, he, fun r hr => (hall r hr).imp_right ?_⟩
  rintro ⟨k, hk, rfl⟩
  exact ⟨k, (hiff k).2 hk, rfl⟩

end Mapping

namespace Scattered

open Run Fragments Surface

/-! Fragments that are referred to from an override block, a division and a data exception. -/

def source (s : String) : Source := .text s

def mapping : Mapping := Mapping.ofList
  [("a.rnc", source "div \x7b x = external \"b.rnc\" \x7d"),
    ("b.rnc", source "start = string - external \"c.rnc\""),
    ("d.rnc", source "grammar \x7b include \"main.rnc\" start = text \x7d")]

def here : Span := ⟨[], 1, 1, 0, 0⟩

/-- `include "a.rnc" { y = external "d.rnc" }` -/
def root : File where
  path := "main.rnc"
  declarations := []
  components :=
    [.incl "a.rnc" none [.define (.named "y") .single (.external "d.rnc" none here) none here] here]
  isPattern := false

/-- The keys of four fragments are requested, one of which has no source. -/
theorem assemble_prefetched_scattered :
    ∃ (t : Fragments) (requested : List Text),
      prefetch mapping.catalog (rootKey root none) root 4 {} = .ok 4 t ∧ requested.length = 4 ∧
        ∀ strict,
          Recalls (· ∈ requested) t (left (assemble ⟨mapping.catalog, strict⟩ root none t)) := by
  have hrequested : (ended (prefetch mapping.catalog (rootKey root none) root 4 {})).toOption.map
      id = some 4 := by decide +kernel
  obtain ⟨_, t, h, rfl⟩ := exists_ended_of_map hrequested
  obtain ⟨requested, -, hlength, -, -, hassemble⟩ := mapping.assemble_prefetched root none 4 h
  exact ⟨t, requested, h, hlength, fun strict => (hassemble strict).1⟩

end Scattered

end RelaxCompact
