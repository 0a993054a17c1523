import RelaxCompact.Proofs.Loading.Entrances
import RelaxCompact.Proofs.Ordering.Necessary
import RelaxCompact.Proofs.Parsing.Anchoring
import RelaxCompact.Proofs.Scanning.Documenting

/-!
The documentation of a schema. What is written above the definitions of a name that count comes into
one text in the table of the schema, under the name as it is displayed. Two names are displayed
alike, the start pattern and a definition called `start`: of these the table keeps one.
-/

namespace RelaxCompact

open Surface Fragments

/-- The unbroken run of lines with documentation that ends directly above a line, and the line in
front of the run, which has none. -/
def RunsAbove (docs : DocLines) (line : Nat) (texts : List String) : Prop :=
  ∃ front, front + texts.length + 1 = line ∧
    (∀ (i : Nat) (text : String), texts[i]? = some text → (front + 1 + i, text) ∈ docs) ∧
    ∀ text, (front, text) ∉ docs

/-- What is documented where a passage is written: the lines above the token that names the
definition, in the source behind the file of the passage. -/
def Passage.Documented (m : Mapping) (p : Passage) (doc : String) : Prop :=
  ∃ source scanned t texts, m.sources.get? p.locus.file = some source ∧
    source.scan p.locus.file = .ok scanned ∧ t ∈ scanned.tokens ∧ NamesDefinition t p.name ∧
    t.span = p.define.span ∧ RunsAbove scanned.docs t.start.line texts ∧
    doc = "\n".intercalate texts

/-- What is documented for each name, in the order of the passages that count. -/
def DocumentsOf (m : Mapping) (ps : List Passage) (docs : DefineName → List String) : Prop :=
  ∀ name, List.Forall₂ (Passage.Documented m) ((Passage.effective ps).filter (·.name = name))
    (docs name)

/-- The names of the passages that count, as they come first. -/
def namesOf (ps : List Passage) : List DefineName :=
  ((Passage.effective ps).map Passage.name).eraseDups

/-- The texts that are not empty, joined, if there are any. -/
def joined (docs : List String) : Option String :=
  match docs.filter (· ≠ "") with
  | [] => none
  | texts => some ("\n".intercalate texts)

/-! Runs of lines -/

section

variable {docs : DocLines} {n : Nat} {text : String} {texts texts' : List String}

theorem RunsAbove.nil_iff : RunsAbove docs (n + 1) [] ↔ ∀ text, (n, text) ∉ docs := by
  constructor
  · rintro ⟨front, hline, -, hfront⟩
    cases hline
    exact hfront
  · exact fun h => ⟨n, rfl, by simp, h⟩

/-- The last line of a run stands directly above, and the others run up to it. -/
theorem RunsAbove.concat_iff :
    RunsAbove docs (n + 1) (texts ++ [text]) ↔ RunsAbove docs n texts ∧ (n, text) ∈ docs := by
  constructor
  · rintro ⟨front, hline, hlines, hfront⟩
    have hn : n = front + texts.length + 1 := by
      rw [List.length_append, List.length_singleton] at hline
      omega
    subst hn
    refine ⟨⟨front, rfl, fun i text' hi => hlines i text' ?_, hfront⟩, ?_⟩
    · rwa [List.getElem?_append_left (List.getElem?_eq_some_iff.mp hi).1]
    · rw [Nat.add_right_comm]
      exact hlines texts.length text List.getElem?_concat_length
  · rintro ⟨⟨front, rfl, hlines, hfront⟩, htext⟩
    have hlength : (texts ++ [text]).length = texts.length + 1 := List.length_append
    refine ⟨front, by omega, fun i text' hi => ?_, hfront⟩
    have hle := (List.getElem?_eq_some_iff.mp hi).1
    rcases Nat.lt_or_ge i texts.length with hlt | hge
    · rw [List.getElem?_append_left hlt] at hi
      exact hlines i text' hi
    · obtain rfl : i = texts.length := by omega
      rw [List.getElem?_concat_length] at hi
      cases hi
      rwa [Nat.add_right_comm]

/-- Only one run is above a line, if no line has two texts. -/
theorem RunsAbove.unique (hdocs : docs.Pairwise (·.1 < ·.1)) (h : RunsAbove docs n texts)
    (h' : RunsAbove docs n texts') : texts = texts' := by
  have hkeys : (docs.map Prod.fst).Nodup :=
    List.pairwise_map.mpr (hdocs.imp fun hlt => Nat.ne_of_lt hlt)
  induction texts using List.reverseRecOn generalizing n texts' with
  | nil =>
    obtain ⟨front, rfl, -⟩ := id h
    obtain rfl | ⟨texts', text, rfl⟩ := List.eq_nil_or_concat' texts'
    · rfl
    · exact absurd (concat_iff.mp h').2 (nil_iff.mp h text)
  | append_singleton texts text ih =>
    obtain ⟨front, rfl, -⟩ := id h
    obtain ⟨hrun, htext⟩ := concat_iff.mp h
    obtain rfl | ⟨texts', text', rfl⟩ := List.eq_nil_or_concat' texts'
    · exact absurd htext (nil_iff.mp h' text)
    · obtain ⟨hrun', htext'⟩ := concat_iff.mp h'
      cases List.inj_on_of_nodup_map hkeys htext htext' rfl
      rw [ih hrun hrun']

/-- What the parser gathers is the run above a line. -/
theorem runsAbove_docRun (hdocs : ∀ d ∈ docs, 1 ≤ d.1) (n : Nat) :
    RunsAbove docs (n + 1) (Parser.docRun docs n) := by
  induction n with
  | zero => exact RunsAbove.nil_iff.mpr fun text htext => Nat.not_succ_le_zero 0 (hdocs _ htext)
  | succ n ih =>
    rw [Parser.docRun]
    split
    next text htext =>
      obtain ⟨before, after, rfl, -⟩ := List.lookup_eq_some_iff.mp htext
      exact RunsAbove.concat_iff.mpr ⟨ih, List.mem_append_right _ List.mem_cons_self⟩
    next hnone =>
      refine RunsAbove.nil_iff.mpr fun text htext => ?_
      have hother := List.lookup_eq_none_iff.mp hnone _ htext
      exact absurd hother (by simp)

end

theorem getD_docAbove (docs : DocLines) (line : Nat) :
    (Parser.docAbove docs line).getD "" = "\n".intercalate (Parser.docRun docs (line - 1)) := by
  unfold Parser.docAbove
  split
  next h =>
    rw [h, String.intercalate_nil]
    rfl
  next => rfl

/-! Sites -/

/-- Where includes lead to grammars, each passage is through a definition of such a file. -/
theorem Unfolds.mem_allDefines {src : Sources} {strict : Bool} {stack : List Text}
    {covers : List (List DefineName)} {l : Locus} {i : Nat} {cs : List Component}
    {ps : List Passage} (h : Unfolds src covers l i cs ps)
    (hcs : ∀ c ∈ cs, Includable src strict stack l c) {file : File}
    (hfile : src.file l.file = .ok file) (hgrammar : file.isPattern = false)
    (hsub : Component.allDefines cs ⊆ Component.allDefines file.components) :
    ∀ p ∈ ps, ∃ file, src.file p.locus.file = .ok file ∧ file.isPattern = false ∧
      p.define ∈ Component.allDefines file.components := by
  induction h generalizing stack file with
  | nil => exact fun p hp => nomatch hp
  | define _ ih =>
    rw [Component.allDefines, List.append_subset] at hsub
    refine List.forall_mem_cons.mpr ⟨?_, ih (fun c hc => hcs c (List.mem_cons_of_mem _ hc)) hfile
      hgrammar hsub.2⟩
    exact ⟨file, hfile, hgrammar, hsub.1 (List.mem_singleton_self _)⟩
  | @div _ l i components _ _ _ _ _ _ ihInner ih =>
    rw [Component.allDefines, List.append_subset] at hsub
    obtain ⟨hfirst, hrest⟩ := List.forall_mem_cons.mp hcs
    refine List.forall_mem_append.mpr ⟨?_, ih hrest hfile hgrammar hsub.2⟩
    cases hfirst with
    | div hcomponents =>
      exact ihInner (fun c hc => (hcomponents c hc).moved rfl rfl) hfile hgrammar hsub.1
  | incl hopens _ _ _ ihOverrides ihFragment ih =>
    rw [Component.allDefines, List.append_subset] at hsub
    obtain ⟨hfirst, hrest⟩ := List.forall_mem_cons.mp hcs
    cases hfirst with
    | incl hopens' _ hinner _ hoverrides hfragment =>
      obtain ⟨rfl, rfl⟩ := hopens.unique hopens'
      refine List.forall_mem_append.mpr ⟨List.forall_mem_append.mpr ⟨?_, ?_⟩,
        ih hrest hfile hgrammar hsub.2⟩
      · exact ihOverrides (fun c hc => (hoverrides c hc).moved rfl rfl) hfile hgrammar hsub.1
      · exact ihFragment hfragment hopens.file_eq hinner (List.Subset.refl _)

/-- The documentation of a definition is what is written above its name. -/
theorem Passage.documented {m : Mapping} {p : Passage} {file : File}
    (hfile : outcome m.catalog {} p.locus.file = .ok file) (hgrammar : file.isPattern = false)
    (hdefine : p.define ∈ Component.allDefines file.components) :
    p.Documented m (p.define.documentation.getD "") := by
  change (m.read p.locus.file >>= fun source => source.parse p.locus.file) = .ok file at hfile
  obtain ⟨source, hread, hparse⟩ := Run.ok_of_bind hfile
  have hsource : m.sources.get? p.locus.file = some source := by
    unfold Mapping.read at hread
    split at hread
    next h =>
      cases hread
      exact h
    next => cases hread
  obtain ⟨scanned, hscan, hheaded⟩ := Source.parse_headed hparse hgrammar
  obtain ⟨t, ht, hnames, hspan, hdoc⟩ := hheaded _ hdefine
  have hrun := runsAbove_docRun (Source.docs_ascend hscan).2 (t.start.line - 1)
  rw [Nat.sub_add_cancel (Source.one_le_line hscan ht)] at hrun
  refine ⟨source, scanned, t, _, hsource, hscan, ht, hnames, hspan.symm, hrun, ?_⟩
  rw [hdoc, getD_docAbove]

/-- What a site records. -/
def Site.text (s : Site) : String := s.documentation.getD ""

theorem joined_ne_empty {docs : List String} {text : String} (h : joined docs = some text) :
    text ≠ "" := by
  have hall : ∀ doc ∈ docs.filter (· ≠ ""), doc ≠ "" :=
    fun doc hdoc => of_decide_eq_true (List.mem_filter.mp hdoc).2
  unfold joined at h
  generalize docs.filter (· ≠ "") = texts at h hall
  match texts with
  | [] => cases h
  | [doc] =>
    cases h
    rw [String.intercalate_singleton]
    exact hall doc (List.mem_singleton_self _)
  | doc :: doc' :: texts =>
    cases h
    rw [String.intercalate_cons_cons]
    intro hempty
    simp at hempty

theorem Definition.documentation_eq (d : Definition) :
    d.documentation = joined (d.sites.map Site.text) := by
  have htexts : (d.sites.filterMap fun s => s.documentation.filter (!·.isEmpty)) =
      (d.sites.map Site.text).filter (· ≠ "") := by
    rw [List.filter_map, ← List.filterMap_eq_map, List.filterMap_filter]
    refine List.filterMap_congr fun s _ => ?_
    unfold Site.text
    cases hdoc : s.documentation with
    | none => simp [hdoc]
    | some doc => by_cases hempty : doc = "" <;> simp [hdoc, hempty, Option.filter_some]
  exact congrArg (fun texts => match texts with
    | [] => none
    | texts => some ("\n".intercalate texts)) htexts

/-! Names -/

theorem DefineName.eq_or_of_display_eq {a b : DefineName} (h : a.display = b.display) :
    a = b ∨ a = .start ∧ b = .named "start" ∨ a = .named "start" ∧ b = .start := by
  cases a with
  | start =>
    cases b with
    | start => exact .inl rfl
    | named name =>
      cases h
      exact .inr (.inl ⟨rfl, rfl⟩)
  | named name =>
    cases b with
    | start =>
      cases h
      exact .inr (.inr ⟨rfl, rfl⟩)
    | named name' =>
      cases h
      exact .inl rfl

/-- A table of what some names have, each under the name as it is displayed. -/
def displayed (names : List DefineName) (text : DefineName → Option String) :
    Table String String :=
  Table.ofList (names.filterMap fun name => (text name).map fun t => (name.display, t))

section

variable (names : List DefineName) (text : DefineName → Option String)

theorem get?_displayed (shown : String) :
    (displayed names text).get? shown =
      (names.filterMap fun name => if name.display = shown then text name else none).getLast? := by
  rw [displayed, Table.get?_ofList, List.filterMap_filterMap]
  congr 2
  funext name
  cases text name <;> simp

theorem keys_displayed : (displayed names text).keys =
    ((names.filter fun name => (text name).isSome).map DefineName.display).eraseDups := by
  rw [displayed, Table.keys_ofList, List.map_filterMap, ← List.filterMap_eq_map,
    List.filterMap_filter]
  congr 2
  funext name
  cases text name <;> rfl

variable {names text}

/-- No name is displayed as another that has a text too, if one of the two that may be has none. -/
theorem eq_of_display_eq (hapart : text .start = none ∨ text (.named "start") = none)
    {a b : DefineName} (ha : (text a).isSome = true) (hb : (text b).isSome = true)
    (h : a.display = b.display) : a = b := by
  rcases DefineName.eq_or_of_display_eq h with heq | ⟨rfl, rfl⟩ | ⟨rfl, rfl⟩
  · exact heq
  · rcases hapart with hnone | hnone
    · rw [hnone] at ha
      cases ha
    · rw [hnone] at hb
      cases hb
  · rcases hapart with hnone | hnone
    · rw [hnone] at hb
      cases hb
    · rw [hnone] at ha
      cases ha

theorem get?_displayed_eq_some (hapart : text .start = none ∨ text (.named "start") = none)
    {shown content : String} : (displayed names text).get? shown = some content ↔
      ∃ name ∈ names, name.display = shown ∧ text name = some content := by
  have hmem {t : String} : (t ∈ names.filterMap fun name =>
      if name.display = shown then text name else none) ↔
        ∃ name ∈ names, name.display = shown ∧ text name = some t := by
    rw [List.mem_filterMap]
    refine exists_congr fun name => and_congr_right fun _ => ?_
    split
    next h => exact ⟨fun ht => ⟨h, ht⟩, And.right⟩
    next h => exact ⟨nofun, fun ht => absurd ht.1 h⟩
  rw [get?_displayed]
  constructor
  · exact fun h => hmem.mp (List.mem_of_getLast? h)
  · intro h
    have hcontent := hmem.mpr h
    obtain ⟨name, hname, hshown, ht⟩ := h
    rw [List.getLast?_eq_some_getLast (List.ne_nil_of_mem hcontent)]
    obtain ⟨name', -, hshown', ht'⟩ := hmem.mp (List.getLast_mem (List.ne_nil_of_mem hcontent))
    cases eq_of_display_eq hapart (Option.isSome_of_eq_some ht) (Option.isSome_of_eq_some ht')
      (hshown.trans hshown'.symm)
    exact ht'.symm.trans ht

theorem size_displayed (hapart : text .start = none ∨ text (.named "start") = none)
    (hnames : names.Nodup) :
    (displayed names text).size = (names.filter fun name => (text name).isSome).length := by
  have hnodup : ((names.filter fun name => (text name).isSome).map DefineName.display).Nodup := by
    refine (List.nodup_map_iff_inj_on (hnames.filter _)).mpr fun a ha b hb h => ?_
    exact eq_of_display_eq hapart (List.mem_filter.mp ha).2 (List.mem_filter.mp hb).2 h
  have hkeys := congrArg List.length (keys_displayed names text)
  rw [eraseDups_of_nodup hnodup, List.length_map] at hkeys
  rw [← hkeys]
  exact (List.length_map _).symm

end

/-- The table of an assembled schema has what the sites of each root name record. -/
theorem Assembled.documentation_eq {a : Assembled} (hkeys : a.root.definitions.keys.Nodup) :
    a.documentation = displayed a.root.definitions.keys fun name =>
      joined ((a.root.sites name).map Site.text) := by
  unfold documentation displayed Table.keys
  rw [List.filterMap_map]
  refine congrArg Table.ofList (List.filterMap_congr fun e he => ?_)
  have hsites : a.root.sites e.1 = e.2.sites := by
    rw [Grammar.sites, Table.get?, Table.lookup_of_mem hkeys he]
    rfl
  dsimp only [Function.comp]
  rw [hsites, ← Definition.documentation_eq]
  cases hdoc : e.2.documentation with
  | none => rfl
  | some text =>
    have hne := joined_ne_empty (e.2.documentation_eq.symm.trans hdoc)
    simp [Option.filter_some, hne]

/-- Sites that record passages have their documentation. -/
theorem map_text_of_recorded {src : Sources} {origins : List Origin} {number : Nat}
    {ps : List Passage} {sites : List Site}
    (h : List.Forall₂ (Passage.Recorded src origins number) ps sites) :
    sites.map Site.text = ps.map fun p => p.define.documentation.getD "" := by
  induction h with
  | nil => rfl
  | cons hr _ ih => rw [List.map_cons, List.map_cons, ih, Site.text, hr.documentation]

theorem Passage.Documented.unique {m : Mapping} {p : Passage} {doc doc' : String}
    (h : p.Documented m doc) (h' : p.Documented m doc') : doc = doc' := by
  obtain ⟨source, scanned, t, texts, hsource, hscan, -, -, hspan, hrun, rfl⟩ := h
  obtain ⟨source', scanned', t', texts', hsource', hscan', -, -, hspan', hrun', rfl⟩ := h'
  cases hsource.symm.trans hsource'
  cases hscan.symm.trans hscan'
  have hline : t'.start.line = t.start.line := by
    have hlines := congrArg Span.line (hspan'.trans hspan.symm)
    exact Int.ofNat.inj hlines
  rw [hline] at hrun'
  rw [hrun.unique (Source.docs_ascend hscan).1 hrun']

theorem DocumentsOf.unique {m : Mapping} {ps : List Passage} {docs docs' : DefineName → List String}
    (h : DocumentsOf m ps docs) (h' : DocumentsOf m ps docs') : docs = docs' := by
  have hunique : Relator.RightUnique (Passage.Documented m) :=
    fun _ _ _ => Passage.Documented.unique
  exact funext fun name => List.right_unique_forall₂' hunique (h name) (h' name)

/-! Schemas -/

theorem Assembled.documentation_of_resolve {a : Assembled} {schema : Schema}
    (h : a.resolve = .ok schema) : schema.documentation = a.documentation := by
  unfold resolve at h
  split at h
  next => cases h
  next =>
    split at h
    next => cases h
    next =>
      dsimp only at h
      split at h
      next => cases h
      next =>
        cases h
        rfl

/-- The documentation of a schema is what is written above the definitions of its root. -/
theorem exists_documents {m : Mapping} {settings : Settings} {path : Text} {schema : Schema}
    (h : Loader.load m.catalog settings path = .ok schema) :
    ∃ root ps, outcome m.catalog {} (Mapping.canonicalize path []) = .ok root ∧
      (rootOrigin root (some (Mapping.canonicalize path []))).Unfolds
        (({} : Fragments).sources m.catalog) ps ∧
      (root.isPattern = false → ∃ docs, DocumentsOf m ps docs ∧
        schema.documentation = displayed (namesOf ps) fun name => joined (docs name)) := by
  obtain ⟨root, s, a, t, hroot, hs, hassemble, hresolve⟩ := Loader.load_ok h
  have hkey := rootKey_of_ne_nil (Mapping.canonicalize_ne_nil path []) root
  generalize Mapping.canonicalize path [] = key at *
  obtain ⟨b, u, hb, ha, horigin, hsettled⟩ := assemble_books hassemble
  have hexpands := hb.expands ha horigin hsettled
  have hincludable := (assemblable_of_assemble hassemble).includable
  rw [hs.sources] at hexpands hincludable
  obtain ⟨g, hg⟩ : ∃ g, a.grammars[0]? = some g := by
    have hlength := (List.getElem?_eq_some_iff.mp hexpands.root).1
    rw [hexpands.length] at hlength
    exact ⟨_, List.getElem?_eq_getElem hlength⟩
  have hrootg : a.root = g := by
    rw [Assembled.root, List.head?_eq_getElem?, hg]
    rfl
  obtain ⟨-, ⟨ps, hps⟩, haccounts⟩ := hexpands.grammars 0 g _ hg hexpands.root
  have hacc := haccounts ps hps
  refine ⟨root, ps, hroot, hps, fun hgrammar => ?_⟩
  have hfile : outcome m.catalog {} (rootKey root (some key)) = .ok root := by rw [hkey, hroot]
  have hdefined := hps.mem_allDefines hincludable hfile hgrammar (List.Subset.refl _)
  refine ⟨fun name => ((Passage.effective ps).filter (·.name = name)).map
    fun p => p.define.documentation.getD "", fun name => ?_, ?_⟩
  · refine List.forall₂_map_right_iff.mpr (List.forall₂_same.mpr fun p hp => ?_)
    obtain ⟨file, hfile, hinner, hdefine⟩ :=
      hdefined p (Passage.mem_of_mem_effective (List.mem_filter.mp hp).1)
    exact Passage.documented hfile hinner hdefine
  · have hnodup : a.root.definitions.keys.Nodup := by
      rw [hrootg, hacc.names]
      exact nodup_eraseDups _
    rw [Assembled.documentation_of_resolve hresolve, Assembled.documentation_eq hnodup, hrootg,
      hacc.names]
    refine congrArg (displayed _) (funext fun name => ?_)
    rw [map_text_of_recorded (hacc.sites name)]

/-- **Documentation of a schema.** The table shows, for each displayed name, the documentation of
the last of the root names that are displayed so and have some. Unless both the start pattern and a
definition called `start` have some, this is each of the documented names, with its own text. -/
theorem load_documents {m : Mapping} {settings : Settings} {path : Text} {schema : Schema}
    (h : Loader.load m.catalog settings path = .ok schema) :
    ∃ root ps, outcome m.catalog {} (Mapping.canonicalize path []) = .ok root ∧
      (rootOrigin root (some (Mapping.canonicalize path []))).Unfolds
        (({} : Fragments).sources m.catalog) ps ∧
      (root.isPattern = false → (∃ docs, DocumentsOf m ps docs) ∧ ∀ docs, DocumentsOf m ps docs →
        (∀ shown, schema.documentation.get? shown =
          ((namesOf ps).filterMap fun name =>
            if name.display = shown then joined (docs name) else none).getLast?) ∧
        schema.documentation.keys =
          (((namesOf ps).filter fun name => (joined (docs name)).isSome).map
            DefineName.display).eraseDups ∧
        (joined (docs .start) = none ∨ joined (docs (.named "start")) = none →
          (∀ shown text, schema.documentation.get? shown = some text ↔
            ∃ name ∈ namesOf ps, name.display = shown ∧ joined (docs name) = some text) ∧
          schema.documentation.size =
            ((namesOf ps).filter fun name => (joined (docs name)).isSome).length)) := by
  obtain ⟨root, ps, hroot, hps, hdocuments⟩ := exists_documents h
  refine ⟨root, ps, hroot, hps, fun hgrammar => ?_⟩
  obtain ⟨docs, hdocs, htable⟩ := hdocuments hgrammar
  refine ⟨⟨docs, hdocs⟩, fun docs' hdocs' => ?_⟩
  obtain rfl := hdocs.unique hdocs'
  rw [htable]
  refine ⟨get?_displayed _ _, keys_displayed _ _, fun hapart => ⟨fun shown text => ?_, ?_⟩⟩
  · exact get?_displayed_eq_some hapart
  · exact size_displayed hapart (nodup_eraseDups _)

namespace Twice

/-! The start pattern and a definition called `start`, both with documentation. -/

def source : Source := .text "## a\nstart = text\n## b\n\\start = text"

def mapping : Mapping := Mapping.ofList [("main.rnc", source)]

def key : Text := Mapping.canonicalize "main.rnc" []

/-- What a file defines. -/
def heads (root : File) : List (Option DefineName) × Bool :=
  (root.components.map fun
    | .define name _ _ _ _ => some name
    | _ => none, root.isPattern)

/-- The documentation of a source, and the lines on which `start` is a keyword. -/
def lines (scanned : Scanned) : DocLines × List Nat :=
  (scanned.docs, (scanned.tokens.filter (·.lexeme = .keyword .start)).map (·.start.line))

/-- The documentation of the source, what its file defines, and where the start pattern is named. -/
theorem evaluated :
    (Loader.load mapping.catalog {} "main.rnc").toOption.map Schema.documentation =
        some ⟨[("start", "b")]⟩ ∧
      (outcome mapping.catalog {} key).toOption.map heads =
        some ([some .start, some (.named "start")], false) ∧
      ((mapping.sources.get? key).bind fun source => (source.scan key).toOption.map lines) =
        some ([(1, "a"), (3, "b")], [2]) := by
  decide +kernel

theorem exists_load : ∃ schema, Loader.load mapping.catalog {} "main.rnc" = .ok schema ∧
    schema.documentation = ⟨[("start", "b")]⟩ :=
  Run.exists_ok_of_map evaluated.1

/-- One passage counts for the start pattern. -/
theorem start_passage {root : File} {ps : List Passage}
    (hroot : outcome mapping.catalog {} key = .ok root)
    (hps : (rootOrigin root (some key)).Unfolds (({} : Fragments).sources mapping.catalog) ps) :
    root.isPattern = false ∧
      ∃ p, (Passage.effective ps).filter (·.name = .start) = [p] ∧ p.locus.file = key := by
  have hheads := evaluated.2.1
  have hkey := rootKey_of_ne_nil (Mapping.canonicalize_ne_nil "main.rnc" []) root
  rw [hroot] at hheads
  obtain ⟨hcomponents, hgrammar⟩ := Prod.mk.inj (Option.some.inj hheads)
  refine ⟨hgrammar, ?_⟩
  unfold Origin.Unfolds at hps
  change Unfolds _ [] _ 0 root.components ps at hps
  have hfile : (rootOrigin root (some key)).locus.file = key := hkey
  obtain ⟨c, c', hcs⟩ := List.length_eq_two.mp (by simpa using congrArg List.length hcomponents)
  rw [hcs] at hcomponents hps
  obtain ⟨hc, hc'⟩ := List.cons.inj hcomponents
  obtain ⟨hc', -⟩ := List.cons.inj hc'
  cases c with
  | define _ operator pattern documentation span =>
    cases c' with
    | define =>
      cases hc
      cases hc'
      cases hps with
      | define hps =>
        cases hps with
        | define hps =>
          cases hps
          refine ⟨⟨(rootOrigin root (some key)).locus.part 0,
            ⟨.start, operator, pattern, documentation, span⟩, []⟩, ?_, hfile⟩
          simp [Passage.effective, Passage.exposed, Passage.fresh, Passage.name,
            Passage.occurrence, Locus.part, List.filter_cons]
    | _ => cases hc'
  | _ => cases hc

theorem load_documents_twice :
    ∃ schema, Loader.load mapping.catalog {} "main.rnc" = .ok schema ∧
      schema.documentation = ⟨[("start", "b")]⟩ ∧
      ∃ root ps, outcome mapping.catalog {} key = .ok root ∧
        (rootOrigin root (some key)).Unfolds (({} : Fragments).sources mapping.catalog) ps ∧
        root.isPattern = false ∧ (∃ docs, DocumentsOf mapping ps docs) ∧
          ∀ docs, DocumentsOf mapping ps docs →
            (∀ shown, schema.documentation.get? shown =
              ((namesOf ps).filterMap fun name =>
                if name.display = shown then joined (docs name) else none).getLast?) ∧
            schema.documentation.keys =
              (((namesOf ps).filter fun name => (joined (docs name)).isSome).map
                DefineName.display).eraseDups ∧
            (joined (docs .start) = none ∨ joined (docs (.named "start")) = none →
              (∀ shown text, schema.documentation.get? shown = some text ↔
                ∃ name ∈ namesOf ps, name.display = shown ∧ joined (docs name) = some text) ∧
              schema.documentation.size =
                ((namesOf ps).filter fun name => (joined (docs name)).isSome).length) := by
  obtain ⟨schema, h, hdocumentation⟩ := exists_load
  obtain ⟨root, ps, hroot, hps, hdocuments⟩ := load_documents h
  have hgrammar := (start_passage hroot hps).1
  exact ⟨schema, h, hdocumentation, root, ps, hroot, hps, hgrammar, hdocuments hgrammar⟩

/-- What is documented for the start pattern. -/
theorem documented_start {p : Passage} (hfile : p.locus.file = key) (hname : p.name = .start)
    {doc : String} (h : p.Documented mapping doc) : doc = "a" := by
  have hlines := evaluated.2.2
  obtain ⟨source, scanned, t, texts, hsource, hscan, ht, hnames, -, hrun, rfl⟩ := h
  rw [hfile] at hsource hscan
  rw [hsource, Option.bind_some, hscan] at hlines
  obtain ⟨hdocs, hkeywords⟩ := Prod.mk.inj (Option.some.inj hlines)
  have hline : t.start.line = 2 := by
    have hlexeme : t.lexeme = .keyword .start := by
      rw [hname] at hnames
      cases hnames
      assumption
    have hmem : t.start.line ∈ [2] := by
      rw [← hkeywords]
      exact List.mem_map_of_mem (List.mem_filter.mpr ⟨ht, decide_eq_true hlexeme⟩)
    exact List.mem_singleton.mp hmem
  have htexts : texts = ["a"] := by
    have hascend := Source.docs_ascend hscan
    rw [hline] at hrun
    refine (hrun.unique hascend.1 (runsAbove_docRun hascend.2 1)).trans ?_
    rw [hdocs]
    rfl
  rw [htexts, String.intercalate_singleton]

/-- The documentation of the start pattern is lost. -/
theorem load_documents_lost :
    ¬ ∀ (m : Mapping) (settings : Settings) (path : Text) (schema : Schema) (root : File)
      (ps : List Passage) (docs : DefineName → List String),
      Loader.load m.catalog settings path = .ok schema →
      outcome m.catalog {} (Mapping.canonicalize path []) = .ok root →
      (rootOrigin root (some (Mapping.canonicalize path []))).Unfolds
        (({} : Fragments).sources m.catalog) ps →
      root.isPattern = false → DocumentsOf m ps docs →
      ∀ name ∈ namesOf ps, ∀ text, joined (docs name) = some text →
        schema.documentation.get? name.display = some text := by
  intro hall
  obtain ⟨schema, h, hdocumentation⟩ := exists_load
  obtain ⟨root, ps, hroot, hps, hdocuments⟩ := exists_documents h
  obtain ⟨hgrammar, p, hp, hfile⟩ := start_passage hroot hps
  obtain ⟨docs, hdocs, -⟩ := hdocuments hgrammar
  have hmem : p ∈ (Passage.effective ps).filter (·.name = .start) := hp ▸ List.mem_singleton_self p
  obtain ⟨heffective, hname⟩ := List.mem_filter.mp hmem
  replace hname := of_decide_eq_true hname
  have hstart := hdocs .start
  rw [hp] at hstart
  obtain ⟨doc, rest, hdoc, hrest, htexts⟩ := List.forall₂_cons_left_iff.mp hstart
  rw [List.forall₂_nil_left_iff.mp hrest, documented_start hfile hname hdoc] at htexts
  have hnames : DefineName.start ∈ namesOf ps :=
    List.mem_eraseDups.mpr (List.mem_map.mpr ⟨p, heffective, hname⟩)
  have hjoined : joined (docs .start) = some "a" := by
    rw [htexts]
    rfl
  have hshown := hall mapping {} "main.rnc" schema root ps docs h hroot hps hgrammar hdocs .start
    hnames "a" hjoined
  rw [hdocumentation] at hshown
  exact absurd (Option.some.inj hshown) (by decide)

end Twice

end RelaxCompact
