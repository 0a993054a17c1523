import RelaxCompact.Proofs.Parsing.Lifting
import RelaxCompact.Proofs.Printing.Takes

/-!
Reading without a limit on nesting, and what the limit does. Every construct that is opened takes a
token, so a file cannot open more levels than it has tokens, and a level with as many below it never
misses one. Such levels read alike, and make up the one level whose constructs are read at that
level again. A file that never has more levels open than the limit allows is read as without it;
another one is refused where it opens the first level too many.
-/

/-! Levels without an end -/

namespace RelaxCompact.Parser

open Surface Run

variable {ι α : Type}

/-- Runs end alike, and not with more tokens ahead, if at most `k` tokens were ahead. -/
def Agreeing (k : Nat) {α : Type} (s : Progress)
    (runs : ι → EStateM.Result SchemaError Progress α) : Prop :=
  s.rest.length ≤ k →
    (∀ i j, runs i = runs j) ∧ ∀ i, (left (runs i)).rest.length ≤ s.rest.length

theorem lifting_agreeing (k : Nat) : Lifting (ι := ι) (Agreeing k) where
  plain h s := fun _ => ⟨fun _ _ => rfl, fun _ => (h s).rest.length_le⟩
  bind {α β x f s} hx hf := by
    intro hs
    obtain ⟨hsame, hle⟩ := hx hs
    -- One run tells how the step ends in all of them.
    have hgo (i : ι) : (∀ j, (x i >>= f i) s = (x j >>= f j) s) ∧
        (left ((x i >>= f i) s)).rest.length ≤ s.rest.length := by
      have hi : (left (x i s)).rest.length ≤ s.rest.length := hle i
      cases hrun : x i s with
      | ok a t =>
        rw [hrun] at hi
        obtain ⟨hsame', hle'⟩ := hf a t ⟨i, hrun⟩ (Nat.le_trans hi hs)
        refine ⟨fun j => ?_, ?_⟩
        · rw [bind_of_ok hrun, bind_of_ok ((hsame j i).trans hrun)]
          exact hsame' i j
        · rw [bind_of_ok hrun]
          exact Nat.le_trans (hle' i) hi
      | error e t =>
        rw [hrun] at hi
        refine ⟨fun j => ?_, ?_⟩
        · rw [bind_of_error hrun, bind_of_error ((hsame j i).trans hrun)]
        · rw [bind_of_error hrun]
          exact hi
    exact ⟨fun i => (hgo i).1, fun i => (hgo i).2⟩

/-- Where no token is left no construct is opened. -/
theorem nests_agreeing_zero (setting : ι → Setting) (next : ι → Option Level) :
    Nests (Agreeing 0) setting next :=
  fun _ _ _ _ hs => absurd hs (Nat.not_succ_le_zero _)

/-- Behind an opener one token less is ahead. -/
theorem nests_agreeing_succ {k : Nat} {level : ι → Level} (h : Lifts (Agreeing k) level)
    (setting : ι → Setting) : Nests (Agreeing (k + 1)) setting fun i => some (level i) := by
  intro α content hcontent opener s hopener hs
  obtain ⟨hsame, hle⟩ := h.inner (lifting_agreeing k) hcontent (entered s)
    (Nat.le_of_succ_le_succ hs)
  refine ⟨fun i j => enclosed_congr (hsame i j), fun i => ?_⟩
  change (left (enclosed (content (level i)) s)).rest.length ≤ _
  rw [left_enclosed]
  exact Nat.le_succ_of_le (hle i)

variable {docs : DocLines}

theorem lifts_agreeing_above {k : Nat} {limit : ι → Nat} {next : ι → Option Level}
    (h : Nests (Agreeing k) (fun i => ⟨limit i, docs⟩) next) :
    Lifts (Agreeing k) fun i => .above ⟨limit i, docs⟩ (next i) :=
  Lifts.above (lifting_agreeing k) h fun _ => rfl

/-- Levels with enough levels below them read alike. -/
theorem level_agreeing (limit : ι → Nat) {k : Nat} {n : ι → Nat} (hn : ∀ i, k ≤ n i) :
    Lifts (Agreeing k) fun i => level ⟨limit i, docs⟩ (n i) := by
  simp only [level_eq]
  apply lifts_agreeing_above
  induction k generalizing n with
  | zero => exact nests_agreeing_zero _ _
  | succ k ih =>
    obtain ⟨m, rfl⟩ : ∃ m : ι → Nat, n = fun i => m i + 1 :=
      ⟨fun i => n i - 1, funext fun i => (Nat.succ_pred_eq_of_pos (Nat.zero_lt_of_lt (hn i))).symm⟩
    refine nests_agreeing_succ ?_ _
    simp only [level_eq]
    exact lifts_agreeing_above (ih fun i => Nat.le_of_succ_le_succ (hn i))

/-- The level that reads without a limit: a run has as many levels below it as there are tokens
ahead. -/
def unlimited (docs : DocLines) : Level where
  basicName s := (level ⟨s.rest.length, docs⟩ s.rest.length).basicName s
  primary s := (level ⟨s.rest.length, docs⟩ s.rest.length).primary s
  components allowInclude terminator s :=
    (level ⟨s.rest.length, docs⟩ s.rest.length).components allowInclude terminator s

/-- With at most `k` tokens ahead a level reads as one with `k` more below it. -/
def Suffices (docs : DocLines) (L : Level) (k : Nat) : Prop :=
  ∀ limit, Lifts (Agreeing k) fun i => cond i L (level ⟨limit, docs⟩ k)

theorem unlimited_suffices (k : Nat) : Suffices docs (unlimited docs) k := by
  intro limit
  -- A run without a limit has as many levels below it as tokens are ahead.
  have hagree (s : Progress) (hs : s.rest.length ≤ k) : Lifts (Agreeing s.rest.length) fun i =>
      level ⟨cond i s.rest.length limit, docs⟩ (cond i s.rest.length k) :=
    level_agreeing _ (Bool.rec hs (Nat.le_refl _))
  have hboth {α : Type} {s : Progress} {runs runs' : Bool → EStateM.Result SchemaError Progress α}
      (hruns : ∀ i, runs' i = runs i) (h : s.rest.length ≤ k → Agreeing s.rest.length s runs) :
      Agreeing k s runs' := by
    intro hs
    obtain rfl : runs' = runs := funext hruns
    exact h hs (Nat.le_refl _)
  exact ⟨fun s => hboth (Bool.rec rfl rfl) fun hs => (hagree s hs).basicName s,
    fun s => hboth (Bool.rec rfl rfl) fun hs => (hagree s hs).primary s,
    fun _ _ s => hboth (Bool.rec rfl rfl) fun hs => (hagree s hs).components _ _ s⟩

/-- A level whose constructs are read at a level that suffices for fewer tokens. -/
theorem suffices_above {L : Level} {k : Nat} (h : ∀ j, j < k → Suffices docs L j) (limit : Nat) :
    Suffices docs (.above ⟨limit, docs⟩ (some L)) k := by
  intro limit'
  have hpair : (fun i => cond i (.above ⟨limit, docs⟩ (some L)) (level ⟨limit', docs⟩ k)) =
      fun i => .above ⟨cond i limit limit', docs⟩ (cond i (some L) (below ⟨limit', docs⟩ k)) := by
    funext i
    cases i with
    | false => exact level_eq _ _
    | true => rfl
  rw [hpair]
  apply lifts_agreeing_above
  cases k with
  | zero => exact nests_agreeing_zero _ _
  | succ k =>
    have hnext : (fun i => cond i (some L) (below ⟨limit', docs⟩ (k + 1))) =
        fun i => some (cond i L (level ⟨limit', docs⟩ k)) := by
      funext i
      cases i <;> rfl
    rw [hnext]
    exact @nests_agreeing_succ _ _ _ (h k (Nat.lt_succ_self k) limit') _

theorem eq_unlimited {L : Level} (h : ∀ k, Suffices docs L k) : L = unlimited docs := by
  have hbasicName : L.basicName = (unlimited docs).basicName :=
    funext fun s => ((h s.rest.length _).basicName s (Nat.le_refl _)).1 true false
  have hprimary : L.primary = (unlimited docs).primary :=
    funext fun s => ((h s.rest.length _).primary s (Nat.le_refl _)).1 true false
  have hcomponents : L.components = (unlimited docs).components :=
    funext fun allowInclude => funext fun terminator => funext fun s =>
      ((h s.rest.length _).components allowInclude terminator s (Nat.le_refl _)).1 true false
  cases L
  cases hbasicName
  cases hprimary
  cases hcomponents
  rfl

/-- The level without a limit is the one whose constructs are read at that level again. No limit is
consulted then. -/
theorem eq_above_iff (L : Level) (limit : Nat) :
    L = .above ⟨limit, docs⟩ (some L) ↔ L = unlimited docs := by
  constructor
  · intro h
    refine eq_unlimited fun k => ?_
    induction k using Nat.strongRecOn with
    | ind k ih =>
      rw [h]
      exact suffices_above ih limit
  · rintro rfl
    exact (eq_unlimited fun k => suffices_above (fun j _ => unlimited_suffices j) limit).symm

end RelaxCompact.Parser

/-! Every parser closes the levels that it opens -/

namespace RelaxCompact.Parser

open Surface Run Token

variable {α : Type}

/-! Levels are closed again -/

/-- From one place to a later one all levels that were opened are closed again. -/
structure Returns (s t : Progress) : Prop where
  rest : t.rest <:+ s.rest
  depth : t.depth = s.depth
  deepest : s.deepest ≤ t.deepest

theorem Passes.returns {s t : Progress} (h : Passes s t) : Returns s t :=
  ⟨h.rest, h.depth, Nat.le_of_eq h.deepest.symm⟩

theorem Returns.trans {s t u : Progress} (h : Returns s t) (h' : Returns t u) : Returns s u :=
  ⟨h'.rest.trans h.rest, h'.depth.trans h.depth, Nat.le_trans h.deepest h'.deepest⟩

/-- A construct is closed where its content was read one level deeper. -/
theorem Returns.closed {s t : Progress} (h : Returns (entered s) t) (opener : Token) :
    Returns { s with rest := opener :: s.rest } { t with depth := t.depth - 1 } where
  rest := h.rest.trans (List.suffix_cons opener s.rest)
  depth := congrArg Nat.pred h.depth
  deepest := Nat.le_trans (Nat.le_max_left _ _) h.deepest

/-- A run returns, however it ends. -/
def Returning {α : Type} (s : Progress) (runs : Unit → EStateM.Result SchemaError Progress α) :
    Prop :=
  Returns s (left (runs ()))

theorem lifting_returning : Lifting Returning where
  plain h s := (h s).returns
  bind {α β x f s} hx hf := by
    replace hx : Returns s (left (x () s)) := hx
    change Returns s (left ((x () >>= f ()) s))
    obtain ⟨hleft, -⟩ | ⟨a, t, hrun, hleft⟩ := left_bind (x ()) (f ()) s
    · rw [hleft]
      exact hx
    · rw [hrun] at hx
      rw [hleft]
      exact hx.trans (hf a t ⟨(), hrun⟩)

theorem nests_returning {next : Option Level}
    (h : ∀ level, next = some level → Lifts Returning fun _ => level) (setting : Setting) :
    Nests Returning (fun _ => setting) fun _ => next := by
  intro α content hcontent opener s _
  cases next with
  | none => exact ⟨List.suffix_cons opener s.rest, rfl, Nat.le_refl _⟩
  | some level =>
    have hinner := (h level rfl).inner lifting_returning hcontent (entered s)
    change Returns _ (left (enclosed (content level) s))
    rw [left_enclosed]
    exact hinner.closed opener

theorem level_returning (setting : Setting) (n : Nat) :
    Lifts Returning fun _ => level setting n := by
  induction n with
  | zero =>
    refine Lifts.above lifting_returning (nests_returning (fun _ he => ?_) setting) fun _ => rfl
    cases he
  | succ n ih =>
    refine Lifts.above lifting_returning (nests_returning (fun _ he => ?_) setting) fun _ => rfl
    cases he
    exact ih

theorem unlimited_returning (docs : DocLines) : Lifts Returning fun _ => unlimited docs where
  basicName s := (level_returning _ _).basicName s
  primary s := (level_returning _ _).primary s
  components allowInclude terminator s := (level_returning _ _).components allowInclude terminator s

/-! The first level too many -/

/-- A run fails with an error, with these tokens ahead. -/
def Stops (r : EStateM.Result SchemaError Progress α) (e : SchemaError) (rest : List Token) :
    Prop :=
  ∃ t, r = .error e t ∧ t.rest = rest

theorem Stops.bind {β : Type} {p : Parser α} {f : α → Parser β} {s : Progress} {e : SchemaError}
    {rest : List Token} (h : Stops (p s) e rest) : Stops ((p >>= f) s) e rest := by
  obtain ⟨t, hp, ht⟩ := h
  exact ⟨t, bind_of_error hp, ht⟩

theorem Stops.enclosed {p : Parser α} {s : Progress} {e : SchemaError} {rest : List Token}
    (h : Stops (p (entered s)) e rest) : Stops (enclosed p s) e rest := by
  obtain ⟨t, hp, ht⟩ := h
  refine ⟨{ t with depth := t.depth - 1 }, ?_, ht⟩
  unfold entered at hp
  unfold Parser.enclosed
  rw [hp]

/-- The level at which nothing is read: it stops at once, with an error that tells where. -/
def Level.refusing (e : Progress → SchemaError) : Level where
  basicName s := .error (e s) s
  primary s := .error (e s) s
  components _ _ s := .error (e s) s

theorem refusing_inner {content : Level → Parser α} (h : Inner content)
    (e : Progress → SchemaError) (s : Progress) :
    content (.refusing e) s = .error (e s) s := by
  cases h <;> rfl

/-- A level with `n` levels above it, itself not counted. -/
def stack (setting : Setting) (L : Level) : Nat → Level
  | 0 => L
  | n + 1 => .above setting (some (stack setting L n))

/-- Ways to read a file: with the limit, without it, or without it up to the first level too many,
where the reader stops and tells the place. -/
inductive Reader
  | limited
  | unlimited
  | probing (e : Progress → SchemaError)

namespace Reader

/-- What a reader has below a level that has `n` more below it under the limit. -/
def next (docs : DocLines) (limit n : Nat) : Reader → Option Level
  | limited => below ⟨limit, docs⟩ n
  | unlimited => some (Parser.unlimited docs)
  | probing e => some (stack ⟨limit, docs⟩ (.refusing e) n)

def level (docs : DocLines) (limit n : Nat) (reader : Reader) : Level :=
  .above ⟨limit, docs⟩ (reader.next docs limit n)

theorem next_succ (docs : DocLines) (limit n : Nat) (reader : Reader) :
    reader.next docs limit (n + 1) = some (reader.level docs limit n) := by
  cases reader with
  | limited => exact congrArg some (level_eq _ n)
  | unlimited => exact congrArg some ((eq_above_iff _ limit).mpr rfl)
  | probing e => rfl

end Reader

/-- The readers part behind an opener, which is one too many: the reader with the limit stops there
with its fault, and those that probe with theirs. -/
def Parting (limit : Nat) (s : Progress) (runs : Reader → EStateM.Result SchemaError Progress α) :
    Prop :=
  ∃ (opener : Token) (entry : Progress),
    opener.Opens ∧ opener :: entry.rest <:+ s.rest ∧ entry.depth = limit + 1 ∧
      Stops (runs .limited) (.unacceptable (.tooDeep limit) entry.rest.head?) entry.rest ∧
      ∀ e, Stops (runs (.probing e)) (e entry) entry.rest

theorem Parting.bind {β : Type} {limit : Nat} {s : Progress} {x : Reader → Parser α}
    {f : Reader → α → Parser β} (h : Parting limit s fun i => x i s) :
    Parting limit s fun i => (x i >>= f i) s := by
  obtain ⟨opener, entry, hopener, hsuffix, hdepth, hlimited, hprobing⟩ := h
  exact ⟨opener, entry, hopener, hsuffix, hdepth, hlimited.bind, fun e => (hprobing e).bind⟩

theorem Parting.of_suffix {limit : Nat} {s t : Progress}
    {runs : Reader → EStateM.Result SchemaError Progress α} (h : Parting limit t runs)
    (hts : t.rest <:+ s.rest) : Parting limit s runs := by
  obtain ⟨opener, entry, hopener, hsuffix, hrest⟩ := h
  exact ⟨opener, entry, hopener, hsuffix.trans hts, hrest⟩

/-- With `n` more levels allowed, the runs of all readers end alike and without a level too many, or
the readers part. -/
def Forking (limit n : Nat) {α : Type} (s : Progress)
    (runs : Reader → EStateM.Result SchemaError Progress α) : Prop :=
  s.depth + n = limit →
    Returns s (left (runs .unlimited)) ∧
    ((∀ reader, runs reader = runs .unlimited) ∧
        (left (runs .unlimited)).deepest ≤ max s.deepest limit ∨
      limit < (left (runs .unlimited)).deepest ∧ Parting limit s runs)

theorem lifting_forking (limit n : Nat) : Lifting (Forking limit n) where
  plain h s := fun _ => ⟨(h s).returns, .inl ⟨fun _ => rfl,
    Nat.le_trans (Nat.le_of_eq (h s).deepest) (Nat.le_max_left _ _)⟩⟩
  bind {α β x f s} hx hf := by
    intro hs
    obtain ⟨hreturns, hends⟩ := hx hs
    dsimp only at hreturns hends ⊢
    cases hrun : x .unlimited s with
    | error e t =>
      rw [hrun] at hreturns hends
      rw [bind_of_error hrun]
      refine ⟨hreturns, ?_⟩
      obtain ⟨hsame, hdeepest⟩ | ⟨hdeep, hparting⟩ := hends
      · exact .inl ⟨fun reader => bind_of_error (hsame reader), hdeepest⟩
      · exact .inr ⟨hdeep, hparting.bind⟩
    | ok a t =>
      rw [hrun] at hreturns hends
      replace hreturns : Returns s t := hreturns
      obtain ⟨hreturns', hends'⟩ := hf a t ⟨_, hrun⟩ (hreturns.depth ▸ hs)
      dsimp only at hreturns' hends'
      rw [bind_of_ok hrun]
      refine ⟨hreturns.trans hreturns', ?_⟩
      obtain ⟨hsame, hdeepest⟩ | ⟨hdeep, hparting⟩ := hends
      · replace hdeepest : t.deepest ≤ max s.deepest limit := hdeepest
        have hgo (reader : Reader) : (x reader >>= f reader) s = f reader a t :=
          bind_of_ok (hsame reader)
        simp only [hgo]
        obtain ⟨hsame', hdeepest'⟩ | ⟨hdeep, hparting⟩ := hends'
        · refine .inl ⟨hsame', Nat.le_trans hdeepest' ?_⟩
          exact Nat.max_le.mpr ⟨hdeepest, Nat.le_max_right _ _⟩
        · exact .inr ⟨hdeep, hparting.of_suffix hreturns.rest⟩
      · exact .inr ⟨Nat.lt_of_lt_of_le hdeep hreturns'.deepest, hparting.bind⟩

/-- At the limit, behind an opener the readers part. -/
theorem nests_forking_zero (docs : DocLines) (limit : Nat) :
    Nests (Forking limit 0) (fun _ => ⟨limit, docs⟩) (Reader.next docs limit 0) := by
  intro α content hcontent opener s hopener hs
  have hinner := (unlimited_returning docs).inner lifting_returning hcontent (entered s)
  replace hinner : Returns (entered s) (left (content (unlimited docs) (entered s))) := hinner
  have hdepth : (entered s).depth = limit + 1 := congrArg (· + 1) hs
  have hleft : left (nested ⟨limit, docs⟩ (Reader.next docs limit 0 .unlimited) content s) = _ :=
    left_enclosed _ s
  dsimp only
  rw [hleft]
  refine ⟨hinner.closed opener, .inr ⟨?_, opener, entered s, hopener, List.suffix_rfl, hdepth,
    ⟨s, rfl, rfl⟩, fun e => ?_⟩⟩
  · refine Nat.lt_of_lt_of_le ?_ hinner.deepest
    exact Nat.lt_of_lt_of_le (Nat.lt_of_lt_of_eq (Nat.lt_succ_self limit) hdepth.symm)
      (Nat.le_max_right _ _)
  · exact Stops.enclosed ⟨_, refusing_inner hcontent e _, rfl⟩

/-- Below the limit, one level fewer is allowed behind an opener. -/
theorem nests_forking_succ {docs : DocLines} {limit n : Nat}
    (h : Lifts (Forking limit n) (Reader.level docs limit n)) :
    Nests (Forking limit (n + 1)) (fun _ => ⟨limit, docs⟩) (Reader.next docs limit (n + 1)) := by
  intro α content hcontent opener s _ hs
  replace hs : s.depth + (n + 1) = limit := hs
  have hdepth : (entered s).depth + n = limit := by
    rw [← hs, Nat.add_comm n 1, ← Nat.add_assoc]
    rfl
  obtain ⟨hreturns, hends⟩ := h.inner (lifting_forking limit n) hcontent (entered s) hdepth
  dsimp only at hreturns hends ⊢
  simp only [Reader.next_succ]
  have hleft : left (enclosed (content (Reader.level docs limit n .unlimited)) s) = _ :=
    left_enclosed _ s
  dsimp only [nested]
  rw [hleft]
  refine ⟨hreturns.closed opener, ?_⟩
  obtain ⟨hsame, hdeepest⟩ |
    ⟨hdeep, opener', entry, hopener, hsuffix, hentry, hlimited, hprobing⟩ := hends
  · refine .inl ⟨fun reader => enclosed_congr (hsame reader), Nat.le_trans hdeepest ?_⟩
    have hentered : (entered s).deepest ≤ max s.deepest limit :=
      Nat.max_le.mpr ⟨Nat.le_max_left _ _, Nat.le_trans (by omega) (Nat.le_max_right _ _)⟩
    exact Nat.max_le.mpr ⟨hentered, Nat.le_max_right _ _⟩
  · exact .inr ⟨hdeep, opener', entry, hopener, hsuffix.trans (List.suffix_cons opener _), hentry,
      hlimited.enclosed, fun e => (hprobing e).enclosed⟩

theorem lifts_forking (docs : DocLines) (limit n : Nat) :
    Lifts (Forking limit n) (Reader.level docs limit n) := by
  induction n with
  | zero => exact Lifts.above (lifting_forking _ _) (nests_forking_zero docs limit) fun _ => rfl
  | succ n ih => exact Lifts.above (lifting_forking _ _) (nests_forking_succ ih) fun _ => rfl

/-! Parse methods -/

/-- What may be read inside the constructs of a level. -/
inductive Below (setting : Setting) : Option Level → Prop
  | nothing : Below setting none
  | level (n : Nat) : Below setting (some (level setting n))
  | unlimited : Below setting (some (unlimited setting.docs))

/-- The methods that read the parts of a file, with what may be read inside their constructs. -/
inductive Method (setting : Setting) (next : Option Level) : {α : Type} → Parser α → Prop
  | file (path : Text) : Method setting next (file path (.above setting next))
  | header : Method setting next header
  | declaration : Method setting next declaration?
  | namespaceUri : Method setting next namespaceUri
  | components (allowInclude : Bool) (terminator : TokenType) :
    Method setting next ((Level.above setting next).components allowInclude terminator)
  | component (allowInclude : Bool) :
    Method setting next (componentWith setting (Level.above setting next).primary next
      (if allowInclude = true then
        some ((Level.above setting next).components false (.symbol .rightBrace))
      else none))
  | define (head : Token) (name : DefineName) :
    Method setting next (defineWith setting (Level.above setting next).primary head name)
  | pattern : Method setting next (Level.above setting next).pattern
  | interleave : Method setting next (interleaveOf (Level.above setting next).primary)
  | sequence : Method setting next (sequenceOf (Level.above setting next).primary)
  | occurrence : Method setting next (postfixOf (Level.above setting next).primary)
  | primary : Method setting next (Level.above setting next).primary
  | bracedPattern : Method setting next (bracedPattern setting next)
  | datatype (type : Datatype) (span : Span) :
    Method setting next (datatypePattern setting next type span)
  | params : Method setting next params
  | nameClass : Method setting next (Level.above setting next).nameClass
  | basicName : Method setting next (Level.above setting next).basicName
  | nameException : Method setting next (nameException setting next)
  | nested {α : Type} {content : Level → Parser α} (h : Inner content) :
    Method setting next (nested setting next content)
  | inheritance : Method setting next inheritance
  | literal : Method setting next literal
  | startsParticle : Method setting next startsParticle
  | skipAnnotations : Method setting next skipAnnotations
  | skipAnnotationElements : Method setting next skipAnnotationElements
  | expect (type : TokenType) (fault : SyntaxFault) : Method setting next (expect type fault)
  | expectName (role : NameRole) : Method setting next (expectName role)
  | accept (type : TokenType) : Method setting next (accept type)

theorem Below.returning {setting : Setting} {next : Option Level} (h : Below setting next) :
    ∀ level, next = some level → Lifts Returning fun _ => level := by
  intro level he
  cases h with
  | nothing => cases he
  | level n =>
    cases he
    exact level_returning setting n
  | unlimited =>
    cases he
    exact unlimited_returning setting.docs

theorem Plain.depth {p : Parser α} (h : Plain p) (s : Progress) : (left (p s)).depth = s.depth :=
  (h s).depth

/-- A method closes the levels that it opens, whether it ends with a value or with an error. -/
theorem Method.depth_eq {setting : Setting} {next : Option Level} (hnext : Below setting next)
    {p : Parser α} (h : Method setting next p) (s : Progress) : (left (p s)).depth = s.depth := by
  have hnests : Nests Returning (fun _ => setting) fun _ => next :=
    nests_returning hnext.returning setting
  have hJ := lifting_returning
  have hlevel : Lifts Returning fun _ => Level.above setting next :=
    Lifts.above hJ hnests fun _ => rfl
  have hprimary (s : Progress) : Returning s fun _ => (Level.above setting next).primary s :=
    hlevel.primary s
  cases h with
  | file path => exact (hlevel.file hJ path s).depth
  | components allowInclude terminator => exact (hlevel.components allowInclude terminator s).depth
  | component allowInclude =>
    cases allowInclude with
    | false =>
      have hreturns := hJ.component hnests (fun _ => rfl) hprimary (.inl fun _ => rfl) s
      exact hreturns.depth
    | true =>
      have hreturns := hJ.component hnests (fun _ => rfl) hprimary
        (.inr ⟨_, fun _ => rfl, hlevel.components false (.symbol .rightBrace)⟩) s
      exact hreturns.depth
  | define head name => exact (hJ.define (fun _ => rfl) hprimary head name s).depth
  | pattern => exact (hJ.patternOf hprimary s).depth
  | interleave => exact (hJ.chain (hJ.sequenceOf hprimary) s).depth
  | sequence => exact (hJ.sequenceOf hprimary s).depth
  | occurrence => exact (hJ.postfixOf hprimary s).depth
  | primary => exact (hprimary s).depth
  | bracedPattern => exact (hJ.bracedPattern hnests s).depth
  | datatype type span => exact (hJ.datatypePattern hnests type span s).depth
  | nameClass => exact (hJ.nameClassOf hlevel.basicName s).depth
  | basicName => exact (hlevel.basicName s).depth
  | nameException => exact (hJ.nameException hnests s).depth
  | nested hinner =>
    have hopens : Opens ⟨.symbol .leftParen, [], {}, 1⟩ := opens_of_lexeme rfl (by decide)
    exact (hnests hinner _ s hopens).depth
  | header => exact Plain.header.depth s
  | declaration => exact Plain.declaration.depth s
  | namespaceUri => exact Plain.namespaceUri.depth s
  | params => exact Plain.params.depth s
  | inheritance => exact Plain.inheritance.depth s
  | literal => exact Plain.literal.depth s
  | startsParticle => exact Plain.startsParticle.depth s
  | skipAnnotations => exact Plain.skipAnnotations.depth s
  | skipAnnotationElements => exact Plain.skipAnnotationElements.depth s
  | expect type fault => exact (Plain.expect type fault).depth s
  | expectName role => exact (Plain.expectName role).depth s
  | accept type => exact (Plain.accept type).depth s

/-! Whole files -/

/-- The first construct that a file opens inside `limit` others begins at the tokens `rest`, behind its
opener: a reader without a limit, but with nothing that could be read inside such a construct, gets
there and no further, whatever it tells of the place. -/
def OpensAt (docs : DocLines) (path : Text) (limit : Nat) (tokens rest : List Token) : Prop :=
  ∃ entry : Progress, entry.rest = rest ∧ entry.depth = limit + 1 ∧
    ∀ e, Stops (file path (stack ⟨limit, docs⟩ (.refusing e) (limit + 1)) { rest := tokens })
      (e entry) rest

/-- Under a limit a file is read as without one, or refused where the first construct too many is
opened. -/
theorem file_of_limit (docs : DocLines) (path : Text) (limit : Nat) (tokens : List Token) :
    file path (top docs limit) { rest := tokens } =
        file path (unlimited docs) { rest := tokens } ∧
      (left (file path (unlimited docs) { rest := tokens })).deepest ≤ limit ∨
    limit < (left (file path (unlimited docs) { rest := tokens })).deepest ∧
      ∃ (before : List Token) (opener : Token) (rest : List Token),
        tokens = before ++ opener :: rest ∧ opener.Opens ∧ OpensAt docs path limit tokens rest ∧
          Stops (file path (top docs limit) { rest := tokens })
            (.unacceptable (.tooDeep limit) rest.head?) rest := by
  obtain ⟨-, hends⟩ := (lifts_forking docs limit limit).file (lifting_forking limit limit) path
    { rest := tokens } (Nat.zero_add limit)
  dsimp only at hends
  have hlimited : Reader.level docs limit limit .limited = top docs limit :=
    (level_eq _ _).symm
  have hunlimited : Reader.level docs limit limit .unlimited = unlimited docs :=
    ((eq_above_iff _ _).mpr rfl).symm
  obtain ⟨hsame, hshallow⟩ | ⟨hdeep, opener, entry, hopener, ⟨before, hbefore⟩, hdepth, hstops,
    hprobing⟩ := hends
  · replace hsame := hsame .limited
    rw [hlimited, hunlimited] at hsame
    rw [hunlimited, Nat.max_eq_right (Nat.zero_le limit)] at hshallow
    exact .inl ⟨hsame, hshallow⟩
  · rw [hunlimited] at hdeep
    dsimp only at hstops
    rw [hlimited] at hstops
    exact .inr ⟨hdeep, before, opener, entry.rest, hbefore.symm, hopener,
      ⟨entry, rfl, hdepth, hprobing⟩, hstops⟩

/-- The limit on nesting only cuts off. The level without a limit is the one that reads its
constructs at itself. Where it has at most `nestingLimit` levels open at once, the limited reader
ends as the unlimited one does; otherwise it refuses the token behind the opener of the first
construct too many. Every method closes the levels that it opens, however it ends. -/
theorem limit_cuts_off (docs : DocLines) (path : Text) (tokens : List Token) :
    (∀ (L : Level) (limit : Nat), L = .above ⟨limit, docs⟩ (some L) ↔ L = unlimited docs) ∧
    ((left (file path (unlimited docs) { rest := tokens })).deepest ≤ nestingLimit →
      file path (top docs) { rest := tokens } = file path (unlimited docs) { rest := tokens }) ∧
    (nestingLimit < (left (file path (unlimited docs) { rest := tokens })).deepest →
      ∃ (before : List Token) (opener : Token) (rest : List Token),
        tokens = before ++ opener :: rest ∧ opener.Opens ∧
          OpensAt docs path nestingLimit tokens rest ∧
          Stops (file path (top docs) { rest := tokens })
            (.unacceptable (.tooDeep nestingLimit) rest.head?) rest) ∧
    ∀ (setting : Setting) (next : Option Level), Below setting next →
      ∀ (α : Type) (p : Parser α), Method setting next p →
        ∀ s, (left (p s)).depth = s.depth := by
  refine ⟨eq_above_iff, fun hshallow => ?_, fun hdeep => ?_, fun setting next hnext α p hp s =>
    hp.depth_eq hnext s⟩
  · obtain ⟨hsame, -⟩ | ⟨hdeep, -⟩ := file_of_limit docs path nestingLimit tokens
    · exact hsame
    · exact absurd hdeep (Nat.not_lt.mpr hshallow)
  · obtain ⟨-, hshallow⟩ | ⟨-, hstops⟩ := file_of_limit docs path nestingLimit tokens
    · exact absurd hdeep (Nat.not_lt.mpr hshallow)
    · exact hstops

namespace Nested

/-- Tokens of which the parenthesis opens one level after the other. -/
def tokens : List Token :=
  List.replicate 65 ⟨.symbol .leftParen, [], {}, 1⟩ ++ [⟨.eof, [], {}, 0⟩]

/-- Of 65 parentheses the last is one too many. -/
theorem limit_cuts_off_parentheses :
    nestingLimit < (left (file [] (unlimited []) { rest := tokens })).deepest ∧
      ∃ rest, Stops (file [] (top []) { rest := tokens })
        (.unacceptable (.tooDeep nestingLimit) rest.head?) rest := by
  have hdeep : nestingLimit < (left (file [] (unlimited []) { rest := tokens })).deepest := by
    decide +kernel
  obtain ⟨_, _, rest, _, _, _, hstops⟩ := (limit_cuts_off [] [] tokens).2.2.1 hdeep
  exact ⟨hdeep, rest, hstops⟩

end Nested

end RelaxCompact.Parser
