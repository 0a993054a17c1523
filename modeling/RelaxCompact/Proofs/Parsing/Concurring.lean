import RelaxCompact.Parser.File
import RelaxCompact.Proofs.Run

/-!
Two runs of a parser over tokens with the same lexemes. No parser looks at the place of a token, and
documentation is only passed on, so both runs read the same, or stop at the same token.
-/

namespace RelaxCompact

open Surface

/-- Tokens with one lexeme. -/
def SameLexeme (t u : Token) : Prop := u.lexeme = t.lexeme

namespace SameLexeme

variable {t u : Token} (h : SameLexeme t u)

include h

theorem is (type : TokenType) : u.is type = t.is type := by
  rw [Token.is, Token.is, Token.type, Token.type, h]

theorem value : u.value = t.value := congrArg Lexeme.value h

theorem nameOf? : Parser.nameOf? u = Parser.nameOf? t := by
  rw [Parser.nameOf?, Parser.nameOf?, h]

theorem assignment? : Parser.assignment? u = Parser.assignment? t := by
  rw [Parser.assignment?, Parser.assignment?, h]

theorem postfixModifier? : Parser.postfixModifier? u = Parser.postfixModifier? t := by
  rw [Parser.postfixModifier?, Parser.postfixModifier?, h]

theorem isHeaderWord : Parser.isHeaderWord u = Parser.isHeaderWord t := by
  rw [Parser.isHeaderWord, Parser.isHeaderWord, h.is, h.is, h.is]

end SameLexeme

/-- Tokens in pairs. The two of a pair have one lexeme, and only the last may be the end of the
file. -/
structure Paired (ps : List (Token × Token)) : Prop where
  lexeme : ∀ p ∈ ps, SameLexeme p.1 p.2
  onward : ∀ p rest, p :: rest <:+ ps → p.1.lexeme ≠ .eof → rest ≠ []

namespace Parser

variable {α β α' β' : Type} {ps : List (Token × Token)} {R : α → α' → Prop} {T : β → β' → Prop}
  {S : Progress → Progress → Prop}

/-- Two runs stand at the tokens of one pair. -/
def Abreast (ps : List (Token × Token)) (s u : Progress) : Prop :=
  ∃ p rest, p :: rest <:+ ps ∧ s.rest = (p :: rest).map Prod.fst ∧ u.rest = (p :: rest).map Prod.snd

/-- Two runs end alike: with values that are related, or with one fault at the tokens of a pair. -/
inductive EndsAlike (ps : List (Token × Token)) (S : Progress → Progress → Prop)
    (R : α → α' → Prop) :
    EStateM.Result SchemaError Progress α → EStateM.Result SchemaError Progress α' → Prop
  | ok {a : α} {a' : α'} {s u : Progress} : R a a' → S s u → EndsAlike ps S R (.ok a s) (.ok a' u)
  | error {fault : SyntaxFault} {s u : Progress} : Abreast ps s u →
    EndsAlike ps S R (.error (.unacceptable fault s.rest.head?) s)
      (.error (.unacceptable fault u.rest.head?) u)

/-- From tokens of one pair two parsers end alike, in states related by `S`. -/
def Concur (ps : List (Token × Token)) (S : Progress → Progress → Prop) (R : α → α' → Prop)
    (x : Parser α) (y : Parser α') : Prop :=
  ∀ s u, Abreast ps s u → EndsAlike ps S R (x s) (y u)

/-- Two parsers of one kind of tree concur in what they read. -/
abbrev ConcurBy (ps : List (Token × Token)) (agrees : α → α → Bool) (x y : Parser α) : Prop :=
  Concur ps (Abreast ps) (fun a b => agrees a b = true) x y

/-- Two parsers concur where tokens with a given lexeme stand. -/
def ConcurAt (ps : List (Token × Token)) (l : Lexeme) (S : Progress → Progress → Prop)
    (R : α → α' → Prop) (x : Parser α) (y : Parser α') : Prop :=
  ∀ s u, Abreast ps s u → (∀ t ∈ s.rest.head?, t.lexeme = l) → EndsAlike ps S R (x s) (y u)

namespace Concur

variable {x : Parser α} {y : Parser α'}

theorem at_lexeme (h : Concur ps S R x y) (l : Lexeme) : ConcurAt ps l S R x y :=
  fun s u hsu _ => h s u hsu

theorem pure {a : α} {a' : α'} (h : R a a') : Concur ps (Abreast ps) R (pure a) (pure a') :=
  fun _ _ hsu => .ok h hsu

theorem bind {f : α → Parser β} {g : α' → Parser β'} (hx : Concur ps (Abreast ps) R x y)
    (hf : ∀ a a', R a a' → Concur ps S T (f a) (g a')) : Concur ps S T (x >>= f) (y >>= g) := by
  intro s u hsu
  have hend := hx s u hsu
  change EndsAlike ps S T (EStateM.bind x f s) (EStateM.bind y g u)
  unfold EStateM.bind
  revert hend
  generalize x s = rx
  generalize y u = ry
  rintro (⟨hR, hsu'⟩ | hsu')
  · exact hf _ _ hR _ _ hsu'
  · exact .error hsu'

/-- What both runs read alike is one value from there on. -/
theorem bind_eq {x y : Parser α} {f : α → Parser β} {g : α → Parser β'}
    (hx : Concur ps (Abreast ps) Eq x y) (hf : ∀ a, Concur ps S T (f a) (g a)) :
    Concur ps S T (x >>= f) (y >>= g) := by
  refine hx.bind ?_
  rintro a _ rfl
  exact hf a

theorem mono {R' : α → α' → Prop} (h : Concur ps S R x y) (hR : ∀ a a', R a a' → R' a a') :
    Concur ps S R' x y := by
  intro s u hsu
  have hend := h s u hsu
  revert hend
  generalize x s = rx
  generalize y u = ry
  rintro (⟨hab, hsu'⟩ | hsu')
  · exact .ok (hR _ _ hab) hsu'
  · exact .error hsu'

theorem cond {b : Bool} {x' : Parser α} {y' : Parser α'} (h : b = true → Concur ps S R x y)
    (h' : b = false → Concur ps S R x' y') :
    Concur ps S R (if b = true then x else x') (if b = true then y else y') := by
  cases b with
  | true => exact h rfl
  | false => exact h' rfl

theorem get {f : Progress → Parser α} {g : Progress → Parser α'}
    (h : ∀ s u, Abreast ps s u → Concur ps S R (f s) (g u)) :
    Concur ps S R (get >>= f) (get >>= g) :=
  fun s u hsu => h s u hsu s u hsu

end Concur

theorem ConcurAt.cond {l : Lexeme} {b : Bool} {x x' : Parser α} {y y' : Parser α'}
    (h : b = true → ConcurAt ps l S R x y) (h' : b = false → ConcurAt ps l S R x' y') :
    ConcurAt ps l S R (if b = true then x else x') (if b = true then y else y') := by
  cases b with
  | true => exact h rfl
  | false => exact h' rfl

theorem concur_fail (fault : SyntaxFault) :
    Concur ps S R (fail fault : Parser α) (fail fault : Parser α') :=
  fun _ _ hsu => .error hsu

theorem concur_remaining : Concur ps (Abreast ps) Eq remaining remaining := by
  intro s u hsu
  obtain ⟨p, rest, -, hs, hu⟩ := id hsu
  refine .ok ?_ hsu
  rw [hs, hu, List.length_map, List.length_map]

theorem concur_enclosed {x : Parser α} {y : Parser α'} (h : Concur ps (Abreast ps) R x y) :
    Concur ps (Abreast ps) R (enclosed x) (enclosed y) := by
  intro s u hsu
  have hend := h { s with depth := s.depth + 1, deepest := max s.deepest (s.depth + 1) }
    { u with depth := u.depth + 1, deepest := max u.deepest (u.depth + 1) } hsu
  unfold enclosed
  revert hend
  generalize x _ = rx
  generalize y _ = ry
  rintro (⟨hR, hsu'⟩ | @⟨fault, s', u', hsu'⟩)
  · exact .ok hR hsu'
  · have hclosed : Abreast ps { s' with depth := s'.depth - 1 } { u' with depth := u'.depth - 1 } :=
      hsu'
    exact .error hclosed

theorem ne_eof_of_is {t : Token} {type : TokenType} (h : t.is type = true) (htype : type ≠ .eof) :
    t.lexeme ≠ .eof := by
  intro heof
  exact htype ((of_decide_eq_true h).symm.trans (congrArg Lexeme.type heof))

section

variable (hps : Paired ps)

include hps

/-- Both runs see a token, and the tokens have one lexeme. -/
theorem concur_current {f : Option Token → Parser β} {g : Option Token → Parser β'}
    (h : ∀ t u, SameLexeme t u → ConcurAt ps t.lexeme S T (f (some t)) (g (some u))) :
    Concur ps S T (current >>= f) (current >>= g) := by
  intro s u hsu
  obtain ⟨p, rest, hsuffix, hs, hu⟩ := id hsu
  have hlexeme := hps.lexeme p (hsuffix.subset List.mem_cons_self)
  change EndsAlike ps S T (f s.rest.head? s) (g u.rest.head? u)
  rw [hs, hu]
  refine h p.1 p.2 hlexeme s u hsu fun t ht => ?_
  rw [hs] at ht
  cases ht
  rfl

/-- No run goes past the end of the file. -/
theorem concur_advance {l : Lexeme} (hl : l ≠ .eof) {x : Parser β} {y : Parser β'}
    (h : Concur ps S T x y) :
    ConcurAt ps l S T (advance >>= fun _ => x) (advance >>= fun _ => y) := by
  intro s u hsu hhead
  obtain ⟨p, rest, hsuffix, hs, hu⟩ := hsu
  have hp : p.1.lexeme = l := hhead p.1 (by rw [hs]; rfl)
  have hne := hps.onward p rest hsuffix (hp ▸ hl)
  cases rest with
  | nil => exact absurd rfl hne
  | cons p' rest =>
    refine h _ _ ⟨p', rest, (List.suffix_cons _ _).trans hsuffix, ?_, ?_⟩
    · exact congrArg List.tail hs
    · exact congrArg List.tail hu

theorem ConcurAt.following {l : Lexeme} {f : Option Token → Parser β} {g : Option Token → Parser β'}
    (h : ∀ o o', Option.Rel SameLexeme o o' → ConcurAt ps l S T (f o) (g o')) :
    ConcurAt ps l S T (following >>= f) (following >>= g) := by
  intro s u hsu hhead
  obtain ⟨p, rest, hsuffix, hs, hu⟩ := id hsu
  refine h s.rest[1]? u.rest[1]? ?_ s u hsu hhead
  rw [hs, hu]
  cases rest with
  | nil => exact .none
  | cons q rest =>
    exact .some (hps.lexeme q (hsuffix.subset (List.mem_cons_of_mem _ List.mem_cons_self)))

theorem concur_at (type : TokenType) : Concur ps (Abreast ps) Eq (at? type) (at? type) :=
  concur_current hps fun _ _ htu => (Concur.pure (htu.is type).symm).at_lexeme _

theorem concur_accept {type : TokenType} (htype : type ≠ .eof) :
    Concur ps (Abreast ps) Eq (accept type) (accept type) := by
  change Concur ps (Abreast ps) _
    (current >>= fun t => if t.any (·.is type) then advance >>= fun _ => pure true else pure false)
    (current >>= fun t => if t.any (·.is type) then advance >>= fun _ => pure true else pure false)
  refine concur_current hps fun t u htu => ?_
  rw [Option.any_some, Option.any_some, htu.is]
  refine ConcurAt.cond (fun htrue => ?_) fun _ => (Concur.pure rfl).at_lexeme _
  exact concur_advance hps (ne_eof_of_is htrue htype) (.pure rfl)

theorem concur_expect {type : TokenType} (htype : type ≠ .eof) (fault : SyntaxFault) :
    Concur ps (Abreast ps) SameLexeme (expect type fault) (expect type fault) := by
  refine concur_current hps fun t u htu => ?_
  dsimp only
  rw [htu.is]
  refine ConcurAt.cond (fun htrue => ?_) fun _ => (concur_fail fault).at_lexeme _
  exact concur_advance hps (ne_eof_of_is htrue htype) (.pure htu)

theorem concur_expectSymbol (s : Symbol) :
    Concur ps (Abreast ps) (fun _ _ => True) (expectSymbol s) (expectSymbol s) :=
  (concur_expect hps (show TokenType.symbol s ≠ .eof from nofun) _).bind fun _ _ _ => .pure trivial

theorem concur_expectName (role : NameRole) :
    Concur ps (Abreast ps) Eq (expectName role) (expectName role) := by
  refine concur_current hps fun t u htu => ?_
  rw [Option.bind_some, Option.bind_some, htu.nameOf?]
  cases h : nameOf? t with
  | none => exact (concur_fail _).at_lexeme _
  | some name =>
    refine concur_advance hps (fun heof => ?_) (.pure rfl)
    rw [nameOf?, heof] at h
    cases h

/-- The search for a closing bracket ends alike, and not at the end of the file. -/
theorem afterBrackets_paired {qs : List (Token × Token)} (hqs : qs <:+ ps) (depth : Nat) :
    (afterBrackets depth (qs.map Prod.fst) = none ∧ afterBrackets depth (qs.map Prod.snd) = none) ∨
      ∃ p rest, p :: rest <:+ qs ∧ afterBrackets depth (qs.map Prod.fst) =
          some ((p :: rest).map Prod.fst) ∧
        afterBrackets depth (qs.map Prod.snd) = some ((p :: rest).map Prod.snd) := by
  induction qs generalizing depth with
  | nil => exact .inl ⟨rfl, rfl⟩
  | cons q qs ih =>
    have hlexeme : q.2.lexeme = q.1.lexeme := hps.lexeme q (hqs.subset List.mem_cons_self)
    have hqs' := (List.suffix_cons q qs).trans hqs
    -- Within the annotation both runs go on alike.
    have hbehind (depth : Nat) :
        (afterBrackets depth (qs.map Prod.fst) = none ∧
          afterBrackets depth (qs.map Prod.snd) = none) ∨
        ∃ p rest, p :: rest <:+ q :: qs ∧ afterBrackets depth (qs.map Prod.fst) =
            some ((p :: rest).map Prod.fst) ∧
          afterBrackets depth (qs.map Prod.snd) = some ((p :: rest).map Prod.snd) := by
      rcases ih hqs' depth with hnone | ⟨p, rest, hsuffix, hrest⟩
      · exact .inl hnone
      · exact .inr ⟨p, rest, hsuffix.trans (List.suffix_cons q qs), hrest⟩
    rw [List.map_cons, List.map_cons, afterBrackets, afterBrackets, hlexeme]
    split
    case h_1 => exact hbehind (depth + 1)
    case h_2 hright =>
      by_cases hdepth : depth ≤ 1
      · rw [if_pos hdepth, if_pos hdepth]
        have hne := hps.onward q qs hqs (by simp [hright])
        cases qs with
        | nil => exact absurd rfl hne
        | cons p rest => exact .inr ⟨p, rest, List.suffix_cons _ _, rfl, rfl⟩
      · rw [if_neg hdepth, if_neg hdepth]
        exact hbehind (depth - 1)
    case h_3 => exact .inl ⟨rfl, rfl⟩
    case h_4 => exact hbehind depth

/-- Annotations are passed over alike. -/
theorem afterAnnotations_paired {p : Token × Token} {rest : List (Token × Token)}
    (hsuffix : p :: rest <:+ ps) : ∃ p' rest', p' :: rest' <:+ ps ∧
      (afterAnnotations ((p :: rest).map Prod.fst) = .ok ((p' :: rest').map Prod.fst) ∧
        afterAnnotations ((p :: rest).map Prod.snd) = .ok ((p' :: rest').map Prod.snd) ∨
      afterAnnotations ((p :: rest).map Prod.fst) = .error ((p' :: rest').map Prod.fst) ∧
        afterAnnotations ((p :: rest).map Prod.snd) = .error ((p' :: rest').map Prod.snd)) := by
  -- An annotation is passed over as a whole, so the induction is on the length.
  induction hn : rest.length using Nat.strongRecOn generalizing p rest with
  | ind n ih =>
    have his := (hps.lexeme p (hsuffix.subset List.mem_cons_self)).is (.symbol .leftBracket)
    rw [List.map_cons, List.map_cons, afterAnnotations.eq_def, afterAnnotations.eq_def (_ :: _)]
    dsimp only
    rw [his]
    by_cases hleft : p.1.is (.symbol .leftBracket) = true
    · rw [if_pos hleft, if_pos hleft]
      have hrest := (List.suffix_cons p rest).trans hsuffix
      rcases afterBrackets_paired hps hrest 1 with ⟨hnone, hnone'⟩ | ⟨q, after, hq, hsome, hsome'⟩
      · refine ⟨p, rest, hsuffix, .inr ⟨?_, ?_⟩⟩
        · split
          case h_1 h => cases hnone.symm.trans h
          case h_2 => rfl
        · split
          case h_1 h => cases hnone'.symm.trans h
          case h_2 => rfl
      · have hlength : after.length < n := by
          have hle := hq.length_le
          rw [List.length_cons] at hle
          omega
        obtain ⟨p', rest', hsuffix', hafter⟩ := ih after.length hlength (hq.trans hrest) rfl
        refine ⟨p', rest', hsuffix', ?_⟩
        split
        case h_2 h => cases hsome.symm.trans h
        case h_1 ts h =>
          cases hsome.symm.trans h
          split
          case h_2 h => cases hsome'.symm.trans h
          case h_1 us h =>
            cases hsome'.symm.trans h
            exact hafter
    · rw [if_neg hleft, if_neg hleft]
      exact ⟨p, rest, hsuffix, .inl ⟨rfl, rfl⟩⟩

theorem concur_skipAnnotations :
    Concur ps (Abreast ps) (fun _ _ => True) skipAnnotations skipAnnotations := by
  refine Concur.get fun s u hsu => ?_
  obtain ⟨p, rest, hsuffix, hs, hu⟩ := hsu
  rw [hs, hu]
  obtain ⟨p', rest', hsuffix', ⟨hok, hok'⟩ | ⟨herror, herror'⟩⟩ :=
    afterAnnotations_paired hps hsuffix
  · rw [hok, hok']
    exact fun s' u' _ => .ok trivial ⟨p', rest', hsuffix', rfl, rfl⟩
  · rw [herror, herror']
    exact fun s' u' _ => .error ⟨p', rest', hsuffix', rfl, rfl⟩

theorem concur_literal : Concur ps (Abreast ps) Eq literal literal := by
  refine (concur_expect hps (by nofun) _).bind fun t u htu => ?_
  rw [htu.value]
  generalize t.value = text
  refine concur_remaining.bind_eq fun n => ?_
  induction n generalizing text with
  | zero => exact .pure rfl
  | succ n ih =>
    refine (concur_accept hps (by nofun)).bind_eq fun b => ?_
    refine .cond (fun _ => ?_) fun _ => .pure rfl
    refine (concur_expect hps (by nofun) _).bind fun t u htu => ?_
    rw [htu.value]
    exact ih _

theorem concur_literalOr (fault : SyntaxFault) :
    Concur ps (Abreast ps) Eq (literalOr fault) (literalOr fault) := by
  refine (concur_at hps _).bind_eq fun b => ?_
  exact .cond (fun _ => concur_literal hps) fun _ => concur_fail _

theorem concur_inheritance : Concur ps (Abreast ps) Eq inheritance inheritance := by
  refine (concur_accept hps (by nofun)).bind_eq fun b => ?_
  refine .cond (fun _ => ?_) fun _ => .pure rfl
  refine (concur_expectSymbol hps _).bind fun _ _ _ => ?_
  refine (concur_expectName hps _).bind_eq fun name => ?_
  exact .pure rfl

theorem concur_chain (op : Symbol) {x : Parser α} {y : Parser α'} (h : Concur ps (Abreast ps) R x y)
    {combine : α → α → α} {combine' : α' → α' → α'}
    (hcombine : ∀ a b a' b', R a a' → R b b' → R (combine a b) (combine' a' b')) :
    Concur ps (Abreast ps) R (chain op x combine) (chain op y combine') := by
  refine h.bind fun left left' hleft => concur_remaining.bind_eq fun n => ?_
  induction n generalizing left left' with
  | zero => exact .pure hleft
  | succ n ih =>
    refine (concur_accept hps (by nofun)).bind_eq fun b => ?_
    refine .cond (fun _ => ?_) fun _ => .pure hleft
    exact h.bind fun right right' hright => ih _ _ (hcombine _ _ _ _ hleft hright)

end

/-! Levels -/

attribute [local simp] Surface.NameClass.agrees Pattern.agrees Component.agrees Component.allAgree

/-- The parsers of two levels concur. -/
structure Level.Concurs (ps : List (Token × Token)) (level level' : Level) : Prop where
  basicName : ConcurBy ps NameClass.agrees level.basicName level'.basicName
  primary : ConcurBy ps Pattern.agrees level.primary level'.primary
  components : ∀ allowInclude terminator,
    ConcurBy ps Component.allAgree
      (level.components allowInclude terminator) (level'.components allowInclude terminator)

/-- Two settings that allow as many levels, and the levels below, which concur. -/
structure Settled (ps : List (Token × Token)) (setting setting' : Setting)
    (next next' : Option Level) : Prop where
  limit : setting'.limit = setting.limit
  next : Option.Rel (Level.Concurs ps) next next'

section

variable {setting setting' : Setting} {next next' : Option Level}
  {basicName basicName' : Parser Surface.NameClass} {primary primary' : Parser Pattern}
  (hps : Paired ps) (hset : Settled ps setting setting' next next')

include hset in
theorem concur_nested {content : Level → Parser α} {content' : Level → Parser α'}
    (h : ∀ level level', Level.Concurs ps level level' →
      Concur ps (Abreast ps) R (content level) (content' level')) :
    Concur ps (Abreast ps) R (nested setting next content) (nested setting' next' content') := by
  obtain ⟨hlimit, hnext⟩ := hset
  unfold nested
  cases hnext with
  | none =>
    dsimp only
    rw [hlimit]
    exact concur_fail _
  | some hlevel => exact concur_enclosed (h _ _ hlevel)

include hps hset in
/-- What is nested, up to the symbol behind it. -/
theorem concur_delimited {content : Level → Parser α} {content' : Level → Parser α'}
    (h : ∀ level level', Level.Concurs ps level level' →
      Concur ps (Abreast ps) R (content level) (content' level')) (s : Symbol)
    {f : α → β} {f' : α' → β'} (hf : ∀ a a', R a a' → T (f a) (f' a')) :
    Concur ps (Abreast ps) T
      (do
        let a ← nested setting next content
        expectSymbol s
        return f a)
      (do
        let a ← nested setting' next' content'
        expectSymbol s
        return f' a) :=
  (concur_nested hset h).bind fun _ _ ha =>
    (concur_expectSymbol hps s).bind fun _ _ _ => .pure (hf _ _ ha)

include hps in
theorem concur_nameClassOf
    (h : ConcurBy ps NameClass.agrees basicName basicName') :
    ConcurBy ps NameClass.agrees (nameClassOf basicName) (nameClassOf basicName') := by
  refine concur_chain hps _ h fun a b a' b' ha hb => ?_
  rw [Surface.NameClass.agrees, ha, hb]
  rfl

include hps hset in
theorem concur_nameException :
    Concur ps (Abreast ps) (Option.Rel fun a b => a.agrees b = true) (nameException setting next)
      (nameException setting' next') := by
  refine (concur_accept hps (by nofun)).bind_eq fun b => ?_
  refine .cond (fun _ => ?_) fun _ => .pure .none
  exact (concur_nested hset fun _ _ h => h.basicName).bind fun _ _ h => .pure (.some h)

include hps hset in
theorem concur_basicNameWith :
    ConcurBy ps NameClass.agrees (basicNameWith setting next)
      (basicNameWith setting' next') := by
  refine (concur_skipAnnotations hps).bind fun _ _ _ => concur_current hps fun t u htu => ?_
  dsimp only
  rw [htu]
  generalize t.lexeme = l
  cases l
  case identifier name =>
    refine concur_advance hps (by nofun) (.pure ?_)
    simp
  case keyword k =>
    refine concur_advance hps (by nofun) (.pure ?_)
    simp
  case prefixedName qualifier localName =>
    refine concur_advance hps (by nofun) (.pure ?_)
    simp
  case nsName qualifier =>
    refine concur_advance hps (by nofun)
      ((concur_nameException hps hset).bind fun e e' he => .pure ?_)
    cases he with
    | none => simp
    | some h => simpa using h
  case symbol s =>
    cases s
    case star =>
      refine concur_advance hps (by nofun)
        ((concur_nameException hps hset).bind fun e e' he => .pure ?_)
      cases he with
      | none => rfl
      | some h => exact h
    case leftParen =>
      refine concur_advance hps (by nofun) (concur_delimited hps hset ?_ _ fun a a' ha => ha)
      exact fun level level' h => concur_nameClassOf hps h.basicName
    all_goals exact (concur_fail _).at_lexeme _
  all_goals exact (concur_fail _).at_lexeme _

include hps in
/-- Whether an assignment or a bracket is next is told by the lexeme of the next token. -/
theorem next_paired {p : Token × Token} {rest : List (Token × Token)} (hsuffix : p :: rest <:+ ps) :
    (rest.map Prod.snd).head?.bind assignment? = (rest.map Prod.fst).head?.bind assignment? ∧
      (rest.map Prod.snd).head?.any (·.is (.symbol .leftBracket)) =
        (rest.map Prod.fst).head?.any (·.is (.symbol .leftBracket)) := by
  cases rest with
  | nil => exact ⟨rfl, rfl⟩
  | cons q rest =>
    have hq := hps.lexeme q (hsuffix.subset (List.mem_cons_of_mem _ List.mem_cons_self))
    exact ⟨hq.assignment?, hq.is _⟩

include hps in
/-- Whether a sequence goes on is told by the lexemes of two tokens. -/
theorem continuesSequence_paired {p : Token × Token} {rest : List (Token × Token)}
    (hsuffix : p :: rest <:+ ps) :
    continuesSequence ((p :: rest).map Prod.fst) =
      continuesSequence ((p :: rest).map Prod.snd) := by
  have hhead : p.2.lexeme = p.1.lexeme := hps.lexeme p (hsuffix.subset List.mem_cons_self)
  obtain ⟨hassignment, hbracket⟩ := next_paired hps hsuffix
  rw [List.map_cons, List.map_cons, continuesSequence, continuesSequence, hhead, hassignment,
    hbracket]

include hps in
theorem concur_startsParticle : Concur ps (Abreast ps) Eq startsParticle startsParticle := by
  refine Concur.get fun s u hsu => ?_
  obtain ⟨p, rest, hsuffix, hs, hu⟩ := hsu
  rw [hs, hu]
  obtain ⟨p', rest', hsuffix', ⟨hok, hok'⟩ | ⟨herror, herror'⟩⟩ :=
    afterAnnotations_paired hps hsuffix
  · rw [hok, hok']
    exact .pure (continuesSequence_paired hps hsuffix')
  · rw [herror, herror']
    exact .pure rfl

include hps in
theorem concur_postfixOf
    (h : ConcurBy ps Pattern.agrees primary primary') :
    ConcurBy ps Pattern.agrees (postfixOf primary) (postfixOf primary') := by
  refine h.bind fun a a' ha => concur_remaining.bind_eq fun n => ?_
  induction n generalizing a a' with
  | zero => exact .pure ha
  | succ n ih =>
    refine concur_current hps fun t u htu => ?_
    rw [Option.bind_some, Option.bind_some, htu.postfixModifier?]
    cases hm : postfixModifier? t with
    | none =>
      refine Concur.at_lexeme (.pure ?_) _
      exact ha
    | some m =>
      refine concur_advance hps (fun heof => ?_) (ih _ _ ?_)
      · rw [postfixModifier?, heof] at hm
        cases hm
      · simpa using ha

include hps in
theorem concur_sequenceOf
    (h : ConcurBy ps Pattern.agrees primary primary') :
    ConcurBy ps Pattern.agrees (sequenceOf primary) (sequenceOf primary') := by
  refine (concur_postfixOf hps h).bind fun left left' hleft => concur_remaining.bind_eq fun n => ?_
  induction n generalizing left left' with
  | zero => exact .pure hleft
  | succ n ih =>
    refine (concur_accept hps (by nofun)).bind_eq fun comma => ?_
    refine (concur_startsParticle hps).bind_eq fun particle => ?_
    refine .cond (fun _ => ?_) fun _ => .pure hleft
    refine (concur_postfixOf hps h).bind fun right right' hright => ih _ _ ?_
    simp [hleft, hright]

include hps in
theorem concur_patternOf
    (h : ConcurBy ps Pattern.agrees primary primary') :
    ConcurBy ps Pattern.agrees (patternOf primary) (patternOf primary') := by
  refine concur_chain hps _ (concur_chain hps _ (concur_sequenceOf hps h) ?_) ?_
  · intro a b a' b' ha hb
    simp [ha, hb]
  · intro a b a' b' ha hb
    simp [ha, hb]

include hps in
theorem Level.Concurs.pattern {level level' : Level} (h : Level.Concurs ps level level') :
    ConcurBy ps Pattern.agrees level.pattern level'.pattern :=
  concur_patternOf hps h.primary

include hps hset in
theorem concur_bracedPattern :
    ConcurBy ps Pattern.agrees (bracedPattern setting next)
      (bracedPattern setting' next') :=
  (concur_expectSymbol hps _).bind fun _ _ _ =>
    concur_delimited hps hset (fun _ _ h => h.pattern hps) _ fun _ _ ha => ha

include hps in
theorem concur_params : Concur ps (Abreast ps) Eq params params := by
  refine (concur_expectSymbol hps _).bind fun _ _ _ => concur_remaining.bind_eq fun n => ?_
  induction n with
  | zero => exact (concur_expectSymbol hps _).bind fun _ _ _ => .pure rfl
  | succ n ih =>
    refine (concur_accept hps (by nofun)).bind_eq fun b => ?_
    refine .cond (fun _ => .pure rfl) fun _ => ?_
    refine (concur_skipAnnotations hps).bind fun _ _ _ => ?_
    refine (concur_expectName hps _).bind_eq fun name => ?_
    refine (concur_expectSymbol hps _).bind fun _ _ _ => ?_
    refine (concur_literalOr hps _).bind_eq fun value => ?_
    refine ih.bind_eq fun params => ?_
    exact .pure rfl

include hps hset in
theorem concur_datatypePattern (type : Datatype) (span span' : Span) :
    ConcurBy ps Pattern.agrees (datatypePattern setting next type span)
      (datatypePattern setting' next' type span') := by
  have hexception (params : List (String × Text)) :
      ConcurBy ps Pattern.agrees (do
          let exception ←
            if ← accept (.symbol .minus) then
              some <$> nested setting next (·.primary)
            else pure none
          return Pattern.data type params exception span)
        (do
          let exception ←
            if ← accept (.symbol .minus) then
              some <$> nested setting' next' (·.primary)
            else pure none
          return Pattern.data type params exception span') := by
    refine (concur_accept hps (by nofun)).bind_eq fun b => ?_
    refine .cond (fun _ => ?_) fun _ => .pure ?_
    · rw [map_eq_pure_bind, map_eq_pure_bind]
      have hnested : ConcurBy ps Pattern.agrees
          (nested setting next (·.primary)) (nested setting' next' (·.primary)) :=
        concur_nested hset fun _ _ h => h.primary
      have hsome := hnested.bind (T := Option.Rel fun (a b : Pattern) => a.agrees b = true)
        fun e e' he => .pure (.some he)
      refine hsome.bind fun e e' he => .pure ?_
      cases he with
      | none => simp
      | some he => simpa using he
    · simp
  refine (concur_at hps _).bind_eq fun b => ?_
  refine .cond (fun _ => (concur_literal hps).bind ?_) fun _ => (concur_at hps _).bind ?_
  · rintro value _ rfl
    refine .pure ?_
    simp
  · rintro b _ rfl
    cases b with
    | true =>
      refine (concur_params hps).bind_eq fun params => ?_
      exact hexception params
    | false => exact hexception []

include hps hset in
theorem concur_primaryWith
    (h : ConcurBy ps NameClass.agrees basicName basicName') :
    ConcurBy ps Pattern.agrees (primaryWith setting basicName next)
      (primaryWith setting' basicName' next') := by
  refine (concur_skipAnnotations hps).bind fun _ _ _ => concur_current hps fun t u htu => ?_
  dsimp only
  rw [htu]
  generalize t.lexeme = l, t.span = span, u.span = span'
  have hnamed (holder : Holder) : ConcurBy ps Pattern.agrees (do
        let name ← nameClassOf basicName
        return Pattern.named holder name (← bracedPattern setting next) span)
      (do
        let name ← nameClassOf basicName'
        return Pattern.named holder name (← bracedPattern setting' next') span') := by
    refine (concur_nameClassOf hps h).bind fun name name' hname => ?_
    refine (concur_bracedPattern hps hset).bind fun p p' hp => .pure ?_
    simp [hname, hp]
  have hwrapped (modifier : Modifier) : ConcurBy ps Pattern.agrees
      (do return Pattern.unary modifier (← bracedPattern setting next) span)
      (do return Pattern.unary modifier (← bracedPattern setting' next') span') := by
    refine (concur_bracedPattern hps hset).bind fun p p' hp => .pure ?_
    simp [hp]
  have hleaf (leaf : Leaf) : ConcurBy ps Pattern.agrees
      (return Pattern.leaf leaf span) (return Pattern.leaf leaf span') := by
    refine .pure ?_
    simp
  have hdatatype (type : Datatype) := concur_datatypePattern hps hset type span span'
  cases l
  case keyword k =>
    cases k
    case element => exact concur_advance hps (by nofun) (hnamed .element)
    case attr => exact concur_advance hps (by nofun) (hnamed .attr)
    case list => exact concur_advance hps (by nofun) (hwrapped .list)
    case mixed => exact concur_advance hps (by nofun) (hwrapped .mixed)
    case empty => exact concur_advance hps (by nofun) (hleaf .empty)
    case text => exact concur_advance hps (by nofun) (hleaf .text)
    case notAllowed => exact concur_advance hps (by nofun) (hleaf .notAllowed)
    case string => exact concur_advance hps (by nofun) (hdatatype _)
    case token => exact concur_advance hps (by nofun) (hdatatype _)
    case parent =>
      refine concur_advance hps (by nofun) ((concur_expect hps (by nofun) _).bind ?_)
      intro name name' hname
      refine .pure ?_
      simp [SameLexeme.nameOf? hname]
    case external =>
      refine concur_advance hps (by nofun) ((concur_literalOr hps _).bind_eq fun href => ?_)
      refine (concur_inheritance hps).bind_eq fun inherit => ?_
      refine .pure ?_
      simp
    case grammar =>
      refine concur_advance hps (by nofun) ((concur_expectSymbol hps _).bind fun _ _ _ => ?_)
      refine concur_delimited hps hset (fun _ _ h => h.components _ _) _ fun cs cs' hcs => ?_
      simpa using hcs
    all_goals exact (concur_fail _).at_lexeme _
  case identifier name =>
    refine concur_advance hps (by nofun) (.pure ?_)
    simp
  case prefixedName qualifier localName => exact concur_advance hps (by nofun) (hdatatype _)
  case literal value =>
    refine Concur.at_lexeme ((concur_literal hps).bind ?_) _
    rintro value _ rfl
    refine .pure ?_
    simp
  case symbol s =>
    cases s
    case leftParen =>
      refine concur_advance hps (by nofun) ?_
      exact concur_delimited hps hset (fun _ _ h => h.pattern hps) _ fun _ _ hp => hp
    all_goals exact (concur_fail _).at_lexeme _
  all_goals exact (concur_fail _).at_lexeme _

/-! Components -/

include hps in
theorem concur_skipAnnotationElements :
    Concur ps (Abreast ps) (fun _ _ => True) skipAnnotationElements skipAnnotationElements := by
  refine concur_remaining.bind_eq fun n => ?_
  induction n with
  | zero => exact .pure trivial
  | succ n ih =>
    let elements : Parser Unit := do
      let head ← current
      let next ← following
      if head.any (·.is .prefixedName) && next.any (·.is (.symbol .leftBracket)) then
        advance
        skipAnnotations
        skipAnnotationElements.go n
      else return
    change Concur ps (Abreast ps) _ elements elements
    refine concur_current hps fun t u htu => ConcurAt.following hps fun o o' ho => ?_
    have hnext : o'.any (·.is (.symbol .leftBracket)) = o.any (·.is (.symbol .leftBracket)) := by
      cases ho with
      | none => rfl
      | some ho => exact ho.is _
    rw [Option.any_some, Option.any_some, htu.is, hnext]
    refine ConcurAt.cond (fun hboth => ?_) fun _ => (Concur.pure trivial).at_lexeme _
    have hname := (Bool.and_eq_true_iff.mp hboth).1
    refine concur_advance hps (ne_eof_of_is hname (by nofun)) ?_
    exact (concur_skipAnnotations hps).bind fun _ _ _ => ih

include hps in
theorem concur_defineWith (h : ConcurBy ps Pattern.agrees primary primary')
    {head head' : Token} (hhead : SameLexeme head head') (hne : head.lexeme ≠ .eof)
    (name : DefineName) :
    ConcurAt ps head.lexeme (Abreast ps) (fun a b => a.agrees b = true)
      (defineWith setting primary head name) (defineWith setting' primary' head' name) := by
  refine concur_advance hps hne (concur_current hps fun t u htu => ?_)
  rw [Option.bind_some, Option.bind_some, htu.assignment?, hhead.value]
  cases hoperator : assignment? t with
  | none => exact (concur_fail _).at_lexeme _
  | some operator =>
    refine concur_advance hps (fun heof => ?_) ((concur_patternOf hps h).bind fun p p' hp => ?_)
    · rw [assignment?, heof] at hoperator
      cases hoperator
    · refine .pure ?_
      simp [hp]

include hps in
theorem concur_componentsOf {component component' : Parser Component}
    (h : ConcurBy ps Component.agrees component component')
    (terminator : TokenType) :
    ConcurBy ps Component.allAgree
      (componentsOf component terminator) (componentsOf component' terminator) := by
  refine concur_remaining.bind_eq fun n => ?_
  induction n with
  | zero =>
    refine (concur_at hps _).bind_eq fun b => ?_
    refine .cond (fun _ => .pure ?_) fun _ => concur_fail _
    simp
  | succ n ih =>
    refine (concur_skipAnnotations hps).bind fun _ _ _ => ?_
    refine (concur_skipAnnotationElements hps).bind fun _ _ _ => ?_
    refine (concur_at hps _).bind_eq fun b => ?_
    refine .cond (fun _ => .pure ?_) fun _ => ?_
    · simp
    · refine h.bind fun c c' hc => ih.bind fun cs cs' hcs => .pure ?_
      simp [hc, hcs]

include hps hset in
theorem concur_componentWith
    (h : ConcurBy ps Pattern.agrees primary primary')
    {overrides overrides' : Option (Parser (List Component))}
    (ho : Option.Rel (Concur ps (Abreast ps) fun a b => Component.allAgree a b = true) overrides
      overrides') :
    ConcurBy ps Component.agrees (componentWith setting primary next overrides)
      (componentWith setting' primary' next' overrides') := by
  refine concur_current hps fun t u htu => ?_
  have hdefine : t.lexeme ≠ .eof → ∀ name, ConcurAt ps t.lexeme (Abreast ps)
      (fun a b => a.agrees b = true) (defineWith setting primary t name)
      (defineWith setting' primary' u name) :=
    concur_defineWith hps h htu
  dsimp only
  rw [htu, htu.value]
  generalize t.lexeme = l, t.span = span, u.span = span' at hdefine ⊢
  cases l
  case identifier name => exact hdefine (by nofun) _
  case keyword k =>
    cases k
    case start => exact hdefine (by nofun) _
    case div =>
      refine concur_advance hps (by nofun) ((concur_expectSymbol hps _).bind fun _ _ _ => ?_)
      have hsome : overrides'.isSome = overrides.isSome := by
        cases ho with
        | none => rfl
        | some => rfl
      rw [hsome]
      refine concur_delimited hps hset (fun _ _ h => h.components _ _) _ fun cs cs' hcs => ?_
      simpa using hcs
    case incl =>
      cases ho with
      | none => exact (concur_fail _).at_lexeme _
      | some ho =>
        refine concur_advance hps (by nofun) ((concur_literalOr hps _).bind_eq fun href => ?_)
        refine (concur_inheritance hps).bind_eq fun inherit => ?_
        refine (concur_accept hps (by nofun)).bind_eq fun b => ?_
        refine .cond (fun _ => ho.bind fun cs cs' hcs => ?_) fun _ => .pure ?_
        · refine (concur_expectSymbol hps _).bind fun _ _ _ => .pure ?_
          simpa using hcs
        · simp
    all_goals exact (concur_fail _).at_lexeme _
  all_goals exact (concur_fail _).at_lexeme _

include hps hset in
theorem concurs_above :
    Level.Concurs ps (Level.above setting next) (Level.above setting' next') := by
  have hname := concur_basicNameWith hps hset
  have hprimary := concur_primaryWith hps hset hname
  have hplain := concur_componentWith hps hset hprimary .none
  refine ⟨hname, hprimary, fun allowInclude terminator => concur_componentsOf hps ?_ _⟩
  cases allowInclude with
  | false => exact hplain
  | true =>
    exact concur_componentWith hps hset hprimary (.some (concur_componentsOf hps hplain _))

end

theorem concurs_level (hps : Paired ps) {setting setting' : Setting}
    (hlimit : setting'.limit = setting.limit) (n : Nat) :
    Level.Concurs ps (level setting n) (level setting' n) := by
  induction n with
  | zero => exact concurs_above hps ⟨hlimit, .none⟩
  | succ n ih => exact concurs_above hps ⟨hlimit, .some ih⟩

theorem concurs_top (hps : Paired ps) (docs docs' : DocLines) (limit : Nat) :
    Level.Concurs ps (top docs limit) (top docs' limit) :=
  @concurs_level ps hps ⟨limit, docs⟩ ⟨limit, docs'⟩ rfl limit

/-! Files -/

section

variable (hps : Paired ps)

include hps

theorem concur_namespaceUri : Concur ps (Abreast ps) Eq namespaceUri namespaceUri := by
  refine (concur_accept hps (by nofun)).bind_eq fun b => ?_
  refine .cond (fun _ => .pure rfl) fun _ => (concur_literalOr hps _).bind_eq fun uri => ?_
  exact .pure rfl

theorem concur_declaration? :
    Concur ps (Abreast ps) (Option.Rel fun a b => a.agrees b = true) declaration? declaration? := by
  refine concur_current hps fun t u htu => ?_
  dsimp only
  rw [htu]
  generalize t.lexeme = l, t.span = span, u.span = span'
  have hbinding (qualifier : Option String) (isDefault : Bool) :
      Concur ps (Abreast ps) (Option.Rel fun (a b : Declaration) => a.agrees b = true)
        (do
          expectSymbol .assign
          return some (Declaration.binding qualifier (← namespaceUri) isDefault span))
        (do
          expectSymbol .assign
          return some (Declaration.binding qualifier (← namespaceUri) isDefault span')) := by
    refine (concur_expectSymbol hps _).bind fun _ _ _ => ?_
    refine (concur_namespaceUri hps).bind_eq fun uri => ?_
    refine .pure (.some ?_)
    simp [Declaration.agrees]
  cases l
  case keyword k =>
    cases k
    case ns =>
      refine concur_advance hps (by nofun) ((concur_expectName hps _).bind_eq fun qualifier => ?_)
      exact hbinding (some qualifier) false
    case default =>
      refine concur_advance hps (by nofun) ((concur_expect hps (by nofun) _).bind fun _ _ _ => ?_)
      refine (concur_at hps _).bind_eq fun b => ?_
      refine .cond (fun _ => hbinding none true) fun _ => ?_
      rw [map_eq_pure_bind]
      have hname := (concur_expectName hps .namespaceQualifier).bind (T := Eq)
        fun a a' ha => .pure (congrArg some ha)
      refine hname.bind_eq fun qualifier => ?_
      exact hbinding qualifier true
    case datatypes =>
      refine concur_advance hps (by nofun) ((concur_expectName hps _).bind_eq fun qualifier => ?_)
      refine (concur_expectSymbol hps _).bind fun _ _ _ => ?_
      refine (concur_literalOr hps _).bind_eq fun uri => ?_
      refine .pure (.some ?_)
      simp [Declaration.agrees]
    all_goals exact Concur.at_lexeme (.pure .none) _
  all_goals exact Concur.at_lexeme (.pure .none) _

theorem concur_header :
    Concur ps (Abreast ps) (fun a b => File.declarationsAgree a b = true) header header := by
  refine concur_remaining.bind_eq fun n => ?_
  induction n with
  | zero =>
    refine .pure ?_
    simp [File.declarationsAgree]
  | succ n ih =>
    refine (concur_skipAnnotations hps).bind fun _ _ _ => ?_
    refine (concur_declaration? hps).bind fun d d' hd => ?_
    cases hd with
    | none =>
      refine .pure ?_
      simp [File.declarationsAgree]
    | some hd =>
      refine ih.bind fun ds ds' hds => .pure ?_
      simp [File.declarationsAgree, hd, hds]

/-- Whether a file has components is told by the lexemes of two tokens. -/
theorem startsComponents_paired {p : Token × Token} {rest : List (Token × Token)}
    (hsuffix : p :: rest <:+ ps) :
    startsComponents ((p :: rest).map Prod.snd) = startsComponents ((p :: rest).map Prod.fst) := by
  have hhead := hps.lexeme p (hsuffix.subset List.mem_cons_self)
  obtain ⟨hassignment, hbracket⟩ := next_paired hps hsuffix
  rw [List.map_cons, List.map_cons, startsComponents, startsComponents, hhead.isHeaderWord,
    hassignment, hbracket, show p.2.lexeme = p.1.lexeme from hhead]

omit hps in
theorem expect_eq (type : TokenType) (fault : SyntaxFault) {s : Progress} {t : Token}
    (h : s.rest.head? = some t) :
    expect type fault s =
      if t.is type = true then .ok t { s with rest := s.rest.tail }
      else .error (.unacceptable fault s.rest.head?) s := by
  obtain ⟨rest, depth, deepest⟩ := s
  cases rest with
  | nil => cases h
  | cons t' rest =>
    cases h
    change (if t.is type = true then advance >>= fun _ => pure t else fail fault : Parser Token)
      _ = _
    split
    · rfl
    · rfl

/-- At the end of the file both runs end with their results. -/
theorem concur_end (fault : SyntaxFault) {a : α} {a' : α'} (h : R a a') :
    Concur ps (fun _ _ => True) R (expect .eof fault >>= fun _ => pure a)
      (expect .eof fault >>= fun _ => pure a') := by
  intro s u hsu
  obtain ⟨p, rest, hsuffix, hs, hu⟩ := id hsu
  have his := (hps.lexeme p (hsuffix.subset List.mem_cons_self)).is .eof
  have hfirst := expect_eq .eof fault (s := s) (by rw [hs]; rfl)
  have hsecond := expect_eq .eof fault (s := u) (by rw [hu]; rfl)
  by_cases heof : p.1.is .eof = true
  · rw [if_pos heof] at hfirst
    rw [if_pos (his.trans heof)] at hsecond
    rw [Run.bind_of_ok hfirst, Run.bind_of_ok hsecond]
    exact .ok h trivial
  · rw [if_neg heof] at hfirst
    rw [if_neg (his ▸ heof)] at hsecond
    rw [Run.bind_of_error hfirst, Run.bind_of_error hsecond]
    exact .error hsu

/-- A file is read alike. -/
theorem concur_file (path : Text) {level level' : Level} (h : Level.Concurs ps level level') :
    Concur ps (fun _ _ => True) (fun a b => a.agrees b = true) (file path level)
      (file path level') := by
  refine (concur_header hps).bind fun ds ds' hds => ?_
  refine (concur_skipAnnotations hps).bind fun _ _ _ => ?_
  refine .get fun s u hsu => ?_
  obtain ⟨p, rest, hsuffix, hs, hu⟩ := hsu
  rw [hs, hu, startsComponents_paired hps hsuffix]
  refine .cond (fun _ => ?_) fun _ => ?_
  · refine (h.components _ _).bind fun cs cs' hcs => concur_end hps _ ?_
    simp [File.agrees, hds, hcs]
  · refine (h.pattern hps).bind fun p p' hp => concur_current hps fun t u htu => ?_
    have hend : Concur ps (fun _ _ => True) (fun (a b : File) => a.agrees b = true)
        (do
          let _ ← expect .eof .missingEnd
          return ⟨path, ds, [.define .start .single p none p.span], true⟩)
        (do
          let _ ← expect .eof .missingEnd
          return ⟨path, ds', [.define .start .single p' none p'.span], true⟩) := by
      refine concur_end hps _ ?_
      simp [File.agrees, hds, hp]
    dsimp only
    rw [htu.isHeaderWord, htu.value]
    refine Concur.at_lexeme (.cond (fun _ => ?_) fun _ => hend) _
    exact (concur_fail (R := Eq) _).bind fun _ _ _ => hend

end

end Parser

end RelaxCompact
