import RelaxCompact.Proofs.Parsing.Annotating
import RelaxCompact.Proofs.Parsing.Concurring

/-!
Files that read the same when annotations are added. What the header passes over behind its last
declaration stands in front of the body, where the next token tells components from a pattern.
-/

namespace RelaxCompact

open Surface

namespace Parser

open Run

variable {α : Type}

/-! The header -/

theorem rereads_namespaceUri {D : List Token → Prop} :
    Rereads D namespaceUri .namespaceUri := by
  refine (rereads_accept (by decide) (rereads_pure none)
    (rereads_literalOr .missingNamespaceUri).andThen).mono (fun _ => id) fun w hw => ?_
  cases hw with
  | left hw =>
    cases hw with
    | seq hinherit hnothing =>
      cases hnothing
      rw [List.append_nil]
      exact .left hinherit
  | right hw => exact .right hw

theorem rereadsFrom_declaration {head : Token} (hhead : isHeaderWord head = true) :
    RereadsFrom Anything head declaration? .bareDeclaration := by
  have hbinding (f : Option Text → Declaration) : Rereads Anything (do
      expectSymbol .assign
      return some (f (← namespaceUri))) (.symbol .assign * .namespaceUri) :=
    (rereads_expectSymbol .assign).seq fun _ => rereads_namespaceUri.andThen
  have hassign : (Form.symbol .assign * .namespaceUri).Opens (·.is (.symbol .assign)) :=
    (Form.opens_one fun _ => id).seq
  refine rereadsFrom_current ?_
  dsimp only
  split
  next h =>
    refine (rereadsFrom_advance (.one (is_of_lexeme h)) ?_).mono fun w hw => .left (.left hw)
    exact (rereads_expectName _).seq fun qualifier => hbinding _
  next h =>
    refine (rereadsFrom_advance (.one (is_of_lexeme h)) ?_).mono fun w hw => .left (.right hw)
    refine (rereads_expect _ _).seq fun _ => ?_
    have hqualified : Rereads Anything (do
        let qualifier ← some <$> expectName .namespaceQualifier
        expectSymbol .assign
        return some (Declaration.binding qualifier (← namespaceUri) true head.span))
        (.name * (.symbol .assign * .namespaceUri)) := by
      rw [map_eq_pure_bind]
      exact (rereads_expectName _).andThen.seq fun qualifier => hbinding _
    refine (rereads_at (by decide) (hbinding _) hassign hqualified).mono (fun _ => id)
      fun w hw => ?_
    cases hw with
    | left hw => exact .seq (.left .nothing) hw
    | right hw =>
      cases hw with
      | seq hname hw => exact .seq (.right hname) hw
  next h =>
    refine (rereadsFrom_advance (.one (is_of_lexeme h)) ?_).mono fun w hw => .right hw
    refine (rereads_expectName _).seq fun qualifier => ?_
    exact (rereads_expectSymbol .assign).seq fun _ => (rereads_literalOr _).andThen
  next hns hdefault hdatatypes =>
    rw [isHeaderWord, Bool.or_eq_true, Bool.or_eq_true] at hhead
    rcases hhead with (h | h) | h
    · exact absurd (Token.lexeme_of_keyword h) hns
    · exact absurd (Token.lexeme_of_keyword h) hdefault
    · exact absurd (Token.lexeme_of_keyword h) hdatatypes

/-- Where no word of the header stands there is no declaration. -/
theorem declaration_of_not {s : Progress} (h : s.rest.head?.any isHeaderWord = false) :
    declaration? s = .ok none s := by
  cases hs : s.rest with
  | nil =>
    rw [declaration?, current_eq, hs]
    rfl
  | cons head rest =>
    rw [hs] at h
    have hne {k : Keyword} (hk : k = .ns ∨ k = .default ∨ k = .datatypes) :
        head.lexeme ≠ .keyword k := by
      intro hhead
      have hword : isHeaderWord head = true := by
        rw [isHeaderWord, Token.is, Token.is, Token.is, Token.type, hhead]
        rcases hk with rfl | rfl | rfl <;> rfl
      exact absurd hword (Bool.eq_false_iff.mp h)
    rw [declaration?, current_eq, hs, List.head?_cons]
    refine congrFun (?_ : (_ : Parser (Option Declaration)) = pure none) s
    dsimp only
    split
    next h => exact absurd h (hne (.inl rfl))
    next h => exact absurd h (hne (.inr (.inl rfl)))
    next h => exact absurd h (hne (.inr (.inr rfl)))
    next => rfl

/-- A word of the header makes a declaration. -/
theorem not_of_declaration {s t : Progress} (h : declaration? s = .ok none t) :
    t = s ∧ s.rest.head?.any isHeaderWord = false := by
  cases hword : s.rest.head?.any isHeaderWord with
  | false =>
    cases (declaration_of_not hword).symm.trans h
    exact ⟨rfl, rfl⟩
  | true =>
    cases hs : s.rest with
    | nil =>
      rw [hs] at hword
      cases hword
    | cons head rest =>
      rw [hs] at hword
      obtain ⟨w, hrest, -⟩ := rereadsFrom_declaration hword s none t rest hs h
      rcases consumes_declaration? s none t h with ⟨-, hsame⟩ | ⟨_, _, _, hd, -⟩
      · rw [hs, hrest] at hsame
        have hlength := congrArg List.length hsame
        rw [List.length_cons, List.length_append] at hlength
        omega
      · cases hd

theorem word_of_declaration {s t : Progress} {d : Declaration}
    (h : declaration? s = .ok (some d) t) :
    ∃ head rest, s.rest = head :: rest ∧ isHeaderWord head = true := by
  cases hword : s.rest.head?.any isHeaderWord with
  | false => cases (declaration_of_not hword).symm.trans h
  | true =>
    cases hs : s.rest with
    | nil =>
      rw [hs] at hword
      cases hword
    | cons head rest =>
      rw [hs] at hword
      exact ⟨head, rest, rfl, hword⟩

theorem afterAnnotations_again {ts rest : List Token} (h : afterAnnotations ts = .ok rest) :
    afterAnnotations rest = .ok rest := by
  cases rest with
  | nil => rw [afterAnnotations]
  | cons t rest => exact afterAnnotations_token (not_leftBracket_of_afterAnnotations h) rest

theorem header_stop {n : Nat} {s : Progress} {rest : List Token}
    (h : afterAnnotations s.rest = .ok rest) (hrest : rest.head?.any isHeaderWord = false)
    (hlength : s.rest.length ≤ n) : header.go n s = .ok [] { s with rest } := by
  cases n with
  | zero =>
    have hs : s.rest = [] := List.eq_nil_of_length_eq_zero (Nat.le_zero.mp hlength)
    rw [hs, afterAnnotations] at h
    cases h
    rw [← hs]
    rfl
  | succ n =>
    refine (bind_of_ok (skipAnnotations_eq h)).trans ?_
    exact (bind_of_ok (declaration_of_not hrest)).trans rfl

/-- The declarations are read again, and what is passed over behind them is passed over with
annotations more. -/
theorem header_rereads (n : Nat) {s t : Progress} {ds : List Declaration}
    (hlength : s.rest.length ≤ n) (hrun : header.go n s = .ok ds t) :
    ∃ w passed, s.rest = Mark.tokens w ++ (passed ++ t.rest) ∧
      (Form.many .declaration).Spells w ∧ Annotations passed ∧
      afterAnnotations t.rest = .ok t.rest ∧
      ∀ m s' closed w' closed' ts rest', s'.rest.length ≤ m → s'.rest = Mark.tokens w' ++ ts →
        Annotates closed w w' closed' → Ahead closed' (passed ++ t.rest) ts →
        afterAnnotations ts = .ok rest' → rest'.head? = t.rest.head? →
        ∃ t', header.go m s' = .ok ds t' ∧ t'.rest = rest' := by
  have hstop {passed : List Token} (hword : t.rest.head?.any isHeaderWord = false) :
      ∀ m s' closed w' closed' ts rest', s'.rest.length ≤ m → s'.rest = Mark.tokens w' ++ ts →
      Annotates closed [] w' closed' → Ahead closed' (passed ++ t.rest) ts →
      afterAnnotations ts = .ok rest' → rest'.head? = t.rest.head? →
      ∃ t', header.go m s' = .ok [] t' ∧ t'.rest = rest' := by
    intro m s' closed w' closed' ts rest' hlength hs' hw' _ hafter hrest
    cases hw'
    have hafter : afterAnnotations s'.rest = .ok rest' := hs' ▸ hafter
    exact ⟨_, header_stop hafter (hrest ▸ hword) hlength, rfl⟩
  induction n generalizing s ds with
  | zero =>
    obtain ⟨rfl, rfl⟩ := pure_ok hrun
    have hs : t.rest = [] := List.eq_nil_of_length_eq_zero (Nat.le_zero.mp hlength)
    refine ⟨[], [], rfl, .stop, .nil, ?_, hstop ?_⟩
    · rw [hs, afterAnnotations]
    · rw [hs]
      rfl
  | succ n ih =>
    obtain ⟨_, u, hskip, hthen⟩ := bind_ok hrun
    have hafter := skipAnnotations_ok hskip
    obtain ⟨annotations, hs, hannotations⟩ := annotations_of_afterAnnotations hafter
    obtain ⟨d, v, hdeclaration, hbranch⟩ := bind_ok hthen
    cases d with
    | none =>
      obtain ⟨rfl, hword⟩ := not_of_declaration hdeclaration
      obtain ⟨rfl, rfl⟩ := pure_ok hbranch
      exact ⟨[], annotations, hs, .stop, hannotations, afterAnnotations_again hafter, hstop hword⟩
    | some d =>
      obtain ⟨ds', x, hloop, hpure⟩ := bind_ok hbranch
      obtain ⟨rfl, rfl⟩ := pure_ok hpure
      obtain ⟨head, rest, hu, hword⟩ := word_of_declaration hdeclaration
      obtain ⟨w, hrest, hw, hagain⟩ :=
        rereadsFrom_declaration hword u (some d) v rest hu hdeclaration
      have hhead : head.is (.symbol .leftBracket) = false := by
        rw [hu] at hafter
        exact not_leftBracket_of_afterAnnotations hafter
      rw [hu, hrest] at hs
      have hlength' : v.rest.length ≤ n := by
        rw [hs] at hlength
        simp only [List.length_append, List.length_cons] at hlength
        omega
      obtain ⟨ws, passed, hv, hws, hpassed, hclean, hloop⟩ := ih hlength' hloop
      refine ⟨⟨⟨annotations, head⟩, .head⟩ :: w ++ ws, passed, ?_,
        .more (Form.spells_construct hannotations hw) hws, hpassed, hclean, ?_⟩
      · rw [hs, hv, Mark.tokens_append, Mark.tokens_cons]
        simp only [List.append_assoc, List.cons_append]
      · intro m s' closed w' closed' ts rest' hlength hs' hw' hahead hafter' hrest'
        obtain ⟨more, x', rfl, hmore, hx'⟩ := hw'.first
        obtain ⟨w', ws', between, rfl, hw', hws'⟩ := hx'.append
        have hs' : s'.rest =
            (annotations ++ more) ++ head :: (Mark.tokens w' ++ (Mark.tokens ws' ++ ts)) := by
          rw [hs', Mark.tokens_cons, Mark.tokens_append]
          simp only [Mark.annotated, List.append_assoc, List.cons_append]
        cases m with
        | zero =>
          rw [hs', List.length_append, List.length_cons] at hlength
          omega
        | succ m =>
          have hskip' : afterAnnotations s'.rest =
              .ok (head :: (Mark.tokens w' ++ (Mark.tokens ws' ++ ts))) := by
            rw [hs', afterAnnotations_append (hannotations.append hmore),
              afterAnnotations_token hhead]
          rw [hv] at hagain
          obtain ⟨u', hfirst, hu'⟩ := hagain _ { s' with rest := head :: (Mark.tokens w' ++ _) }
            false between (head.mark :: w') _ (Nat.le_refl _) rfl (.cons (.inl rfl) hw')
            (hws'.ahead hahead) trivial
          have hlength' : u'.rest.length ≤ m := by
            rw [hs'] at hlength
            rw [hu']
            simp only [List.length_append, List.length_cons] at hlength ⊢
            omega
          obtain ⟨t', hsecond, ht'⟩ :=
            hloop m u' between ws' closed' ts rest' hlength' hu' hws' hahead hafter' hrest'
          refine ⟨t', ?_, ht'⟩
          refine (bind_of_ok (skipAnnotations_eq hskip')).trans ((bind_of_ok hfirst).trans ?_)
          exact (bind_of_ok hsecond).trans rfl

/-! The body -/

theorem annotations_nil {passed ts : List Token} (h : Annotations passed)
    (hclean : afterAnnotations (passed ++ ts) = .ok (passed ++ ts)) : passed = [] := by
  obtain rfl | ⟨bracket, inner, rfl, hbracket⟩ := h.head
  · rfl
  · have hnot : bracket.is (.symbol .leftBracket) = false :=
      not_leftBracket_of_afterAnnotations hclean
    exact absurd (is_of_lexeme hbracket) (Bool.eq_false_iff.mp hnot)

/-- Components begin behind annotations that have been passed over. -/
theorem startsComponents_of_grammarAnnotations {passed rest : List Token} {t : Token}
    (hpassed : GrammarAnnotations passed)
    (hclean : afterAnnotations (passed ++ t :: rest) = .ok (passed ++ t :: rest))
    (hstarts : startsComponents (t :: rest) = true) :
    startsComponents (passed ++ t :: rest) = true := by
  obtain ⟨annotations, elements, rfl, hannotations, helements⟩ := hpassed
  rw [List.append_assoc] at hclean
  cases annotations_nil hannotations hclean
  obtain rfl | ⟨name, bracket, ts, rfl, hname, hbracket⟩ := helements.head
  · exact hstarts
  · obtain ⟨qualifier, localName, hlexeme⟩ := Token.lexeme_of_prefixedName hname
    rw [List.nil_append, List.cons_append, startsComponents, hlexeme]
    exact hbracket

theorem startsComponents_annotated {closed closed' : Bool} {w w' : List Mark} {next : List Token}
    (hw : (Form.components true .eof).Spells w) (hw' : Annotates closed w w' closed')
    (hclean : afterAnnotations (Mark.tokens w' ++ next) = .ok (Mark.tokens w' ++ next)) :
    startsComponents (Mark.tokens w' ++ next) = true := by
  cases hw with
  | seq hws hlast =>
    cases hlast with
    | behind hpassed hlast =>
      cases hlast with
      | @one _ close heof =>
        obtain ⟨ws', last', between, rfl, hws', hlast'⟩ := hw'.append
        obtain ⟨_, rfl, hend⟩ := hlast'.inner
        cases hend
        obtain ⟨before, t, after, he, hbefore, -, hstarts⟩ := @components_ahead _ _ _ _ _ _ _
          (close :: next) hws hws' hpassed (.inr rfl) heof
        simp only [Mark.tokens_append, Mark.tokens_cons, Mark.tokens_nil, Token.mark, Token.used,
          List.append_nil, List.nil_append, List.append_assoc, List.cons_append] at hclean ⊢
        rw [he] at hclean ⊢
        exact startsComponents_of_grammarAnnotations hbefore hclean (hstarts rfl)

/-- A pattern does not come to look like components, if nothing is put behind a qualified name. -/
theorem startsComponents_ahead {t : Token} {rest rest' : List Token}
    (h : Ahead (t.is .prefixedName) rest rest') (hstarts : startsComponents (t :: rest) = false) :
    startsComponents (t :: rest') = false := by
  rw [startsComponents] at hstarts ⊢
  cases hl : t.lexeme with
  | identifier name =>
    rw [hl] at hstarts
    rcases h with heq | ⟨-, bracket, hbracket, hleft⟩
    · rwa [heq]
    · dsimp only
      rw [hbracket, Option.bind_some, assignment?, hleft]
      rfl
  | prefixedName qualifier localName =>
    rw [hl] at hstarts
    rcases h with heq | ⟨hclosed, -⟩
    · rwa [heq]
    · exact absurd (hclosed.symm.trans (is_of_lexeme hl)) Bool.false_ne_true
  | keyword k =>
    rw [hl] at hstarts
    cases k <;> exact hstarts
  | literal | symbol | nsName | eof =>
    rw [hl] at hstarts
    exact hstarts

/-- What a successful run reads has a form, and is read again with annotations more, if there is
nothing to pass over in front. -/
def RereadsBehind (p : Parser α) (e : Form) : Prop :=
  ∀ s a t, afterAnnotations s.rest = .ok s.rest → p s = .ok a t →
    ∃ m w, s.rest = Mark.tokens (m :: w) ++ t.rest ∧ e.Spells (m :: w) ∧
      ∀ s' closed closed' w' next', afterAnnotations s'.rest = .ok s'.rest →
        s'.rest = Mark.tokens w' ++ next' → Annotates closed (m :: w) w' closed' →
        Ahead closed' t.rest next' → ∃ t', p s' = .ok a t' ∧ t'.rest = next'

theorem rereadsBehind_cond {p q : Parser α} {e e' : Form}
    (hp : Rereads Anything p e) (hq : Rereads Anything q e')
    (he : ∀ w, e.Spells w → w ≠ [])
    (hstarts : ∀ closed closed' w w' next, e.Spells w → Annotates closed w w' closed' →
      afterAnnotations (Mark.tokens w' ++ next) = .ok (Mark.tokens w' ++ next) →
      startsComponents (Mark.tokens w' ++ next) = true)
    (he' : Annotated e') :
    RereadsBehind (do if startsComponents (← get).rest then p else q)
      (e + .led .joined e') := by
  intro s a t hclean hrun
  change (if startsComponents s.rest = true then p else q) s = .ok a t at hrun
  split at hrun
  next =>
    obtain ⟨w, hs, hw, hagain⟩ := hp s a t hrun
    obtain ⟨m, w, rfl⟩ := List.exists_cons_of_ne_nil (he w hw)
    refine ⟨m, w, hs, .left hw, fun s' closed closed' w' next' hclean' hs' hw' hnext => ?_⟩
    have hbranch : startsComponents s'.rest = true := by
      rw [hs'] at hclean' ⊢
      exact hstarts _ _ _ _ _ hw hw' hclean'
    change ∃ t', (if startsComponents s'.rest = true then p else q) s' = _ ∧ _
    rw [if_pos hbranch]
    exact hagain _ s' closed closed' w' next' (Nat.le_refl _) hs' hw' hnext trivial
  next hpattern =>
    obtain ⟨w, hs, hw, hagain⟩ := hq s a t hrun
    obtain ⟨passed, head, w, rfl, hpassed, hhead⟩ := he' w hw
    refine ⟨⟨⟨passed, head⟩, .joined⟩, w, hs, .right (.led hw),
      fun s' closed closed' w' next' hclean' hs' hw' hnext => ?_⟩
    obtain ⟨v', opened, htokens, hv', hopened⟩ := hw'.headed
    obtain ⟨more, x, rfl, hmore, hx⟩ := hw'.first
    have hbranch : startsComponents s'.rest = false := by
      rw [hs, Mark.tokens_cons, List.append_assoc] at hclean hpattern
      rw [hs', Mark.tokens_cons, List.append_assoc] at hclean' ⊢
      cases annotations_nil hpassed hclean
      cases annotations_nil hmore hclean'
      exact startsComponents_ahead (hx.ahead hnext) (Bool.eq_false_iff.mpr hpattern)
    change ∃ t', (if startsComponents s'.rest = true then p else q) s' = _ ∧ _
    rw [hbranch, if_neg Bool.false_ne_true]
    exact hagain _ s' closed opened v' next' (Nat.le_refl _) (hs'.trans (htokens ▸ rfl)) hv'
      (hnext.opened hopened) trivial

/-- Annotations put in front of tokens that have none are passed over. -/
theorem opened_of_annotates {closed closed' : Bool} {m : Mark} {w w' : List Mark}
    {next : List Token} (h : Annotates closed (m :: w) w' closed')
    (hclean : afterAnnotations (Mark.tokens (m :: w) ++ next) = .ok (Mark.tokens (m :: w) ++ next))
    (next' : List Token) :
    ∃ v, afterAnnotations (Mark.tokens w' ++ next') = .ok (Mark.tokens v ++ next') ∧
      Annotates closed (m :: w) v closed' ∧
      (Mark.tokens v ++ next').head? = (Mark.tokens (m :: w) ++ next).head? := by
  obtain ⟨⟨passed, t⟩, role⟩ := m
  cases passed with
  | nil =>
    have ht : t.is (.symbol .leftBracket) = false := not_leftBracket_of_afterAnnotations hclean
    obtain ⟨more, v, rfl, hmore, hv⟩ := h.first
    refine ⟨⟨⟨[], t⟩, role⟩ :: v, ?_, .cons (.inl rfl) hv, rfl⟩
    rw [Mark.tokens_cons, List.append_assoc]
    change afterAnnotations (more ++ t :: (Mark.tokens v ++ next')) = _
    rw [afterAnnotations_append hmore, afterAnnotations_token ht]
    rfl
  | cons first passed =>
    have hfirst : first.is (.symbol .leftBracket) = false :=
      not_leftBracket_of_afterAnnotations hclean
    obtain ⟨more, v, rfl, -⟩ := id h.first
    refine ⟨_, ?_, h, rfl⟩
    exact afterAnnotations_token hfirst ((passed ++ more) ++ t :: Mark.tokens v ++ next')

/-- What stands behind the header is read again. -/
theorem rereads_header {q : List Declaration → Parser α} {e : Form}
    (hq : ∀ ds, RereadsBehind (q ds) e) :
    Rereads Anything (header >>= fun ds => skipAnnotations >>= fun _ => q ds)
      (.many .declaration * .behind Annotations e) := by
  intro s a t hrun
  obtain ⟨ds, u, hheader, hthen⟩ := bind_ok hrun
  obtain ⟨w, passed, hs, hw, hpassed, hclean, hagain⟩ :=
    header_rereads s.rest.length (Nat.le_refl _) hheader
  obtain ⟨_, v, hskip, hbody⟩ := bind_ok hthen
  have hv : v.rest = u.rest :=
    (Except.ok.inj (hclean.symm.trans (skipAnnotations_ok hskip))).symm
  rw [← hv] at hs hclean hagain
  obtain ⟨m, x, hx, hspells, hbody⟩ := hq ds v a t hclean hbody
  rw [hx] at hs hclean hagain
  refine ⟨w ++ m.behind passed :: x, ?_, .seq hw (.behind hpassed hspells), fun bound => ?_⟩
  · rw [hs]
    simp only [Mark.tokens_append, Mark.tokens_cons, Mark.behind, List.append_assoc,
      List.cons_append]
  · intro s' closed closed' w'' next' _ hs' hw'' hnext _
    obtain ⟨w', x', between, rfl, hw', hx'⟩ := hw''.append
    have hahead := hx'.ahead hnext
    obtain ⟨y, htokens, hy⟩ := hx'.behind
    obtain ⟨z, hafter, hz, hhead⟩ := opened_of_annotates hy hclean next'
    rw [Mark.tokens_append, List.append_assoc] at hs'
    have hafter' : afterAnnotations (Mark.tokens x' ++ next') = .ok (Mark.tokens z ++ next') := by
      rw [htokens, List.append_assoc, afterAnnotations_append hpassed, hafter]
    have hahead : Ahead between (passed ++ (Mark.tokens (m :: x) ++ t.rest))
        (Mark.tokens x' ++ next') := by
      simp only [Mark.tokens_cons, Mark.behind, List.append_assoc, List.cons_append] at hahead ⊢
      exact hahead
    obtain ⟨u', hfirst, hu'⟩ := hagain s'.rest.length s' closed w' between _ _ (Nat.le_refl _) hs'
      hw' hahead hafter' hhead
    have hclean' : afterAnnotations u'.rest = .ok u'.rest := by
      rw [hu']
      exact afterAnnotations_again hafter'
    obtain ⟨t', hsecond, ht'⟩ := hbody { u' with rest := u'.rest } false closed' z next' hclean'
      hu' hz hnext
    refine ⟨t', ?_, ht'⟩
    refine (bind_of_ok hfirst).trans ((bind_of_ok (skipAnnotations_eq hclean')).trans ?_)
    exact hsecond

/-- The end of a file, where a declaration is refused with a fault of its own. -/
theorem rereads_end {D : List Token → Prop} (a : α) : Rereads D (do
    match ← current with
    | some token => if isHeaderWord token then fail (.lateHeader token.value)
    | none => pure ()
    let _ ← expect .eof .missingEnd
    return a) (.type .eof) := by
  refine rereads_token fun s b t hrun => ?_
  replace hrun := current_bind hrun
  have hclose : (expect .eof .missingEnd >>= fun _ => pure a) s = .ok b t := by
    cases hhead : s.rest.head? with
    | none => rwa [hhead] at hrun
    | some token =>
      rw [hhead] at hrun
      dsimp only at hrun
      split at hrun
      next =>
        obtain ⟨_, _, hfail, -⟩ := bind_ok hrun
        exact (not_fail_ok hfail).elim
      next => exact hrun
  obtain ⟨token, u, hexpect, hpure⟩ := bind_ok hclose
  obtain ⟨rfl, rfl⟩ := pure_ok hpure
  obtain ⟨hs, htoken⟩ := expect_ok hexpect
  refine ⟨token, hs, htoken, fun s' rest hs' => ?_⟩
  have hword : isHeaderWord token = false := by
    rw [isHeaderWord, Token.is, Token.is, Token.is, Token.type, Token.lexeme_of_eof htoken]
    rfl
  have hhead : s'.rest.head? = some token := by
    rw [hs']
    rfl
  have hexpect' := expect_eq .eof .missingEnd hhead
  rw [if_pos htoken, hs', List.tail_cons] at hexpect'
  rw [current_eq, hhead]
  dsimp only
  rw [hword, if_neg Bool.false_ne_true]
  exact (bind_of_ok hexpect').trans rfl

theorem rereads_file (path : Text) {level : Level} (h : level.Rereads) :
    Rereads Anything (file path level) .file := by
  refine rereads_header fun ds => rereadsBehind_cond ?_ ?_ ?_ ?_ ?_
  · exact (h.components true .eof (.inr rfl)).closed fun cs => (rereads_expect _ _).andThen
  · refine (rereads_patternOf h.primary).bind (fun p => rereads_end _) ?_
    intro v hv closed v' closed' next' hv' _
    cases hv with
    | one heof =>
      obtain ⟨x, rfl, -⟩ := hv'.mark
      exact apart_of_eof heof _
  · intro w hw hnil
    cases hw with
    | seq _ hlast =>
      cases hlast with
      | behind => exact List.cons_ne_nil _ _ (List.append_eq_nil_iff.mp hnil).2
  · exact fun closed closed' w w' next hw hw' hclean => startsComponents_annotated hw hw' hclean
  · exact annotated_particle.seq.seq.seq.seq

end Parser

end RelaxCompact
