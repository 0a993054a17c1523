import RelaxCompact.Proofs.Parsing.Levels
import RelaxCompact.Proofs.Parsing.Refusing
import RelaxCompact.Proofs.Scanning.Layout

/-!
A file that is accepted is derived by its tokens, from the first to the end of the source.
-/

namespace RelaxCompact

open Surface

theorem Annotations.append {ts us : List Token} (h : Annotations ts) (h' : Annotations us) :
    Annotations (ts ++ us) := by
  induction h with
  | nil => exact h'
  | @cons left inner right ts hleft hinner hright _ ih =>
    rw [List.append_assoc, List.cons_append]
    exact .cons hleft hinner hright ih

/-- Nothing stands behind the end of the source. -/
def EofLast (ts : List Token) : Prop :=
  ∀ (before : List Token) (last : Token) (after : List Token),
    ts = before ++ last :: after → last.lexeme = .eof → after = []

namespace Parser

open Run

variable {α β : Type} {s t : Progress}

/-! The header -/

theorem derives_namespaceUri : Derives namespaceUri fun us _ uri => DerivesNamespaceUri us uri := by
  intro s uri t hrun
  obtain ⟨found, u, haccept, hthen⟩ := bind_ok hrun
  rcases accept_ok haccept with ⟨rfl, token, hs, htype⟩ | ⟨rfl, rfl⟩
  · obtain ⟨rfl, rfl⟩ := pure_ok hthen
    exact ⟨[token.used], hs, .inherit (Token.lexeme_of_keyword htype)⟩
  · obtain ⟨us, hs, text, hus, rfl⟩ := (derives_literalOr _).andThen u uri t hthen
    exact ⟨us, hs, .literal hus⟩

/-- A declaration stands here, or nothing is taken. -/
def Declares (before : List Token) (d : Option Declaration) (after : List Token) : Prop :=
  d = none ∧ before = after ∨
    ∃ head us declaration, d = some declaration ∧ before = head :: (written us ++ after) ∧
      ∀ passed, Annotations passed → DerivesDeclaration (⟨passed, head⟩ :: us) declaration

/-- From a token on, a declaration is taken or nothing. -/
def DeclaresFrom (head : Token) (p : Parser (Option Declaration)) : Prop :=
  ∀ s d t rest, s.rest = head :: rest → p s = .ok d t → Declares s.rest d t.rest

theorem declaresFrom_of_heads {head : Token} {p : Parser (Option Declaration)}
    (h : Heads Annotations head p fun us _ d => ∃ declaration, d = some declaration ∧
      DerivesDeclaration us declaration) : DeclaresFrom head p := by
  intro s d t rest hs hrun
  obtain ⟨us, hrest, hus⟩ := h s d t rest hs hrun
  obtain ⟨declaration, hd, -⟩ := hus [] .nil
  refine .inr ⟨head, us, declaration, hd, by rw [hs, hrest], fun passed hpassed => ?_⟩
  obtain ⟨declaration', hd', hdeclaration⟩ := hus passed hpassed
  rw [hd] at hd'
  cases hd'
  exact hdeclaration

theorem declaresFrom_current {f : Option Token → Parser (Option Declaration)}
    (hnone : f none = pure none) (hsome : ∀ head, DeclaresFrom head (f (some head))) :
    Consumes (current >>= f) Declares := by
  intro s d t h
  replace h := current_bind h
  cases hrest : s.rest with
  | nil =>
    rw [hrest, List.head?_nil, hnone] at h
    obtain ⟨rfl, rfl⟩ := pure_ok h
    exact .inl ⟨rfl, hrest.symm⟩
  | cons head rest =>
    rw [hrest, List.head?_cons] at h
    exact hrest ▸ hsome head s d t rest hrest h

/-- The URI that a declaration binds, behind `=`. -/
theorem derives_binding (f : Option Text → Declaration) :
    Derives (do
      expectSymbol .assign
      return some (f (← namespaceUri))) fun us _ d =>
        ∃ (assign : Token) (vs : List Used) (uri : Option Text), us = assign.used :: vs ∧
          d = some (f uri) ∧ assign.lexeme = .symbol .assign ∧ DerivesNamespaceUri vs uri := by
  refine ((derives_expectSymbol _).bind fun _ => derives_namespaceUri.andThen).mono ?_
  rintro _ _ _ ⟨_, vs, _, rfl, ⟨assign, rfl, hassign⟩, uri, huri, rfl⟩
  exact ⟨assign, vs, uri, rfl, rfl, hassign, huri⟩

theorem consumes_declaration? : Consumes declaration? Declares := by
  refine declaresFrom_current rfl fun head => ?_
  dsimp only
  split
  next hhead =>
    refine declaresFrom_of_heads (heads_advance
      (((derives_expectName _).bind fun qualifier => derives_binding _).mono ?_))
    rintro _ _ _ ⟨_, _, qualifier, rfl, ⟨name, rfl, hname⟩, assign, us, uri, rfl, rfl, hassign,
      hus⟩ passed hp
    exact ⟨_, rfl, .binding hp hhead hname hassign hus⟩
  next hhead =>
    let R (us : List Used) (_ : List Token) (d : Option Declaration) : Prop :=
      ∃ declaration, d = some declaration ∧ ∀ passed (ns : Token), Annotations passed →
        ns.lexeme = .keyword .ns → DerivesDeclaration (⟨passed, head⟩ :: ns.used :: us) declaration
    have hplain : Derives (do
        let qualifier ← pure none
        expectSymbol .assign
        return some (Declaration.binding qualifier (← namespaceUri) true head.span)) R := by
      refine ((derives_pure none).bind fun _ => derives_binding _).mono ?_
      rintro _ _ _ ⟨_, _, _, rfl, ⟨rfl, rfl⟩, assign, us, uri, rfl, rfl, hassign, hus⟩
      exact ⟨_, rfl, fun passed ns hp hns => .default hp hhead hns hassign hus⟩
    have hqualified : Derives (do
        let qualifier ← some <$> expectName .namespaceQualifier
        expectSymbol .assign
        return some (Declaration.binding qualifier (← namespaceUri) true head.span)) R := by
      rw [map_eq_pure_bind]
      refine (((derives_expectName _).andThen (f := some)).bind fun _ => derives_binding _).mono ?_
      rintro _ _ _ ⟨_, _, _, rfl, ⟨qualifier, ⟨name, rfl, hname⟩, rfl⟩, assign, us, uri, rfl, rfl,
        hassign, hus⟩
      exact ⟨_, rfl, fun passed ns hp hns => .defaultBinding hp hhead hns hname hassign hus⟩
    refine declaresFrom_of_heads (heads_advance
      (((derives_expect _ _).bind fun ns => derives_at hplain hqualified).mono ?_))
    rintro _ _ _ ⟨_, us, ns, rfl, ⟨rfl, hns⟩, declaration, hd, hus⟩ passed hp
    exact ⟨declaration, hd, hus passed ns hp (Token.lexeme_of_keyword hns)⟩
  next hhead =>
    refine declaresFrom_of_heads (heads_advance (((derives_expectName _).bind fun qualifier =>
      (derives_expectSymbol _).bind fun _ => (derives_literalOr _).andThen).mono ?_))
    rintro _ _ _ ⟨_, _, qualifier, rfl, ⟨name, rfl, hname⟩, _, us, _, rfl,
      ⟨assign, rfl, hassign⟩, uri, hus, rfl⟩ passed hp
    exact ⟨_, rfl, .library hp hhead hname hassign hus⟩
  next =>
    intro s d t rest hs hrun
    obtain ⟨rfl, rfl⟩ := pure_ok hrun
    exact .inl ⟨rfl, rfl⟩

theorem header_ok {ds : List Declaration} (h : header s = .ok ds t) :
    ∃ us annotations, s.rest = written us ++ (annotations ++ t.rest) ∧
      DerivesDeclarations us ds ∧ Annotations annotations := by
  have hgo (n : Nat) (s : Progress) (ds : List Declaration) (hrun : header.go n s = .ok ds t) :
      ∃ us annotations, s.rest = written us ++ (annotations ++ t.rest) ∧
        DerivesDeclarations us ds ∧ Annotations annotations := by
    induction n generalizing s ds with
    | zero =>
      obtain ⟨rfl, rfl⟩ := pure_ok hrun
      exact ⟨[], [], rfl, .nil, .nil⟩
    | succ n ih =>
      obtain ⟨_, u, hskip, hthen⟩ := bind_ok hrun
      obtain ⟨annotations, hs, hannotations⟩ :=
        annotations_of_afterAnnotations (skipAnnotations_ok hskip)
      obtain ⟨d, v, hdeclaration, hbranch⟩ := bind_ok hthen
      rcases consumes_declaration? u d v hdeclaration with
        ⟨rfl, hu⟩ | ⟨head, us, declaration, rfl, hu, hus⟩
      · obtain ⟨rfl, rfl⟩ := pure_ok hbranch
        exact ⟨[], annotations, by rw [hs, hu]; rfl, .nil, hannotations⟩
      · obtain ⟨rest, w, hloop, hpure⟩ := bind_ok hbranch
        obtain ⟨rfl, rfl⟩ := pure_ok hpure
        obtain ⟨vs, behind, hv, hvs, hbehind⟩ := ih v rest hloop
        refine ⟨⟨annotations, head⟩ :: us ++ vs, behind, ?_,
          .cons (hus _ hannotations) hvs, hbehind⟩
        rw [hs, hu, hv]
        simp only [written_append, written, List.append_assoc, List.cons_append]
  obtain ⟨n, u, hremaining, hloop⟩ := bind_ok h
  obtain ⟨-, rfl⟩ := pure_ok hremaining
  exact hgo n u ds hloop

/-! Files -/

/-- A file is derived by all tokens there are, if none is behind the end of the source. -/
theorem file_ok {setting : Setting} {level : Level} {path : Text} {f : File}
    (hlevel : level.Derives setting.docs) (hend : EofLast s.rest)
    (h : file path level s = .ok f t) : DerivesFile setting.docs path s.rest f := by
  obtain ⟨ds, u, hheader, hthen⟩ := bind_ok h
  obtain ⟨us, first, hs, hus, hfirst⟩ := header_ok hheader
  obtain ⟨_, v, hskip, hbody⟩ := bind_ok hthen
  obtain ⟨second, hu, hsecond⟩ := annotations_of_afterAnnotations (skipAnnotations_ok hskip)
  have hannotations := hfirst.append hsecond
  obtain ⟨_, _, hget, hbranch⟩ := bind_ok hbody
  cases hget
  split at hbranch
  next =>
    obtain ⟨cs, w, hcomponents, hmore⟩ := bind_ok hbranch
    obtain ⟨vs, passed, hv, hpassed, hcs⟩ := hlevel.components _ _ v cs w hcomponents
    obtain ⟨token, x, hexpect, hpure⟩ := bind_ok hmore
    obtain ⟨hw, htype⟩ := expect_ok hexpect
    have heof := Token.lexeme_of_eof htype
    obtain ⟨rfl, -⟩ := pure_ok hpure
    have hrest : s.rest =
        written us ++ (first ++ second) ++ written vs ++ passed ++ token :: x.rest := by
      rw [hs, hu, hv, hw]
      simp only [List.append_assoc]
    have hx : x.rest = [] := hend _ _ _ hrest heof
    rw [hw, hx] at hcs
    rw [hx] at hrest
    rw [hrest, List.append_assoc]
    have hlast : (Used.mk passed token).token.lexeme = .eof := heof
    exact .grammar hus hannotations hcs hpassed hlast
  next =>
    obtain ⟨p, w, hpattern, hmore⟩ := bind_ok hbranch
    obtain ⟨vs, hv, hvs⟩ := derives_patternOf hlevel.primary v p w hpattern
    have hclose : (do
        let _ ← expect .eof .missingEnd
        return (⟨path, ds, [.define .start .single p none p.span], true⟩ : File)) w = .ok f t := by
      replace hmore := current_bind hmore
      cases hhead : w.rest.head? with
      | none => rwa [hhead] at hmore
      | some token =>
        rw [hhead] at hmore
        dsimp only at hmore
        split at hmore
        next =>
          obtain ⟨_, _, hfail, -⟩ := bind_ok hmore
          exact (not_fail_ok hfail).elim
        next => exact hmore
    obtain ⟨token, x, hexpect, hpure⟩ := bind_ok hclose
    obtain ⟨hw, htype⟩ := expect_ok hexpect
    have heof := Token.lexeme_of_eof htype
    obtain ⟨rfl, -⟩ := pure_ok hpure
    have hrest : s.rest = written us ++ (first ++ second) ++ written vs ++ token :: x.rest := by
      rw [hs, hu, hv, hw]
      simp only [List.append_assoc]
    have hx : x.rest = [] := hend _ _ _ hrest heof
    rw [hw, hx] at hvs
    rw [hrest, hx]
    exact .pattern hus hannotations hvs heof

end Parser

/-! Sources -/

namespace Lexer

/-- Nothing is behind the end of the source. -/
theorem end_of_scanFrom {path : Text} {p : Position} {lastLine : Option Nat} {cs : List Char}
    {scanned : Scanned} (h : scanFrom path p lastLine cs = .ok scanned) :
    EofLast scanned.tokens := by
  intro before last after htokens heof
  obtain ⟨cells, final, -, hlexes, hcells⟩ := lexes_of_scanFrom h
  rw [hcells, tokensFrom] at htokens
  rcases List.append_eq_append_iff.mp htokens with ⟨ts, -, hend⟩ | ⟨ts, hbefore, hend⟩
  · cases ts with
    | nil => exact (List.cons.inj hend).2.symm
    | cons t ts => simp at hend
  · cases ts with
    | nil => exact (List.cons.inj hend).2
    | cons t ts =>
      -- No lexeme is the end of the file.
      obtain ⟨rfl, -⟩ := List.cons.inj hend
      have hmem : last ∈ cellTokens path p cells := by
        rw [hbefore]
        exact List.mem_append_right _ List.mem_cons_self
      obtain ⟨cell, hcell, hlexeme⟩ := lexeme_of_mem_cellTokens hmem
      exact absurd (hlexeme.symm.trans heof) (hlexes.stands cell hcell).ne_eof

end Lexer

/-- What an accepted source is scanned to, with nothing behind its end, and the run that read it. -/
theorem Source.parse_ok {source : Source} {path : Text} {f : File}
    (h : source.parse path = .ok f) :
    ∃ scanned t, source.scan path = .ok scanned ∧ EofLast scanned.tokens ∧
      Parser.file path (Parser.top scanned.docs) { rest := scanned.tokens } = .ok f t := by
  obtain ⟨scanned, hscan, hfile⟩ := Run.ok_of_bind h
  obtain ⟨cs, -, hchars⟩ := Run.ok_of_bind hscan
  have hend := Lexer.end_of_scanFrom hchars
  unfold File.ofTokens at hfile
  split at hfile
  next f' t hrun =>
    cases hfile
    exact ⟨scanned, t, hscan, hend, hrun⟩
  next => cases hfile

/-- **Parser soundness.** The tokens of an accepted source derive the file that is read, each used
once and in order up to the end of the source, except for annotations, which are passed over. -/
theorem Source.parse_derives {source : Source} {path : Text} {f : File}
    (h : source.parse path = .ok f) :
    ∃ scanned, source.scan path = .ok scanned ∧
      DerivesFile scanned.docs path scanned.tokens f := by
  obtain ⟨scanned, t, hscan, hend, hrun⟩ := Source.parse_ok h
  exact ⟨scanned, hscan, Parser.file_ok (Parser.derives_level _ _) hend hrun⟩

namespace Annotated

/-- Annotations in front of a declaration, of a name and of a pattern, an annotation element, a
literal in two segments, and patterns in a row without commas. -/
def source : Source :=
  .text (Text.ofString ("[a:b [ \"x\" ]] default namespace = \"u\" ~ \"v\" " ++
    "a:note [ \"hi\" ] start = element [] item \x7b foo* text (bar | string \"1\") \x7d " ++
    "foo &= [c] empty"))

/-- The definitions read, if the source is accepted. -/
def defined : Option (List (DefineName × Assignment)) :=
  match source.parse "a.rnc" with
  | .ok f => some (f.components.filterMap fun
    | .define name operator _ _ _ => some (name, operator)
    | _ => none)
  | .error _ => none

theorem parse_derives_annotated :
    defined = some [(.start, .single), (.named "foo", .interleave)] ∧
      ∃ f scanned, source.parse "a.rnc" = .ok f ∧ source.scan "a.rnc" = .ok scanned ∧
        DerivesFile scanned.docs "a.rnc" scanned.tokens f := by
  -- Both at once, for the source to be parsed once only.
  have hevaluated : (source.parse "a.rnc").isOk = true ∧
      defined = some [(.start, .single), (.named "foo", .interleave)] := by
    decide +kernel
  obtain ⟨f, h⟩ := Run.exists_ok_of_isOk hevaluated.1
  obtain ⟨scanned, hscan, hfile⟩ := Source.parse_derives h
  exact ⟨hevaluated.2, f, scanned, h, hscan, hfile⟩

end Annotated

end RelaxCompact
