import RelaxCompact.Proofs.Printing.Files
import RelaxCompact.Proofs.Printing.Results
import RelaxCompact.Proofs.Printing.Scanning

/-!
Printing undoes parsing. A well-formed file is read back from its text, and every file that is read
is well formed.
-/

/-! What is well formed is written in lexemes that can be spelled. -/

namespace RelaxCompact

open Surface

section

variable {ls : List Lexeme}

@[simp] theorem all_writable_braced :
    (braced ls).all Lexeme.writable = ls.all Lexeme.writable := by
  simp [braced, Lexeme.writable, Lexeme.named]

@[simp] theorem all_writable_within {k rank : Nat} :
    (within k rank ls).all Lexeme.writable = ls.all Lexeme.writable := by
  unfold within
  split
  case isTrue => simp [parenthesized, Lexeme.writable, Lexeme.named]
  case isFalse => rfl

@[simp] theorem writable_identifier (name : String) :
    (Lexeme.identifier name).writable = Lexer.isName name := by
  simp [Lexeme.writable, Lexeme.named]

@[simp] theorem writable_prefixedName (qualifier localName : String) :
    (Lexeme.prefixedName qualifier localName).writable =
      (Lexer.isName qualifier && Lexer.isName localName) := by
  simp [Lexeme.writable, Lexeme.named]

@[simp] theorem writable_nsName (qualifier : String) :
    (Lexeme.nsName qualifier).writable = Lexer.isName qualifier := by
  simp [Lexeme.writable, Lexeme.named]

@[simp] theorem writable_literal (value : Text) : (Lexeme.literal value).writable = true := rfl

@[simp] theorem writable_keyword (k : Keyword) : (Lexeme.keyword k).writable = true := rfl

@[simp] theorem writable_symbol (s : Symbol) : (Lexeme.symbol s).writable = true := rfl

end

theorem Surface.NameClass.writable : (c : NameClass) → c.wellFormed = true →
    c.lexemes.all Lexeme.writable = true
  | name none localName span, hw => by simpa [lexemes, wellFormed] using hw
  | name (some qualifier) localName span, hw => by simpa [lexemes, wellFormed] using hw
  | anyName none span, hw => rfl
  | anyName (some e) span, hw => by
    have he := e.writable hw
    simpa [lexemes] using he
  | nsName qualifier none span, hw => by simpa [lexemes, wellFormed] using hw
  | nsName qualifier (some e) span, hw => by
    rw [wellFormed, Bool.and_eq_true] at hw
    have he := e.writable hw.2
    simp [lexemes, hw.1, he]
  | choice left right span, hw => by
    rw [wellFormed, Bool.and_eq_true] at hw
    have hl := left.writable hw.1
    have hr := right.writable hw.2
    simp [lexemes, hl, hr]

theorem Datatype.writable {type : Datatype} (hw : type.wellFormed = true) :
    type.lexeme.writable = true := by
  obtain ⟨qualifier, localName⟩ := type
  cases qualifier with
  | some qualifier => simpa [Datatype.lexeme, Datatype.wellFormed] using hw
  | none =>
    have hname : localName = "string" ∨ localName = "token" := by
      simpa [Datatype.wellFormed] using hw
    obtain rfl | rfl := hname <;> decide

theorem writable_paramBlock {ps : List (String × Text)}
    (hw : (ps.all fun (name, _) => Lexer.isName name) = true) :
    (paramBlock ps).all Lexeme.writable = true := by
  unfold paramBlock
  split
  case isTrue => rfl
  case isFalse =>
    rw [all_writable_braced, paramLexemes, List.all_flatMap]
    refine List.all_eq_true.mpr fun (name, value) hp => ?_
    have hn := List.all_eq_true.mp hw _ hp
    simpa using hn

theorem writable_inheritLexemes {inherit : Option String}
    (hw : inherit.all Lexer.isName = true) :
    (inheritLexemes inherit).all Lexeme.writable = true := by
  cases inherit with
  | none => rfl
  | some qualifier => simpa [inheritLexemes] using hw

mutual

theorem Surface.Pattern.writable : (p : Pattern) → p.wellFormed = true →
    p.lexemes.all Lexeme.writable = true
  | .binary op left right span, hw => by
    rw [Pattern.wellFormed, Bool.and_eq_true] at hw
    have hl := left.writable hw.1
    have hr := right.writable hw.2
    simp [Pattern.lexemes, hl, hr]
  | .unary m content span, hw => by
    have hc := content.writable hw
    cases m <;> simp [Pattern.lexemes, Modifier.isPostfix, Modifier.lexeme, hc]
  | .leaf leaf span, _ => rfl
  | .named holder name content span, hw => by
    rw [Pattern.wellFormed, Bool.and_eq_true] at hw
    have hn := name.writable hw.1
    have hc := content.writable hw.2
    simp [Pattern.lexemes, hn, hc]
  | .ref name span, hw => by simpa [Pattern.lexemes, Pattern.wellFormed] using hw
  | .parentRef name span, hw => by simpa [Pattern.lexemes, Pattern.wellFormed] using hw
  | .data type ps none span, hw => by
    rw [Pattern.wellFormed, Bool.and_eq_true] at hw
    simp only [Pattern.lexemes, List.all_cons, Datatype.writable hw.1, writable_paramBlock hw.2,
      Bool.and_self]
  | .data type ps (some e) span, hw => by
    rw [Pattern.wellFormed, Bool.and_eq_true, Bool.and_eq_true] at hw
    have he := e.writable hw.2
    simp only [Pattern.lexemes, List.all_cons, List.all_append, Datatype.writable hw.1.1,
      writable_paramBlock hw.1.2, writable_symbol, all_writable_within, he, Bool.and_self]
  | .value value type span, hw => by
    rw [Pattern.lexemes]
    split
    case isTrue => rfl
    case isFalse =>
      have ht := Datatype.writable hw
      simp [ht]
  | .external href inherit span, hw => by
    have hi := writable_inheritLexemes hw
    simpa [Pattern.lexemes] using hi
  | .grammar cs span, hw => by
    have hcs := Component.allWritable cs true hw
    simpa [Pattern.lexemes] using hcs

theorem Surface.Component.writable : (c : Component) → (includes : Bool) →
    c.wellFormed includes = true → c.lexemes.all Lexeme.writable = true
  | .define name operator pattern documentation span, includes, hw => by
    rw [Component.wellFormed, Bool.and_eq_true] at hw
    have hp := pattern.writable hw.2
    cases name with
    | start => simp [Component.lexemes, DefineName.lexeme, hp]
    | named name =>
      have hn : Lexer.isName name = true := hw.1
      simp [Component.lexemes, DefineName.lexeme, hn, hp]
  | .div cs span, includes, hw => by
    have hcs := Component.allWritable cs includes hw
    simpa [Component.lexemes] using hcs
  | .incl href inherit cs span, includes, hw => by
    rw [Component.wellFormed, Bool.and_eq_true, Bool.and_eq_true] at hw
    have hi := writable_inheritLexemes hw.1.2
    have hcs := Component.allWritable cs false hw.2
    cases cs with
    | nil => simpa [Component.lexemes] using hi
    | cons c cs => simp [Component.lexemes, hi, hcs]

theorem Surface.Component.allWritable : (cs : List Component) → (includes : Bool) →
    Component.allWellFormed includes cs = true →
    (Component.allLexemes cs).all Lexeme.writable = true
  | [], _, _ => rfl
  | c :: cs, includes, hw => by
    rw [Component.allWellFormed, Bool.and_eq_true] at hw
    have hc := c.writable includes hw.1
    have hcs := Component.allWritable cs includes hw.2
    rw [Component.allLexemes, List.all_append, hc, hcs, Bool.and_self]

end

theorem Surface.Declaration.writable {d : Declaration} (hw : d.wellFormed = true) :
    d.lexemes.all Lexeme.writable = true := by
  cases d with
  | binding qualifier uri isDefault span =>
    rw [Declaration.wellFormed, Bool.and_eq_true] at hw
    cases qualifier <;> cases uri <;> cases isDefault <;>
      simp_all [Declaration.lexemes, uriLexeme]
  | library qualifier uri span => simpa [Declaration.lexemes, Declaration.wellFormed] using hw

theorem Surface.File.writable {f : File} (hw : f.wellFormed = true) :
    ∀ l ∈ f.lexemes, l.writable = true := by
  obtain ⟨path, ds, cs, isPattern⟩ := f
  simp only [File.wellFormed, Bool.and_eq_true] at hw
  obtain ⟨⟨⟨hd, hc⟩, hp⟩, -⟩ := hw
  have hdeclarations : (ds.flatMap Declaration.lexemes).all Lexeme.writable = true := by
    rw [List.all_flatMap]
    exact List.all_eq_true.mpr fun d hd' => Declaration.writable (List.all_eq_true.mp hd d hd')
  have hcomponents := Component.allWritable cs true hc
  refine List.all_eq_true.mp ?_
  rw [File.lexemes, List.all_append, hdeclarations, Bool.true_and]
  cases isPattern with
  | false => exact hcomponents
  | true =>
    rw [Bool.not_true, Bool.false_or] at hp
    unfold File.isStart at hp
    split at hp
    case h_1 pattern documentation span =>
      simp only [Component.allWellFormed, Component.wellFormed, Bool.and_eq_true] at hc
      exact pattern.writable hc.1.2
    case h_2 => cases hp

end RelaxCompact

/-! There and back -/

namespace RelaxCompact

open Surface

namespace Parser

/-! What is read from a file -/

theorem gives_namespaceUri : Gives namespaceUri fun _ => True := by
  apply gives_accept.bind
  intro b _
  split
  case isTrue => exact .pure trivial
  case isFalse => exact gives_literalOr.bind fun uri _ => .pure trivial

theorem gives_declaration : Gives declaration? fun r => ∀ d, r = some d → d.wellFormed = true := by
  have hnone : Gives (pure none : Parser (Option Declaration))
      fun r => ∀ d, r = some d → d.wellFormed = true := .pure fun d hd => by cases hd
  apply gives_current.bind
  intro t _
  split
  case h_1 => exact hnone
  case h_2 t _ =>
    split
    case h_1 =>
      apply gives_advance.bind
      intro _ _
      apply gives_expectName.bind
      intro qualifier hq
      refine gives_expectSymbol.bind fun _ _ => gives_namespaceUri.bind fun uri _ => .pure ?_
      intro d hd
      cases hd
      exact Bool.and_eq_true_iff.mpr ⟨hq, rfl⟩
    case h_2 =>
      have hrest (qualifier : Option String) (hq : qualifier.all Lexer.isName = true) : Gives (do
          expectSymbol .assign
          return some (Declaration.binding qualifier (← namespaceUri) true t.span))
          fun r => ∀ d, r = some d → d.wellFormed = true := by
        refine gives_expectSymbol.bind fun _ _ => gives_namespaceUri.bind fun uri _ => .pure ?_
        intro d hd
        cases hd
        exact Bool.and_eq_true_iff.mpr ⟨hq, Bool.or_true _⟩
      apply gives_advance.bind
      intro _ _
      apply gives_expect.bind
      intro _ _
      apply gives_at.bind
      intro b _
      split
      case isTrue => exact hrest none rfl
      case isFalse =>
        refine Gives.bind (Q := fun q => q.all Lexer.isName = true)
          (gives_expectName.map fun _ hn => hn) hrest
    case h_3 =>
      apply gives_advance.bind
      intro _ _
      apply gives_expectName.bind
      intro qualifier hq
      refine gives_expectSymbol.bind fun _ _ => gives_literalOr.bind fun uri _ => .pure ?_
      intro d hd
      cases hd
      exact hq
    case h_4 => exact hnone

theorem gives_header : Gives header fun ds => ds.all Declaration.wellFormed = true := by
  apply gives_remaining.bind
  intro turns _
  induction turns with
  | zero => exact .pure rfl
  | succ turns ih =>
    apply gives_skipAnnotations.bind
    intro _ _
    apply gives_declaration.bind
    intro r hr
    split
    case h_1 d => exact ih.bind fun ds hds => .pure (Bool.and_eq_true_iff.mpr ⟨hr d rfl, hds⟩)
    case h_2 => exact .pure rfl

theorem gives_file (path : Text) (docs : DocLines) :
    Gives (file path (top docs)) fun f => f.path = path ∧ f.wellFormed = true := by
  obtain ⟨hp, hc⟩ := gives_level ⟨nestingLimit, docs⟩ nestingLimit
  have hcomponents : Gives ((top docs).components true .eof) (FitComponents nestingLimit true) := by
    rw [top, level_components]
    exact gives_componentsOf (hc true)
  have hpattern : Gives (top docs).pattern (Fits nestingLimit 0) := by
    rw [top, level_pattern]
    exact gives_atRank hp (Nat.zero_le _)
  unfold file
  apply gives_header.bind
  intro ds hds
  apply gives_skipAnnotations.bind
  intro _ _
  apply Gives.get
  intro s _
  split
  case isTrue =>
    refine hcomponents.bind fun cs hcs => gives_expect.bind fun _ _ => .pure ⟨rfl, ?_⟩
    simp only [File.wellFormed, hds, hcs.1, hcs.2, decide_true, Bool.not_false, Bool.true_or,
      Bool.and_self]
  case isFalse =>
    apply hpattern.bind
    intro p hp
    apply gives_current.bind
    intro t _
    have hend : Gives (do
        let _ ← expect .eof .missingEnd
        return (⟨path, ds, [.define .start .single p none p.span], true⟩ : File))
        fun f => f.path = path ∧ f.wellFormed = true := by
      refine gives_expect.bind fun _ _ => .pure ⟨rfl, ?_⟩
      have hn : max p.nesting 0 ≤ nestingLimit := Nat.max_le.mpr ⟨hp.nesting_le, Nat.zero_le _⟩
      simp only [File.wellFormed, File.isStart, Component.allWellFormed, Component.wellFormed,
        DefineName.wellFormed, Component.allNesting, Component.nesting, hds, hp.1, hn, decide_true,
        Bool.not_true, Bool.false_or, Bool.and_self]
    split
    case h_1 =>
      split
      case isTrue => exact gives_fail
      case isFalse => exact hend
    case h_2 => exact hend

end Parser

/-! Both ways together -/

/-- A well-formed file is read back from its text, up to places and documentation. -/
theorem parse_print {f : File} (hf : f.wellFormed = true) :
    ∃ g, Source.parse (.text f.print) f.path = .ok g ∧ f.agrees g = true := by
  obtain ⟨scanned, hscan, htokens⟩ := Lexer.scan_spellAll f.path (File.writable hf)
  have htakes := Parser.takes_file hf scanned.docs { rest := scanned.tokens } htokens
  obtain ⟨g, s, hfile, hg, -⟩ := htakes.exists_ok trivial
  refine ⟨g, ?_, hg⟩
  unfold Source.parse File.print
  rw [hscan]
  change (File.ofTokens f.path scanned).mapError Failure.schema = _
  unfold File.ofTokens
  rw [show Parser.file f.path (Parser.top scanned.docs Parser.nestingLimit) _ = _ from hfile]
  rfl

theorem wellFormed_of_parse {source : Source} {path : Text} {f : File}
    (h : source.parse path = .ok f) : f.path = path ∧ f.wellFormed = true := by
  unfold Source.parse at h
  cases hs : source.scan path with
  | error e =>
    rw [hs] at h
    cases h
  | ok scanned =>
    rw [hs] at h
    change (File.ofTokens path scanned).mapError Failure.schema = _ at h
    have hgives := Parser.gives_file path scanned.docs { rest := scanned.tokens }
      (Lexer.named_scan hs)
    unfold File.ofTokens at h
    cases hfile : Parser.file path (Parser.top scanned.docs) { rest := scanned.tokens } with
    | error e s =>
      rw [hfile] at h
      cases h
    | ok g s =>
      rw [hfile] at h
      cases h
      exact (hgives.ok hfile).1

/-- Printing undoes parsing: what a well-formed file is printed as is read as that file. All that is
read is well formed, so what is printed from a source that was accepted is read as what the source
was read as. -/
theorem print_undoes_parse :
    (∀ f : File, f.wellFormed = true →
      ∃ g, Source.parse (.text f.print) f.path = .ok g ∧ f.agrees g = true) ∧
    ∀ (source : Source) (path : Text) (f : File), source.parse path = .ok f →
      f.path = path ∧ f.wellFormed = true ∧
        ∃ g, Source.parse (.text f.print) path = .ok g ∧ f.agrees g = true := by
  refine ⟨fun f hf => parse_print hf, fun source path f hf => ?_⟩
  obtain ⟨rfl, hw⟩ := wellFormed_of_parse hf
  exact ⟨rfl, hw, parse_print hw⟩

namespace Escapes

/-! A definition named like a keyword, an exception that needs parentheses, and a literal with a
quote in it. -/

def here : Span := ⟨[], 1, 1, 0, 0⟩

def file : File where
  path := "a.rnc"
  declarations := [.binding none none true here]
  components :=
    [.incl "b.rnc" none [.define .start .single (.ref "text" here) none here] here,
      .define (.named "text") .choice
        (.binary .group
          (.data ⟨none, "token"⟩ []
            (some (.binary .choice (.value "\"" .token here)
              (.unary .optional (.ref "a" here) here) here)) here)
          (.binary .group (.leaf .empty here) (.leaf .text here) here) here)
        none here]
  isPattern := false

example : file.print =
    Text.ofString ("default namespace = inherit include \"b.rnc\" \x7b start = \\text \x7d " ++
      "\\text |= token - ( \"\\\"\" | a ? ) , ( empty , text ) ") := by
  decide +kernel

theorem print_undoes_parse_escapes :
    file.wellFormed = true ∧
      ∃ g, Source.parse (.text file.print) file.path = .ok g ∧ file.agrees g = true ∧
        g.wellFormed = true ∧
        ∃ g', Source.parse (.text g.print) file.path = .ok g' ∧ g.agrees g' = true := by
  have hw : file.wellFormed = true := by decide
  obtain ⟨g, hg, ha⟩ := print_undoes_parse.1 file hw
  obtain ⟨-, hgw, hagain⟩ := print_undoes_parse.2 _ _ g hg
  exact ⟨hw, g, hg, ha, hgw, hagain⟩

end Escapes

end RelaxCompact
