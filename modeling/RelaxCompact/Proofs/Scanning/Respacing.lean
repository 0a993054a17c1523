import RelaxCompact.Proofs.Parsing.Concurring
import RelaxCompact.Proofs.Scanning.Tiling

/-!
Sources that differ in their layout. Gaps may be replaced, as long as no gap between two lexemes is
closed: what is scanned has the same lexemes, and what is parsed is the same, or is refused at the
same token.
-/

namespace RelaxCompact

open Lexer Surface

/-- A lexeme as it is written, behind another gap. -/
structure Cell.Respaced (cell cell' : Cell) : Prop where
  lexeme : cell'.lexeme = cell.lexeme
  text : cell'.text = cell.text
  gap : Spacing cell'.gap

/-- Cells with other gaps. The first cell has nothing in front of it from which it has to be kept
apart. -/
structure Respaced (cells cells' : List Cell) : Prop where
  replaced : List.Forall₂ Cell.Respaced cells cells'
  apart : List.Forall₂ (fun cell cell' => cell.gap ≠ [] → cell'.gap ≠ []) cells.tail cells'.tail

/-- What two sources are parsed to is alike: files that agree, or refusals with one message that
expect and find the same, at tokens with one index. -/
inductive ParsedAlike (tokens tokens' : List Token) :
    Except Failure File → Except Failure File → Prop
  | files {f f' : File} : f.agrees f' = true → ParsedAlike tokens tokens' (.ok f) (.ok f')
  | refused {e e' : SchemaError} {expected : List Text} {found : Text} {i : Nat} {t t' : Token} :
    e.diagnostic.category = .syntactic expected (some found) →
    e'.diagnostic.category = .syntactic expected (some found) →
    e'.diagnostic.message = e.diagnostic.message →
    tokens[i]? = some t → e.diagnostic.span = some t.span →
    tokens'[i]? = some t' → e'.diagnostic.span = some t'.span →
    ParsedAlike tokens tokens' (.error (.schema e)) (.error (.schema e'))

theorem Respaced.map_lexeme {cells cells' : List Cell} (h : Respaced cells cells') :
    cells'.map Cell.lexeme = cells.map Cell.lexeme := by
  obtain ⟨hcells, -⟩ := h
  induction hcells with
  | nil => rfl
  | cons hcell _ ih => rw [List.map_cons, List.map_cons, hcell.lexeme, ih]

theorem Respaced.tail {cell cell' : Cell} {cells cells' : List Cell}
    (h : Respaced (cell :: cells) (cell' :: cells')) : Respaced cells cells' := by
  obtain ⟨hcells, hapart⟩ := h
  obtain ⟨-, hcells⟩ := List.forall₂_cons.mp hcells
  refine ⟨hcells, ?_⟩
  cases hapart with
  | nil => exact .nil
  | cons _ hapart => exact hapart

/-- Behind a lexeme stands the same, or a gap, which may have been widened. -/
theorem Respaced.borders {cell cell' : Cell} {cells cells' : List Cell} {last last' : List Char}
    (h : Respaced (cell :: cells) (cell' :: cells')) (hlexes : Lexes cells last)
    (hlast : Spacing last') : Borders (spread cells last) (spread cells' last') := by
  obtain ⟨hcells, hapart⟩ := h
  obtain ⟨-, hcells⟩ := List.forall₂_cons.mp hcells
  cases hcells with
  | nil => exact .of_gap _ hlast.head
  | @cons next next' behind behind' hnext _ =>
    obtain ⟨hopen, -⟩ := List.forall₂_cons.mp hapart
    cases hgap' : next'.gap with
    | cons c gap =>
      refine .of_gap _ ?_
      have hhead := hnext.gap.head
      rw [hgap'] at hhead
      rw [spread, hgap']
      exact hhead
    | nil =>
      have hgap : next.gap = [] := by
        by_contra hne
        exact hopen hne hgap'
      cases hlexes with
      | cell _ hreads _ =>
        obtain ⟨c, inner, htext, -⟩ := hreads
        refine .inl ?_
        rw [spread, spread, hgap, hgap', hnext.text, htext]
        rfl

/-- Lexemes are still read if their gaps are replaced. -/
theorem Lexes.respaced {cells cells' : List Cell} {last last' : List Char} (h : Lexes cells last)
    (hcells : Respaced cells cells') (hlast : Spacing last') : Lexes cells' last' := by
  induction h generalizing cells' with
  | last =>
    cases hcells.replaced
    exact .last (.spacing hlast)
  | @cell cell cells last _ hreads hbehind ih =>
    obtain ⟨cell', cells', hcell, -, rfl⟩ := List.forall₂_cons_left_iff.mp hcells.replaced
    refine .cell hcell.gap ?_ (ih hcells.tail)
    rw [hcell.lexeme, hcell.text]
    exact hreads.borders (hbehind.head?_ne piece_colon) (hcells.borders hbehind hlast)

/-- Tokens with the same lexemes, of which the last is the end of the file, are paired. -/
theorem exists_paired {ts us : List Token} {ls : List Lexeme}
    (hts : ts.map Token.lexeme = ls ++ [Lexeme.eof])
    (hus : us.map Token.lexeme = ls ++ [Lexeme.eof]) :
    ∃ ps, Paired ps ∧ ps ≠ [] ∧ ps.map Prod.fst = ts ∧ ps.map Prod.snd = us := by
  have hsame : List.Forall₂ SameLexeme ts us := by
    have hmap : List.Forall₂ (fun l l' => l' = l) (ts.map Token.lexeme) (us.map Token.lexeme) := by
      rw [hus, hts]
      exact List.forall₂_refl _
    rwa [List.forall₂_map_left_iff, List.forall₂_map_right_iff] at hmap
  have hfst : (ts.zip us).map Prod.fst = ts := List.map_fst_zip (Nat.le_of_eq hsame.length_eq)
  have hsnd : (ts.zip us).map Prod.snd = us := List.map_snd_zip (Nat.le_of_eq hsame.length_eq.symm)
  refine ⟨ts.zip us, ⟨fun p hp => ?_, fun p rest hsuffix hne hrest => ?_⟩, ?_, hfst, hsnd⟩
  · exact List.forall₂_zip hsame hp
  · subst hrest
    obtain ⟨before, hbefore⟩ := (hsuffix.map Prod.fst).map Token.lexeme
    rw [hfst, hts] at hbefore
    obtain ⟨-, hlast⟩ := List.append_inj' hbefore rfl
    exact hne (List.cons.inj hlast).1
  · rintro hnil
    rw [← hfst, hnil] at hts
    simp at hts

/-- Tokens with the same lexemes spell files alike. -/
theorem ofTokens_alike {ts us : List Token} {ls : List Lexeme}
    (hts : ts.map Token.lexeme = ls ++ [Lexeme.eof])
    (hus : us.map Token.lexeme = ls ++ [Lexeme.eof]) (path : Text) (docs docs' : DocLines) :
    ParsedAlike ts us ((File.ofTokens path ⟨ts, docs⟩).mapError Failure.schema)
      ((File.ofTokens path ⟨us, docs'⟩).mapError Failure.schema) := by
  obtain ⟨ps, hps, hne, rfl, rfl⟩ := exists_paired hts hus
  obtain ⟨p, rest, rfl⟩ := List.exists_cons_of_ne_nil hne
  have hlevel := Parser.concurs_top hps docs docs' Parser.nestingLimit
  have hfile := Parser.concur_file hps path hlevel { rest := (p :: rest).map Prod.fst }
    { rest := (p :: rest).map Prod.snd } ⟨p, rest, List.suffix_refl _, rfl, rfl⟩
  unfold File.ofTokens
  revert hfile
  generalize Parser.file path (Parser.top docs) _ = run
  generalize Parser.file path (Parser.top docs') _ = run'
  rintro (⟨hagrees, -⟩ | ⟨q, after, hsuffix, hs, hu⟩)
  · exact .files hagrees
  · obtain ⟨before, hbefore⟩ := hsuffix
    have hlexeme := hps.lexeme q (hbefore ▸ List.mem_append_right before List.mem_cons_self)
    have hindex : (p :: rest)[before.length]? = some q := by
      rw [← hbefore, List.getElem?_append_right (Nat.le_refl _), Nat.sub_self]
      rfl
    have hfirst : ((p :: rest).map Prod.fst)[before.length]? = some q.1 := by
      rw [List.getElem?_map, hindex]
      rfl
    have hsecond : ((p :: rest).map Prod.snd)[before.length]? = some q.2 := by
      rw [List.getElem?_map, hindex]
      rfl
    rw [hs, hu]
    refine .refused rfl ?_ rfl hfirst rfl hsecond rfl
    exact congrArg (fun l : Lexeme => Category.syntactic _ (some l.describe)) hlexeme

/-- **Layout.** A source that is scanned may have its gaps replaced by any blanks and comments, as
long as no gap between two lexemes is closed: the other source is scanned to the same lexemes, and
both are parsed alike. -/
theorem scan_respaced {source source' : Source} {path : Text} {scanned : Scanned}
    {text : List Char} {cells cells' : List Cell} {last last' : List Char}
    (h : source.scan path = .ok scanned) (htext : source.Spells path text)
    (htiled : Tiled path text cells last scanned.tokens) (hcells : Respaced cells cells')
    (hlast : Spacing last') (htext' : source'.Spells path (spread cells' last')) :
    ∃ scanned', source'.scan path = .ok scanned' ∧
      scanned'.tokens.map Token.lexeme = scanned.tokens.map Token.lexeme ∧
      ParsedAlike scanned.tokens scanned'.tokens (source.parse path) (source'.parse path) := by
  have hlexes : Lexes cells last := by
    have hscan := h
    rw [htext.scan] at hscan
    obtain ⟨cells₁, last₁, rfl, hlexes, htokens⟩ := lexes_of_scanFrom hscan
    have htiled₁ := tiled_of_lexes path hlexes
    rw [← htokens] at htiled₁
    obtain ⟨rfl, rfl⟩ := htiled.unique htiled₁
    exact hlexes
  have hlexes' := hlexes.respaced hcells hlast
  obtain ⟨docs, hscan'⟩ := @scanFrom_of_lexes path {} none _ _ hlexes'
  rw [← htext'.scan] at hscan'
  have hlexemes : scanned.tokens.map Token.lexeme = cells.map Cell.lexeme ++ [Lexeme.eof] := by
    rw [htiled.tokens_eq, map_lexeme_tokensFrom]
  have hlexemes' : (tokensFrom path {} cells' last').map Token.lexeme =
      cells.map Cell.lexeme ++ [Lexeme.eof] := by
    rw [map_lexeme_tokensFrom, hcells.map_lexeme]
  refine ⟨_, hscan', hlexemes'.trans hlexemes.symm, ?_⟩
  unfold Source.parse
  rw [h, hscan']
  exact ofTokens_alike hlexemes hlexemes' path scanned.docs docs

namespace Respacing

/-! A definition, with no blank in front of what it stands for and a comment that ends with the
text. -/

def cells : List Cell :=
  [⟨[], .identifier "x", ['x']⟩, ⟨[' '], .symbol .assign, ['=']⟩, ⟨[], .identifier "y", ['y']⟩]

def last : List Char := ['#']

def widened : List Cell :=
  [⟨['#', '#', 'x', '\n'], .identifier "x", ['x']⟩, ⟨['\t', '\n'], .symbol .assign, ['=']⟩,
    ⟨[' '], .identifier "y", ['y']⟩]

def source : Source := .text (.ofChars (spread cells last))

def tokens : List Token :=
  [⟨.identifier "x", [], ⟨1, 1, 0⟩, 1⟩, ⟨.symbol .assign, [], ⟨1, 3, 2⟩, 1⟩,
    ⟨.identifier "y", [], ⟨1, 4, 3⟩, 1⟩, ⟨.eof, [], ⟨1, 6, 5⟩, 0⟩]

theorem lexes_cells : Lexes cells last := by
  refine .cell .nil ⟨'x', [], rfl, by decide +kernel⟩ ?_
  refine .cell (.blank (by decide) .nil) ⟨'=', [], rfl, by decide +kernel⟩ ?_
  refine .cell .nil ⟨'y', [], rfl, by decide +kernel⟩ ?_
  exact .last (.comment .nil List.not_mem_nil)

theorem respaced_widened : Respaced cells widened where
  replaced := by
    refine .cons ⟨rfl, rfl, @Spacing.comment ['#', 'x'] [] (by decide) .nil⟩ ?_
    refine .cons ⟨rfl, rfl, .blank (by decide) (.blank (by decide) .nil)⟩ ?_
    exact .cons ⟨rfl, rfl, .blank (by decide) .nil⟩ .nil
  apart := .cons (fun _ => List.cons_ne_nil _ _) (.cons (fun _ => List.cons_ne_nil _ _) .nil)

theorem scan_respaced_definition :
    source.scan [] = .ok ⟨tokens, []⟩ ∧ source.Spells [] (spread cells last) ∧
      Tiled [] (spread cells last) cells last tokens ∧ Respaced cells widened ∧ Spacing ['\r'] ∧
      ∃ scanned, (Source.text (.ofChars (spread widened ['\r']))).scan [] = .ok scanned ∧
        scanned.tokens.map Token.lexeme = tokens.map Token.lexeme ∧
        ParsedAlike tokens scanned.tokens (source.parse [])
          ((Source.text (.ofChars (spread widened ['\r']))).parse []) := by
  have hscan : source.scan [] = .ok ⟨tokens, []⟩ := by decide +kernel
  have htext : source.Spells [] (spread cells last) := Source.spells_text (by decide +kernel)
  have htiled : Tiled [] (spread cells last) cells last tokens := by
    have htokens : tokens = tokensFrom [] {} cells last := by decide +kernel
    rw [htokens]
    exact tiled_of_lexes [] lexes_cells
  have hlast : Spacing ['\r'] := .blank (by decide) .nil
  have htext' : (Source.text (.ofChars (spread widened ['\r']))).Spells []
      (spread widened ['\r']) := Source.spells_text (by decide +kernel)
  exact ⟨hscan, htext, htiled, respaced_widened, hlast,
    scan_respaced hscan htext htiled respaced_widened hlast htext'⟩

end Respacing

end RelaxCompact
