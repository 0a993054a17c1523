import RelaxCompact.Proofs.Completing.Files

/-!
How far parsers get. In front of the end of a file a parser stays in front of it. A loop needs no
bound on its turns: each turn that another one follows takes a token.
-/

namespace RelaxCompact

open RelaxCompact.Parser

variable {t : Token} {ts us rest : List Token}

/-! The end of a file -/

/-- The tokens end with the end of the file, which is nowhere else among them. -/
inductive Ended : List Token → Prop
  | last {t : Token} (h : t.lexeme = .eof) : Ended [t]
  | cons {t : Token} {ts : List Token} (h : t.lexeme ≠ .eof) (hts : Ended ts) : Ended (t :: ts)

namespace Ended

theorem behind (h : Ended (t :: ts)) (ht : t.lexeme ≠ .eof) : Ended ts := by
  cases h with
  | last h => exact absurd h ht
  | cons _ hts => exact hts

theorem exists_cons (h : Ended ts) : ∃ t rest, ts = t :: rest := by
  cases h with
  | last => exact ⟨_, _, rfl⟩
  | cons => exact ⟨_, _, rfl⟩

theorem eq_nil (h : Ended (t :: ts)) (ht : t.lexeme = .eof) : ts = [] := by
  cases h with
  | last => rfl
  | cons h => exact absurd ht h

theorem behind_balanced (h : Ended (us ++ ts)) (hus : Balanced us) : Ended ts := by
  induction hus generalizing ts with
  | nil => exact h
  | token _ _ heof _ ih => exact ih (h.behind heof)
  | brackets hleft _ hright _ ih ih' =>
    rw [List.append_assoc, List.cons_append, List.cons_append] at h
    have hinner := h.behind (by rw [hleft]; nofun)
    exact ih' ((ih hinner).behind (by rw [hright]; nofun))

theorem behind_annotations (h : Ended (us ++ ts)) (hus : Annotations us) : Ended ts := by
  induction hus with
  | nil => exact h
  | cons hleft hinner hright _ ih =>
    rw [List.append_assoc, List.cons_append, List.cons_append] at h
    have hbehind := (h.behind (by rw [hleft]; nofun)).behind_balanced hinner
    exact ih (hbehind.behind (by rw [hright]; nofun))

/-- A closing bracket is only looked for up to the end of the file. -/
theorem afterBrackets_append (h : Ended ts) (depth : Nat) (more : List Token) :
    afterBrackets depth (ts ++ more) = (afterBrackets depth ts).map (· ++ more) := by
  induction h generalizing depth with
  | last h => simp only [List.singleton_append, afterBrackets, h, Option.map_none]
  | cons _ _ ih =>
    simp only [List.cons_append, afterBrackets]
    split
    · exact ih _
    · split
      · rfl
      · exact ih _
    · rfl
    · exact ih _

theorem after_brackets {depth : Nat} (h : Ended ts) (hafter : afterBrackets depth ts = some rest) :
    Ended rest ∧ rest <:+ ts := by
  induction h generalizing depth with
  | last h =>
    simp only [afterBrackets, h] at hafter
    cases hafter
  | @cons t ts _ hts ih =>
    have hbehind {depth : Nat} (hafter : afterBrackets depth ts = some rest) :
        Ended rest ∧ rest <:+ t :: ts :=
      (ih hafter).imp_right fun hsuffix => hsuffix.trans (List.suffix_cons t ts)
    rw [afterBrackets] at hafter
    split at hafter
    · exact hbehind hafter
    · split at hafter
      · cases hafter
        exact ⟨hts, List.suffix_cons _ _⟩
      · exact hbehind hafter
    · cases hafter
    · exact hbehind hafter

/-- Annotations are only passed over up to the end of the file. -/
theorem afterAnnotations_append (h : Ended ts) (more : List Token) :
    afterAnnotations (ts ++ more) =
      ((afterAnnotations ts).map (· ++ more)).mapError (· ++ more) := by
  fun_induction afterAnnotations ts with
  | case1 => cases h
  | case2 t ts hleft after hafter _ ih =>
    have hbehind := h.behind (by rw [Token.lexeme_of_symbol hleft]; simp)
    have happend : afterBrackets 1 (ts ++ more) = some (after ++ more) := by
      rw [hbehind.afterBrackets_append, hafter, Option.map_some]
    rw [← ih (hbehind.after_brackets hafter).1, List.cons_append, afterAnnotations, if_pos hleft]
    split
    next hsome =>
      cases happend.symm.trans hsome
      rfl
    next hnone => cases happend.symm.trans hnone
  | case3 t ts hleft hafter =>
    have hbehind := h.behind (by rw [Token.lexeme_of_symbol hleft]; simp)
    have happend : afterBrackets 1 (ts ++ more) = none := by
      rw [hbehind.afterBrackets_append, hafter, Option.map_none]
    rw [List.cons_append, afterAnnotations, if_pos hleft]
    split
    next hsome => cases happend.symm.trans hsome
    next => rfl
  | case4 t ts hleft =>
    rw [List.cons_append, afterAnnotations, if_neg hleft]
    rfl

theorem after_annotations (h : Ended ts) (hafter : afterAnnotations ts = .ok rest) :
    Ended rest := by
  obtain ⟨annotations, rfl, hannotations⟩ := annotations_of_afterAnnotations hafter
  exact h.behind_annotations hannotations

theorem unclosed (h : Ended ts) (hafter : afterAnnotations ts = .error rest) : Ended rest := by
  obtain ⟨annotations, rfl, hannotations, -⟩ := annotations_of_unclosed hafter
  exact h.behind_annotations hannotations

theorem continuesSequence_append (h : Ended ts) (more : List Token) :
    continuesSequence (ts ++ more) = continuesSequence ts := by
  cases h with
  | last h => simp only [List.singleton_append, continuesSequence, h]
  | cons _ hts =>
    obtain ⟨t, rest, rfl⟩ := hts.exists_cons
    rfl

/-- Whether a pattern may be joined here does not depend on what is behind the end of the file. -/
theorem joins_append (h : Ended ts) (more : List Token) : joins (ts ++ more) = joins ts := by
  rw [joins, joins, h.afterAnnotations_append]
  cases hafter : afterAnnotations ts with
  | ok rest => exact (h.after_annotations hafter).continuesSequence_append more
  | error rest => rfl

end Ended

namespace Parser

open Surface Run

variable {α β σ : Type} {k : α → Nat} {m : β → Nat} {p : Parser α} {f : α → Parser β}
  {s : Progress}

/-! Single runs -/

/-- In front of the end of a file the run stays in front of it and does not go back; if it succeeds
with a value it is as many tokens further as `k` says, or more. -/
structure Advances (k : α → Nat) (p : Parser α) (s : Progress) : Prop where
  ended : Ended (left (p s)).rest
  rest : (left (p s)).rest <:+ s.rest
  further {a : α} {t : Progress} (h : p s = .ok a t) : t.rest.length + k a ≤ s.rest.length

/-- A parser all of whose runs advance. -/
def Advancing (k : α → Nat) (p : Parser α) : Prop := ∀ s, Ended s.rest → Advances k p s

theorem Advances.of_ok {a : α} {t : Progress} (h : p s = .ok a t) (ht : Ended t.rest)
    (hrest : t.rest <:+ s.rest) (hk : t.rest.length + k a ≤ s.rest.length) : Advances k p s where
  ended := by
    rw [h]
    exact ht
  rest := by
    rw [h]
    exact hrest
  further hrun := by
    cases h.symm.trans hrun
    exact hk

theorem Advances.of_error {e : SchemaError} {t : Progress} (h : p s = .error e t)
    (ht : Ended t.rest) (hrest : t.rest <:+ s.rest) : Advances k p s where
  ended := by
    rw [h]
    exact ht
  rest := by
    rw [h]
    exact hrest
  further hrun := by cases h.symm.trans hrun

theorem Advances.ended_ok {a : α} {t : Progress} (h : Advances k p s) (hrun : p s = .ok a t) :
    Ended t.rest := by
  have ht := h.ended
  rwa [hrun] at ht

/-- The run ends where another one does, and with a value only where that one does. -/
theorem Advances.congr {q : Parser α} (h : Advances k q s) (hpq : p s = q s) : Advances k p s where
  ended := hpq ▸ h.ended
  rest := hpq ▸ h.rest
  further hrun := h.further (hpq.symm.trans hrun)

theorem Advances.mono {k' : α → Nat} (h : Advances k p s) (hk : ∀ a, k' a ≤ k a) :
    Advances k' p s :=
  ⟨h.ended, h.rest, fun hrun => Nat.le_trans (Nat.add_le_add_left (hk _) _) (h.further hrun)⟩

theorem Advances.bind (hp : Advances k p s)
    (hf : ∀ a t, p s = .ok a t → Advances (fun b => m b - k a) (f a) t) :
    Advances m (p >>= f) s := by
  cases hrun : p s with
  | error e t =>
    have ht := hp.ended
    have hrest := hp.rest
    rw [hrun] at ht hrest
    exact .of_error (bind_of_error hrun) ht hrest
  | ok a t =>
    have hthen := hf a t hrun
    have hrest := hp.rest
    rw [hrun] at hrest
    have hbind : (p >>= f) s = f a t := bind_of_ok hrun
    constructor
    · rw [hbind]
      exact hthen.ended
    · rw [hbind]
      exact hthen.rest.trans hrest
    · intro b u hrun'
      have hfirst := hp.further hrun
      have hsecond := hthen.further (hbind.symm.trans hrun')
      omega

/-- The run goes past the current token and on as another one. -/
theorem Advances.behind {q : Parser α} {head : Token} {rest : List Token}
    (h : Advances (fun a => k a - 1) q { s with rest }) (hs : s.rest = head :: rest)
    (hpq : p s = q { s with rest }) : Advances k p s where
  ended := hpq ▸ h.ended
  rest := by
    rw [hpq, hs]
    exact h.rest.trans (List.suffix_cons head rest)
  further {a t} hrun := by
    have hfurther : t.rest.length + (k a - 1) ≤ rest.length := h.further (hpq.symm.trans hrun)
    rw [hs, List.length_cons]
    omega

/-! Parsers -/

theorem Advancing.mono {k' : α → Nat} (h : Advancing k p) (hk : ∀ a, k' a ≤ k a) :
    Advancing k' p :=
  fun s hs => (h s hs).mono hk

theorem Advancing.bind (hp : Advancing k p) (hf : ∀ a, Advancing (fun b => m b - k a) (f a)) :
    Advancing m (p >>= f) :=
  fun s hs => (hp s hs).bind fun a t hrun => hf a t ((hp s hs).ended_ok hrun)

theorem advancing_pure {a : α} (ha : k a = 0) : Advancing k (pure a) := by
  intro s hs
  apply Advances.of_ok rfl hs List.suffix_rfl
  rw [ha]
  exact Nat.le_refl _

theorem advancing_fail (fault : SyntaxFault) : Advancing k (fail fault : Parser α) :=
  fun _ hs => .of_error rfl hs List.suffix_rfl

theorem advancing_at (type : TokenType) : Advancing (fun _ => 0) (at? type) :=
  fun _ hs => .of_ok rfl hs List.suffix_rfl (Nat.le_refl _)

theorem advancing_startsParticle : Advancing (fun _ => 0) startsParticle :=
  fun s hs => .of_ok (startsParticle_eq s) hs List.suffix_rfl (Nat.le_refl _)

theorem Advancing.enclosed (h : Advancing k p) : Advancing k (enclosed p) := by
  intro s hs
  have hp := h (entered s) hs
  cases hrun : p (entered s) with
  | ok a t =>
    have hinner : Parser.enclosed p s = .ok a { t with depth := t.depth - 1 } := by
      unfold Parser.enclosed
      unfold entered at hrun
      rw [hrun]
    have ht := hp.ended_ok hrun
    have hrest := hp.rest
    have hlength := hp.further hrun
    rw [hrun] at hrest
    exact .of_ok hinner ht hrest hlength
  | error e t =>
    have hinner : Parser.enclosed p s = .error e { t with depth := t.depth - 1 } := by
      unfold Parser.enclosed
      unfold entered at hrun
      rw [hrun]
    have ht := hp.ended
    have hrest := hp.rest
    rw [hrun] at ht hrest
    exact .of_error hinner ht hrest

theorem advancing_nested {setting : Setting} {next : Option Level} {content : Level → Parser α}
    (h : ∀ level, next = some level → Advancing k (content level)) :
    Advancing k (nested setting next content) := by
  cases next with
  | none => exact advancing_fail _
  | some level => exact (h level rfl).enclosed

theorem advancing_skipAnnotations : Advancing (fun _ => 0) skipAnnotations := by
  intro s hs
  have hget : (get : Parser Progress) s = .ok s s := rfl
  cases hafter : afterAnnotations s.rest with
  | ok rest =>
    have hrest := suffix_of_afterAnnotations hafter
    exact .of_ok (skipAnnotations_eq hafter) (hs.after_annotations hafter) hrest hrest.length_le
  | error rest =>
    have hskip : skipAnnotations s =
        .error (.unacceptable .unclosedBracket rest.head?) { s with rest } := by
      rw [skipAnnotations, bind_of_ok hget, hafter]
      rfl
    exact .of_error hskip (hs.unclosed hafter) (suffix_of_unclosed hafter)

/-! Tokens -/

/-- The runs of a parser advance where the current token is `head`. -/
def AdvancingAt (head : Token) (k : α → Nat) (p : Parser α) : Prop :=
  ∀ s rest, s.rest = head :: rest → Ended s.rest → Advances k p s

theorem Advancing.at (h : Advancing k p) (head : Token) : AdvancingAt head k p :=
  fun s _ _ hs => h s hs

/-- In front of the end of the file there is a current token. -/
theorem advancing_current {f : Option Token → Parser β} (h : ∀ head, AdvancingAt head m (f head)) :
    Advancing m (current >>= f) := by
  intro s hs
  obtain ⟨head, rest, hrest⟩ := hs.exists_cons
  apply (h head s rest hrest hs).congr
  rw [current_eq, hrest]
  rfl

/-- A token that is not the end of the file is gone past. -/
theorem advancingAt_advance {head : Token} {f : Unit → Parser β} (hhead : head.lexeme ≠ .eof)
    (h : Advancing (fun b => m b - 1) (f ())) : AdvancingAt head m (advance >>= f) := by
  intro s rest hrest hs
  have hended : Ended rest := (hrest ▸ hs).behind hhead
  exact (h { s with rest } hended).behind hrest (advance_of_cons (f ()) hrest)

theorem lexeme_ne_eof {type : TokenType} (h : t.is type = true) (htype : type ≠ .eof) :
    t.lexeme ≠ .eof := by
  intro heof
  have ht := Token.lexeme_of_is h
  rw [heof] at ht
  exact htype ht.symm

theorem advancing_accept {type : TokenType} (htype : type ≠ .eof) :
    Advancing (fun b => if b = true then 1 else 0) (accept type) := by
  intro s hs
  obtain hno | ⟨t, rest, hrest, ht⟩ := notAt_or type s.rest
  · exact .of_ok (accept_of_not_at hno) hs List.suffix_rfl (Nat.le_refl _)
  · apply Advances.of_ok (accept_of_at hrest ht)
    · rw [hrest] at hs
      exact hs.behind (lexeme_ne_eof ht htype)
    · rw [hrest]
      exact List.suffix_cons _ _
    · rw [hrest]
      exact Nat.le_refl _

theorem advancing_expect {type : TokenType} (htype : type ≠ .eof) (fault : SyntaxFault) :
    Advancing (fun _ => 1) (expect type fault) := by
  intro s hs
  obtain hno | ⟨t, rest, hrest, ht⟩ := notAt_or type s.rest
  · exact .of_error (expect_of_not_at fault hno) hs List.suffix_rfl
  · apply Advances.of_ok (expect_of_at fault hrest ht)
    · rw [hrest] at hs
      exact hs.behind (lexeme_ne_eof ht htype)
    · rw [hrest]
      exact List.suffix_cons _ _
    · rw [hrest]
      exact Nat.le_refl _

theorem advancing_expectSymbol (sym : Symbol) : Advancing (fun _ => 1) (expectSymbol sym) :=
  (advancing_expect (by nofun) _).bind fun _ => advancing_pure rfl

theorem advancing_expectName (role : NameRole) : Advancing (fun _ => 1) (expectName role) := by
  apply advancing_current
  intro head
  rw [Option.bind_some]
  cases hname : nameOf? head with
  | none => exact (advancing_fail _).at head
  | some name =>
    apply advancingAt_advance
    · intro heof
      rw [nameOf?, heof] at hname
      cases hname
    · exact advancing_pure rfl

/-! Turns of loops -/

/-- How a turn of a loop ends: another turn goes on with something, or the loop has its value. -/
inductive Turn (σ β : Type)
  | again (x : σ)
  | done (b : β)

/-- The tokens that a turn takes at least. -/
def Turn.cost : Turn σ β → Nat
  | again _ => 1
  | done _ => 0

theorem advancing_done (b : β) : Advancing Turn.cost (pure (.done b) : Parser (Turn σ β)) :=
  advancing_pure rfl

/-- What follows a turn: the next one, or nothing but the value of the loop. -/
def Turn.after (next : σ → Parser β) : Turn σ β → Parser β
  | again x => next x
  | done b => pure b

/-- The turns of a loop from `x` on, as many as there come to be: after `n` turns that another one
follows the loop ends with the result. -/
inductive Turns (turn : σ → Parser (Turn σ β)) :
    σ → Progress → Nat → EStateM.Result SchemaError Progress β → Prop
  | done {x : σ} {s t : Progress} {b : β} (h : turn x s = .ok (.done b) t) :
    Turns turn x s 0 (.ok b t)
  | error {x : σ} {s t : Progress} {e : SchemaError} (h : turn x s = .error e t) :
    Turns turn x s 0 (.error e t)
  | again {x y : σ} {s t : Progress} {n : Nat} {r : EStateM.Result SchemaError Progress β}
      (h : turn x s = .ok (.again y) t) (hr : Turns turn y t n r) : Turns turn x s (n + 1) r

/-- From `x` on the parser is a loop of such turns. Each turn takes a token if another one follows,
and the parser ends as the turns do, with a token taken for each that another one followed. -/
structure Repeats (turn : σ → Parser (Turn σ β)) (x : σ) (p : Parser β) : Prop where
  consumes (y : σ) : Advancing Turn.cost (turn y)
  ends (s : Progress) (hs : Ended s.rest) : ∃ n, Turns turn x s n (p s) ∧
    (left (p s)).rest.length + n ≤ s.rest.length

section

variable {turn : σ → Parser (Turn σ β)} (hturn : ∀ x, Advancing Turn.cost (turn x))

include hturn

/-- However many turns a loop takes, it took as many tokens. -/
theorem Turns.advances {x : σ} {n : Nat} {r : EStateM.Result SchemaError Progress β}
    (h : Turns turn x s n r) (hs : Ended s.rest) :
    Ended (left r).rest ∧ (left r).rest <:+ s.rest ∧ (left r).rest.length + n ≤ s.rest.length := by
  induction h with
  | @done x s t _ h | @error x s t _ h =>
    have hadvances := hturn x s hs
    have ht := hadvances.ended
    have hrest := hadvances.rest
    rw [h] at ht hrest
    exact ⟨ht, hrest, hrest.length_le⟩
  | @again x y s t n r h _ ih =>
    have hadvances := hturn x s hs
    have hrest := hadvances.rest
    rw [h] at hrest
    have hfirst : t.rest.length + 1 ≤ s.rest.length := hadvances.further h
    obtain ⟨ht, hrest', hlength⟩ := ih (hadvances.ended_ok h)
    exact ⟨ht, hrest'.trans hrest, by omega⟩

/-- A loop with a bound on its turns is the loop without one, where the bound is no less than the
number of tokens ahead. -/
theorem turns_of_bound {go : Nat → σ → Parser β}
    (hgo : ∀ n x, go (n + 1) x = turn x >>= Turn.after (go n)) {n : Nat} (x : σ)
    (hs : Ended s.rest) (hn : s.rest.length ≤ n) : ∃ m, Turns turn x s m (go n x s) := by
  induction n generalizing x s with
  | zero =>
    obtain ⟨t, rest, hrest⟩ := hs.exists_cons
    rw [hrest] at hn
    cases hn
  | succ n ih =>
    have hadvances := hturn x s hs
    rw [hgo]
    cases hrun : turn x s with
    | error e t =>
      rw [bind_of_error hrun]
      exact ⟨0, .error hrun⟩
    | ok outcome t =>
      rw [bind_of_ok hrun]
      cases outcome with
      | done b => exact ⟨0, .done hrun⟩
      | again y =>
        have hlength : t.rest.length + 1 ≤ s.rest.length := hadvances.further hrun
        obtain ⟨m, hm⟩ := ih y (hadvances.ended_ok hrun) (by omega)
        exact ⟨m + 1, .again hrun hm⟩

theorem repeats_of_bound {go : Nat → σ → Parser β}
    (hgo : ∀ n x, go (n + 1) x = turn x >>= Turn.after (go n)) (x : σ) :
    Repeats turn x (remaining >>= fun n => go n x) where
  consumes := hturn
  ends s hs := by
    obtain ⟨n, hn⟩ := turns_of_bound hturn hgo x hs (Nat.le_refl _)
    exact ⟨n, hn, (hn.advances hturn hs).2.2⟩

end

theorem Repeats.advancing {turn : σ → Parser (Turn σ β)} {x : σ} {p : Parser β}
    (h : Repeats turn x p) : Advancing (fun _ => 0) p := by
  intro s hs
  obtain ⟨n, hn, -⟩ := h.ends s hs
  obtain ⟨ht, hrest, hlength⟩ := hn.advances h.consumes hs
  cases hrun : p s with
  | ok b t =>
    rw [hrun] at ht hrest
    exact .of_ok hrun ht hrest hrest.length_le
  | error e t =>
    rw [hrun] at ht hrest
    exact .of_error hrun ht hrest

/-! Kinds of turns -/

/-- A turn behind a token of one type: an operand is combined with what there is so far. -/
def foldTurn (type : TokenType) (operand : Parser α) (combine : σ → α → σ) (x : σ) :
    Parser (Turn σ σ) :=
  accept type >>= fun b =>
    if b = true then operand >>= fun y => pure (.again (combine x y)) else pure (.done x)

theorem Folds.repeats {type : TokenType} {operand : Parser α} {combine : σ → α → σ}
    {go : Nat → σ → Parser σ} (hgo : Folds type operand combine go) (htype : type ≠ .eof)
    (hoperand : Advancing (fun _ => 0) operand) (x : σ) :
    Repeats (foldTurn type operand combine) x (remaining >>= fun n => go n x) := by
  apply repeats_of_bound
  · intro x
    apply (advancing_accept htype).bind
    rintro ⟨⟩
    · exact advancing_pure rfl
    · exact hoperand.bind fun y => advancing_pure rfl
  · intro n x
    rw [hgo.succ, foldTurn, bind_assoc]
    apply congrArg (accept type >>= ·)
    funext b
    cases b with
    | false => rfl
    | true => simp only [if_true, bind_assoc, pure_bind, Turn.after]

/-- A turn that reads one more item of a list, or none. -/
def listTurn (item : Parser (Option α)) (xs : List α) : Parser (Turn (List α) (List α)) :=
  item >>= fun x => x.elim (pure (.done xs)) fun x => pure (.again (xs ++ [x]))

/-- The tokens that an item takes at least, if there is one. -/
def itemCost (x : Option α) : Nat := x.elim 0 fun _ => 1

theorem repeats_list {item : Parser (Option α)} {go : Nat → Parser (List α)}
    (hitem : Advancing itemCost item)
    (hgo : ∀ n, go (n + 1) = item >>= fun x =>
      x.elim (pure []) fun x => go n >>= fun xs => pure (x :: xs)) :
    Repeats (listTurn item) [] (remaining >>= go) := by
  have hloops := @repeats_of_bound _ _ (listTurn item) (fun xs => ?_)
    (fun n xs => go n >>= fun ys => pure (xs ++ ys)) (fun n xs => ?_) []
  · simpa only [List.nil_append, bind_pure] using hloops
  · apply hitem.bind
    rintro (_ | x)
    · exact advancing_pure rfl
    · exact advancing_pure rfl
  · rw [hgo, listTurn, bind_assoc, bind_assoc]
    apply congrArg (item >>= ·)
    funext x
    cases x with
    | none => simp only [Option.elim_none, pure_bind, List.append_nil, Turn.after]
    | some x => simp only [Option.elim_some, bind_assoc, pure_bind, List.append_assoc,
        List.singleton_append, Turn.after]

end Parser

end RelaxCompact
