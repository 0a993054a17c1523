import RelaxCompact.Proofs.Parsing.Limiting
import RelaxCompact.Proofs.Parsing.Juxtaposing

/-!
Parsers that fail no earlier than they have to. What such a parser has gone past when it fails is
the start of tokens that it accepts, and what it has read when it succeeds it reads again in front
of other tokens. Both depend on what is seen of the tokens that follow, so each parser comes with
the tokens that may follow, and with what it keeps of what is seen of its own tokens.
-/

namespace RelaxCompact.Parser

open Surface Run

variable {α β : Type}

/-- The parser reads these tokens up to the rest. -/
def Accepts (p : Parser α) (ts rest : List Token) : Prop :=
  ∀ s, s.rest = ts → ∃ a t, p s = .ok a t ∧ t.rest = rest

/-- A run from here can be continued. What it has read when it succeeds is read again in front of
tokens that relate as `L` says to those that followed. What it has gone past when it fails is read
with more tokens, in front of tokens as `P` says. Either way the tokens relate as `G` says to those
that were here. -/
structure Continues (p : Parser α) (P : List Token → Prop) (L G : List Token → List Token → Prop)
    (s : Progress) : Prop where
  again {a : α} {t : Progress} (h : p s = .ok a t) : ∃ read, s.rest = read ++ t.rest ∧
    ∀ r, L t.rest r →
      G s.rest (read ++ r) ∧ ∀ u, u.rest = read ++ r → ∃ v, p u = .ok a v ∧ v.rest = r
  complete {e : SchemaError} {t : Progress} (h : p s = .error e t) :
    ∃ read more, s.rest = read ++ t.rest ∧ ∀ r, P r →
      G s.rest (read ++ (more ++ r)) ∧ Accepts p (read ++ (more ++ r)) r

/-- A parser whose runs can be continued, with at most `k` tokens ahead. -/
def Completable (k : Nat) (p : Parser α) (P : List Token → Prop)
    (L G : List Token → List Token → Prop) : Prop :=
  ∀ s, s.rest.length ≤ k → Continues p P L G s

/-- Nothing is seen of the tokens. -/
abbrev Unseen (_ _ : List Token) : Prop := True

/-- The first of the tokens is the same, or they are as `F` says. -/
def Look (F : List Token → Prop) (r r' : List Token) : Prop := r'.head? = r.head? ∨ F r'

/-- The first of the tokens is not of the type. -/
def NotAt (type : TokenType) (r : List Token) : Prop := r.head?.any (·.is type) = false

theorem notAt_or (type : TokenType) (r : List Token) :
    NotAt type r ∨ ∃ t rest, r = t :: rest ∧ t.is type = true := by
  cases r with
  | nil => exact .inl rfl
  | cons t rest =>
    cases ht : t.is type with
    | false => exact .inl ht
    | true => exact .inr ⟨t, rest, rfl, ht⟩

section

variable {p q : Parser α} {f : α → Parser β} {k : Nat} {P Q : List Token → Prop}
  {L M G : List Token → List Token → Prop} {ts mid rest x : List Token} {s : Progress}

/-! Tokens that are accepted -/

theorem accepts_pure (a : α) (ts : List Token) : Accepts (pure a) ts ts :=
  fun s hs => ⟨a, s, rfl, hs⟩

theorem Accepts.bind (hp : Accepts p ts mid) (hf : ∀ a, Accepts (f a) mid rest) :
    Accepts (p >>= f) ts rest := by
  intro s hs
  obtain ⟨a, t, hrun, ht⟩ := hp s hs
  rw [bind_of_ok hrun]
  exact hf a t ht

theorem Accepts.andThen {g : α → β} (hp : Accepts p ts rest) :
    Accepts (p >>= fun a => pure (g a)) ts rest :=
  hp.bind fun _ => accepts_pure _ _

theorem Accepts.enclosed (hp : Accepts p ts rest) : Accepts (enclosed p) ts rest := by
  intro s hs
  obtain ⟨a, t, hrun, ht⟩ := hp (entered s) hs
  refine ⟨a, { t with depth := t.depth - 1 }, ?_, ht⟩
  unfold entered at hrun
  unfold Parser.enclosed
  rw [hrun]

/-! Single runs -/

theorem Continues.mono {Q : List Token → Prop} {L' G' : List Token → List Token → Prop}
    (h : Continues p P L G s) (hP : ∀ r, Q r → P r) (hL : ∀ r r', L' r r' → L r r')
    (hG : ∀ r r', G r r' → G' r r') : Continues p Q L' G' s where
  again hrun := by
    obtain ⟨read, hread, hagain⟩ := h.again hrun
    exact ⟨read, hread, fun r hr => (hagain r (hL _ _ hr)).imp_left (hG _ _)⟩
  complete hrun := by
    obtain ⟨read, more, hread, hmore⟩ := h.complete hrun
    exact ⟨read, more, hread, fun r hr => (hmore r (hP _ hr)).imp_left (hG _ _)⟩

/-- The parser runs as another one here, and wherever what that one sees is kept. -/
theorem Continues.congr (h : Continues q P L M s) (hs : p s = q s)
    (hpq : ∀ r, M s.rest r → G s.rest r ∧ ∀ u, u.rest = r → p u = q u) :
    Continues p P L G s where
  again hrun := by
    obtain ⟨read, hread, hagain⟩ := h.again (hs.symm.trans hrun)
    refine ⟨read, hread, fun r hr => ?_⟩
    obtain ⟨hseen, hruns⟩ := hagain r hr
    refine ⟨(hpq _ hseen).1, fun u hu => ?_⟩
    rw [(hpq _ hseen).2 u hu]
    exact hruns u hu
  complete hrun := by
    obtain ⟨read, more, hread, hmore⟩ := h.complete (hs.symm.trans hrun)
    refine ⟨read, more, hread, fun r hr => ?_⟩
    obtain ⟨hseen, hruns⟩ := hmore r hr
    refine ⟨(hpq _ hseen).1, fun u hu => ?_⟩
    rw [(hpq _ hseen).2 u hu]
    exact hruns u hu

/-- The parser goes past the current token and runs as another one. -/
theorem Continues.behind {body : Parser α} {head : Token} {rest : List Token}
    (h : Continues body P L M { s with rest }) (hs : s.rest = head :: rest)
    (hp : ∀ u rest, u.rest = head :: rest → p u = body { u with rest })
    (hG : ∀ r, M rest r → G (head :: rest) (head :: r)) : Continues p P L G s where
  again hrun := by
    rw [hp s rest hs] at hrun
    obtain ⟨read, hread, hagain⟩ := h.again hrun
    refine ⟨head :: read, by rw [hs, List.cons_append, ← hread], fun r hr => ?_⟩
    obtain ⟨hseen, hruns⟩ := hagain r hr
    rw [hs]
    refine ⟨hG _ hseen, fun u hu => ?_⟩
    rw [hp u _ hu]
    exact hruns _ rfl
  complete hrun := by
    rw [hp s rest hs] at hrun
    obtain ⟨read, more, hread, hmore⟩ := h.complete hrun
    refine ⟨head :: read, more, by rw [hs, List.cons_append, ← hread], fun r hr => ?_⟩
    obtain ⟨hseen, hruns⟩ := hmore r hr
    rw [hs]
    refine ⟨hG _ hseen, fun u hu => ?_⟩
    rw [hp u _ hu]
    exact hruns _ rfl

/-- The parser fails at the current token, and would accept the tokens `x` here. -/
theorem Continues.of_fail {e : SchemaError} (hs : p s = .error e s)
    (hx : ∀ r, P r → G s.rest (x ++ r) ∧ Accepts p (x ++ r) r) : Continues p P L G s where
  again hrun := by
    rw [hs] at hrun
    cases hrun
  complete hrun := by
    rw [hs] at hrun
    cases hrun
    exact ⟨[], x, rfl, hx⟩

theorem continues_pure (a : α) (s : Progress) : Continues (pure a) P L L s where
  again hrun := by
    obtain ⟨rfl, rfl⟩ := pure_ok hrun
    exact ⟨[], rfl, fun r hr => ⟨hr, fun u hu => ⟨u, rfl, hu⟩⟩⟩
  complete hrun := by cases hrun

/-- Two parsers in a row: what the second one keeps of what is seen is enough for the first. -/
theorem Continues.bind (hp : Continues p Q M G s)
    (hf : ∀ a u, p s = .ok a u → Continues (f a) P L M u)
    (hx : ∀ r, P r → Q (x ++ r) ∧ ∀ a, Accepts (f a) (x ++ r) r) :
    Continues (p >>= f) P L G s where
  again hrun := by
    obtain ⟨a, u, hfirst, hthen⟩ := bind_ok hrun
    obtain ⟨read, hread, hagain⟩ := hp.again hfirst
    obtain ⟨read', hread', hagain'⟩ := (hf a u hfirst).again hthen
    refine ⟨read ++ read', by rw [hread, hread', List.append_assoc], fun r hr => ?_⟩
    obtain ⟨hseen', hruns'⟩ := hagain' r hr
    obtain ⟨hseen, hruns⟩ := hagain _ hseen'
    rw [List.append_assoc]
    refine ⟨hseen, fun v hv => ?_⟩
    obtain ⟨w, hw, hrest⟩ := hruns v hv
    rw [bind_of_ok hw]
    exact hruns' w hrest
  complete hrun := by
    cases hfirst : p s with
    | error e' t' =>
      rw [bind_of_error hfirst] at hrun
      cases hrun
      obtain ⟨read, more, hread, hmore⟩ := hp.complete hfirst
      refine ⟨read, more ++ x, hread, fun r hr => ?_⟩
      obtain ⟨hQ, hthen⟩ := hx r hr
      obtain ⟨hseen, hruns⟩ := hmore _ hQ
      rw [List.append_assoc]
      exact ⟨hseen, hruns.bind hthen⟩
    | ok a u =>
      rw [bind_of_ok hfirst] at hrun
      obtain ⟨read, hread, hagain⟩ := hp.again hfirst
      obtain ⟨read', more, hread', hmore⟩ := (hf a u hfirst).complete hrun
      refine ⟨read ++ read', more, by rw [hread, hread', List.append_assoc], fun r hr => ?_⟩
      obtain ⟨hseen', hruns'⟩ := hmore r hr
      obtain ⟨hseen, hruns⟩ := hagain _ hseen'
      rw [List.append_assoc]
      refine ⟨hseen, fun v hv => ?_⟩
      obtain ⟨w, hw, hrest⟩ := hruns v hv
      rw [bind_of_ok hw]
      exact hruns' w hrest

/-! All runs of a parser -/

theorem Completable.mono {Q : List Token → Prop} {L' G' : List Token → List Token → Prop}
    (h : Completable k p P L G) (hP : ∀ r, Q r → P r) (hL : ∀ r r', L' r r' → L r r')
    (hG : ∀ r r', G r r' → G' r r') : Completable k p Q L' G' :=
  fun s hs => (h s hs).mono hP hL hG

theorem Completable.unseen (h : Completable k p P L G) : Completable k p P L Unseen :=
  h.mono (fun _ => id) (fun _ _ => id) fun _ _ _ => trivial

theorem Completable.le {j : Nat} (h : Completable k p P L G) (hj : j ≤ k) :
    Completable j p P L G :=
  fun s hs => h s (hs.trans hj)

theorem completable_pure (a : α) : Completable k (pure a) P L L := fun s _ => continues_pure a s

theorem Completable.bind (hp : Completable k p Q M G) (hf : ∀ a, Completable k (f a) P L M)
    (hx : ∀ r, P r → Q (x ++ r) ∧ ∀ a, Accepts (f a) (x ++ r) r) :
    Completable k (p >>= f) P L G := by
  intro s hs
  refine (hp s hs).bind (fun a u hrun => hf a u ?_) hx
  obtain ⟨read, hread, -⟩ := (hp s hs).again hrun
  rw [hread, List.length_append] at hs
  omega

theorem Completable.andThen {g : α → β} (hp : Completable k p P L G) :
    Completable k (p >>= fun a => pure (g a)) P L G :=
  hp.bind (x := []) (fun _ => completable_pure _) fun _ hr => ⟨hr, fun _ => accepts_pure _ _⟩

theorem Completable.enclosed (hp : Completable k p P L G) : Completable k (enclosed p) P L G := by
  intro s hs
  have hinner := hp (entered s) hs
  unfold entered at hinner
  constructor
  · intro a t hrun
    unfold Parser.enclosed at hrun
    cases hp : p { s with depth := s.depth + 1, deepest := max s.deepest (s.depth + 1) } with
    | error e u =>
      rw [hp] at hrun
      cases hrun
    | ok b u =>
      rw [hp] at hrun
      cases hrun
      obtain ⟨read, hread, hagain⟩ := hinner.again hp
      refine ⟨read, hread, fun r hr => (hagain r hr).imp_right fun hruns v hv => ?_⟩
      obtain ⟨w, hw, hrest⟩ := hruns (entered v) hv
      refine ⟨{ w with depth := w.depth - 1 }, ?_, hrest⟩
      unfold entered at hw
      unfold Parser.enclosed
      rw [hw]
  · intro e t hrun
    unfold Parser.enclosed at hrun
    cases hp : p { s with depth := s.depth + 1, deepest := max s.deepest (s.depth + 1) } with
    | ok b u =>
      rw [hp] at hrun
      cases hrun
    | error e' u =>
      rw [hp] at hrun
      cases hrun
      obtain ⟨read, more, hread, hmore⟩ := hinner.complete hp
      exact ⟨read, more, hread, fun r hr => (hmore r hr).imp_right Accepts.enclosed⟩

/-- With tokens that the parser accepts where it finds nothing of its own, the first of the tokens
is the same, or theirs. -/
theorem Completable.look {F : List Token → Prop} (h : Completable k p P L G)
    (hx : ∀ r, P r → F (x ++ r) ∧ Accepts p (x ++ r) r) (hL : ∀ r r', L r r' → Look F r r') :
    Completable k p P L (Look F) := by
  intro s hs
  have hsame {head : Token} {read r r' : List Token} (hread : s.rest = head :: read ++ r) :
      Look F s.rest (head :: read ++ r') := by
    rw [hread]
    exact .inl rfl
  constructor
  · intro a t hrun
    obtain ⟨read, hread, hagain⟩ := (h s hs).again hrun
    refine ⟨read, hread, fun r hr => ⟨?_, (hagain r hr).2⟩⟩
    cases read with
    | nil => exact hread ▸ hL _ _ hr
    | cons head read => exact hsame hread
  · intro e t hrun
    obtain ⟨read, more, hread, hmore⟩ := (h s hs).complete hrun
    cases read with
    | nil => exact ⟨[], x, hread, fun r hr => (hx r hr).imp_left .inr⟩
    | cons head read => exact ⟨head :: read, more, hread, fun r hr => ⟨hsame hread, (hmore r hr).2⟩⟩

/-! Choices by the current token -/

/-- What a parser does where the current token is `o`: it fails, goes past the token, or stays.
Where it fails it would accept the tokens `x`. -/
inductive Branch (k : Nat) (f : Option Token → Parser α) (P : List Token → Prop)
    (L G : List Token → List Token → Prop) (x : List Token) (o : Option Token) : Parser α → Prop
  | fails (fault : SyntaxFault) (hG : ∀ old r, old.head? = o → P r → G old (x ++ r)) :
    Branch k f P L G x o (fail fault)
  | reads {head : Token} {q body : Parser α} {M : List Token → List Token → Prop}
      (ho : o = some head) (hq : ∀ s rest, s.rest = head :: rest → q s = body { s with rest })
      (hbody : 0 < k → Completable (k - 1) body P L M)
      (hG : ∀ r r', M r r' → G (head :: r) (head :: r')) : Branch k f P L G x o q
  | stays {a : α} (h : ∀ old r, old.head? = o → L old r → G old r ∧ f r.head? = pure a) :
    Branch k f P L G x o (pure a)

theorem advance_of_cons {head : Token} (body : Parser α) (hs : s.rest = head :: rest) :
    (advance >>= fun _ => body) s = body { s with rest } := by
  have htail : s.rest.tail = rest := by rw [hs, List.tail_cons]
  rw [← htail]
  rfl

/-- Where the parser chooses by the current token to go past it. -/
theorem current_of_cons {f : Option Token → Parser α} {head : Token} {body : Parser α}
    (hs : s.rest = head :: rest) (hf : f (some head) = advance >>= fun _ => body) :
    (Parser.current >>= f) s = body { s with rest } := by
  rw [current_eq, hs, List.head?_cons, hf, advance_of_cons body hs]

theorem Accepts.current {f : Option Token → Parser α} {head : Token} {body : Parser α}
    (hf : f (some head) = advance >>= fun _ => body) (h : Accepts body ts rest) :
    Accepts (Parser.current >>= f) (head :: ts) rest := by
  intro s hs
  rw [current_of_cons hs hf]
  exact h _ rfl

theorem Branch.goes {f : Option Token → Parser α} {o : Option Token} {head : Token}
    {body : Parser α} (ho : o = some head) (hbody : 0 < k → Completable (k - 1) body P L M)
    (hG : ∀ r r', M r r' → G (head :: r) (head :: r')) :
    Branch k f P L G x o (advance >>= fun _ => body) :=
  .reads ho (fun _ _ => advance_of_cons body) hbody hG

theorem length_of_cons {head : Token} (hs : s.rest = head :: rest) (hk : s.rest.length ≤ k) :
    0 < k ∧ rest.length ≤ k - 1 := by
  rw [hs, List.length_cons] at hk
  omega

theorem Completable.current {f : Option Token → Parser α}
    (hx : ∀ r, P r → Accepts (Parser.current >>= f) (x ++ r) r)
    (h : ∀ o, Branch k f P L G x o (f o)) : Completable k (Parser.current >>= f) P L G := by
  intro s hs
  have hcase := h s.rest.head?
  generalize hp : f s.rest.head? = p at hcase
  have hrun : (Parser.current >>= f) s = p s := by rw [current_eq, hp]
  cases hcase with
  | fails fault hG => exact .of_fail (hrun.trans rfl) fun r hr => ⟨hG _ r rfl hr, hx r hr⟩
  | reads ho hq hbody hG =>
    obtain ⟨rest, hrest⟩ := List.head?_eq_some_iff.mp ho
    obtain ⟨hpos, hlength⟩ := length_of_cons hrest hs
    refine (hbody hpos { s with rest } hlength).behind hrest (fun u rest' hu => ?_)
      fun r => hG rest r
    have hhead : u.rest.head? = s.rest.head? := by rw [hu, hrest]; rfl
    rw [current_eq, hhead, hp, hq u rest' hu]
  | stays hstays =>
    refine (continues_pure _ s).congr hrun fun r hr => ?_
    obtain ⟨hseen, hf⟩ := hstays _ r rfl hr
    refine ⟨hseen, fun u hu => ?_⟩
    rw [current_eq, hu, hf]

/-- Where a token of the type stands the parser goes past it, elsewhere it is another. -/
theorem Completable.branch {B : Token → Parser α} {type : TokenType}
    {N : List Token → List Token → Prop}
    (hat : ∀ s t rest, s.rest = t :: rest → t.is type = true → p s = B t { s with rest })
    (hnot : ∀ s, NotAt type s.rest → p s = q s)
    (hbody : ∀ t, t.is type = true → 0 < k → Completable (k - 1) (B t) P L M)
    (hM : ∀ t r r', t.is type = true → M r r' → G (t :: r) (t :: r'))
    (hq : Completable k q P L N)
    (hN : ∀ r r', NotAt type r → N r r' → G r r' ∧ NotAt type r') : Completable k p P L G := by
  intro s hs
  obtain hno | ⟨t, rest, hrest, ht⟩ := notAt_or type s.rest
  · refine (hq s hs).congr (hnot s hno) fun r hr => ?_
    obtain ⟨hseen, hno'⟩ := hN _ r hno hr
    exact ⟨hseen, fun u hu => hnot u (hu ▸ hno')⟩
  · obtain ⟨hpos, hlength⟩ := length_of_cons hrest hs
    exact (hbody t ht hpos { s with rest } hlength).behind hrest
      (fun u rest hu => hat u t rest hu ht) fun r => hM t rest r ht

theorem Completable.accept {g : Bool → Parser α} {type : TokenType}
    {N : List Token → List Token → Prop}
    (htrue : 0 < k → Completable (k - 1) (g true) P L M)
    (hM : ∀ t r r', t.is type = true → M r r' → G (t :: r) (t :: r'))
    (hfalse : Completable k (g false) P L N)
    (hN : ∀ r r', NotAt type r → N r r' → G r r' ∧ NotAt type r') :
    Completable k (accept type >>= g) P L G :=
  .branch (fun _ _ _ hs ht => bind_of_ok (accept_of_at hs ht))
    (fun _ hs => bind_of_ok (accept_of_not_at hs)) (fun _ _ => htrue) hM hfalse hN

theorem Accepts.accept {g : Bool → Parser α} {type : TokenType} {t : Token}
    (ht : t.is type = true) (h : Accepts (g true) ts rest) :
    Accepts (accept type >>= g) (t :: ts) rest := by
  intro s hs
  rw [bind_of_ok (accept_of_at hs ht)]
  exact h _ rfl

theorem Accepts.refuse {g : Bool → Parser α} {type : TokenType} (hts : NotAt type ts)
    (h : Accepts (g false) ts rest) : Accepts (Parser.accept type >>= g) ts rest := by
  intro s hs
  rw [bind_of_ok (accept_of_not_at (hs ▸ hts))]
  exact h s hs

theorem at_eq (type : TokenType) (s : Progress) :
    at? type s = .ok (s.rest.head?.any (·.is type)) s := rfl

/-- A choice by a look at the current token, of a parser that goes past it. -/
theorem Completable.at {g : Bool → Parser α} {B : Token → Parser α} {type : TokenType}
    {N : List Token → List Token → Prop}
    (hbody : ∀ t, t.is type = true → 0 < k → Completable (k - 1) (B t) P L M)
    (hat : ∀ s t rest, s.rest = t :: rest → t.is type = true →
      g true s = B t { s with rest })
    (hM : ∀ t r r', t.is type = true → M r r' → G (t :: r) (t :: r'))
    (hfalse : Completable k (g false) P L N)
    (hN : ∀ r r', NotAt type r → N r r' → G r r' ∧ NotAt type r') :
    Completable k (at? type >>= g) P L G := by
  refine .branch (fun s t rest hs ht => ?_) (fun s hs => ?_) hbody hM hfalse hN
  · rw [bind_of_ok (at_eq type s), hs, List.head?_cons, Option.any_some, ht]
    exact hat s t rest hs ht
  · rw [bind_of_ok (at_eq type s), hs]

theorem Accepts.at {g : Bool → Parser α} {type : TokenType} {t : Token} (ht : t.is type = true)
    (h : Accepts (g true) (t :: ts) rest) : Accepts (at? type >>= g) (t :: ts) rest := by
  intro s hs
  rw [bind_of_ok (at_eq type s), hs, List.head?_cons, Option.any_some, ht]
  exact h s hs

/-! Annotations -/

theorem afterAnnotations_bare (hts : NotAt (.symbol .leftBracket) ts) :
    afterAnnotations ts = .ok ts := by
  cases ts with
  | nil => rw [afterAnnotations]
  | cons t ts => exact afterAnnotations_token hts ts

theorem Accepts.annotated {passed : List Token} (hpassed : Annotations passed)
    (hts : NotAt (.symbol .leftBracket) ts) (h : Accepts p ts rest) :
    Accepts (skipAnnotations >>= fun _ => p) (passed ++ ts) rest := by
  intro s hs
  have hafter : afterAnnotations s.rest = .ok ts := by
    rw [hs, afterAnnotations_append hpassed, afterAnnotations_bare hts]
  rw [bind_of_ok (skipAnnotations_eq hafter)]
  exact h _ rfl

theorem Accepts.bare (hts : NotAt (.symbol .leftBracket) ts) (h : Accepts p ts rest) :
    Accepts (skipAnnotations >>= fun _ => p) ts rest :=
  h.annotated .nil hts

theorem Accepts.of_bare (hts : NotAt (.symbol .leftBracket) ts)
    (h : Accepts (skipAnnotations >>= fun _ => p) ts rest) : Accepts p ts rest := by
  intro s hs
  have hskip : skipAnnotations s = .ok () s :=
    skipAnnotations_eq (hs ▸ afterAnnotations_bare hts)
  have hrun := h s hs
  rwa [bind_of_ok hskip] at hrun

theorem notAt_of_afterAnnotations (h : afterAnnotations ts = .ok rest) :
    NotAt (.symbol .leftBracket) rest := by
  cases rest with
  | nil => rfl
  | cons t rest => exact not_leftBracket_of_afterAnnotations h

/-- Annotations in front of one that is not closed. -/
theorem annotations_of_unclosed (h : afterAnnotations ts = .error rest) :
    ∃ passed, ts = passed ++ rest ∧ Annotations passed ∧ afterAnnotations rest = .error rest := by
  fun_induction afterAnnotations ts with
  | case1 | case4 => cases h
  | case2 t ts hleft after hafter _ ih =>
    obtain ⟨passed, hrest, hpassed, hunclosed⟩ := ih h
    obtain ⟨inner, right, us, hts, hinner, hright, hus⟩ := balanced_of_afterBrackets hafter
    cases hus
    refine ⟨t :: inner ++ right :: passed, ?_, .cons (Token.lexeme_of_symbol hleft) hinner hright
      hpassed, hunclosed⟩
    rw [hts, hrest, List.append_assoc, List.cons_append, List.cons_append]
  | case3 t ts hleft hnone =>
    cases h
    refine ⟨[], rfl, .nil, ?_⟩
    rw [afterAnnotations, if_pos hleft]
    split
    next hsome => cases hnone.symm.trans hsome
    next => rfl

theorem Look.notAt {F : List Token → Prop} {type : TokenType} {r r' : List Token}
    (h : Look F r r') (hF : ∀ r, F r → NotAt type r) (hr : NotAt type r) : NotAt type r' := by
  obtain hsame | hF' := h
  · rwa [NotAt, hsame]
  · exact hF r' hF'

/-- A parser behind annotations. It sees that no annotation stands in front of it. -/
theorem Completable.annotated
    (hp : ∀ s, s.rest.length ≤ k → NotAt (.symbol .leftBracket) s.rest → Continues p P L M s)
    (hbracket : ∀ r r', NotAt (.symbol .leftBracket) r → M r r' →
      NotAt (.symbol .leftBracket) r')
    (hM : ∀ passed r r', Annotations passed → NotAt (.symbol .leftBracket) r → M r r' →
      G (passed ++ r) (passed ++ r'))
    (hx : ∀ passed old r, Annotations passed → afterAnnotations old = .error old → P r →
      G (passed ++ old) (passed ++ (x ++ r)) ∧
        Accepts (skipAnnotations >>= fun _ => p) (passed ++ (x ++ r)) r) :
    Completable k (skipAnnotations >>= fun _ => p) P L G := by
  intro s hs
  have hget : (get : Parser Progress) s = .ok s s := rfl
  cases hafter : afterAnnotations s.rest with
  | error unclosed =>
    obtain ⟨passed, hrest, hpassed, hunclosed⟩ := annotations_of_unclosed hafter
    have hskip : skipAnnotations s =
        .error (.unacceptable .unclosedBracket unclosed.head?) { s with rest := unclosed } := by
      rw [skipAnnotations, bind_of_ok hget, hafter]
      rfl
    constructor
    · intro a t hrun
      rw [bind_of_error hskip] at hrun
      cases hrun
    · intro e t hrun
      rw [bind_of_error hskip] at hrun
      cases hrun
      refine ⟨passed, x, hrest, fun r hr => ?_⟩
      rw [hrest]
      exact hx passed unclosed r hpassed hunclosed hr
  | ok ts =>
    obtain ⟨passed, hrest, hpassed⟩ := annotations_of_afterAnnotations hafter
    have hfree := notAt_of_afterAnnotations hafter
    have hskip : skipAnnotations s = .ok () { s with rest := ts } := skipAnnotations_eq hafter
    have hlength : ts.length ≤ k := by
      rw [hrest, List.length_append] at hs
      omega
    have hthen := hp { s with rest := ts } hlength hfree
    constructor
    · intro a t hrun
      rw [bind_of_ok hskip] at hrun
      obtain ⟨read, hread, hagain⟩ := hthen.again hrun
      refine ⟨passed ++ read, by rw [hrest, List.append_assoc, ← hread], fun r hr => ?_⟩
      obtain ⟨hseen, hruns⟩ := hagain r hr
      rw [hrest, List.append_assoc]
      refine ⟨hM passed ts _ hpassed hfree hseen, fun u hu => ?_⟩
      have hafter' : afterAnnotations u.rest = .ok (read ++ r) := by
        rw [hu, afterAnnotations_append hpassed,
          afterAnnotations_bare (hbracket ts _ hfree hseen)]
      rw [bind_of_ok (skipAnnotations_eq hafter')]
      exact hruns _ rfl
    · intro e t hrun
      rw [bind_of_ok hskip] at hrun
      obtain ⟨read, more, hread, hmore⟩ := hthen.complete hrun
      refine ⟨passed ++ read, more, by rw [hrest, List.append_assoc, ← hread], fun r hr => ?_⟩
      obtain ⟨hseen, haccepts⟩ := hmore r hr
      rw [hrest, List.append_assoc]
      exact ⟨hM passed ts _ hpassed hfree hseen,
        haccepts.annotated hpassed (hbracket ts _ hfree hseen)⟩

/-- Behind annotations the first of the tokens is seen; in front of them an annotation is. -/
theorem Completable.annotatedLook {F : List Token → Prop}
    (hp : ∀ s, s.rest.length ≤ k → NotAt (.symbol .leftBracket) s.rest →
      Continues p P L (Look F) s)
    (hF : ∀ r, F r → NotAt (.symbol .leftBracket) r)
    (hx : ∀ r, P r → F (x ++ r) ∧ Accepts p (x ++ r) r) :
    Completable k (skipAnnotations >>= fun _ => p) P L (Look F) := by
  have hlook {passed r r' : List Token} (h : Look F r r') :
      Look F (passed ++ r) (passed ++ r') := by
    cases passed with
    | nil => exact h
    | cons => exact .inl rfl
  refine .annotated (x := x) hp (fun r r' hr h => h.notAt hF hr)
    (fun passed r r' _ _ => hlook) fun passed old r hpassed _ hr => ?_
  obtain ⟨hbegins, haccepts⟩ := hx r hr
  exact ⟨hlook (.inr hbegins), haccepts.annotated hpassed (hF _ hbegins)⟩

/-! Single tokens -/

/-- A token that is added. -/
def added (l : Lexeme) : Token := ⟨l, [], {}, 0⟩

/-- The first of the tokens has one of the lexemes. -/
def Led (ls : List Lexeme) (r : List Token) : Prop := ∃ t ∈ r.head?, t.lexeme ∈ ls

/-- A bracket is closed here, or the file ends. -/
abbrev PatternEnds : List Token → Prop :=
  Led [.symbol .rightParen, .symbol .rightBrace, .eof]

/-- A name that is added. -/
abbrev addedName : Token := added (.identifier "a")

/-- The first of the tokens is of the type. -/
def At (type : TokenType) (r : List Token) : Prop := ∃ t ∈ r.head?, t.is type = true

theorem Led.notAt {ls : List Lexeme} {type : TokenType} {r : List Token} (h : Led ls r)
    (hls : ∀ l ∈ ls, l.type ≠ type) : NotAt type r := by
  obtain ⟨t, ht, hl⟩ := h
  rw [NotAt, ht]
  exact decide_eq_false (hls _ hl)

theorem Led.mono {ls ms : List Lexeme} {r : List Token} (h : Led ls r) (hls : ls ⊆ ms) :
    Led ms r := by
  obtain ⟨t, ht, hl⟩ := h
  exact ⟨t, ht, hls hl⟩

theorem led_added {ls : List Lexeme} {l : Lexeme} (hl : l ∈ ls) (r : List Token) :
    Led ls (added l :: r) :=
  ⟨added l, rfl, hl⟩

theorem look_cons (F : List Token → Prop) (t : Token) (r r' : List Token) :
    Look F (t :: r) (t :: r') :=
  .inl rfl

theorem is_added (l : Lexeme) : (added l).is l.type = true := decide_eq_true rfl

theorem expect_of_at {type : TokenType} {t : Token} (fault : SyntaxFault)
    (hs : s.rest = t :: rest) (ht : t.is type = true) :
    expect type fault s = .ok t { s with rest } := by
  have hexpect : (if t.is type = true then advance >>= fun _ => pure t
      else fail fault : Parser Token) = advance >>= fun _ => pure t := if_pos ht
  rw [expect, current_eq, hs]
  exact (congrFun hexpect s).trans (advance_of_cons (pure t) hs)

theorem expect_of_not_at {type : TokenType} (fault : SyntaxFault) (hs : NotAt type s.rest) :
    expect type fault s = .error (.unacceptable fault s.rest.head?) s := by
  have hfail : (fail fault : Parser Token) s = .error (.unacceptable fault s.rest.head?) s := rfl
  rw [NotAt] at hs
  rw [expect, current_eq]
  cases hhead : s.rest.head? with
  | none =>
    rw [hhead] at hfail
    exact hfail
  | some t =>
    rw [hhead, Option.any_some] at hs
    rw [hhead] at hfail
    have hexpect : (if t.is type = true then advance >>= fun _ => pure t
        else fail fault : Parser Token) = fail fault := if_neg (Bool.eq_false_iff.mp hs)
    exact (congrFun hexpect s).trans hfail

theorem accepts_expect {type : TokenType} {t : Token} (ht : t.is type = true)
    (fault : SyntaxFault) (rest : List Token) : Accepts (expect type fault) (t :: rest) rest :=
  fun _ hs => ⟨t, _, expect_of_at fault hs ht, rfl⟩

theorem accepts_symbol (sym : Symbol) (rest : List Token) :
    Accepts (expectSymbol sym) (added (.symbol sym) :: rest) rest :=
  (accepts_expect (is_added _) _ rest).andThen

theorem completable_expect (type : TokenType) (fault : SyntaxFault) {t : Token}
    (ht : t.is type = true) (hL : ∀ t r r', t.is type = true → L r r' → G (t :: r) (t :: r'))
    (hG : ∀ old r, P r → G old (t :: r)) : Completable k (expect type fault) P L G := by
  refine .current (x := [t]) (fun r _ => accepts_expect ht fault r) fun o => ?_
  cases o with
  | none => exact .fails _ fun old r _ => hG old r
  | some head =>
    dsimp only
    cases hhead : head.is type with
    | false => exact .fails _ fun old r _ => hG old r
    | true =>
      exact .goes rfl (fun _ => completable_pure head) fun r r' => hL head r r' hhead

theorem completable_symbol (sym : Symbol)
    (hL : ∀ t r r', t.is (.symbol sym) = true → L r r' → G (t :: r) (t :: r'))
    (hG : ∀ old r, P r → G old (added (.symbol sym) :: r)) :
    Completable k (expectSymbol sym) P L G :=
  (completable_expect _ _ (is_added (.symbol sym)) hL hG).andThen

/-- A parser behind a symbol, which is gone past. -/
theorem Completable.symbol {f : Unit → Parser α} {sym : Symbol}
    (hf : 0 < k → Completable (k - 1) (f ()) P L M)
    (hM : ∀ t r r', t.is (.symbol sym) = true → M r r' → G (t :: r) (t :: r'))
    (hx : ∀ r, P r → Accepts (f ()) (x ++ r) r)
    (hG : ∀ old r, P r → G old (added (.symbol sym) :: (x ++ r))) :
    Completable k (expectSymbol sym >>= f) P L G := by
  have hat {s : Progress} {t : Token} {rest : List Token} (hs : s.rest = t :: rest)
      (ht : t.is (.symbol sym) = true) : (expectSymbol sym >>= f) s = f () { s with rest } := by
    have hsymbol : expectSymbol sym s = .ok () { s with rest } :=
      bind_of_ok (expect_of_at _ hs ht)
    rw [bind_of_ok hsymbol]
  intro s hs
  obtain hno | ⟨t, rest, hrest, ht⟩ := notAt_or (.symbol sym) s.rest
  · have hsymbol : expectSymbol sym s = .error _ s := bind_of_error (expect_of_not_at _ hno)
    refine .of_fail (x := added (.symbol sym) :: x) (bind_of_error hsymbol) fun r hr => ?_
    exact ⟨hG _ r hr, (accepts_symbol sym _).bind fun _ => hx r hr⟩
  · obtain ⟨hpos, hlength⟩ := length_of_cons hrest hs
    exact (hf hpos { s with rest } hlength).behind hrest (fun u rest hu => hat hu ht)
      fun r => hM t rest r ht

theorem accepts_name (role : NameRole) (rest : List Token) :
    Accepts (expectName role) (addedName :: rest) rest :=
  .current rfl (accepts_pure "a" rest)

theorem completable_name (role : NameRole) :
    Completable k (expectName role) P L (Look (Led [addedName.lexeme])) := by
  refine .current (x := [addedName]) (fun r _ => accepts_name role r) fun o => ?_
  have hname (old r : List Token) : Look (Led [addedName.lexeme]) old ([addedName] ++ r) :=
    .inr (led_added (List.mem_singleton_self _) r)
  cases o with
  | none => exact .fails _ fun old r _ _ => hname old r
  | some head =>
    dsimp only [Option.bind_some]
    cases nameOf? head with
    | none => exact .fails _ fun old r _ _ => hname old r
    | some name =>
      exact .goes rfl (fun _ => completable_pure name) fun r r' _ => look_cons _ head r r'

end

end RelaxCompact.Parser
