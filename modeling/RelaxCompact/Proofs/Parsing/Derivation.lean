import RelaxCompact.Parser.File

/-!
The grammar of the compact syntax, as derivations of trees from tokens:

    TopLevel       = { Decl } , ( { Component } | Pattern )
    Decl           = "namespace" , Prefix , "=" , NamespaceUri
                   | "default" , "namespace" , [ Prefix ] , "=" , NamespaceUri
                   | "datatypes" , Prefix , "=" , Literal
    Component      = Define | Start | Div | Include
    Define         = ( Identifier | "start" ) , ( "=" | "|=" | "&=" ) , Pattern
    Include        = "include" , Literal , [ Inherit ] , [ "{" , { IncludeComponent } , "}" ]
    Pattern        = Interleave , { "|" , Interleave }
    Interleave     = Sequence , { "&" , Sequence }
    Sequence       = Postfix , { [ "," ] , Postfix }
    Postfix        = Primary , { "?" | "*" | "+" }
    Datatype       = DatatypeName , ( Literal | [ Params ] , [ "-" , Primary ] )
    NameClass      = BasicNameClass , { "|" , BasicNameClass }
    BasicNameClass = Name | Prefix ":" Name | "*" [ Except ] | Prefix ":*" [ Except ]
                   | "(" NameClass ")"

A derivation uses each of its tokens once and in order. Annotations may stand in front of some of
them and are passed over there; they have no part in the tree.
-/

namespace RelaxCompact

open Surface

/-! Annotations -/

/-- Brackets match, and the end of the file is not among the tokens. -/
inductive Balanced : List Token → Prop
  | nil : Balanced []
  | token {t : Token} {ts : List Token} :
    t.lexeme ≠ .symbol .leftBracket → t.lexeme ≠ .symbol .rightBracket →
    t.lexeme ≠ .eof → Balanced ts → Balanced (t :: ts)
  | brackets {left : Token} {inner : List Token} {right : Token} {ts : List Token} :
    left.lexeme = .symbol .leftBracket → Balanced inner →
    right.lexeme = .symbol .rightBracket → Balanced ts → Balanced (left :: inner ++ right :: ts)

/-- Bracketed annotations, one behind another. -/
inductive Annotations : List Token → Prop
  | nil : Annotations []
  | cons {left : Token} {inner : List Token} {right : Token} {ts : List Token} :
    left.lexeme = .symbol .leftBracket → Balanced inner →
    right.lexeme = .symbol .rightBracket → Annotations ts →
    Annotations (left :: inner ++ right :: ts)

/-- Annotation elements: qualified names with annotations behind them. -/
inductive AnnotationElements : List Token → Prop
  | nil : AnnotationElements []
  | cons {t : Token} {qualifier localName : String} {annotations ts : List Token} :
    t.lexeme = .prefixedName qualifier localName →
    Annotations annotations → annotations ≠ [] → AnnotationElements ts →
    AnnotationElements (t :: annotations ++ ts)

/-- What is passed over at grammar level, where a component or the end of components stands. -/
def GrammarAnnotations (ts : List Token) : Prop :=
  ∃ annotations elements, ts = annotations ++ elements ∧ Annotations annotations ∧
    AnnotationElements elements

/-- A token that a derivation uses, and the annotations in front of it that are passed over. -/
structure Used where
  passed : List Token
  token : Token

/-- A token with nothing in front of it to pass over. -/
def Token.used (t : Token) : Used := ⟨[], t⟩

/-- The tokens as they are written. -/
def written : List Used → List Token
  | [] => []
  | u :: us => u.passed ++ u.token :: written us

/-! Names, literals and declarations -/

/-- Literals joined by `~`. -/
inductive DerivesLiteral : List Used → Text → Prop
  | single {t : Token} {value : Text} : t.lexeme = .literal value → DerivesLiteral [t.used] value
  | joined {us : List Used} {tilde t : Token} {text value : Text} :
    DerivesLiteral us text → tilde.lexeme = .symbol .tilde →
    t.lexeme = .literal value → DerivesLiteral (us ++ [tilde.used, t.used]) (text ++ value)

/-- `inherit = prefix`, if it is there. -/
inductive DerivesInherit : List Used → Option String → Prop
  | absent : DerivesInherit [] none
  | present {inherit assign name : Token} {qualifier : String} :
    inherit.lexeme = .keyword .inherit →
    assign.lexeme = .symbol .assign → Parser.nameOf? name = some qualifier →
    DerivesInherit [inherit.used, assign.used, name.used] (some qualifier)

/-- A literal, or `inherit`. -/
inductive DerivesNamespaceUri : List Used → Option Text → Prop
  | inherit {t : Token} : t.lexeme = .keyword .inherit → DerivesNamespaceUri [t.used] none
  | literal {us : List Used} {text : Text} :
    DerivesLiteral us text → DerivesNamespaceUri us (some text)

inductive DerivesDeclaration : List Used → Declaration → Prop
  | binding {head : Used} {name assign : Token} {us : List Used} {qualifier : String}
      {uri : Option Text} :
    Annotations head.passed → head.token.lexeme = .keyword .ns →
    Parser.nameOf? name = some qualifier →
    assign.lexeme = .symbol .assign → DerivesNamespaceUri us uri →
    DerivesDeclaration (head :: name.used :: assign.used :: us)
      (.binding (some qualifier) uri false head.token.span)
  | default {head : Used} {ns assign : Token} {us : List Used} {uri : Option Text} :
    Annotations head.passed → head.token.lexeme = .keyword .default → ns.lexeme = .keyword .ns →
    assign.lexeme = .symbol .assign → DerivesNamespaceUri us uri →
    DerivesDeclaration (head :: ns.used :: assign.used :: us)
      (.binding none uri true head.token.span)
  | defaultBinding {head : Used} {ns name assign : Token} {us : List Used} {qualifier : String}
      {uri : Option Text} :
    Annotations head.passed → head.token.lexeme = .keyword .default → ns.lexeme = .keyword .ns →
    Parser.nameOf? name = some qualifier → assign.lexeme = .symbol .assign →
    DerivesNamespaceUri us uri →
    DerivesDeclaration (head :: ns.used :: name.used :: assign.used :: us)
      (.binding (some qualifier) uri true head.token.span)
  | library {head : Used} {name assign : Token} {us : List Used} {qualifier : String} {uri : Text} :
    Annotations head.passed → head.token.lexeme = .keyword .datatypes →
    Parser.nameOf? name = some qualifier →
    assign.lexeme = .symbol .assign → DerivesLiteral us uri →
    DerivesDeclaration (head :: name.used :: assign.used :: us)
      (.library qualifier uri head.token.span)

inductive DerivesDeclarations : List Used → List Declaration → Prop
  | nil : DerivesDeclarations [] []
  | cons {us vs : List Used} {d : Declaration} {ds : List Declaration} :
    DerivesDeclaration us d → DerivesDeclarations vs ds →
    DerivesDeclarations (us ++ vs) (d :: ds)

/-! Name classes -/

mutual

inductive DerivesNameClass : List Used → Surface.NameClass → Prop
  | basic {us : List Used} {c : Surface.NameClass} : DerivesBasicName us c → DerivesNameClass us c
  | choice {us : List Used} {pipe : Token} {vs : List Used} {left right : Surface.NameClass} :
    DerivesNameClass us left → pipe.lexeme = .symbol .pipe →
    DerivesBasicName vs right →
    DerivesNameClass (us ++ pipe.used :: vs) (.choice left right left.span)

inductive DerivesBasicName : List Used → Surface.NameClass → Prop
  | name {head : Used} {localName : String} : Annotations head.passed →
    Parser.nameOf? head.token = some localName →
    DerivesBasicName [head] (.name none localName head.token.span)
  | qualified {head : Used} {qualifier localName : String} : Annotations head.passed →
    head.token.lexeme = .prefixedName qualifier localName →
    DerivesBasicName [head] (.name (some qualifier) localName head.token.span)
  | anyName {head : Used} {us : List Used} {except : Option Surface.NameClass} :
    Annotations head.passed → head.token.lexeme = .symbol .star →
    DerivesNameException us except →
    DerivesBasicName (head :: us) (.anyName except head.token.span)
  | nsName {head : Used} {us : List Used} {qualifier : String} {except : Option Surface.NameClass} :
    Annotations head.passed → head.token.lexeme = .nsName qualifier →
    DerivesNameException us except →
    DerivesBasicName (head :: us) (.nsName qualifier except head.token.span)
  | parenthesized {head : Used} {us : List Used} {close : Token} {c : Surface.NameClass} :
    Annotations head.passed → head.token.lexeme = .symbol .leftParen → DerivesNameClass us c →
    close.lexeme = .symbol .rightParen → DerivesBasicName (head :: (us ++ [close.used])) c

inductive DerivesNameException : List Used → Option Surface.NameClass → Prop
  | absent : DerivesNameException [] none
  | present {minus : Token} {us : List Used} {c : Surface.NameClass} :
    minus.lexeme = .symbol .minus → DerivesBasicName us c →
    DerivesNameException (minus.used :: us) (some c)

end

/-! Patterns and components -/

/-- An identifier stands here with an operator behind it that assigns a definition. -/
def StartsDefinition (ts : List Token) : Prop :=
  ∃ t op rest name, ts = t :: op :: rest ∧ t.lexeme = .identifier name ∧
    (Parser.assignment? op).isSome

/-- A qualified name stands here with an annotation behind it. -/
def StartsElement (ts : List Token) : Prop :=
  ∃ t bracket rest qualifier localName, ts = t :: bracket :: rest ∧
    t.lexeme = .prefixedName qualifier localName ∧ bracket.lexeme = .symbol .leftBracket

/-- The token names a datatype. -/
inductive NamesDatatype : Token → Datatype → Prop
  | string {t : Token} : t.lexeme = .keyword .string → NamesDatatype t ⟨none, "string"⟩
  | token {t : Token} : t.lexeme = .keyword .token → NamesDatatype t ⟨none, "token"⟩
  | qualified {t : Token} {qualifier localName : String} :
    t.lexeme = .prefixedName qualifier localName →
    NamesDatatype t ⟨some qualifier, localName⟩

/-- Parameters up to the closing brace. -/
inductive DerivesParams : List Used → List (String × Text) → Prop
  | nil {close : Token} : close.lexeme = .symbol .rightBrace → DerivesParams [close.used] []
  | cons {head : Used} {assign : Token} {us vs : List Used} {name : String} {value : Text}
      {params : List (String × Text)} :
    Annotations head.passed → Parser.nameOf? head.token = some name →
    assign.lexeme = .symbol .assign →
    DerivesLiteral us value → DerivesParams vs params →
    DerivesParams (head :: assign.used :: (us ++ vs)) ((name, value) :: params)

/-- Parameters in braces, if they are there. -/
inductive DerivesParamBlock : List Used → List (String × Text) → Prop
  | absent : DerivesParamBlock [] []
  | present {brace : Token} {us : List Used} {params : List (String × Text)} :
    brace.lexeme = .symbol .leftBrace → DerivesParams us params →
    DerivesParamBlock (brace.used :: us) params

/-- What the token of a definition names. -/
inductive NamesDefinition : Token → DefineName → Prop
  | start {t : Token} : t.lexeme = .keyword .start → NamesDefinition t .start
  | named {t : Token} {name : String} :
    t.lexeme = .identifier name → NamesDefinition t (.named name)

mutual

/-- The tokens derive the pattern in front of others. -/
inductive DerivesPattern (docs : DocLines) : List Used → List Token → Pattern → Prop
  | interleave {us : List Used} {next : List Token} {p : Pattern} :
    DerivesInterleave docs us next p → DerivesPattern docs us next p
  | choice {us : List Used} {pipe : Token} {vs : List Used} {next : List Token}
      {left right : Pattern} :
    DerivesPattern docs us (written (pipe.used :: vs) ++ next) left →
    pipe.lexeme = .symbol .pipe → DerivesInterleave docs vs next right →
    DerivesPattern docs (us ++ pipe.used :: vs) next (.binary .choice left right left.span)

inductive DerivesInterleave (docs : DocLines) : List Used → List Token → Pattern → Prop
  | sequence {us : List Used} {next : List Token} {p : Pattern} :
    DerivesSequence docs us next p → DerivesInterleave docs us next p
  | interleave {us : List Used} {ampersand : Token} {vs : List Used} {next : List Token}
      {left right : Pattern} :
    DerivesInterleave docs us (written (ampersand.used :: vs) ++ next) left →
    ampersand.lexeme = .symbol .ampersand → DerivesSequence docs vs next right →
    DerivesInterleave docs (us ++ ampersand.used :: vs) next
      (.binary .interleave left right left.span)

/-- Without a comma a sequence goes on only where neither a definition starts nor an annotation
element, behind the annotations that are passed over. -/
inductive DerivesSequence (docs : DocLines) : List Used → List Token → Pattern → Prop
  | occurrence {us : List Used} {next : List Token} {p : Pattern} :
    DerivesPostfix docs us next p → DerivesSequence docs us next p
  | comma {us : List Used} {comma : Token} {vs : List Used} {next : List Token}
      {left right : Pattern} :
    DerivesSequence docs us (written (comma.used :: vs) ++ next) left →
    comma.lexeme = .symbol .comma → DerivesPostfix docs vs next right →
    DerivesSequence docs (us ++ comma.used :: vs) next (.binary .group left right left.span)
  | juxtaposed {us : List Used} {head : Used} {vs : List Used} {next : List Token}
      {left right : Pattern} :
    DerivesSequence docs us (written (head :: vs) ++ next) left →
    ¬ StartsDefinition (head.token :: written vs ++ next) →
    ¬ StartsElement (head.token :: written vs ++ next) →
    DerivesPostfix docs (head :: vs) next right →
    DerivesSequence docs (us ++ head :: vs) next (.binary .group left right left.span)

inductive DerivesPostfix (docs : DocLines) : List Used → List Token → Pattern → Prop
  | primary {us : List Used} {next : List Token} {p : Pattern} :
    DerivesPrimary docs us next p → DerivesPostfix docs us next p
  | modified {us : List Used} {op : Token} {next : List Token} {p : Pattern} {modifier : Modifier} :
    DerivesPostfix docs us (op :: next) p →
    Parser.postfixModifier? op = some modifier →
    DerivesPostfix docs (us ++ [op.used]) next (.unary modifier p p.span)

inductive DerivesPrimary (docs : DocLines) : List Used → List Token → Pattern → Prop
  | element {head : Used} {us vs : List Used} {next : List Token} {name : Surface.NameClass}
      {content : Pattern} :
    Annotations head.passed → head.token.lexeme = .keyword .element → DerivesNameClass us name →
    DerivesBraced docs vs next content →
    DerivesPrimary docs (head :: (us ++ vs)) next (.named .element name content head.token.span)
  | attr {head : Used} {us vs : List Used} {next : List Token} {name : Surface.NameClass}
      {content : Pattern} :
    Annotations head.passed → head.token.lexeme = .keyword .attr → DerivesNameClass us name →
    DerivesBraced docs vs next content →
    DerivesPrimary docs (head :: (us ++ vs)) next (.named .attr name content head.token.span)
  | list {head : Used} {us : List Used} {next : List Token} {content : Pattern} :
    Annotations head.passed → head.token.lexeme = .keyword .list →
    DerivesBraced docs us next content →
    DerivesPrimary docs (head :: us) next (.unary .list content head.token.span)
  | mixed {head : Used} {us : List Used} {next : List Token} {content : Pattern} :
    Annotations head.passed → head.token.lexeme = .keyword .mixed →
    DerivesBraced docs us next content →
    DerivesPrimary docs (head :: us) next (.unary .mixed content head.token.span)
  | empty {head : Used} {next : List Token} :
    Annotations head.passed → head.token.lexeme = .keyword .empty →
    DerivesPrimary docs [head] next (.leaf .empty head.token.span)
  | text {head : Used} {next : List Token} :
    Annotations head.passed → head.token.lexeme = .keyword .text →
    DerivesPrimary docs [head] next (.leaf .text head.token.span)
  | notAllowed {head : Used} {next : List Token} : Annotations head.passed →
    head.token.lexeme = .keyword .notAllowed →
    DerivesPrimary docs [head] next (.leaf .notAllowed head.token.span)
  | ref {head : Used} {next : List Token} {name : String} :
    Annotations head.passed → head.token.lexeme = .identifier name →
    DerivesPrimary docs [head] next (.ref name head.token.span)
  | parentRef {head : Used} {t : Token} {next : List Token} {name : String} :
    Annotations head.passed → head.token.lexeme = .keyword .parent → t.lexeme = .identifier name →
    DerivesPrimary docs [head, t.used] next (.parentRef name head.token.span)
  | parenthesized {head : Used} {us : List Used} {close : Token} {next : List Token} {p : Pattern} :
    Annotations head.passed → head.token.lexeme = .symbol .leftParen →
    DerivesPattern docs us (close :: next) p →
    close.lexeme = .symbol .rightParen →
    DerivesPrimary docs (head :: (us ++ [close.used])) next p
  | external {head : Used} {us vs : List Used} {next : List Token} {href : Text}
      {inherit : Option String} :
    Annotations head.passed → head.token.lexeme = .keyword .external →
    DerivesLiteral us href → DerivesInherit vs inherit →
    DerivesPrimary docs (head :: (us ++ vs)) next (.external href inherit head.token.span)
  | grammar {head : Used} {us : List Used} {next : List Token} {components : List Component} :
    Annotations head.passed → head.token.lexeme = .keyword .grammar →
    DerivesBlock docs true us next components →
    DerivesPrimary docs (head :: us) next (.grammar components head.token.span)
  | value {head : Used} {us : List Used} {next : List Token} {type : Datatype} {literal : Text} :
    Annotations head.passed → NamesDatatype head.token type → DerivesLiteral us literal →
    DerivesPrimary docs (head :: us) next (.value literal type head.token.span)
  | data {head : Used} {us vs : List Used} {next : List Token} {type : Datatype}
      {params : List (String × Text)} {except : Option Pattern} :
    Annotations head.passed → NamesDatatype head.token type → DerivesParamBlock us params →
    DerivesException docs vs next except →
    DerivesPrimary docs (head :: (us ++ vs)) next (.data type params except head.token.span)
  | literal {head : Used} {us : List Used} {next : List Token} {literal : Text} :
    Annotations head.passed → DerivesLiteral (head.token.used :: us) literal →
    DerivesPrimary docs (head :: us) next (.value literal ⟨none, "token"⟩ head.token.span)

/-- What a datatype leaves out, if anything. -/
inductive DerivesException (docs : DocLines) : List Used → List Token → Option Pattern → Prop
  | absent {next : List Token} : DerivesException docs [] next none
  | present {minus : Token} {us : List Used} {next : List Token} {p : Pattern} :
    minus.lexeme = .symbol .minus → DerivesPrimary docs us next p →
    DerivesException docs (minus.used :: us) next (some p)

/-- A pattern in braces. -/
inductive DerivesBraced (docs : DocLines) : List Used → List Token → Pattern → Prop
  | braced {brace : Token} {us : List Used} {close : Token} {next : List Token} {p : Pattern} :
    brace.lexeme = .symbol .leftBrace →
    DerivesPattern docs us (close :: next) p → close.lexeme = .symbol .rightBrace →
    DerivesBraced docs (brace.used :: (us ++ [close.used])) next p

/-- Components in braces, includes among them if they may be. -/
inductive DerivesBlock (docs : DocLines) :
    (includes : Bool) → List Used → List Token → List Component → Prop
  | braced {includes : Bool} {brace : Token} {us : List Used} {close : Used} {next : List Token}
      {cs : List Component} :
    brace.lexeme = .symbol .leftBrace →
    DerivesComponents docs includes us (written [close] ++ next) cs →
    GrammarAnnotations close.passed → close.token.lexeme = .symbol .rightBrace →
    DerivesBlock docs includes (brace.used :: (us ++ [close])) next cs

inductive DerivesComponents (docs : DocLines) :
    (includes : Bool) → List Used → List Token → List Component → Prop
  | nil {includes : Bool} {next : List Token} : DerivesComponents docs includes [] next []
  | cons {includes : Bool} {us vs : List Used} {next : List Token} {c : Component}
      {cs : List Component} :
    DerivesComponent docs includes us (written vs ++ next) c →
    DerivesComponents docs includes vs next cs →
    DerivesComponents docs includes (us ++ vs) next (c :: cs)

/-- The documentation of a definition stands on the lines directly above it. -/
inductive DerivesComponent (docs : DocLines) :
    (includes : Bool) → List Used → List Token → Component → Prop
  | define {includes : Bool} {head : Used} {op : Token} {us : List Used} {next : List Token}
      {name : DefineName} {operator : Assignment} {p : Pattern} :
    GrammarAnnotations head.passed → NamesDefinition head.token name →
    Parser.assignment? op = some operator →
    DerivesPattern docs us next p →
    DerivesComponent docs includes (head :: op.used :: us) next
      (.define name operator p (Parser.docAbove docs head.token.start.line) head.token.span)
  | div {includes : Bool} {head : Used} {us : List Used} {next : List Token}
      {components : List Component} :
    GrammarAnnotations head.passed → head.token.lexeme = .keyword .div →
    DerivesBlock docs includes us next components →
    DerivesComponent docs includes (head :: us) next (.div components head.token.span)
  | incl {head : Used} {us vs : List Used} {next : List Token} {href : Text}
      {inherit : Option String} :
    GrammarAnnotations head.passed → head.token.lexeme = .keyword .incl →
    DerivesLiteral us href → DerivesInherit vs inherit →
    DerivesComponent docs true (head :: (us ++ vs)) next (.incl href inherit [] head.token.span)
  | overriding {head : Used} {us vs ws : List Used} {next : List Token} {href : Text}
      {inherit : Option String} {overrides : List Component} :
    GrammarAnnotations head.passed → head.token.lexeme = .keyword .incl →
    DerivesLiteral us href → DerivesInherit vs inherit →
    DerivesBlock docs false ws next overrides →
    DerivesComponent docs true (head :: (us ++ vs ++ ws)) next
      (.incl href inherit overrides head.token.span)

end

/-- The tokens of a whole file, the end among them, derive the file. -/
inductive DerivesFile (docs : DocLines) (path : Text) : List Token → File → Prop
  | grammar {us : List Used} {annotations : List Token} {vs : List Used} {last : Used}
      {ds : List Declaration} {cs : List Component} :
    DerivesDeclarations us ds →
    Annotations annotations → DerivesComponents docs true vs (written [last]) cs →
    GrammarAnnotations last.passed → last.token.lexeme = .eof →
    DerivesFile docs path (written us ++ annotations ++ written vs ++ written [last])
      ⟨path, ds, cs, false⟩
  | pattern {us : List Used} {annotations : List Token} {vs : List Used} {last : Token}
      {ds : List Declaration} {p : Pattern} :
    DerivesDeclarations us ds → Annotations annotations →
    DerivesPattern docs vs [last] p → last.lexeme = .eof →
    DerivesFile docs path (written us ++ annotations ++ written vs ++ [last])
      ⟨path, ds, [.define .start .single p none p.span], true⟩

end RelaxCompact
