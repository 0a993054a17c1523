import RelaxCompact.Proofs.Assembly.Expansion
import RelaxCompact.Proofs.Run
import RelaxCompact.Proofs.Table

/-!
What the names in a file stand for, as it is read off the header of the file. Of the declarations
of a qualifier the last one counts, `xml` and `xsd` need none, and names without a qualifier are in
the default namespace if they are names of elements.
-/

namespace RelaxCompact

open Surface

namespace Surface.Declaration

/-- The namespace that a declaration binds a qualifier to, if it does; `inherited` is what `inherit`
stands for. -/
def namespaceOf? (inherited : Text) (qualifier : String) : Declaration → Option Text
  | binding (some q) uri _ _ => if q = qualifier then some (uri.getD inherited) else none
  | _ => none

/-- The default namespace that is declared. -/
def defaultOf? (inherited : Text) : Declaration → Option Text
  | binding _ uri true _ => some (uri.getD inherited)
  | _ => none

/-- The library that a declaration binds a qualifier to. -/
def libraryOf? (qualifier : String) : Declaration → Option Text
  | library q uri _ => if q = qualifier then some uri else none
  | _ => none

end Surface.Declaration

/-- The header of a file, and the namespace that is passed down to the file. -/
structure Header where
  declarations : List Declaration
  inherited : Text

namespace Header

def namespace? (h : Header) (qualifier : String) : Option Text :=
  (h.declarations.filterMap (·.namespaceOf? h.inherited qualifier)).getLast?.or
    (if qualifier = "xml" then some xmlNamespace else none)

def defaultNamespace (h : Header) : Text :=
  (h.declarations.filterMap (·.defaultOf? h.inherited)).getLast?.getD h.inherited

def library? (h : Header) (qualifier : String) : Option Text :=
  (h.declarations.filterMap (·.libraryOf? qualifier)).getLast?.or
    (if qualifier = "xsd" then some schemaDatatypes else none)

/-- The library of a datatype. The built-in datatypes are in the library without a name. -/
def libraryOf (h : Header) (type : Datatype) : Option Text :=
  match type.qualifier with
  | none => some []
  | some qualifier => h.library? qualifier

/-- The names that a name class stands for in a file, by what holds them. -/
inductive Means (h : Header) : Holder → Surface.NameClass → NameClass → Prop
  | qualified {holder qualifier localName span ns} : h.namespace? qualifier = some ns →
    Means h holder (.name (some qualifier) localName span) (.name ns localName)
  | element {localName span} :
    Means h .element (.name none localName span) (.name h.defaultNamespace localName)
  | attr {localName span} : Means h .attr (.name none localName span) (.name [] localName)
  | anyName {holder span} : Means h holder (.anyName none span) (.anyName none)
  | anyNameExcept {holder except span except'} : Means h holder except except' →
    Means h holder (.anyName (some except) span) (.anyName (some except'))
  | nsName {holder qualifier span ns} : h.namespace? qualifier = some ns →
    Means h holder (.nsName qualifier none span) (.nsName ns none)
  | nsNameExcept {holder qualifier except span ns except'} : h.namespace? qualifier = some ns →
    Means h holder except except' →
    Means h holder (.nsName qualifier (some except) span) (.nsName ns (some except'))
  | choice {holder left right span left' right'} :
    Means h holder left left' → Means h holder right right' →
    Means h holder (.choice left right span) (.choice left' right')

/-! The environment of a file -/

def environment (h : Header) : Environment := Environment.ofDeclarations h.declarations h.inherited

theorem get?_singleton (k j : String) (v : Text) :
    (⟨[(k, v)]⟩ : Table String Text).get? j = if j = k then some v else none := by
  simp only [Table.get?, Table.lookup, eq_comm]

variable (h : Header)

theorem environment_namespace (qualifier : String) :
    h.environment.namespaces.get? qualifier = h.namespace? qualifier := by
  unfold namespace?
  rw [← get?_singleton]
  refine foldl_eq_getLast? (Environment.declare h.inherited) (·.namespaces.get? qualifier) _
    (fun env d => ?_) _ _
  cases d with
  | library q uri span => rfl
  | binding q uri isDefault span =>
    cases q with
    | none => rfl
    | some q =>
      unfold Declaration.namespaceOf?
      dsimp only
      split
      next he =>
        subst he
        exact Table.get?_insert_self _ _ _
      next hne => exact Table.get?_insert_of_ne _ (Ne.symm hne) _

theorem environment_library (qualifier : String) :
    h.environment.libraries.get? qualifier = h.library? qualifier := by
  unfold library?
  rw [← get?_singleton]
  refine foldl_eq_getLast? (Environment.declare h.inherited) (·.libraries.get? qualifier) _
    (fun env d => ?_) _ _
  cases d with
  | binding q uri isDefault span => rfl
  | library q uri span =>
    unfold Declaration.libraryOf?
    dsimp only
    split
    next he =>
      subst he
      exact Table.get?_insert_self _ _ _
    next hne => exact Table.get?_insert_of_ne _ (Ne.symm hne) _

theorem environment_default : h.environment.defaultNamespace = h.defaultNamespace := by
  have hlast := foldl_eq_getLast? (Environment.declare h.inherited) (some ·.defaultNamespace)
    (·.defaultOf? h.inherited) (fun env d => ?step) h.declarations
    { defaultNamespace := h.inherited }
  case step =>
    cases d with
    | library q uri span => rfl
    | binding q uri isDefault span => cases isDefault <;> rfl
  exact Option.some.inj (hlast.trans Option.or_some)

variable {h}

theorem namespaceFor_iff {qualifier : String} {span : Option Span} {ns : Text} :
    h.environment.namespaceFor qualifier span = .ok ns ↔ h.namespace? qualifier = some ns := by
  unfold Environment.namespaceFor
  rw [environment_namespace]
  cases h.namespace? qualifier <;> simp

theorem libraryFor_iff {type : Datatype} {span : Option Span} {library : Text} :
    h.environment.libraryFor type span = .ok library ↔ h.libraryOf type = some library := by
  unfold Environment.libraryFor libraryOf
  cases type.qualifier with
  | none => simp
  | some qualifier =>
    dsimp only
    rw [environment_library]
    cases h.library? qualifier <;> simp

theorem passes_iff {inherit : Option String} {ns : Text} :
    h.environment.Passes inherit ns ↔
      match inherit with
      | none => ns = h.defaultNamespace
      | some qualifier => h.namespace? qualifier = some ns := by
  unfold Environment.Passes
  rw [environment_default]
  cases inherit with
  | none => rfl
  | some qualifier => exact Eq.congr_left (environment_namespace h qualifier)

/-- Names are resolved to what they stand for. -/
theorem means_of_nameClass {holder : Holder} {name : Surface.NameClass} {name' : NameClass}
    (hname : h.environment.nameClass holder name = .ok name') : h.Means holder name name' := by
  fun_induction Environment.nameClass h.environment holder name generalizing name' with
  | case1 qualifier localName span =>
    obtain ⟨ns, hns, hpure⟩ := Run.ok_of_bind hname
    cases hpure
    exact .qualified (namespaceFor_iff.1 hns)
  | case2 localName span =>
    cases hname
    cases holder with
    | element =>
      change h.Means .element _ (.name h.environment.defaultNamespace localName)
      rw [environment_default]
      exact .element
    | attr => exact .attr
  | case3 span =>
    cases hname
    exact .anyName
  | case4 except span ih =>
    obtain ⟨except', hexcept, hpure⟩ := Run.ok_of_bind hname
    cases hpure
    exact .anyNameExcept (ih hexcept)
  | case5 qualifier span =>
    obtain ⟨ns, hns, hpure⟩ := Run.ok_of_bind hname
    cases hpure
    exact .nsName (namespaceFor_iff.1 hns)
  | case6 qualifier except span ih =>
    obtain ⟨ns, hns, hrest⟩ := Run.ok_of_bind hname
    obtain ⟨except', hexcept, hpure⟩ := Run.ok_of_bind hrest
    cases hpure
    exact .nsNameExcept (namespaceFor_iff.1 hns) (ih hexcept)
  | case7 left right span ihLeft ihRight =>
    obtain ⟨left', hleft, hrest⟩ := Run.ok_of_bind hname
    obtain ⟨right', hright, hpure⟩ := Run.ok_of_bind hrest
    cases hpure
    exact .choice (ihLeft hleft) (ihRight hright)

end Header

end RelaxCompact
