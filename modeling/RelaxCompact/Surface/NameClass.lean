import RelaxCompact.Span

/-! Name classes as they are written, with their qualifiers. -/

namespace RelaxCompact.Surface

/-- The names that an element or attribute may have. -/
inductive NameClass
  | name (qualifier : Option String) (localName : String) (span : Span)
  | anyName (except : Option NameClass) (span : Span)
  | nsName (qualifier : String) (except : Option NameClass) (span : Span)
  | choice (left right : NameClass) (span : Span)
  deriving Repr

namespace NameClass

def span : NameClass → Span
  | name _ _ s | anyName _ s | nsName _ _ s | choice _ _ s => s

/-- The same names, wherever the two are written. -/
def agrees : NameClass → NameClass → Bool
  | name q l _, name q' l' _ => q = q' && l = l'
  | anyName none _, anyName none _ => true
  | anyName (some e) _, anyName (some e') _ => e.agrees e'
  | nsName q none _, nsName q' none _ => q = q'
  | nsName q (some e) _, nsName q' (some e') _ => q = q' && e.agrees e'
  | choice a b _, choice a' b' _ => a.agrees a' && b.agrees b'
  | _, _ => false

end NameClass

end RelaxCompact.Surface
