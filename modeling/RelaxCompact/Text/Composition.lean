import RelaxCompact.Text.CombiningClass

/-!
Characters that are composed of others, for text without capitals. A text is composed if taking its
characters apart, ordering the marks and composing them again gives the same text.
-/

namespace RelaxCompact

/-- For each second part the first parts and, in the same order, what they become. -/
def compositions : List (Nat × String × String) := [
  (0x0300, "aeiouünеиēōwâăêôơưyἀἁἐἑἠἡἰἱὀὁὐὑὠὡαεηιουωϊϋ",
    "àèìòùǜǹѐѝḕṑẁầằềồờừỳἂἃἒἓἢἣἲἳὂὃὒὓὢὣὰὲὴὶὸὺὼῒῢ"),
  (0x0301, "aeiouyclnrszügåæøϊαεηιϋουωгкçēïkmõōpũwâăêôơưἀἁἐἑἠἡἰἱὀὁὐὑὠὡ",
    "áéíóúýćĺńŕśźǘǵǻǽǿΐάέήίΰόύώѓќḉḗḯḱḿṍṓṕṹẃấắếốớứἄἅἔἕἤἥἴἵὄὅὔὕὤὥ"),
  (0x0302, "aeioucghjswyzạẹọ", "âêîôûĉĝĥĵŝŵŷẑậệộ"), (0x0303, "anoiuvâăeêôơưy", "ãñõĩũṽẫẵẽễỗỡữỹ"),
  (0x0304, "aeiouüäȧæǫöõȯyиуgḷṛαιυ", "āēīōūǖǟǡǣǭȫȭȱȳӣӯḡḹṝᾱῑῡ"),
  (0x0306, "aegiouиужаеȩạαιυ", "ăĕğĭŏŭйўӂӑӗḝặᾰῐῠ"),
  (0x0307, "cegzaobdfhmnprsśšṣtwxy", "ċėġżȧȯḃḋḟḣṁṅṗṙṡṥṧṩṫẇẋẏ"),
  (0x0308, "aeiouyιυеіаәжзиоөэучыhõūwxt", "äëïöüÿϊϋёїӓӛӝӟӥӧӫӭӱӵӹḧṏṻẅẍẗ"),
  (0x0309, "aâăeêioôơuưy", "ảẩẳẻểỉỏổởủửỷ"), (0x030A, "auwy", "åůẘẙ"), (0x030B, "ouу", "őűӳ"),
  (0x030C, "cdelnrstzaiouügkʒjh", "čďěľňřšťžǎǐǒǔǚǧǩǯǰȟ"), (0x030F, "aeioruѵ", "ȁȅȉȍȑȕѷ"),
  (0x0311, "aeioru", "ȃȇȋȏȓȗ"), (0x0313, "αεηιουωρ", "ἀἐἠἰὀὐὠῤ"), (0x0314, "αεηιουωρ", "ἁἑἡἱὁὑὡῥ"),
  (0x031B, "ou", "ơư"), (0x0323, "bdhklmnrstvwzaeioơuưy", "ḅḍḥḳḷṃṇṛṣṭṿẉẓạẹịọợụựỵ"),
  (0x0324, "u", "ṳ"), (0x0325, "a", "ḁ"), (0x0326, "st", "șț"),
  (0x0327, "cgklnrstedh", "çģķļņŗşţȩḑḩ"), (0x0328, "aeiuo", "ąęįųǫ"), (0x032D, "delntu", "ḓḙḽṋṱṷ"),
  (0x032E, "h", "ḫ"), (0x0330, "eiu", "ḛḭṵ"), (0x0331, "bdklnrtzh", "ḇḏḵḻṉṟṯẕẖ"),
  (0x0338, "←→↔⇐⇔⇒∃∈∋∣∥∼≃≅≈=≡≍<>≤≥≲≳≶≷≺≻⊂⊃⊆⊇⊢⊨⊩⊫≼≽⊑⊒⊲⊳⊴⊵",
    "↚↛↮⇍⇎⇏∄∉∌∤∦≁≄≇≉≠≢≭≮≯≰≱≴≵≸≹⊀⊁⊄⊅⊈⊉⊬⊭⊮⊯⋠⋡⋢⋣⋪⋫⋬⋭"),
  (0x0342, "ἀἁἠἡἰἱὐὑὠὡαηιϊυϋω", "ἆἇἦἧἶἷὖὗὦὧᾶῆῖῗῦῧῶ"), (0x0653, "\u0627", "\u0622"),
  (0x0654, "\u0627\u0648\u064a\u06d5\u06c1\u06d2", "\u0623\u0624\u0626\u06c0\u06c2\u06d3"),
  (0x0655, "\u0627", "\u0625"), (0x093C, "नरळ", "ऩऱऴ"), (0x09BE, "\u09c7", "\u09cb"),
  (0x09D7, "\u09c7", "\u09cc"), (0x0B3E, "\u0b47", "\u0b4b"), (0x0B56, "\u0b47", "\u0b48"),
  (0x0B57, "\u0b47", "\u0b4c"), (0x0BBE, "\u0bc6\u0bc7", "\u0bca\u0bcb"),
  (0x0BD7, "ஒ\u0bc6", "ஔ\u0bcc"), (0x0C56, "\u0c46", "\u0c48"), (0x0CC2, "\u0cc6", "\u0cca"),
  (0x0CD5, "\u0cbf\u0cc6\u0cca", "\u0cc0\u0cc7\u0ccb"), (0x0CD6, "\u0cc6", "\u0cc8"),
  (0x0D3E, "\u0d46\u0d47", "\u0d4a\u0d4b"), (0x0D57, "\u0d46", "\u0d4c"),
  (0x0DCA, "\u0dd9\u0ddc", "\u0dda\u0ddd"), (0x0DCF, "\u0dd9", "\u0ddc"),
  (0x0DDF, "\u0dd9", "\u0dde"), (0x102E, "ဥ", "ဦ"),
  (0x3099, "かきくけこさしすせそたちつてとはひふへほうゝカキクケコサシスセソタチツテトハヒフヘホウワヰヱヲヽ",
    "がぎぐげござじずぜぞだぢづでどばびぶべぼゔゞガギグゲゴザジズゼゾダヂヅデドバビブベボヴヷヸヹヺヾ"),
  (0x309A, "はひふへほハヒフヘホ", "ぱぴぷぺぽパピプペポ")]

/-- The same for characters that are composed, but are not taken apart. -/
def laterCompositions : List (Nat × String × String) := [
  (0x1B35, "ᬅᬇᬉᬋᬍᬑ\u1b3a\u1b3c\u1b3e\u1b3f\u1b42", "ᬆᬈᬊᬌᬎᬒ\u1b3b\u1b3d\u1b40\u1b41\u1b43"),
  (0x110BA, "𑂙𑂛𑂥", "𑂚𑂜𑂫"), (0x11127, "𑄱𑄲", "𑄮𑄯"), (0x1133E, "𑍇", "𑍋"), (0x11357, "𑍇", "𑍌"),
  (0x114B0, "𑒹", "𑒼"), (0x114BA, "𑒹", "𑒻"), (0x114BD, "𑒹", "𑒾"), (0x115AF, "𑖸𑖹", "𑖺𑖻"),
  (0x11930, "𑤵", "𑤸")]

namespace Composition

/-- What two code points become in one of the tables. -/
def listed? (table : List (Nat × String × String)) (first second : Nat) : Option Nat := do
  let (firsts, results) ← table.lookup second
  let place ← firsts.toList.idxOf? (Char.ofNat first)
  (results.toList[place]?).map Char.toNat

/-- Hangul syllables are composed by rule: first an initial consonant and a vowel, then the final
consonant. -/
def hangul? (first second : Nat) : Option Nat :=
  if 0x1100 ≤ first ∧ first < 0x1113 ∧ 0x1161 ≤ second ∧ second < 0x1176 then
    some (0xAC00 + ((first - 0x1100) * 21 + (second - 0x1161)) * 28)
  else if 0xAC00 ≤ first ∧ first < 0xD7A4 ∧ (first - 0xAC00) % 28 = 0 ∧
      0x11A7 < second ∧ second < 0x11C3 then
    some (first + (second - 0x11A7))
  else none

/-- What two code points become together. -/
def pair? (first second : Nat) : Option Nat :=
  hangul? first second <|> listed? compositions first second <|>
    listed? laterCompositions first second

/-- The two code points that one is composed of. -/
def parts? (n : Nat) : Option (Nat × Nat) :=
  if 0xAC00 ≤ n ∧ n < 0xD7A4 then
    let place := n - 0xAC00
    if place % 28 = 0 then some (0x1100 + place / 588, 0x1161 + place / 28 % 21)
    else some (n - place % 28, 0x11A7 + place % 28)
  else
    compositions.findSome? fun (second, firsts, results) => do
      let place ← results.toList.idxOf? (Char.ofNat n)
      let first ← firsts.toList[place]?
      return (first.toNat, second)

/-- The code points that one is composed of, in up to `depth` steps. -/
def takeApart : (depth : Nat) → Nat → List Nat
  | 0, n => [n]
  | depth + 1, n =>
    match parts? n with
    | some (first, second) => takeApart depth first ++ [second]
    | none => [n]

/-- No character is composed in more steps. -/
def deepest : Nat := 4

/-- Puts a code point before the marks of higher classes that follow it. -/
def insertMark (n : Nat) : List Nat → List Nat
  | [] => [n]
  | m :: rest =>
    if combiningClass m ≠ 0 ∧ combiningClass m < combiningClass n then m :: insertMark n rest
    else n :: m :: rest

/-- Marks in the order of their classes. -/
def orderMarks (text : List Nat) : List Nat := text.foldr insertMark []

/-- Composes a code point with marks after it. Of the marks in between, which have to be of lower
classes, the last one is of class `last`. -/
def absorb (n last : Nat) : List Nat → Nat × List Nat
  | [] => (n, [])
  | m :: rest =>
    let next := combiningClass m
    if last ≠ 0 ∧ next = 0 then (n, m :: rest)
    else if last ≠ 0 ∧ next ≤ last then
      let (n, rest) := absorb n last rest
      (n, m :: rest)
    else
      match pair? n m with
      | some composed => absorb composed last rest
      | none =>
        if next = 0 then (n, m :: rest)
        else
          let (n, rest) := absorb n next rest
          (n, m :: rest)

theorem length_absorb_le (n last : Nat) (text : List Nat) :
    (absorb n last text).2.length ≤ text.length := by
  induction text generalizing n last with
  | nil => simp [absorb]
  | cons m rest ih =>
    simp only [absorb]
    split
    · simp
    · split
      · simpa using ih n last
      · split
        · exact Nat.le_succ_of_le (ih _ last)
        · split
          · simp
          · simpa using ih n (combiningClass m)

/-- Composes what can be composed. -/
def compose : List Nat → List Nat
  | [] => []
  | n :: rest => (absorb n 0 rest).1 :: compose (absorb n 0 rest).2
termination_by text => text.length
decreasing_by
  have := length_absorb_le n 0 rest
  simp only [List.length_cons]
  omega

/-- A text is its own composed form. -/
def isComposed (text : List Nat) : Bool :=
  compose (orderMarks (text.flatMap (takeApart deepest))) = text

end Composition

end RelaxCompact
