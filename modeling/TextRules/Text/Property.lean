import TextRules.Text.Property.Age
import TextRules.Text.Property.Breaks
import TextRules.Text.Property.Script

namespace TextRules

/-!
# Properties of characters

A property is asked for by one name, which can also be that of a general category or a script, or
by its name and a value.
-/

/-- A question for the characters with a property. -/
inductive PropertyQuery
  | named (name : List Char)
  | valued (name value : List Char)
  deriving DecidableEq

namespace PropertyQuery

/-- Why a question has no answer. -/
inductive Fault
  | unknownProperty
  | unknownValue
  deriving DecidableEq

/-! ### What is known without its characters -/

/-- Names of properties whose characters are not known, or only by value. -/
def otherProperties : List String :=
  ["age", "bc", "Bidi_Class", "bmg", "Bidi_Mirroring_Glyph",
    "bpb", "Bidi_Paired_Bracket", "bpt", "Bidi_Paired_Bracket_Type", "blk", "Block", "CE",
    "Composition_Exclusion", "ccc", "Canonical_Combining_Class", "cf", "Case_Folding",
    "cjkAccountingNumeric", "kAccountingNumeric", "cjkCompatibilityVariant",
    "kCompatibilityVariant", "cjkIICore", "kIICore", "cjkIRG_GSource", "kIRG_GSource",
    "cjkIRG_HSource", "kIRG_HSource", "cjkIRG_JSource", "kIRG_JSource", "cjkIRG_KPSource",
    "kIRG_KPSource", "cjkIRG_KSource", "kIRG_KSource", "cjkIRG_MSource", "kIRG_MSource",
    "cjkIRG_SSource", "kIRG_SSource", "cjkIRG_TSource", "kIRG_TSource", "cjkIRG_UKSource",
    "kIRG_UKSource", "cjkIRG_USource", "kIRG_USource", "cjkIRG_VSource", "kIRG_VSource",
    "cjkOtherNumeric", "kOtherNumeric", "cjkPrimaryNumeric", "kPrimaryNumeric", "cjkRSUnicode",
    "kRSUnicode", "Unicode_Radical_Stroke", "URS", "Comp_Ex", "Full_Composition_Exclusion",
    "CWKCF", "Changes_When_NFKC_Casefolded", "dm", "Decomposition_Mapping", "dt",
    "Decomposition_Type", "ea", "East_Asian_Width", "EqUIdeo", "Equivalent_Unified_Ideograph",
    "FC_NFKC", "FC_NFKC_Closure", "hst", "Hangul_Syllable_Type", "InCB", "Indic_Conjunct_Break",
    "InPC", "Indic_Positional_Category", "InSC", "Indic_Syllabic_Category", "isc", "ISO_Comment",
    "jg", "Joining_Group", "JSN", "Jamo_Short_Name", "jt", "Joining_Type", "kEH_Cat", "kEH_Desc",
    "kEH_HG", "kEH_IFAO", "kEH_JSesh", "kEH_NoMirror", "kEH_NoRotate", "lb", "Line_Break", "lc",
    "Lowercase_Mapping", "na", "Name", "na1", "Unicode_1_Name", "Name_Alias", "NFC_QC",
    "NFC_Quick_Check", "NFD_QC", "NFD_Quick_Check", "NFKC_CF", "NFKC_Casefold", "NFKC_QC",
    "NFKC_Quick_Check", "NFKC_SCF", "NFKC_Simple_Casefold", "NFKD_QC", "NFKD_Quick_Check", "nt",
    "Numeric_Type", "nv", "Numeric_Value", "scf", "Simple_Case_Folding", "sfc", "slc",
    "Simple_Lowercase_Mapping", "stc", "Simple_Titlecase_Mapping", "suc",
    "Simple_Uppercase_Mapping", "tc", "Titlecase_Mapping", "uc", "Uppercase_Mapping", "vo",
    "Vertical_Orientation", "XO_NFC", "Expands_On_NFC", "XO_NFD", "Expands_On_NFD", "XO_NFKC",
    "Expands_On_NFKC", "XO_NFKD", "Expands_On_NFKD"]

/-- Names of categories and scripts without any characters. -/
def emptyCategoriesAndScripts : List String :=
  ["Cs", "Surrogate", "Hrkt", "Katakana_Or_Hiragana", "Zzzz", "Unknown"]

/-! ### Answers -/

/-- The properties that are asked for by value, with the sets of the values. -/
def valuedProperties : List (List String × List NamedSet) :=
  [(["gc", "General_Category"], GeneralCategory.all), (["sc", "Script"], Script.all),
    (["scx", "Script_Extensions"], Script.extended), (["age"], Age.all),
    (["GCB", "Grapheme_Cluster_Break"], GraphemeBreak.all), (["WB", "Word_Break"], WordBreak.all),
    (["SB", "Sentence_Break"], SentenceBreak.all)]

/-- Whether a name in loose form belongs to a property, and not to the category that has the same
    name. -/
def isProperty (loose : List Char) : Bool :=
  isNamed otherProperties loose || valuedProperties.any (fun p => isNamed p.1 loose) ||
    BinaryProperty.all.any fun p => isNamed p.names loose

/-- Names that stand for a category if they come without a value. -/
def ambiguousNames : List (List Char) := [['c', 'f'], ['s', 'c'], ['l', 'c']]

/-- The characters with a property. -/
def answer : PropertyQuery → Except Fault CharSet
  | .named name =>
    let loose := looseName name
    if isProperty loose && !ambiguousNames.contains loose then
      ((NamedSet.find? BinaryProperty.all loose).map Except.ok).getD (.error .unknownProperty)
    else
      match NamedSet.find? (GeneralCategory.all ++ Script.all) loose with
      | some chars => .ok chars
      | none =>
        .error (if isNamed emptyCategoriesAndScripts loose then .unknownValue else .unknownProperty)
  | .valued name value =>
    match valuedProperties.find? fun p => isNamed p.1 (looseName name) with
    | some (_, values) =>
      ((NamedSet.find? values (looseName value)).map Except.ok).getD (.error .unknownValue)
    | none =>
      .error (if isProperty (looseName name) then .unknownValue else .unknownProperty)

end PropertyQuery

end TextRules
