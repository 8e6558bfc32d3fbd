import Highlight.Regex.CharClass
import Highlight.Unicode.Category
import Highlight.Unicode.Script
import Highlight.Unicode.Property
import Highlight.Unicode.Age
import Highlight.Unicode.Boundary

/-!
# Unicode property classes

The classes that `\p{…}` names.  Names match loosely: case, blanks, `_` and `-` do not count, nor
a leading `is`.

A bare name is first looked up among the names of all Unicode properties.  When it names one, the
property must be binary (`Alphabetic`, `White_Space`, `Other_Lowercase`, …), else the name is
refused: `Age` or `Script` alone names no class.  `cf`, `sc` and `lc` are never read as property
names, since they also abbreviate the categories Format, Currency_Symbol and Cased_Letter.  A name
that is no property is a general category or group (`Lu`, `Letter`, `L`), one of the special
classes `Any`, `Assigned` and `ASCII`, or a script (`Greek`, `Grek`).

A name with a value (`gc=Lu`, `sc:Greek`) names a general category, a script, the characters used
with a script (`scx`), the characters assigned by a version of Unicode or an older one (`age`), or
a class of the grapheme-cluster, word or sentence break property (`gcb`, `wb`, `sb`).  The script
`Unknown` is never a class.
-/

namespace Highlight.Regex

open Highlight.Unicode

/-- A property name in loose form: ASCII letters lowered, blanks, `_` and `-` and any non-ASCII
character dropped, and a leading `is` removed (`isc` stays). -/
def looseName (s : String) : String :=
  let cs := s.toList
  let (cs, hadIs) := match cs with
    | a :: b :: rest =>
      if (a == 'i' || a == 'I') && (b == 's' || b == 'S') then (rest, true) else (cs, false)
    | _ => (cs, false)
  let kept := cs.filterMap fun c =>
    if c == ' ' || c == '_' || c == '-' || c.toNat ≥ 128 then none
    else some c.toLower
  if hadIs && kept == ['c'] then "isc" else String.ofList kept

def propertyNameTable : String :=
  String.join [
    "age ahex alpha alphabetic asciihexdigit bc bidic bidiclass bidicontrol bidim bidimirrored ",
    "bidimirroringglyph bidipairedbracket bidipairedbrackettype blk block bmg bpb bpt ",
    "canonicalcombiningclass cased casefolding caseignorable ccc ce cf changeswhencasefolded ",
    "changeswhencasemapped changeswhenlowercased changeswhennfkccasefolded changeswhentitlecased ",
    "changeswhenuppercased ci cjkaccountingnumeric cjkcompatibilityvariant cjkiicore ",
    "cjkirggsource cjkirghsource cjkirgjsource cjkirgkpsource cjkirgksource cjkirgmsource ",
    "cjkirgssource cjkirgtsource cjkirguksource cjkirgusource cjkirgvsource cjkothernumeric ",
    "cjkprimarynumeric cjkrsunicode compex compositionexclusion cwcf cwcm cwkcf cwl cwt cwu dash ",
    "decompositionmapping decompositiontype defaultignorablecodepoint dep deprecated di dia ",
    "diacritic dm dt ea eastasianwidth ebase ecomp emod emoji emojicomponent emojimodifier ",
    "emojimodifierbase emojipresentation epres equideo equivalentunifiedideograph ",
    "expandsonnfc expandsonnfd expandsonnfkc expandsonnfkd ext extendedpictographic extender ",
    "extpict fcnfkc fcnfkcclosure fullcompositionexclusion gc gcb generalcategory graphemebase ",
    "graphemeclusterbreak graphemeextend graphemelink grbase grext grlink hangulsyllabletype hex ",
    "hexdigit hst hyphen idc idcompatmathcontinue idcompatmathstart idcontinue ideo ideographic ",
    "ids idsb idsbinaryoperator idst idstart idstrinaryoperator idsu idsunaryoperator incb ",
    "indicconjunctbreak indicpositionalcategory indicsyllabiccategory inpc insc isc isocomment ",
    "jamoshortname jg joinc joincontrol joininggroup joiningtype jsn jt kaccountingnumeric ",
    "kcompatibilityvariant kehcat kehdesc kehhg kehifao kehjsesh kiicore kirggsource ",
    "kirghsource kirgjsource kirgkpsource kirgksource kirgmsource kirgssource kirgtsource ",
    "kirguksource kirgusource kirgvsource kothernumeric kprimarynumeric krsunicode lb lc ",
    "linebreak loe logicalorderexception lower lowercase lowercasemapping math mcm ",
    "modifiercombiningmark na na1 name namealias nchar nfcqc nfcquickcheck nfdqc ",
    "nfdquickcheck nfkccasefold nfkccf nfkcqc nfkcquickcheck nfkcscf nfkcsimplecasefold nfkdqc ",
    "nfkdquickcheck noncharactercodepoint nt numericvalue numerictype nv oalpha odi ogrext oidc ",
    "oids olower omath otheralphabetic otherdefaultignorablecodepoint othergraphemeextend ",
    "otheridcontinue otheridstart otherlowercase othermath otheruppercase oupper patsyn ",
    "patternsyntax patternwhitespace patws pcm prependedconcatenationmark qmark quotationmark ",
    "radical regionalindicator ri sb sc scf scriptextensions scx script sd sentencebreak space ",
    "sentenceterminal sfc simplecasefolding simplelowercasemapping simpletitlecasemapping ",
    "simpleuppercasemapping slc softdotted stc sterm suc tc term terminalpunctuation ",
    "titlecasemapping uc uideo unicode1name unicoderadicalstroke unifiedideograph upper ",
    "uppercase uppercasemapping urs variationselector verticalorientation vo vs wb whitespace ",
    "wordbreak wspace xidc xidcontinue xids xidstart xonfc xonfd xonfkc xonfkd"]

def propertyNames : Array String := tableWords propertyNameTable

/-- The general-category names in loose form, each with the categories it covers.  The surrogate
category has no entry: surrogates are not characters, so a class of them is refused. -/
def categoryNames : List (List String × (Category → Bool)) :=
  let one (names : List String) (c : Category) : List String × (Category → Bool) :=
    (names, fun d => d == c)
  let group (names : List String) (g : Char) : List String × (Category → Bool) :=
    (names, fun d => d.group == g)
  [one ["lu", "uppercaseletter"] .lu, one ["ll", "lowercaseletter"] .ll,
    one ["lt", "titlecaseletter"] .lt, one ["lm", "modifierletter"] .lm,
    one ["lo", "otherletter"] .lo, one ["mn", "nonspacingmark"] .mn,
    one ["mc", "spacingmark"] .mc, one ["me", "enclosingmark"] .me,
    one ["nd", "decimalnumber", "digit"] .nd, one ["nl", "letternumber"] .nl,
    one ["no", "othernumber"] .no, one ["pc", "connectorpunctuation"] .pc,
    one ["pd", "dashpunctuation"] .pd, one ["ps", "openpunctuation"] .ps,
    one ["pe", "closepunctuation"] .pe, one ["pi", "initialpunctuation"] .pi,
    one ["pf", "finalpunctuation"] .pf, one ["po", "otherpunctuation"] .po,
    one ["sm", "mathsymbol"] .sm, one ["sc", "currencysymbol"] .sc,
    one ["sk", "modifiersymbol"] .sk, one ["so", "othersymbol"] .so,
    one ["zs", "spaceseparator"] .zs, one ["zl", "lineseparator"] .zl,
    one ["zp", "paragraphseparator"] .zp, one ["cc", "control", "cntrl"] .cc,
    one ["cf", "format"] .cf, one ["co", "privateuse"] .co,
    one ["cn", "unassigned"] .cn,
    (["lc", "casedletter"], fun d => d == .lu || d == .ll || d == .lt),
    group ["l", "letter"] 'L', group ["m", "mark", "combiningmark"] 'M',
    group ["n", "number"] 'N', group ["p", "punctuation", "punct"] 'P',
    group ["s", "symbol"] 'S', group ["z", "separator"] 'Z', group ["c", "other"] 'C']

def categoryClass? (name : String) : Option CharClass :=
  if name == "any" then some CharClass.any
  else if name == "assigned" then some (CharClass.ofRanges (categoryRanges (· != .cn)))
  else if name == "ascii" then some (CharClass.range 0 0x7F)
  else
    (categoryNames.find? fun e => e.1.contains name).map fun e =>
      CharClass.ofRanges (categoryRanges e.2)

def scriptOf? (name : String) : Option Nat :=
  (List.range unknownScript).find? fun i =>
    ((scriptNames.getD i []).map looseName).contains name

def scriptClass? (name : String) : Option CharClass :=
  (scriptOf? name).map fun i => CharClass.ofRanges (scriptRanges i)

/-- The class of the characters used with a script named in loose form: those of the script
whose extensions are only their script, and those whose extensions include it. -/
def scriptExtensionClass? (name : String) : Option CharClass :=
  (scriptOf? name).map fun i =>
    let explicit := CharClass.ofRanges (scriptExtensionEntries.map fun e => (e.1, e.2.1))
    let usedWith := CharClass.ofRanges ((scriptExtensionEntries.filter fun e => e.2.2.contains i).map
      fun e => (e.1, e.2.1))
    ((CharClass.ofRanges (scriptRanges i)).difference explicit).union usedWith

def binaryClass? (name : String) : Option CharClass :=
  (binaryProperties.find? fun p => (p.1.map looseName).contains name).map fun p =>
    CharClass.ofRanges p.2.toRanges

/-- The class of the code points assigned by the version of Unicode named in loose form
(`3.0` or `V3_0`), or by an older one. -/
def ageClass? (name : String) : Option CharClass :=
  (List.range unicodeVersions.length).find? (fun i =>
    match unicodeVersions[i]? with
    | some (short, long) => looseName short == name || looseName long == name
    | none => false) |>.map fun i => CharClass.ofRanges (assignedByRanges i)

def breakClass? (p : BreakProperty) (name : String) : Option CharClass :=
  (p.classes.find? fun names => (names.map looseName).contains name).bind fun names =>
    names.getLast?.map fun long => CharClass.ofRanges (p.ranges long)

def namedClass? (name : String) : Option CharClass :=
  let n := looseName name
  if n != "cf" && n != "sc" && n != "lc" && propertyNames.contains n then binaryClass? n
  else categoryClass? n <|> scriptClass? n

def namedValueClass? (property value : String) : Option CharClass :=
  let p := looseName property
  let v := looseName value
  if p == "gc" || p == "generalcategory" then categoryClass? v
  else if p == "sc" || p == "script" then scriptClass? v
  else if p == "scx" || p == "scriptextensions" then scriptExtensionClass? v
  else if p == "age" then ageClass? v
  else if p == "gcb" || p == "graphemeclusterbreak" then breakClass? graphemeBreak v
  else if p == "wb" || p == "wordbreak" then breakClass? wordBreak v
  else if p == "sb" || p == "sentencebreak" then breakClass? sentenceBreak v
  else none

end Highlight.Regex
