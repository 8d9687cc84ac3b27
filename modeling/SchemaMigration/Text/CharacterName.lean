import SchemaMigration.Text.Basic
import SchemaMigration.Text.CharacterName.BelowU2000
import SchemaMigration.Text.CharacterName.BelowUA000
import SchemaMigration.Text.CharacterName.BelowU11000
import SchemaMigration.Text.CharacterName.BelowU1B000
import SchemaMigration.Text.CharacterName.FromU1B000

/-!
# Names of characters

Every character of Unicode 14 but a few has a name, and some have further ones. Most names
stand in a table; those of Han characters and of Hangul syllables, and of a few other
families, are made by rule.

## Main Definitions

* `Text.CharacterName` - an entry of the table: a code point with the words of its name
* `Text.hangulSyllable?`, `Text.hanCharacter?` - names made by rule
* `Text.characterNamed?` - the character of a name

## Design Notes

Letter case does not count in names of the table and in those that end in a code point. It
counts in names of Hangul syllables and of Han characters that are not for compatibility.
-/

namespace SchemaMigration.Text

/-! ## The table -/

/-- Further names, with the code point in front where it is not the next one. -/
def furtherNames : List String :=
  ["0:aNUL;0:aNULL;aSOH;1:aSTART OF HEADING;cTEXT;2:aSTX;aEND OF TEXT;3:aETX;aEND OF TRANSMISSION",
   "4:aEOT;aENQ;5:aENQUIRY;aACK;6:aACKNOWLEDGE;aALERT;7:aBEL;aBACKSPACE;8:aBS",
   "aCHARACTER TABULATION;9:aHORIZONTAL TABULATION;9:aHT;9:aTAB;aEND OF LINE;A:aEOL;A:aLF",
   "A:aLINE FEED;A:aNEW LINE;A:aNL;aLINE TABULATION;B:aVERTICAL TABULATION;B:aVT;aFF;C:aFORM FEED",
   "aCARRIAGE RETURN;D:aCR;aLOCKING-SHIFT ONE;E:aSHIFT OUT;E:aSO;aLOCKING-SHIFT ZERO;F:aSHIFT IN",
   "F:aSI;aDATA LINK ESCAPE;10:aDLE;aDC1;11:aDEVICE CONTROL ONE;aDC2;12:aDEVICE CONTROL TWO;aDC3",
   "13:aDEVICE CONTROL THREE;aDC4;14:aDEVICE CONTROL FOUR;aNAK;15:aNEGATIVE ACKNOWLEDGE;aSYN",
   "16:aSYNCHRONOUS IDLE;aEND OF TRANSMISSION BLOCK;17:aETB;aCAN;18:aCANCEL;aEND OF MEDIUM",
   "19:aEOM;aSUB;1A:aSUBSTITUTE;aESC;1B:aESCAPE;aFILE SEPARATOR;1C:aFS",
   "1C:aINFORMATION SEPARATOR FOUR;aGROUP SEPARATOR;1D:aGS;1D:aINFORMATION SEPARATOR THREE;cTWO",
   "1E:aRECORD SEPARATOR;1E:aRS;aINFORMATION SEPARATOR ONE;1F:aUNIT SEPARATOR;1F:aUS;aSP;7F:aDEL",
   "7F:aDELETE;aPAD;80:aPADDING CHARACTER;aHIGH OCTET PRESET;81:aHOP;aBPH",
   "82:aBREAK PERMITTED HERE;aNBH;83:aNO BREAK HERE;aIND;84:aINDEX;aNEL;85:aNEXT LINE;aSSA",
   "86:aSTART OF SELECTED AREA;aEND OF SELECTED AREA;87:aESA;aCHARACTER TABULATION SET",
   "88:aHORIZONTAL TABULATION SET;88:aHTS;aCHARACTER TABULATION WITH JUSTIFICATION",
   "89:aHORIZONTAL TABULATION WITH JUSTIFICATION;89:aHTJ;aLINE TABULATION SET",
   "8A:aVERTICAL TABULATION SET;8A:aVTS;aPARTIAL LINE DOWN;8B:cFORWARD;8B:aPLD",
   "aPARTIAL LINE BACKWARD;8C:cUP;8C:aPLU;aREVERSE INDEX;8D:bLINE FEED;8D:aRI;aSINGLE SHIFT TWO",
   "8E:aSINGLE-SHIFT-2;8E:aSS2;aSINGLE SHIFT THREE;8F:aSINGLE-SHIFT-3;8F:aSS3;aDCS",
   "90:aDEVICE CONTROL STRING;aPRIVATE USE ONE;91:bUSE-1;91:aPU1;aPRIVATE USE TWO;92:bUSE-2",
   "92:aPU2;aSET TRANSMIT STATE;93:aSTS;aCANCEL CHARACTER;94:aCCH;aMESSAGE WAITING;95:aMW;aSPA",
   "96:aSTART OF GUARDED AREA;96:cPROTECTED AREA;aEND OF GUARDED AREA;97:cPROTECTED AREA;97:aEPA",
   "aSOS;98:aSTART OF STRING;aSGC;99:aSINGLE GRAPHIC CHARACTER INTRODUCER;aSCI",
   "9A:aSINGLE CHARACTER INTRODUCER;aCONTROL SEQUENCE INTRODUCER;9B:aCSI;aST",
   "9C:aSTRING TERMINATOR;aOPERATING SYSTEM COMMAND;9D:aOSC;aPM;9E:aPRIVACY MESSAGE;aAPC",
   "9F:aAPPLICATION PROGRAM COMMAND;aNBSP;AD:aSHY;1A2:aLATIN CAPITAL LETTER GHA;bSMALL LETTER GHA",
   "34F:aCGJ;61C:aALM;709:aSYRIAC SUBLINEAR COLON SKEWED LEFT;CDE:aKANNADA LETTER LLLA",
   "E9D:aLAO LETTER FO FON;E9F:dFAY;EA3:cRO;EA5:cLO;FD0:aTIBETAN MARK BKA- SHOG GI MGO RGYAN",
   "11EC:aHANGUL JONGSEONG YESIEUNG-KIYEOK;cYESIEUNG-SSANGKIYEOK;cSSANGYESIEUNG;cYESIEUNG-KHIEUKH",
   "180B:aFVS1;aFVS2;aFVS3;aMVS;aFVS4;200B:aZWSP;aZWNJ;aZWJ;aLRM;aRLM;202A:aLRE;aRLE;aPDF;aLRO",
   "aRLO;aNNBSP;205F:aMMSP;aWJ;2066:aLRI;aRLI;aFSI;aPDI;2118:aWEIERSTRASS ELLIPTIC FUNCTION",
   "2448:aMICR ON US SYMBOL;bDASH SYMBOL",
   "2B7A:aLEFTWARDS TRIANGLE-HEADED ARROW WITH DOUBLE VERTICAL STROKE",
   "2B7C:aRIGHTWARDS TRIANGLE-HEADED ARROW WITH DOUBLE VERTICAL STROKE",
   "A015:aYI SYLLABLE ITERATION MARK;AA6E:aMYANMAR LETTER KHAMTI LLA",
   "FE18:aPRESENTATION FORM FOR VERTICAL RIGHT WHITE LENTICULAR BRACKET;FEFF:aBOM",
   "FEFF:aBYTE ORDER MARK;FEFF:aZWNBSP;122D4:aCUNEIFORM SIGN NU11 TENU;dOVER NU11 BUR OVER BUR",
   "16E56:aMEDEFAIDRIN CAPITAL LETTER H;dNG;16E76:bSMALL LETTER H;dNG",
   "1B001:aHENTAIGANA LETTER E-1;1D0C5:aBYZANTINE MUSICAL SYMBOL FTHORA SKLIRON CHROMA VASIS"]

/-- The table, part by part. -/
def nameTable : List (List String) :=
  [namesBelowU2000, namesBelowUA000, namesBelowU11000, namesBelowU1B000, namesFromU1B000,
    furtherNames]

/-- The value of an upper-case hexadecimal digit. -/
def upperHexDigit? (c : Char) : Option Nat :=
  if '0' ≤ c && c ≤ '9' then some (c.toNat - '0'.toNat)
  else if 'A' ≤ c && c ≤ 'F' then some (c.toNat - 'A'.toNat + 10)
  else none

/-- The number of upper-case hexadecimal digits. -/
def upperHex? (digits : Text) : Option Nat :=
  digits.foldlM (fun n c => do return 16 * n + (← upperHexDigit? c)) 0

/-- A code point with the words of its name. -/
structure CharacterName where
  code : Nat
  words : List Text

namespace CharacterName

/-- The entry that is written behind another one. -/
def next (previous : CharacterName) (written : Text) : CharacterName :=
  let (code, name) := match splitAtFirst? ":" written with
    | some (digits, name) => ((upperHex? digits).getD 0, name)
    | none => (previous.code + 1, written)
  let shared := (name.headD 'a').toNat - 'a'.toNat
  let others := (splitWhere (· == ' ') (name.drop 1)).filter (! ·.isEmpty)
  ⟨code, previous.words.take shared ++ others⟩

/-- The code point of the entry with the given words, among entries written one behind the
other. -/
def find? (words : List Text) (previous : CharacterName) : List Text → Option Nat
  | [] => none
  | written :: rest =>
    let entry := previous.next written
    if entry.words = words then some entry.code else find? words entry rest

end CharacterName

/-- The code point of a name in the table. -/
def tableCode? (name : Text) : Option Nat :=
  let words := splitWhere (· == ' ') name
  nameTable.findSome? fun part =>
    CharacterName.find? words ⟨0, []⟩
      (part.flatMap fun line => splitWhere (· == ';') line.toList)

/-! ## Names by rule -/

/-- Families of names that end in a hyphen and the code point: the name in front of them, and
the first and last code point. -/
def codedFamilies : List (Text × Nat × Nat) :=
  [("CJK COMPATIBILITY IDEOGRAPH-", 0xF900, 0xFA6D),
    ("CJK COMPATIBILITY IDEOGRAPH-", 0xFA70, 0xFAD9),
    ("CJK COMPATIBILITY IDEOGRAPH-", 0x2F800, 0x2FA1D),
    ("KHITAN SMALL SCRIPT CHARACTER-", 0x18B00, 0x18CD5),
    ("NUSHU CHARACTER-", 0x1B170, 0x1B2FB)]

/-- The code point that ends a name of a family; it is written without zeros in front. -/
def familyCode? (name : Text) : Option Nat :=
  codedFamilies.findSome? fun (family, first, last) => do
    let digits ← after? family name
    let code ← upperHex? digits
    if first ≤ code && code ≤ last && (if code < 0x10000 then 4 else 5) = digits.length then
      some code
    else none

/-- The selectors of variants beyond what the table has: `VS1` to `VS256`. -/
def selectorCode? (name : Text) : Option Nat := do
  let digits ← after? "VS" name
  let number ← digits.foldlM (fun n c => do
    let d ← upperHexDigit? c
    if d < 10 then some (10 * n + d) else none) 0
  if digits.head? = some '0' || digits.isEmpty || number = 0 || 256 < number then none
  else some (if number ≤ 16 then 0xFE00 + (number - 1) else 0xE0100 + (number - 17))

/-- The sounds with which a Hangul syllable begins, in order. -/
def hangulLeads : List Text :=
  ["G", "GG", "N", "D", "DD", "R", "M", "B", "BB", "S", "SS", "", "J", "JJ", "C", "K", "T", "P",
    "H"]

/-- The vowels of Hangul syllables, in order. -/
def hangulVowels : List Text :=
  ["A", "AE", "YA", "YAE", "EO", "E", "YEO", "YE", "O", "WA", "WAE", "OE", "YO", "U", "WEO", "WE",
    "WI", "YU", "EU", "YI", "I"]

/-- The sounds with which a Hangul syllable ends, in order. -/
def hangulTails : List Text :=
  ["", "G", "GG", "GS", "N", "NJ", "NH", "D", "L", "LG", "LM", "LB", "LS", "LT", "LP", "LH", "M",
    "B", "BS", "S", "SS", "NG", "J", "C", "K", "T", "P", "H"]

/-- The place of the longest of some sounds with which a text begins, and the rest. -/
def longestSound? (sounds : List Text) (text : Text) : Option (Nat × Text) :=
  (sounds.zipIdx.filterMap fun (sound, place) => (after? sound text).map (place, ·)).foldl
    (fun best found => match best with
      | none => some found
      | some earlier => if found.2.length < earlier.2.length then some found else some earlier)
    none

/-- The syllable that a name spells. -/
def hangulSyllable? (name : Text) : Option Nat := do
  let sounds ← after? "HANGUL SYLLABLE " name
  let (lead, sounds) ← longestSound? hangulLeads sounds
  let (vowel, sounds) ← longestSound? hangulVowels sounds
  let (tail, rest) ← longestSound? hangulTails sounds
  if rest.isEmpty then
    some (0xAC00 + (lead * hangulVowels.length + vowel) * hangulTails.length + tail)
  else none

/-- The code points of the Han characters that are named by rule. -/
def hanRanges : List (Nat × Nat) :=
  [(0x3400, 0x4DBF), (0x4E00, 0x9FFF), (0x20000, 0x2A6DF), (0x2A700, 0x2B738), (0x2B740, 0x2B81D),
    (0x2B820, 0x2CEA1), (0x2CEB0, 0x2EBE0), (0x30000, 0x3134A)]

/-- The Han character whose code point a name has. -/
def hanCharacter? (name : Text) : Option Nat := do
  let digits ← after? "CJK UNIFIED IDEOGRAPH-" name
  let code ← upperHex? digits
  if (digits.length = 4 || digits.length = 5) &&
      hanRanges.any (fun (first, last) => first ≤ code && code ≤ last) then some code
  else none

/-- The code point of a name. -/
def characterNamed? (name : Text) : Option Nat :=
  let upperName := name.map Char.toUpper
  hangulSyllable? name <|> hanCharacter? name <|> familyCode? upperName <|>
    selectorCode? upperName <|> tableCode? upperName

end SchemaMigration.Text
