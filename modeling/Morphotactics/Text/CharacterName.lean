import Morphotactics.Text.CharacterName.Alphabets
import Morphotactics.Text.CharacterName.Historic
import Morphotactics.Text.CharacterName.Notations
import Morphotactics.Text.CharacterName.Pictures
import Morphotactics.Text.CharacterName.Scripts
import Morphotactics.Text.CharacterName.Supplements
import Morphotactics.Text.CharacterName.Symbols
import Morphotactics.Text.Numeral

/-! Characters told by their names. -/
namespace Morphotactics

/-- Further names, of characters that have no other name or a mistaken one, and abbreviations. -/
def aliasNames : List NameRun := [
  ⟨0x0, "aNULLaSTART OF HEADINGcTEXTaEND OF TEXTcTRANSMISSIONaENQUIRYaACKNOWLEDGEaALERTaBACKSPACE
    aCHARACTER TABULATIONaLINE FEEDbTABULATIONaFORM FEEDaCARRIAGE RETURNaSHIFT OUTbIN
    aDATA LINK ESCAPEaDEVICE CONTROL ONEcTWOcTHREEcFOURaNEGATIVE ACKNOWLEDGEaSYNCHRONOUS IDLE
    aEND OF TRANSMISSION BLOCKaCANCELaEND OF MEDIUMaSUBSTITUTEaESCAPEaINFORMATION SEPARATOR FOUR
    cTHREEcTWOcONEaSP"⟩,
  ⟨0x0, "aNULaSOHaSTXaETXaEOTaENQaACKaBELaBSaHORIZONTAL TABULATIONaNEW LINEaVERTICAL TABULATIONaFF
    aCRaLOCKING-SHIFT ONEbZEROaDLEaDC1aDC2aDC3aDC4aNAKaSYNaETBaCANaEOMaSUBaESCaFILE SEPARATOR
    aGROUP SEPARATORaRECORD SEPARATORaUNIT SEPARATOR"⟩, ⟨0x9, "aHTaEND OF LINEaVT"⟩,
  ⟨0x9, "aTABaLF"⟩, ⟨0xa, "aNL"⟩, ⟨0xa, "aEOL"⟩, ⟨0xe, "aSOaSI"⟩, ⟨0x1c, "aFSaGSaRSaUS"⟩,
  ⟨0x7f, "aDELETEaPADDING CHARACTERaHIGH OCTET PRESETaBREAK PERMITTED HEREaNO BREAK HEREaINDEX
    aNEXT LINEaSTART OF SELECTED AREAaEND OF SELECTED AREAaCHARACTER TABULATION SET
    cWITH JUSTIFICATIONaLINE TABULATION SETaPARTIAL LINE FORWARDcBACKWARDaREVERSE LINE FEED
    aSINGLE SHIFT TWOcTHREEaDEVICE CONTROL STRINGaPRIVATE USE ONEcTWOaSET TRANSMIT STATE
    aCANCEL CHARACTERaMESSAGE WAITINGaSTART OF GUARDED AREAaEND OF GUARDED AREAaSTART OF STRING
    aSINGLE GRAPHIC CHARACTER INTRODUCERbCHARACTER INTRODUCERaCONTROL SEQUENCE INTRODUCER
    aSTRING TERMINATORaOPERATING SYSTEM COMMANDaPRIVACY MESSAGEaAPPLICATION PROGRAM COMMANDaNBSP"⟩,
  ⟨0x7f, "aDELaPADaHOPaBPHaNBHaINDaNELaSSAaESAaHORIZONTAL TABULATION SETcWITH JUSTIFICATION
    aVERTICAL TABULATION SETaPARTIAL LINE DOWNcUPaREVERSE INDEXaSINGLE-SHIFT-2aSINGLE-SHIFT-3aDCS
    aPRIVATE USE-1bUSE-2aSTSaCCHaMWaSTART OF PROTECTED AREAaEND OF PROTECTED AREAaSOSaSGCaSCIaCSIaST
    aOSCaPMaAPC"⟩, ⟨0x88, "aHTSaHTJaVTSaPLDaPLUaRIaSS2aSS3"⟩, ⟨0x91, "aPU1aPU2"⟩,
  ⟨0x96, "aSPAaEPA"⟩, ⟨0xad, "aSHY"⟩, ⟨0x1a2, "aLATIN CAPITAL LETTER GHAbSMALL LETTER GHA"⟩,
  ⟨0x34f, "aCGJ"⟩, ⟨0x61c, "aALM"⟩, ⟨0x709, "aSYRIAC SUBLINEAR COLON SKEWED LEFT"⟩,
  ⟨0xcde, "aKANNADA LETTER LLLA"⟩, ⟨0xe9d, "aLAO LETTER FO FON"⟩, ⟨0xe9f, "aLAO LETTER FO FAY"⟩,
  ⟨0xea3, "aLAO LETTER RO"⟩, ⟨0xea5, "aLAO LETTER LO"⟩,
  ⟨0xfd0, "aTIBETAN MARK BKA- SHOG GI MGO RGYAN"⟩,
  ⟨0x11ec, "aHANGUL JONGSEONG YESIEUNG-KIYEOKcYESIEUNG-SSANGKIYEOKcSSANGYESIEUNGcYESIEUNG-KHIEUKH"⟩,
  ⟨0x180b, "aFVS1aFVS2aFVS3aMVSaFVS4"⟩, ⟨0x200b, "aZWSPaZWNJaZWJaLRMaRLM"⟩,
  ⟨0x202a, "aLREaRLEaPDFaLROaRLOaNNBSP"⟩, ⟨0x205f, "aMMSPaWJ"⟩, ⟨0x2066, "aLRIaRLIaFSIaPDI"⟩,
  ⟨0x2118, "aWEIERSTRASS ELLIPTIC FUNCTION"⟩, ⟨0x2448, "aMICR ON US SYMBOLbDASH SYMBOL"⟩,
  ⟨0x2b7a, "aLEFTWARDS TRIANGLE-HEADED ARROW WITH DOUBLE VERTICAL STROKE"⟩,
  ⟨0x2b7c, "aRIGHTWARDS TRIANGLE-HEADED ARROW WITH DOUBLE VERTICAL STROKE"⟩,
  ⟨0xa015, "aYI SYLLABLE ITERATION MARK"⟩, ⟨0xaa6e, "aMYANMAR LETTER KHAMTI LLA"⟩,
  ⟨0xfe00, "aVS1aVS2aVS3aVS4aVS5aVS6aVS7aVS8aVS9aVS10aVS11aVS12aVS13aVS14aVS15aVS16"⟩,
  ⟨0xfe18, "aPRESENTATION FORM FOR VERTICAL RIGHT WHITE LENTICULAR BRACKET"⟩,
  ⟨0xfeff, "aBYTE ORDER MARK"⟩, ⟨0xfeff, "aBOM"⟩, ⟨0xfeff, "aZWNBSP"⟩,
  ⟨0x122d4, "aCUNEIFORM SIGN NU11 TENUdOVER NU11 BUR OVER BUR"⟩,
  ⟨0x16e56, "aMEDEFAIDRIN CAPITAL LETTER HdNG"⟩, ⟨0x16e76, "aMEDEFAIDRIN SMALL LETTER HdNG"⟩,
  ⟨0x1b001, "aHENTAIGANA LETTER E-1"⟩,
  ⟨0x1d0c5, "aBYZANTINE MUSICAL SYMBOL FTHORA SKLIRON CHROMA VASIS"⟩,
  ⟨0xe0100, "aVS17aVS18aVS19aVS20aVS21aVS22aVS23aVS24aVS25aVS26aVS27aVS28aVS29aVS30aVS31aVS32aVS33
    aVS34aVS35aVS36aVS37aVS38aVS39aVS40aVS41aVS42aVS43aVS44aVS45aVS46aVS47aVS48aVS49aVS50aVS51aVS52
    aVS53aVS54aVS55aVS56aVS57aVS58aVS59aVS60aVS61aVS62aVS63aVS64aVS65aVS66aVS67aVS68aVS69aVS70aVS71
    aVS72aVS73aVS74aVS75aVS76aVS77aVS78aVS79aVS80aVS81aVS82aVS83aVS84aVS85aVS86aVS87aVS88aVS89aVS90
    aVS91aVS92aVS93aVS94aVS95aVS96aVS97aVS98aVS99aVS100aVS101aVS102aVS103aVS104aVS105aVS106aVS107
    aVS108aVS109aVS110aVS111aVS112aVS113aVS114aVS115aVS116aVS117aVS118aVS119aVS120aVS121aVS122aVS123
    aVS124aVS125aVS126aVS127aVS128aVS129aVS130aVS131aVS132aVS133aVS134aVS135aVS136aVS137aVS138aVS139
    aVS140aVS141aVS142aVS143aVS144aVS145aVS146aVS147aVS148aVS149aVS150aVS151aVS152aVS153aVS154aVS155
    aVS156aVS157aVS158aVS159aVS160aVS161aVS162aVS163aVS164aVS165aVS166aVS167aVS168aVS169aVS170aVS171
    aVS172aVS173aVS174aVS175aVS176aVS177aVS178aVS179aVS180aVS181aVS182aVS183aVS184aVS185aVS186aVS187
    aVS188aVS189aVS190aVS191aVS192aVS193aVS194aVS195aVS196aVS197aVS198aVS199aVS200aVS201aVS202aVS203
    aVS204aVS205aVS206aVS207aVS208aVS209aVS210aVS211aVS212aVS213aVS214aVS215aVS216aVS217aVS218aVS219
    aVS220aVS221aVS222aVS223aVS224aVS225aVS226aVS227aVS228aVS229aVS230aVS231aVS232aVS233aVS234aVS235
    aVS236aVS237aVS238aVS239aVS240aVS241aVS242aVS243aVS244aVS245aVS246aVS247aVS248aVS249aVS250aVS251
    aVS252aVS253aVS254aVS255aVS256"⟩]

def nameRuns : List NameRun :=
  alphabetNames ++ scriptNames ++ symbolNames ++ supplementNames ++ historicNames ++
    notationNames ++ pictureNames ++ aliasNames

/-- Characters that are named by a common text and their code point in hexadecimal digits. -/
structure NumberedNames where
  lead : String
  codes : CodeRanges

def ideographNames : NumberedNames where
  lead := "CJK UNIFIED IDEOGRAPH-"
  codes := [(0x3400, 0x4dbf), (0x4e00, 0x9fff), (0x20000, 0x2a6df), (0x2a700, 0x2b738),
    (0x2b740, 0x2b81d), (0x2b820, 0x2cea1), (0x2ceb0, 0x2ebe0), (0x30000, 0x3134a)]

def numberedNames : List NumberedNames := [
  ⟨"CJK COMPATIBILITY IDEOGRAPH-", [(0xf900, 0xfa6d), (0xfa70, 0xfad9), (0x2f800, 0x2fa1d)]⟩,
  ⟨"KHITAN SMALL SCRIPT CHARACTER-", [(0x18b00, 0x18cd5)]⟩,
  ⟨"NUSHU CHARACTER-", [(0x1b170, 0x1b2fb)]⟩]

/-- The code point of a name with digits that are accepted. The digits are capitals. -/
def NumberedNames.find? (accepted : Text → Bool) (name : Text) (names : NumberedNames) :
    Option Nat := do
  let digits ← names.lead.toList.isPrefixOf? name
  let code := valueIn 16 digits
  if digits.all (fun c => isHexDigit c && !c.isLower) && accepted digits && names.codes.has code
  then some code
  else none

/-- The sounds that Hangul syllables begin with. One of them is not spelled. -/
def leadingSounds : List Text :=
  ["G", "GG", "N", "D", "DD", "R", "M", "B", "BB", "S", "SS", "", "J", "JJ", "C", "K", "T", "P",
    "H"].map String.toList

def vowelSounds : List Text :=
  ["A", "AE", "YA", "YAE", "EO", "E", "YEO", "YE", "O", "WA", "WAE", "OE", "YO", "U", "WEO", "WE",
    "WI", "YU", "EU", "YI", "I"].map String.toList

/-- The sounds that Hangul syllables end in, if they do not end in a vowel. -/
def trailingSounds : List Text :=
  ["", "G", "GG", "GS", "N", "NJ", "NH", "D", "L", "LG", "LM", "LB", "LS", "LT", "LP", "LH", "M",
    "B", "BS", "S", "SS", "NG", "J", "C", "K", "T", "P", "H"].map String.toList

/-- Hangul syllables are named by their sounds, and stand in the order of these. -/
def syllableNamed? (name : Text) : Option Nat := do
  let spelled ← "HANGUL SYLLABLE ".toList.isPrefixOf? name
  let isVowelLetter := fun c => "AEIOUWY".toList.elem c
  let rest := spelled.dropWhile (!isVowelLetter ·)
  let leading ← leadingSounds.idxOf? (spelled.takeWhile (!isVowelLetter ·))
  let vowel ← vowelSounds.idxOf? (rest.takeWhile isVowelLetter)
  let trailing ← trailingSounds.idxOf? (rest.dropWhile isVowelLetter)
  return 0xac00 + (leading * vowelSounds.length + vowel) * trailingSounds.length + trailing

example : syllableNamed? "HANGUL SYLLABLE GGAEG".toList = some 0xae69 := by decide

/-- The character of a name. Small letters are as good as capitals, but not in the names of Hangul
syllables and of unified ideographs. The number of an ideograph has four or five digits, with a
zero in front or not. -/
def characterNamed? (name : Text) : Option Nat :=
  let capitals := name.map Char.toUpper
  syllableNamed? name <|>
    ideographNames.find? (fun digits => digits.length = 4 || digits.length = 5) name <|>
    numberedNames.findSome? (·.find? (fun digits => digits.head? != some '0') capitals) <|>
    nameRuns.findSome? (·.find? (Text.splitOn ' ' capitals))

end Morphotactics
