/-!
# Names of characters from U+11000 to U+1AFFF

One part of the table of names of characters of Unicode 14, without those that a rule gives.

## Main Definitions

* `Text.namesBelowU1B000` - the names in order of code points

## Design Notes

The entries of a line are divided by semicolons. An entry is its code point in hexadecimal
digits and a colon, unless it is next to the one before; then a letter that tells how many
words the name shares with the one before, `a` for none and `b` for one; and then the other
words.
-/

namespace SchemaMigration.Text

/-- The names of the characters from U+11000 to U+1AFFF. -/
def namesBelowU1B000 : List String :=
  ["11000:aBRAHMI SIGN CANDRABINDU;cANUSVARA;cVISARGA;cJIHVAMULIYA;cUPADHMANIYA;bLETTER A;cAA",
   "cI;cII;cU;cUU;cVOCALIC R;dRR;dL;dLL;cE;cAI;cO;cAU;cKA;cKHA;cGA;cGHA;cNGA;cCA;cCHA;cJA;cJHA",
   "cNYA;cTTA;cTTHA;cDDA;cDDHA;cNNA;cTA;cTHA;cDA;cDHA;cNA;cPA;cPHA;cBA;cBHA;cMA;cYA;cRA;cLA",
   "cVA;cSHA;cSSA;cSA;cHA;cLLA;cOLD TAMIL LLLA;eRRA;eNNNA;bVOWEL SIGN AA;dBHATTIPROLU AA;dI",
   "dII;dU;dUU;dVOCALIC R;eRR;eL;eLL;dE;dAI;dO;dAU;bVIRAMA;bDANDA;bDOUBLE DANDA",
   "bPUNCTUATION DOT;cDOUBLE DOT;cLINE;cCRESCENT BAR;cLOTUS;11052:bNUMBER ONE;cTWO;cTHREE",
   "cFOUR;cFIVE;cSIX;cSEVEN;cEIGHT;cNINE;cTEN;cTWENTY;cTHIRTY;cFORTY;cFIFTY;cSIXTY;cSEVENTY",
   "cEIGHTY;cNINETY;cONE HUNDRED;dTHOUSAND;bDIGIT ZERO;cONE;cTWO;cTHREE;cFOUR;cFIVE;cSIX",
   "cSEVEN;cEIGHT;cNINE;bSIGN OLD TAMIL VIRAMA;bLETTER OLD TAMIL SHORT E;fO",
   "bVOWEL SIGN OLD TAMIL SHORT E;gO;bLETTER OLD TAMIL LLA;1107F:bNUMBER JOINER",
   "aKAITHI SIGN CANDRABINDU;cANUSVARA;cVISARGA;bLETTER A;cAA;cI;cII;cU;cUU;cE;cAI;cO;cAU;cKA",
   "cKHA;cGA;cGHA;cNGA;cCA;cCHA;cJA;cJHA;cNYA;cTTA;cTTHA;cDDA;cDDDHA;cDDHA;cRHA;cNNA;cTA;cTHA",
   "cDA;cDHA;cNA;cPA;cPHA;cBA;cBHA;cMA;cYA;cRA;cLA;cVA;cSHA;cSSA;cSA;cHA;bVOWEL SIGN AA;dI;dII",
   "dU;dUU;dE;dAI;dO;dAU;bSIGN VIRAMA;cNUKTA;bABBREVIATION SIGN;bENUMERATION SIGN;bNUMBER SIGN",
   "bSECTION MARK;bDOUBLE SECTION MARK;bDANDA;bDOUBLE DANDA;bVOWEL SIGN VOCALIC R",
   "110CD:bNUMBER SIGN ABOVE;110D0:aSORA SOMPENG LETTER SAH;dTAH;dBAH;dCAH;dDAH;dGAH;dMAH",
   "dNGAH;dLAH;dNAH;dVAH;dPAH;dYAH;dRAH;dHAH;dKAH;dJAH;dNYAH;dAH;dEEH;dIH;dUH;dOH;dEH;dMAE",
   "110F0:cDIGIT ZERO;dONE;dTWO;dTHREE;dFOUR;dFIVE;dSIX;dSEVEN;dEIGHT;dNINE",
   "11100:aCHAKMA SIGN CANDRABINDU;cANUSVARA;cVISARGA;bLETTER AA;cI;cU;cE;cKAA;cKHAA;cGAA",
   "cGHAA;cNGAA;cCAA;cCHAA;cJAA;cJHAA;cNYAA;cTTAA;cTTHAA;cDDAA;cDDHAA;cNNAA;cTAA;cTHAA;cDAA",
   "cDHAA;cNAA;cPAA;cPHAA;cBAA;cBHAA;cMAA;cYYAA;cYAA;cRAA;cLAA;cWAA;cSAA;cHAA;bVOWEL SIGN A;dI",
   "dII;dU;dUU;dE;dAI;dO;dAU;dOI;bO MARK;bAU MARK;bVIRAMA;bMAAYYAA;11136:bDIGIT ZERO;cONE;cTWO",
   "cTHREE;cFOUR;cFIVE;cSIX;cSEVEN;cEIGHT;cNINE;bSECTION MARK;bDANDA;bDOUBLE DANDA",
   "bQUESTION MARK;bLETTER LHAA;bVOWEL SIGN AA;dEI;bLETTER VAA;11150:aMAHAJANI LETTER A;cI;cU",
   "cE;cO;cKA;cKHA;cGA;cGHA;cCA;cCHA;cJA;cJHA;cNYA;cTTA;cTTHA;cDDA;cDDHA;cNNA;cTA;cTHA;cDA",
   "cDHA;cNA;cPA;cPHA;cBA;cBHA;cMA;cRA;cLA;cVA;cSA;cHA;cRRA;bSIGN NUKTA;bABBREVIATION SIGN",
   "bSECTION MARK;bLIGATURE SHRI;11180:aSHARADA SIGN CANDRABINDU;cANUSVARA;cVISARGA;bLETTER A",
   "cAA;cI;cII;cU;cUU;cVOCALIC R;dRR;dL;dLL;cE;cAI;cO;cAU;cKA;cKHA;cGA;cGHA;cNGA;cCA;cCHA;cJA",
   "cJHA;cNYA;cTTA;cTTHA;cDDA;cDDHA;cNNA;cTA;cTHA;cDA;cDHA;cNA;cPA;cPHA;cBA;cBHA;cMA;cYA;cRA",
   "cLA;cLLA;cVA;cSHA;cSSA;cSA;cHA;bVOWEL SIGN AA;dI;dII;dU;dUU;dVOCALIC R;eRR;eL;eLL;dE;dAI",
   "dO;dAU;bSIGN VIRAMA;cAVAGRAHA;cJIHVAMULIYA;cUPADHMANIYA;bOM;bDANDA;bDOUBLE DANDA",
   "bABBREVIATION SIGN;bSEPARATOR;bSANDHI MARK;bSIGN NUKTA;bVOWEL MODIFIER MARK",
   "bEXTRA SHORT VOWEL MARK;bSUTRA MARK;bVOWEL SIGN PRISHTHAMATRA E;bSIGN INVERTED CANDRABINDU",
   "bDIGIT ZERO;cONE;cTWO;cTHREE;cFOUR;cFIVE;cSIX;cSEVEN;cEIGHT;cNINE;bEKAM;bSIGN SIDDHAM",
   "bHEADSTROKE;bCONTINUATION SIGN;bSECTION MARK-1;cMARK-2;111E1:aSINHALA ARCHAIC DIGIT ONE",
   "dTWO;dTHREE;dFOUR;dFIVE;dSIX;dSEVEN;dEIGHT;dNINE;cNUMBER TEN;dTWENTY;dTHIRTY;dFORTY;dFIFTY",
   "dSIXTY;dSEVENTY;dEIGHTY;dNINETY;dONE HUNDRED;eTHOUSAND;11200:aKHOJKI LETTER A;cAA;cI;cU;cE",
   "cAI;cO;cAU;cKA;cKHA;cGA;cGGA;cGHA;cNGA;cCA;cCHA;cJA;cJJA;11213:cNYA;cTTA;cTTHA;cDDA;cDDHA",
   "cNNA;cTA;cTHA;cDA;cDDDA;cDHA;cNA;cPA;cPHA;cBA;cBBA;cBHA;cMA;cYA;cRA;cLA;cVA;cSA;cHA;cLLA",
   "bVOWEL SIGN AA;dI;dII;dU;dE;dAI;dO;dAU;bSIGN ANUSVARA;cVIRAMA;cNUKTA;cSHADDA;bDANDA",
   "bDOUBLE DANDA;bWORD SEPARATOR;bSECTION MARK;bDOUBLE SECTION MARK;bABBREVIATION SIGN",
   "bSIGN SUKUN;11280:aMULTANI LETTER A;cI;cU;cE;cKA;cKHA;cGA;11288:cGHA;1128A:cCA;cCHA;cJA",
   "cJJA;1128F:cNYA;cTTA;cTTHA;cDDA;cDDDA;cDDHA;cNNA;cTA;cTHA;cDA;cDHA;cNA;cPA;cPHA;cBA",
   "1129F:cBHA;cMA;cYA;cRA;cLA;cVA;cSA;cHA;cRRA;cRHA;bSECTION MARK;112B0:aKHUDAWADI LETTER A",
   "cAA;cI;cII;cU;cUU;cE;cAI;cO;cAU;cKA;cKHA;cGA;cGGA;cGHA;cNGA;cCA;cCHA;cJA;cJJA;cJHA;cNYA",
   "cTTA;cTTHA;cDDA;cDDDA;cRRA;cDDHA;cNNA;cTA;cTHA;cDA;cDHA;cNA;cPA;cPHA;cBA;cBBA;cBHA;cMA;cYA",
   "cRA;cLA;cVA;cSHA;cSA;cHA;bSIGN ANUSVARA;bVOWEL SIGN AA;dI;dII;dU;dUU;dE;dAI;dO;dAU",
   "bSIGN NUKTA;cVIRAMA;112F0:bDIGIT ZERO;cONE;cTWO;cTHREE;cFOUR;cFIVE;cSIX;cSEVEN;cEIGHT",
   "cNINE;11300:aGRANTHA SIGN COMBINING ANUSVARA ABOVE;cCANDRABINDU;cANUSVARA;cVISARGA",
   "11305:bLETTER A;cAA;cI;cII;cU;cUU;cVOCALIC R;dL;1130F:cEE;cAI;11313:cOO;cAU;cKA;cKHA;cGA",
   "cGHA;cNGA;cCA;cCHA;cJA;cJHA;cNYA;cTTA;cTTHA;cDDA;cDDHA;cNNA;cTA;cTHA;cDA;cDHA;cNA",
   "1132A:cPA;cPHA;cBA;cBHA;cMA;cYA;cRA;11332:cLA;cLLA;11335:cVA;cSHA;cSSA;cSA;cHA",
   "1133B:aCOMBINING BINDU BELOW;aGRANTHA SIGN NUKTA;cAVAGRAHA;bVOWEL SIGN AA;dI;dII;dU;dUU",
   "dVOCALIC R;eRR;11347:dEE;dAI;1134B:dOO;dAU;bSIGN VIRAMA;11350:bOM;11357:bAU LENGTH MARK",
   "1135D:bSIGN PLUTA;bLETTER VEDIC ANUSVARA;dDOUBLE ANUSVARA;cVOCALIC RR;dLL",
   "bVOWEL SIGN VOCALIC L;eLL;11366:aCOMBINING GRANTHA DIGIT ZERO;dONE;dTWO;dTHREE;dFOUR;dFIVE",
   "dSIX;11370:cLETTER A;dKA;dNA;dVI;dPA;11400:aNEWA LETTER A;cAA;cI;cII;cU;cUU;cVOCALIC R;dRR",
   "dL;dLL;cE;cAI;cO;cAU;cKA;cKHA;cGA;cGHA;cNGA;cNGHA;cCA;cCHA;cJA;cJHA;cNYA;cNYHA;cTTA;cTTHA",
   "cDDA;cDDHA;cNNA;cTA;cTHA;cDA;cDHA;cNA;cNHA;cPA;cPHA;cBA;cBHA;cMA;cMHA;cYA;cRA;cRHA;cLA",
   "cLHA;cWA;cSHA;cSSA;cSA;cHA;bVOWEL SIGN AA;dI;dII;dU;dUU;dVOCALIC R;eRR;eL;eLL;dE;dAI;dO",
   "dAU;bSIGN VIRAMA;cCANDRABINDU;cANUSVARA;cVISARGA;cNUKTA;cAVAGRAHA;cFINAL ANUSVARA;bOM",
   "bSIDDHI;bDANDA;bDOUBLE DANDA;bCOMMA;bGAP FILLER;bABBREVIATION SIGN;bDIGIT ZERO;cONE;cTWO",
   "cTHREE;cFOUR;cFIVE;cSIX;cSEVEN;cEIGHT;cNINE;bDOUBLE COMMA;bPLACEHOLDER MARK",
   "1145D:bINSERTION SIGN;bSANDHI MARK;bLETTER VEDIC ANUSVARA;bSIGN JIHVAMULIYA;cUPADHMANIYA",
   "11480:aTIRHUTA ANJI;bLETTER A;cAA;cI;cII;cU;cUU;cVOCALIC R;dRR;dL;dLL;cE;cAI;cO;cAU;cKA",
   "cKHA;cGA;cGHA;cNGA;cCA;cCHA;cJA;cJHA;cNYA;cTTA;cTTHA;cDDA;cDDHA;cNNA;cTA;cTHA;cDA;cDHA;cNA",
   "cPA;cPHA;cBA;cBHA;cMA;cYA;cRA;cLA;cVA;cSHA;cSSA;cSA;cHA;bVOWEL SIGN AA;dI;dII;dU;dUU",
   "dVOCALIC R;eRR;eL;eLL;dE;dSHORT E;dAI;dO;dSHORT O;dAU;bSIGN CANDRABINDU;cANUSVARA;cVISARGA",
   "cVIRAMA;cNUKTA;cAVAGRAHA;bGVANG;bABBREVIATION SIGN;bOM;114D0:bDIGIT ZERO;cONE;cTWO;cTHREE",
   "cFOUR;cFIVE;cSIX;cSEVEN;cEIGHT;cNINE;11580:aSIDDHAM LETTER A;cAA;cI;cII;cU;cUU;cVOCALIC R",
   "dRR;dL;dLL;cE;cAI;cO;cAU;cKA;cKHA;cGA;cGHA;cNGA;cCA;cCHA;cJA;cJHA;cNYA;cTTA;cTTHA;cDDA",
   "cDDHA;cNNA;cTA;cTHA;cDA;cDHA;cNA;cPA;cPHA;cBA;cBHA;cMA;cYA;cRA;cLA;cVA;cSHA;cSSA;cSA;cHA",
   "bVOWEL SIGN AA;dI;dII;dU;dUU;dVOCALIC R;eRR;115B8:dE;dAI;dO;dAU;bSIGN CANDRABINDU",
   "cANUSVARA;cVISARGA;cVIRAMA;cNUKTA;cSIDDHAM;bDANDA;bDOUBLE DANDA;bSEPARATOR DOT;cBAR",
   "bREPETITION MARK-1;cMARK-2;cMARK-3;bEND OF TEXT MARK",
   "bSECTION MARK WITH TRIDENT AND U-SHAPED ORNAMENTS;gDOTTED CRESCENTS",
   "eRAYS AND DOTTED CRESCENTS;hDOUBLE CRESCENTS;hTRIPLE CRESCENTS;dDOUBLE RING;fWITH RAYS",
   "dWITH DOUBLE CRESCENTS;eTRIPLE CRESCENTS;eQUADRUPLE CRESCENTS;eSEPTUPLE CRESCENTS",
   "eCIRCLES AND RAYS;gTWO ENCLOSURES;gFOUR ENCLOSURES;bLETTER THREE-CIRCLE ALTERNATE I",
   "cTWO-CIRCLE ALTERNATE I;eII;cALTERNATE U;bVOWEL SIGN ALTERNATE U;eUU;11600:aMODI LETTER A",
   "cAA;cI;cII;cU;cUU;cVOCALIC R;dRR;dL;dLL;cE;cAI;cO;cAU;cKA;cKHA;cGA;cGHA;cNGA;cCA;cCHA;cJA",
   "cJHA;cNYA;cTTA;cTTHA;cDDA;cDDHA;cNNA;cTA;cTHA;cDA;cDHA;cNA;cPA;cPHA;cBA;cBHA;cMA;cYA;cRA",
   "cLA;cVA;cSHA;cSSA;cSA;cHA;cLLA;bVOWEL SIGN AA;dI;dII;dU;dUU;dVOCALIC R;eRR;eL;eLL;dE;dAI",
   "dO;dAU;bSIGN ANUSVARA;cVISARGA;cVIRAMA;cARDHACANDRA;bDANDA;bDOUBLE DANDA",
   "bABBREVIATION SIGN;bSIGN HUVA;11650:bDIGIT ZERO;cONE;cTWO;cTHREE;cFOUR;cFIVE;cSIX;cSEVEN",
   "cEIGHT;cNINE;11660:aMONGOLIAN BIRGA WITH ORNAMENT;bROTATED BIRGA",
   "bDOUBLE BIRGA WITH ORNAMENT;bTRIPLE BIRGA WITH ORNAMENT;bBIRGA WITH DOUBLE ORNAMENT",
   "bROTATED BIRGA WITH ORNAMENT;eDOUBLE ORNAMENT;bINVERTED BIRGA;dWITH DOUBLE ORNAMENT",
   "bSWIRL BIRGA;dWITH ORNAMENT;eDOUBLE ORNAMENT;bTURNED SWIRL BIRGA WITH DOUBLE ORNAMENT",
   "11680:aTAKRI LETTER A;cAA;cI;cII;cU;cUU;cE;cAI;cO;cAU;cKA;cKHA;cGA;cGHA;cNGA;cCA;cCHA;cJA",
   "cJHA;cNYA;cTTA;cTTHA;cDDA;cDDHA;cNNA;cTA;cTHA;cDA;cDHA;cNA;cPA;cPHA;cBA;cBHA;cMA;cYA;cRA",
   "cLA;cVA;cSHA;cSA;cHA;cRRA;bSIGN ANUSVARA;cVISARGA;bVOWEL SIGN AA;dI;dII;dU;dUU;dE;dAI;dO",
   "dAU;bSIGN VIRAMA;cNUKTA;bLETTER ARCHAIC KHA;bABBREVIATION SIGN;116C0:bDIGIT ZERO;cONE;cTWO",
   "cTHREE;cFOUR;cFIVE;cSIX;cSEVEN;cEIGHT;cNINE;11700:aAHOM LETTER KA;cKHA;cNGA;cNA;cTA",
   "cALTERNATE TA;cPA;cPHA;cBA;cMA;cJA;cCHA;cTHA;cRA;cLA;cSA;cNYA;cHA;cA;cDA;cDHA;cGA",
   "cALTERNATE GA;cGHA;cBHA;cJHA;cALTERNATE BA;1171D:bCONSONANT SIGN MEDIAL LA;eRA",
   "eLIGATING RA;bVOWEL SIGN A;dAA;dI;dII;dU;dUU;dE;dAW;dO;dAI;dAM;bSIGN KILLER",
   "11730:bDIGIT ZERO;cONE;cTWO;cTHREE;cFOUR;cFIVE;cSIX;cSEVEN;cEIGHT;cNINE;bNUMBER TEN",
   "cTWENTY;bSIGN SMALL SECTION;cSECTION;cRULAI;bSYMBOL VI;bLETTER CA;cTTA;cTTHA;cDDA;cDDHA",
   "cNNA;cLLA;11800:aDOGRA LETTER A;cAA;cI;cII;cU;cUU;cE;cAI;cO;cAU;cKA;cKHA;cGA;cGHA;cNGA;cCA",
   "cCHA;cJA;cJHA;cNYA;cTTA;cTTHA;cDDA;cDDHA;cNNA;cTA;cTHA;cDA;cDHA;cNA;cPA;cPHA;cBA;cBHA;cMA",
   "cYA;cRA;cLA;cVA;cSHA;cSSA;cSA;cHA;cRRA;bVOWEL SIGN AA;dI;dII;dU;dUU;dVOCALIC R;eRR;dE;dAI",
   "dO;dAU;bSIGN ANUSVARA;cVISARGA;cVIRAMA;cNUKTA;bABBREVIATION SIGN",
   "118A0:aWARANG CITI CAPITAL LETTER NGAA;eA;eWI;eYU;eYA;eYO;eII;eUU;eE;eO;eANG;eGA;eKO;eENY",
   "eYUJ;eUC;eENN;eODD;eTTE;eNUNG;eDA;eAT;eAM;eBU;ePU;eHIYO;eHOLO;eHORR;eHAR;eSSUU;eSII;eVIYO",
   "cSMALL LETTER NGAA;eA;eWI;eYU;eYA;eYO;eII;eUU;eE;eO;eANG;eGA;eKO;eENY;eYUJ;eUC;eENN;eODD",
   "eTTE;eNUNG;eDA;eAT;eAM;eBU;ePU;eHIYO;eHOLO;eHORR;eHAR;eSSUU;eSII;eVIYO;cDIGIT ZERO;dONE",
   "dTWO;dTHREE;dFOUR;dFIVE;dSIX;dSEVEN;dEIGHT;dNINE;cNUMBER TEN;dTWENTY;dTHIRTY;dFORTY;dFIFTY",
   "dSIXTY;dSEVENTY;dEIGHTY;dNINETY;118FF:cOM;aDIVES AKURU LETTER A;dAA;dI;dII;dU;dUU;dE",
   "11909:dO;1190C:dKA;dKHA;dGA;dGHA;dNGA;dCA;dCHA;dJA;11915:dNYA;dTTA;11918:dDDA;dDDHA;dNNA",
   "dTA;dTHA;dDA;dDHA;dNA;dPA;dPHA;dBA;dBHA;dMA;dYA;dYYA;dRA;dLA;dVA;dSHA;dSSA;dSA;dHA;dLLA",
   "dZA;cVOWEL SIGN AA;eI;eII;eU;eUU;eE;11937:eAI;eO;1193B:cSIGN ANUSVARA;dCANDRABINDU",
   "dHALANTA;cVIRAMA;cPREFIXED NASAL SIGN;cMEDIAL YA;cINITIAL RA;cMEDIAL RA;cSIGN NUKTA",
   "cDOUBLE DANDA;cGAP FILLER;cEND OF TEXT MARK;11950:cDIGIT ZERO;dONE;dTWO;dTHREE;dFOUR;dFIVE",
   "dSIX;dSEVEN;dEIGHT;dNINE;119A0:aNANDINAGARI LETTER A;cAA;cI;cII;cU;cUU;cVOCALIC R;dRR",
   "119AA:cE;cAI;cO;cAU;cKA;cKHA;cGA;cGHA;cNGA;cCA;cCHA;cJA;cJHA;cNYA;cTTA;cTTHA;cDDA;cDDHA",
   "cNNA;cTA;cTHA;cDA;cDHA;cNA;cPA;cPHA;cBA;cBHA;cMA;cYA;cRA;cLA;cVA;cSHA;cSSA;cSA;cHA;cLLA",
   "cRRA;bVOWEL SIGN AA;dI;dII;dU;dUU;dVOCALIC R;eRR;119DA:dE;dAI;dO;dAU;bSIGN ANUSVARA",
   "cVISARGA;cVIRAMA;cAVAGRAHA;cSIDDHAM;bHEADSTROKE;bVOWEL SIGN PRISHTHAMATRA E",
   "11A00:aZANABAZAR SQUARE LETTER A;cVOWEL SIGN I;eUE;eU;eE;eOE;eO;eAI;eAU;eREVERSED I",
   "dLENGTH MARK;cLETTER KA;dKHA;dGA;dGHA;dNGA;dCA;dCHA;dJA;dNYA;dTTA;dTTHA;dDDA;dDDHA;dNNA",
   "dTA;dTHA;dDA;dDHA;dNA;dPA;dPHA;dBA;dBHA;dMA;dTSA;dTSHA;dDZA;dDZHA;dZHA;dZA;d-A;dYA;dRA;dLA",
   "dVA;dSHA;dSSA;dSA;dHA;dKSSA;cFINAL CONSONANT MARK;cSIGN VIRAMA;dCANDRABINDU;eWITH ORNAMENT",
   "dCANDRA WITH ORNAMENT;dANUSVARA;dVISARGA;cCLUSTER-INITIAL LETTER RA",
   "cCLUSTER-FINAL LETTER YA;eRA;eLA;eVA;cINITIAL HEAD MARK;cCLOSING HEAD MARK;cMARK TSHEG",
   "dSHAD;dDOUBLE SHAD;dLONG TSHEG;cINITIAL DOUBLE-LINED HEAD MARK",
   "cCLOSING DOUBLE-LINED HEAD MARK;cSUBJOINER;11A50:aSOYOMBO LETTER A;bVOWEL SIGN I;dUE;dU;dE",
   "dO;dOE;dAI;dAU;dVOCALIC R;eL;cLENGTH MARK;bLETTER KA;cKHA;cGA;cGHA;cNGA;cCA;cCHA;cJA;cJHA",
   "cNYA;cTTA;cTTHA;cDDA;cDDHA;cNNA;cTA;cTHA;cDA;cDHA;cNA;cPA;cPHA;cBA;cBHA;cMA;cTSA;cTSHA",
   "cDZA;cZHA;cZA;c-A;cYA;cRA;cLA;cVA;cSHA;cSSA;cSA;cHA;cKSSA;bSIGN JIHVAMULIYA;cUPADHMANIYA",
   "bCLUSTER-INITIAL LETTER RA;dLA;dSHA;dSA;bFINAL CONSONANT SIGN G;eK;eNG;eD;eN;eB;eM;eR;eL",
   "eSH;eS;e-A;bSIGN ANUSVARA;cVISARGA;bGEMINATION MARK;bSUBJOINER;bMARK TSHEG;cSHAD",
   "cDOUBLE SHAD;cPLUTA;bHEAD MARK WITH MOON AND SUN AND TRIPLE FLAME;iFLAME;h",
   "bTERMINAL MARK-1;cMARK-2;11AB0:aCANADIAN SYLLABICS NATTILIK HI;dHII;dHO;dHOO;dHA;dHAA",
   "dSHRI;dSHRII;dSHRO;dSHROO;dSHRA;dSHRAA;cSPE;cSPI;cSPO;cSPA;aPAU CIN HAU LETTER PA;eKA;eLA",
   "eMA;eDA;eZA;eVA;eNGA;eHA;eGA;eKHA;eSA;eBA;eCA;eTA;eTHA;eNA;ePHA;eRA;eFA;eCHA;eA;eE;eI;eO",
   "eU;eUA;eIA;eFINAL P;fK;fT;fM;fN;fL;fW;fNG;fY;dRISING TONE LONG;f;dSANDHI GLOTTAL STOP",
   "dRISING TONE LONG FINAL;fFINAL;dSANDHI GLOTTAL STOP FINAL;eTONE LONG;f;fLONG FINAL;fFINAL",
   "dMID-LEVEL TONE;dGLOTTAL STOP VARIANT;dMID-LEVEL TONE LONG FINAL;fFINAL",
   "dLOW-FALLING TONE LONG;f;dGLOTTAL STOP;dLOW-FALLING TONE LONG FINAL;fFINAL",
   "dGLOTTAL STOP FINAL;11C00:aBHAIKSUKI LETTER A;cAA;cI;cII;cU;cUU;cVOCALIC R;dRR;dL;11C0A:cE",
   "cAI;cO;cAU;cKA;cKHA;cGA;cGHA;cNGA;cCA;cCHA;cJA;cJHA;cNYA;cTTA;cTTHA;cDDA;cDDHA;cNNA;cTA",
   "cTHA;cDA;cDHA;cNA;cPA;cPHA;cBA;cBHA;cMA;cYA;cRA;cLA;cVA;cSHA;cSSA;cSA;cHA;bVOWEL SIGN AA",
   "dI;dII;dU;dUU;dVOCALIC R;eRR;eL;11C38:dE;dAI;dO;dAU;bSIGN CANDRABINDU;cANUSVARA;cVISARGA",
   "cVIRAMA;cAVAGRAHA;bDANDA;bDOUBLE DANDA;bWORD SEPARATOR;bGAP FILLER-1;cFILLER-2",
   "11C50:bDIGIT ZERO;cONE;cTWO;cTHREE;cFOUR;cFIVE;cSIX;cSEVEN;cEIGHT;cNINE;bNUMBER ONE;cTWO",
   "cTHREE;cFOUR;cFIVE;cSIX;cSEVEN;cEIGHT;cNINE;cTEN;cTWENTY;cTHIRTY;cFORTY;cFIFTY;cSIXTY",
   "cSEVENTY;cEIGHTY;cNINETY;bHUNDREDS UNIT MARK;11C70:aMARCHEN HEAD MARK;bMARK SHAD",
   "bLETTER KA;cKHA;cGA;cNGA;cCA;cCHA;cJA;cNYA;cTA;cTHA;cDA;cNA;cPA;cPHA;cBA;cMA;cTSA;cTSHA",
   "cDZA;cWA;cZHA;cZA;c-A;cYA;cRA;cLA;cSHA;cSA;cHA;cA;11C92:bSUBJOINED LETTER KA;dKHA;dGA;dNGA",
   "dCA;dCHA;dJA;dNYA;dTA;dTHA;dDA;dNA;dPA;dPHA;dBA;dMA;dTSA;dTSHA;dDZA;dWA;dZHA;dZA;11CA9:dYA",
   "dRA;dLA;dSHA;dSA;dHA;dA;bVOWEL SIGN AA;dI;dU;dE;dO;bSIGN ANUSVARA;cCANDRABINDU",
   "11D00:aMASARAM GONDI LETTER A;dAA;dI;dII;dU;dUU;dE;11D08:dAI;dO;11D0B:dAU;dKA;dKHA;dGA",
   "dGHA;dNGA;dCA;dCHA;dJA;dJHA;dNYA;dTTA;dTTHA;dDDA;dDDHA;dNNA;dTA;dTHA;dDA;dDHA;dNA;dPA;dPHA",
   "dBA;dBHA;dMA;dYA;dRA;dLA;dVA;dSHA;dSSA;dSA;dHA;dLLA;dKSSA;dJNYA;dTRA;cVOWEL SIGN AA;eI;eII",
   "eU;eUU;eVOCALIC R;11D3A:eE;11D3C:eAI;eO;11D3F:eAU;cSIGN ANUSVARA;dVISARGA;dNUKTA;dCANDRA",
   "dHALANTA;cVIRAMA;cREPHA;cRA-KARA;11D50:cDIGIT ZERO;dONE;dTWO;dTHREE;dFOUR;dFIVE;dSIX",
   "dSEVEN;dEIGHT;dNINE;11D60:aGUNJALA GONDI LETTER A;dAA;dI;dII;dU;dUU;11D67:dEE;dAI",
   "11D6A:dOO;dAU;dYA;dVA;dBA;dBHA;dMA;dKA;dKHA;dTA;dTHA;dLA;dGA;dGHA;dDA;dDHA;dNA;dCA;dCHA",
   "dTTA;dTTHA;dLLA;dJA;dJHA;dDDA;dDDHA;dNGA;dPA;dPHA;dHA;dRA;dSA;cVOWEL SIGN AA;eI;eII;eU;eUU",
   "11D90:eEE;eAI;11D93:eOO;eAU;cSIGN ANUSVARA;dVISARGA;cVIRAMA;cOM;11DA0:cDIGIT ZERO;dONE",
   "dTWO;dTHREE;dFOUR;dFIVE;dSIX;dSEVEN;dEIGHT;dNINE;11EE0:aMAKASAR LETTER KA;cGA;cNGA;cPA;cBA",
   "cMA;cTA;cDA;cNA;cCA;cJA;cNYA;cYA;cRA;cLA;cVA;cSA;cA;bANGKA;bVOWEL SIGN I;dU;dE;dO",
   "bPASSIMBANG;bEND OF SECTION;11FB0:aLISU LETTER YHA",
   "11FC0:aTAMIL FRACTION ONE THREE-HUNDRED-AND-TWENTIETH;dONE-HUNDRED-AND-SIXTIETH;dEIGHTIETH",
   "dSIXTY-FOURTH;dFORTIETH;dTHIRTY-SECOND;cTHREE EIGHTIETHS;dSIXTY-FOURTHS;cONE TWENTIETH",
   "dSIXTEENTH-1;dSIXTEENTH-2;dTENTH;dEIGHTH;cTHREE TWENTIETHS;dSIXTEENTHS;cONE FIFTH;dQUARTER",
   "dHALF-1;dHALF-2;cTHREE QUARTERS;cDOWNSCALING FACTOR KIIZH;bSIGN NEL;cCEVITU;cAAZHAAKKU",
   "cUZHAKKU;cMUUVUZHAKKU;cKURUNI;cPATHAKKU;cMUKKURUNI;cKAACU;cPANAM;cPON;cVARAAKAN;cPAARAM",
   "cKUZHI;cVELI;bWET CULTIVATION SIGN;bDRY CULTIVATION SIGN;bLAND SIGN;bSALT PAN SIGN",
   "bTRADITIONAL CREDIT SIGN;cNUMBER SIGN;bCURRENT SIGN;bAND ODD SIGN;bSPENT SIGN;bTOTAL SIGN",
   "bIN POSSESSION SIGN;bSTARTING FROM SIGN;bSIGN MUTHALIYA;cVAKAIYARAA",
   "11FFF:bPUNCTUATION END OF TEXT;aCUNEIFORM SIGN A;dTIMES A;eBAD;eGAN2 TENU;eHA;eIGI",
   "eLAGAR GUNU;eMUSH;eSAG;cA2;cAB;dTIMES ASH2;eDUN3 GUNU;eGAL;eGAN2 TENU;eHA;eIGI GUNU;eIMIN",
   "eLAGAB;eSHESH;eU PLUS U PLUS U;dGUNU;cAB2;dTIMES BALAG;eGAN2 TENU;eME PLUS EN;eSHA3;eTAK4",
   "cAD;cAK;dTIMES ERIN2;eSHITA PLUS GISH;cAL;dTIMES AL;eDIM2;eGISH;eHA;eKAD3;eKI;eSHE;eUSH",
   "cALAN;cALEPH;cAMAR;dTIMES SHE;cAN;dOVER AN;dTHREE TIMES;dPLUS NAGA OPPOSING AN PLUS NAGA",
   "fSQUARED;cANSHE;cAPIN;cARAD;dTIMES KUR;cARKAB;cASAL2;cASH;dZIDA TENU;dKABA TENU",
   "dOVER ASH TUG2 OVER TUG2 TUG2 OVER TUG2 PAP;fOVER ASH;hCROSSING ASH OVER ASH OVER ASH",
   "cASH2;cASHGAB;cBA;cBAD;cBAG3;cBAHAR2;cBAL;dOVER BAL;cBALAG;cBAR;cBARA2;cBI;dTIMES A;eGAR",
   "eIGI GUNU;cBU;dOVER BU AB;fUN;dCROSSING BU;cBULUG;dOVER BULUG;cBUR;cBUR2;cDA;cDAG",
   "dKISIM5 TIMES A PLUS MASH;fAMAR;fBALAG;fBI;fGA;gPLUS MASH;fGI;fGIR2;fGUD;fHA;fIR;gPLUS LU",
   "fKAK;fLA;fLU;gPLUS MASH2;fLUM;fNE;fPAP PLUS PAP;fSI;fTAK4;fU2 PLUS GIR2;fUSH;cDAM;cDAR",
   "cDARA3;cDARA4;cDI;cDIB;cDIM;dTIMES SHE;cDIM2;cDIN;dKASKAL U GUNU DISH;cDISH;cDU;dOVER DU",
   "dGUNU;dSHESHIG;cDUB;dTIMES ESH2;cDUB2;cDUG;cDUGUD;cDUH;cDUN;cDUN3;dGUNU;eGUNU;cDUN4;cDUR2",
   "cE;dTIMES PAP;dOVER E NUN OVER NUN;cE2;dTIMES A PLUS HA PLUS DA;eGAR;eMI;eSAL;eSHE;eU",
   "cEDIN;cEGIR;cEL;cEN;dTIMES GAN2;fTENU;eME;dCROSSING EN;dOPPOSING EN;dSQUARED;cEREN;cERIN2",
   "cESH2;cEZEN;dTIMES A;fPLUS LAL;hTIMES LAL;eAN;eBAD;eDUN3 GUNU;gGUNU;eHA;fGUNU;eIGI GUNU",
   "eKASKAL;fSQUARED;eKU3;eLA;eLAL TIMES LAL;eLI;eLU;eU2;eUD;cGA;dGUNU;cGA2",
   "dTIMES A PLUS DA PLUS HA;gHA;gIGI;eAB2 TENU PLUS TAB;eAN;eASH;eASH2 PLUS GAL;eBAD",
   "eBAR PLUS RA;eBUR;fPLUS RA;eDA;eDI;eDIM TIMES SHE;eDUB;eEL;fPLUS LA;eEN;fTIMES GAN2 TENU",
   "eGAN2 TENU;eGAR;eGI;eGI4;fPLUS A;eGIR2 PLUS SU;eHA PLUS LU PLUS ESH2;eHAL;fPLUS LA",
   "eHI PLUS LI;eHUB2;eIGI GUNU;eISH PLUS HU PLUS ASH;eKAK;eKASKAL;eKID;fPLUS LAL;eKU3 PLUS AN",
   "eLA;eME PLUS EN;eMI;eNUN;fOVER NUN;ePA;eSAL;eSAR;eSHE;fPLUS TUR;eSHID;eSUM;eTAK4;eU;eUD",
   "fPLUS DU;dOVER GA2;cGABA;dCROSSING GABA;cGAD;dOVER GAD GAR OVER GAR;cGAL",
   "dGAD OVER GAD GAR OVER GAR;cGALAM;cGAM;cGAN;cGAN2;dTENU;dOVER GAN2;dCROSSING GAN2;cGAR",
   "cGAR3;cGASHAN;cGESHTIN;dTIMES KUR;cGI;dTIMES E;eU;dCROSSING GI;cGI4;dOVER GI4",
   "dCROSSING GI4;cGIDIM;cGIR2;dGUNU;cGIR3;dTIMES A PLUS IGI;eGAN2 TENU;eIGI;eLU PLUS IGI;ePA",
   "cGISAL;cGISH;dCROSSING GISH;dTIMES BAD;eTAK4;dTENU;cGU;dCROSSING GU;cGU2;dTIMES KAK",
   "fTIMES IGI GUNU;eNUN;eSAL PLUS TUG2;dGUNU;cGUD;dTIMES A PLUS KUR;eKUR;dOVER GUD LUGAL;cGUL",
   "cGUM;dTIMES SHE;cGUR;cGUR7;cGURUN;cGURUSH;cHA;dTENU;dGUNU;cHAL;cHI;dTIMES ASH;eASH2;eBAD",
   "eDISH;eGAD;eKIN;eNUN;eSHE;eU;cHU;cHUB2;dTIMES AN;eHAL;eKASKAL;eLISH;eUD;cHUL2;cI;dA;cIB",
   "cIDIM;dOVER IDIM BUR;fSQUARED;cIG;cIGI;dDIB;dRI;dOVER IGI SHIR OVER SHIR UD OVER UD;dGUNU",
   "cIL;dTIMES GAN2 TENU;cIL2;cIM;dTIMES TAK4;dCROSSING IM;dOPPOSING IM;dSQUARED;cIMIN;cIN;cIR",
   "cISH;cKA;dTIMES A;eAD;fPLUS KU3;eASH2;eBAD;eBALAG;eBAR;eBI;eERIN2;eESH2;eGA;eGAL",
   "eGAN2 TENU;eGAR;fPLUS SHA3 PLUS A;eGI;eGIR2;eGISH PLUS SAR;fCROSSING GISH;eGU;eGUR7;eIGI",
   "eIM;eKAK;eKI;eKID;eLI;eLU;eME;fPLUS DU;gGI;gTE;eMI;fPLUS NUNUZ;eNE;eNUN;ePI;eRU;eSA;eSAR",
   "eSHA;eSHE;eSHID;eSHU;eSIG;eSUHUR;eTAR;eU;eU2;eUD;eUMUM TIMES PA;eUSH;eZI;cKA2",
   "dCROSSING KA2;cKAB;cKAD2;cKAD3;cKAD4;cKAD5;dOVER KAD5;cKAK;dTIMES IGI GUNU;cKAL;dTIMES BAD",
   "dCROSSING KAL;cKAM2;cKAM4;cKASKAL;dLAGAB TIMES U OVER LAGAB TIMES U",
   "dOVER KASKAL LAGAB TIMES U OVER LAGAB TIMES U;cKESH2;cKI;dTIMES BAD;eU;eUD;cKID;cKIN",
   "cKISAL;cKISH;cKISIM5;dOVER KISIM5;cKU;dOVER HI TIMES ASH2 KU OVER HI TIMES ASH2;cKU3;cKU4",
   "dVARIANT FORM;cKU7;cKUL;dGUNU;cKUN;cKUR;dOPPOSING KUR;cKUSHU2;cKWU318;cLA;cLAGAB;dTIMES A",
   "fPLUS DA PLUS HA;gGAR;gLAL;eAL;eAN;eASH ZIDA TENU;eBAD;eBI;eDAR;eEN;eGA;eGAR;eGUD",
   "fPLUS GUD;eHA;eHAL;eHI TIMES NUN;eIGI GUNU;eIM;fPLUS HA;gLU;eKI;eKIN;eKU3;eKUL",
   "fPLUS HI PLUS A;eLAGAB;eLISH;eLU;eLUL;eME;fPLUS EN;eMUSH;eNE;eSHE PLUS SUM",
   "eSHITA PLUS GISH PLUS ERIN2;hTENU;eSHU2;fPLUS SHU2;eSUM;eTAG;eTAK4",
   "eTE PLUS A PLUS SU PLUS NA;eU;fPLUS A;gU PLUS U;eU2 PLUS ASH;eUD;eUSH;dSQUARED;cLAGAR",
   "dTIMES SHE;fPLUS SUM;dGUNU;eOVER LAGAR GUNU SHE;cLAHSHU;cLAL;dTIMES LAL;cLAM;dTIMES KUR",
   "fPLUS RU;cLI;cLIL;cLIMMU2;cLISH;cLU;dTIMES BAD;cLU2;dTIMES AL;eBAD;eESH2;fTENU;eGAN2 TENU",
   "eHI TIMES BAD;eIM;eKAD2;eKAD3;fPLUS ASH;eKI;eLA PLUS ASH;eLAGAB;eME PLUS EN;eNE;eNU",
   "eSI PLUS ASH;eSIK2 PLUS BU;eTUG2;dTENU;dCROSSING LU2;dOPPOSING LU2;dSQUARED;dSHESHIG;cLU3",
   "cLUGAL;dOVER LUGAL;dOPPOSING LUGAL;dSHESHIG;cLUH;cLUL;cLUM;dOVER LUM;fGAR OVER GAR;cMA",
   "dTIMES TAK4;dGUNU;cMA2;cMAH;cMAR;cMASH;cMASH2;cME;cMES;cMI;cMIN;cMU;dOVER MU;cMUG;dGUNU",
   "cMUNSUB;cMURGU2;cMUSH;dTIMES A;eKUR;eZA;dOVER MUSH;fTIMES A PLUS NA;dCROSSING MUSH;cMUSH3",
   "dTIMES A;fPLUS DI;eDI;dGUNU;cNA;cNA2;cNAGA;dINVERTED;dTIMES SHU TENU;dOPPOSING NAGA;cNAGAR",
   "cNAM NUTILLU;d;cNAM2;cNE;dTIMES A;eUD;dSHESHIG;cNI;dTIMES E;cNI2;cNIM;dTIMES GAN2 TENU",
   "eGAR PLUS GAN2 TENU;cNINDA2;dTIMES AN;eASH;fPLUS ASH;eGUD;eME PLUS GAN2 TENU;eNE;eNUN;eSHE",
   "fPLUS A AN;gASH;hPLUS ASH;eU2 PLUS ASH;eUSH;cNISAG;cNU;cNU11;cNUN;dLAGAR TIMES GAR;fMASH",
   "fSAL;gOVER NUN LAGAR TIMES SAL;fUSH;dTENU;dOVER NUN;dCROSSING NUN;fLAGAR OVER LAGAR;cNUNUZ",
   "dAB2 TIMES ASHGAB;fBI;fDUG;fGUD;fIGI GUNU;fKAD3;fLA;fNE;fSILA3;fU2;dKISIM5 TIMES BI;gU;cPA",
   "cPAD;cPAN;cPAP;cPESH2;cPI;dTIMES A;eAB;eBI;eBU;eE;eI;eIB;eU;eU2;dCROSSING PI;cPIRIG",
   "dTIMES KAL;eUD;eZA;dOPPOSING PIRIG;cRA;cRAB;cRI;cRU;cSA;cSAG NUTILLU;d;dTIMES A;eDU;eDUB",
   "eHA;eKAK;eKUR;eLUM;eMI;eNUN;eSAL;eSHID;eTAB;eU2;eUB;eUM;eUR;eUSH;dOVER SAG;dGUNU;cSAL",
   "dLAGAB TIMES ASH2;cSANGA2;cSAR;cSHA;cSHA3;dTIMES A;eBAD;eGISH;eNE;eSHU2;eTUR;eU;fPLUS A",
   "cSHA6;cSHAB6;cSHAR2;cSHE;dHU;dOVER SHE GAD OVER GAD GAR OVER GAR",
   "fTAB OVER TAB GAR OVER GAR;cSHEG9;cSHEN;cSHESH;cSHESH2;cSHESHLAM;cSHID;dTIMES A;eIM;cSHIM",
   "dTIMES A;eBAL;eBULUG;eDIN;eGAR;eIGI;fGUNU;eKUSHU2;eLUL;eMUG;eSAL;cSHINIG;cSHIR;dTENU",
   "dOVER SHIR BUR OVER BUR;cSHITA;cSHU;dOVER INVERTED SHU;cSHU2;cSHUBUR;cSI;dGUNU;cSIG;cSIG4",
   "dOVER SIG4 SHU2;cSIK2;cSILA3;cSU;dOVER SU;cSUD;cSUD2;cSUHUR;cSUM;cSUMASH;cSUR;cSUR9;cTA",
   "dASTERISK;dTIMES HI;eMI;dGUNU;cTAB;dOVER TAB NI OVER NI DISH OVER DISH;dSQUARED;cTAG",
   "dTIMES BI;eGUD;eSHE;eSHU;eTUG2;eUD;cTAK4;cTAR;cTE;dGUNU;cTI;dTENU;cTIL;cTIR;dTIMES TAK4",
   "dOVER TIR;fGAD OVER GAD GAR OVER GAR;cTU;cTUG2;cTUK;cTUM;cTUR;dOVER TUR ZA OVER ZA;cU;dGUD",
   "dU U;dOVER U PA OVER PA GAR OVER GAR;fSUR OVER SUR;fU REVERSED OVER U REVERSED;cU2;cUB;cUD",
   "dKUSHU2;dTIMES BAD;eMI;eU PLUS U PLUS U;jGUNU;dGUNU;dSHESHIG;eTIMES BAD;cUDUG;cUM",
   "dTIMES LAGAB;eME PLUS DA;eSHA3;eU;cUMBIN;cUMUM;dTIMES KASKAL;ePA;cUN;dGUNU;cUR",
   "dCROSSING UR;dSHESHIG;cUR2;dTIMES A PLUS HA;gNA;eAL;eHA;eNUN;eU2;fPLUS ASH;gBI;cUR4;cURI",
   "cURI3;cURU;dTIMES A;eASHGAB;eBAR;eDUN;eGA;eGAL;eGAN2 TENU;eGAR;eGU;eHA;eIGI;eIM;eISH;eKI",
   "eLUM;eMIN;ePA;eSHE;eSIG4;eTU;eU PLUS GUD;eUD;eURUDA;cURUDA;dTIMES U;cUSH;dTIMES A;eKU;eKUR",
   "eTAK4;cUSHX;cUSH2;cUSHUMX;cUTUKI;cUZ3;dTIMES KASKAL;cUZU;cZA;dTENU;dSQUARED TIMES KUR;cZAG",
   "cZAMX;cZE2;cZI;dOVER ZI;cZI3;cZIB;dKABA TENU;cZIG;cZIZ2;cZU;cZU5;dTIMES A;cZUBUR;cZUM",
   "cKAP ELAMITE;cAB TIMES NUN;cAB2 TIMES A;cAMAR TIMES KUG;cDAG KISIM5 TIMES U2 PLUS MASH",
   "cDAG3;cDISH PLUS SHU;cDUB TIMES SHE;cEZEN TIMES GUD;eSHE;cGA2 TIMES AN PLUS KAK PLUS A",
   "eASH2;cGE22;cGIG;cHUSH;cKA TIMES ANSHE;eASH3;eGISH;eGUD;eHI TIMES ASH2;eLUM;ePA;eSHUL;eTU",
   "eUR2;cLAGAB TIMES GI;cLU2 SHESHIG TIMES BAD;dTIMES ESH2 PLUS LAL;eSHU;cMESH",
   "cMUSH3 TIMES ZA;cNA4;cNIN;cNIN9;cNINDA2 TIMES BAL;eGI;cNU11 ROTATED NINETY DEGREES",
   "cPESH2 ASTERISK;cPIR2;cSAG TIMES IGI GUNU;cTI2;cUM TIMES ME;cU U",
   "12400:bNUMERIC SIGN TWO ASH;dTHREE ASH;dFOUR ASH;dFIVE ASH;dSIX ASH;dSEVEN ASH;dEIGHT ASH",
   "dNINE ASH;dTHREE DISH;dFOUR DISH;dFIVE DISH;dSIX DISH;dSEVEN DISH;dEIGHT DISH;dNINE DISH",
   "dFOUR U;dFIVE U;dSIX U;dSEVEN U;dEIGHT U;dNINE U;dONE GESH2;dTWO GESH2;dTHREE GESH2",
   "dFOUR GESH2;dFIVE GESH2;dSIX GESH2;dSEVEN GESH2;dEIGHT GESH2;dNINE GESH2;dONE GESHU",
   "dTWO GESHU;dTHREE GESHU;dFOUR GESHU;dFIVE GESHU;dTWO SHAR2;dTHREE SHAR2;fVARIANT FORM",
   "dFOUR SHAR2;dFIVE SHAR2;dSIX SHAR2;dSEVEN SHAR2;dEIGHT SHAR2;dNINE SHAR2;dONE SHARU",
   "dTWO SHARU;dTHREE SHARU;fVARIANT FORM;dFOUR SHARU;dFIVE SHARU;dSHAR2 TIMES GAL PLUS DISH",
   "hMIN;dONE BURU;dTWO BURU;dTHREE BURU;fVARIANT FORM;dFOUR BURU;dFIVE BURU",
   "dTHREE VARIANT FORM ESH16;gESH21;dFOUR VARIANT FORM LIMMU;gLIMMU4;gLIMMU A;hB",
   "dSIX VARIANT FORM ASH9;dSEVEN VARIANT FORM IMIN3;gIMIN A;hB;dEIGHT VARIANT FORM USSU",
   "gUSSU3;dNINE VARIANT FORM ILIMMU;gILIMMU3;gILIMMU4;gILIMMU A;dTWO ASH TENU;dTHREE ASH TENU",
   "dFOUR ASH TENU;dFIVE ASH TENU;dSIX ASH TENU;dONE BAN2;dTWO BAN2;dTHREE BAN2;dFOUR BAN2",
   "fVARIANT FORM;dFIVE BAN2;fVARIANT FORM;dNIGIDAMIN;dNIGIDAESH;dONE ESHE3;dTWO ESHE3",
   "dONE THIRD DISH;dTWO THIRDS DISH;dFIVE SIXTHS DISH;dONE THIRD VARIANT FORM A",
   "dTWO THIRDS VARIANT FORM A;dONE EIGHTH ASH;eQUARTER ASH;dOLD ASSYRIAN ONE SIXTH;gQUARTER",
   "dONE QUARTER GUR;eHALF GUR;dELAMITE ONE THIRD;eTWO THIRDS;eFORTY;eFIFTY",
   "dFOUR U VARIANT FORM;dFIVE U VARIANT FORM;dSIX U VARIANT FORM;dSEVEN U VARIANT FORM",
   "dEIGHT U VARIANT FORM;dNINE U VARIANT FORM",
   "12470:bPUNCTUATION SIGN OLD ASSYRIAN WORD DIVIDER;dVERTICAL COLON;dDIAGONAL COLON",
   "eTRICOLON;eQUADCOLON;12480:bSIGN AB TIMES NUN TENU;eSHU2;cAD TIMES ESH2",
   "cBAD TIMES DISH TENU;cBAHAR2 TIMES AB2;eNI;eZA;cBU OVER BU TIMES NA2;cDA TIMES TAK4",
   "cDAG TIMES KUR;cDIM TIMES IGI;eU U U;cDIM2 TIMES UD;cDUG TIMES ANSHE;eASH;fAT LEFT;eDIN",
   "eDUN;eERIN2;eGA;eGI;eGIR2 GUNU;eGISH;eHA;eHI;eIGI GUNU;eKASKAL;eKUR;eKUSHU2;fPLUS KASKAL",
   "eLAK-020;eLAM;fTIMES KUR;eLUH PLUS GISH;eMASH;eMES;eMI;eNI;ePI;eSHE;eSI GUNU;cE2 TIMES KUR",
   "ePAP;cERIN2 X;cESH2 CROSSING ESH2;cEZEN SHESHIG TIMES ASH;fHI;fIGI GUNU;fLA;fLAL;fME;fMES",
   "fSU;dTIMES SU;cGA2 TIMES BAHAR2;eDIM GUNU;eDUG TIMES IGI GUNU;gKASKAL;eEREN;eGA",
   "eGAR PLUS DI;gNE;eHA PLUS A;eKUSHU2 PLUS KASKAL;eLAM;fTIMES KUR;eLUH;eMUSH;eNE;fPLUS E2",
   "gGI;eSHIM;eZIZ2;cGABA ROTATED NINETY DEGREES;cGESHTIN TIMES U",
   "cGISH TIMES GISH CROSSING GISH;cGU2 TIMES IGI GUNU;cGUD PLUS GISH TIMES TAK4;cHA TENU GUNU",
   "cHI TIMES ASH OVER HI TIMES ASH;cKA TIMES BU;eKA;eU U U;eUR;cLAGAB TIMES ZU OVER ZU",
   "cLAK-003;cLAK-021;cLAK-025;cLAK-030;cLAK-050;cLAK-051;cLAK-062;cLAK-079 OVER LAK-079 GUNU",
   "cLAK-080;cLAK-081 OVER LAK-081;cLAK-092;cLAK-130;cLAK-142;cLAK-210;cLAK-219;cLAK-220",
   "cLAK-225;cLAK-228;cLAK-238;cLAK-265;cLAK-266;cLAK-343;cLAK-347;cLAK-348;cLAK-383;cLAK-384",
   "cLAK-390;cLAK-441;cLAK-449;dTIMES GU;eIGI;ePAP PLUS LU3;gPAP PLUS LU3;eU2 PLUS BA;cLAK-450",
   "cLAK-457;cLAK-470;cLAK-483;cLAK-490;cLAK-492;cLAK-493;cLAK-495;cLAK-550;cLAK-608;cLAK-617",
   "dTIMES ASH;eBAD;eDUN3 GUNU GUNU;eKU3;eLA;eTAR;eTE;eU2;eUD;eURUDA;cLAK-636;cLAK-648",
   "dTIMES DUB;eGA;eIGI;fGUNU;eNI;ePAP PLUS PAP PLUS LU3;eSHESH PLUS KI;eUD;eURUDA;cLAK-724",
   "cLAK-749;cLU2 GUNU TIMES ASH;dTIMES DISH;eHAL;ePAP;fPLUS PAP PLUS LU3;eTAK4;cMI PLUS ZA7",
   "cMUSH OVER MUSH TIMES GA;gKAK;cNINDA2 TIMES DIM GUNU;eGISH;eGUL;eHI;eKESH2;eLAK-050;eMASH",
   "ePAP PLUS PAP;eU;fPLUS U;eURUDA;cSAG GUNU TIMES HA;dTIMES EN;eSHE AT LEFT;eTAK4;cSHA6 TENU",
   "cSHE OVER SHE;dPLUS HUB2;eNAM2;eSAR;cSHU2 PLUS DUG TIMES NI;eE2 TIMES AN;cSI TIMES TAK4",
   "cTAK4 PLUS SAG;cTUM TIMES GAN2 TENU;eTHREE DISH;cUR2 INVERTED;dTIMES UD;cURU TIMES DARA3",
   "eLAK-668;eLU3;cZA7;cZU OVER ZU PLUS SAR;cZU5 TIMES THREE DISH TENU",
   "12F90:aCYPRO-MINOAN SIGN CM001;cCM002;cCM004;cCM005;cCM006;cCM007;cCM008;cCM009;cCM010",
   "cCM011;cCM012;cCM012B;cCM013;cCM015;cCM017;cCM019;cCM021;cCM023;cCM024;cCM025;cCM026",
   "cCM027;cCM028;cCM029;cCM030;cCM033;cCM034;cCM035;cCM036;cCM037;cCM038;cCM039;cCM040;cCM041",
   "cCM044;cCM046;cCM047;cCM049;cCM050;cCM051;cCM052;cCM053;cCM054;cCM055;cCM056;cCM058;cCM059",
   "cCM060;cCM061;cCM062;cCM063;cCM064;cCM066;cCM067;cCM068;cCM069;cCM070;cCM071;cCM072;cCM073",
   "cCM074;cCM075;cCM075B;cCM076;cCM078;cCM079;cCM080;cCM081;cCM082;cCM083;cCM084;cCM085",
   "cCM086;cCM087;cCM088;cCM089;cCM090;cCM091;cCM092;cCM094;cCM095;cCM096;cCM097;cCM098;cCM099",
   "cCM100;cCM101;cCM102;cCM103;cCM104;cCM105;cCM107;cCM108;cCM109;cCM110;cCM112;cCM114;cCM301",
   "cCM302;13000:aEGYPTIAN HIEROGLYPH A001;cA002;cA003;cA004;cA005;cA005A;cA006;cA006A;cA006B",
   "cA007;cA008;cA009;cA010;cA011;cA012;cA013;cA014;cA014A;cA015;cA016;cA017;cA017A;cA018",
   "cA019;cA020;cA021;cA022;cA023;cA024;cA025;cA026;cA027;cA028;cA029;cA030;cA031;cA032;cA032A",
   "cA033;cA034;cA035;cA036;cA037;cA038;cA039;cA040;cA040A;cA041;cA042;cA042A;cA043;cA043A",
   "cA044;cA045;cA045A;cA046;cA047;cA048;cA049;cA050;cA051;cA052;cA053;cA054;cA055;cA056;cA057",
   "cA058;cA059;cA060;cA061;cA062;cA063;cA064;cA065;cA066;cA067;cA068;cA069;cA070;cB001;cB002",
   "cB003;cB004;cB005;cB005A;cB006;cB007;cB008;cB009;cC001;cC002;cC002A;cC002B;cC002C;cC003",
   "cC004;cC005;cC006;cC007;cC008;cC009;cC010;cC010A;cC011;cC012;cC013;cC014;cC015;cC016;cC017",
   "cC018;cC019;cC020;cC021;cC022;cC023;cC024;cD001;cD002;cD003;cD004;cD005;cD006;cD007;cD008",
   "cD008A;cD009;cD010;cD011;cD012;cD013;cD014;cD015;cD016;cD017;cD018;cD019;cD020;cD021;cD022",
   "cD023;cD024;cD025;cD026;cD027;cD027A;cD028;cD029;cD030;cD031;cD031A;cD032;cD033;cD034",
   "cD034A;cD035;cD036;cD037;cD038;cD039;cD040;cD041;cD042;cD043;cD044;cD045;cD046;cD046A",
   "cD047;cD048;cD048A;cD049;cD050;cD050A;cD050B;cD050C;cD050D;cD050E;cD050F;cD050G;cD050H",
   "cD050I;cD051;cD052;cD052A;cD053;cD054;cD054A;cD055;cD056;cD057;cD058;cD059;cD060;cD061",
   "cD062;cD063;cD064;cD065;cD066;cD067;cD067A;cD067B;cD067C;cD067D;cD067E;cD067F;cD067G",
   "cD067H;cE001;cE002;cE003;cE004;cE005;cE006;cE007;cE008;cE008A;cE009;cE009A;cE010;cE011",
   "cE012;cE013;cE014;cE015;cE016;cE016A;cE017;cE017A;cE018;cE019;cE020;cE020A;cE021;cE022",
   "cE023;cE024;cE025;cE026;cE027;cE028;cE028A;cE029;cE030;cE031;cE032;cE033;cE034;cE034A",
   "cE036;cE037;cE038;cF001;cF001A;cF002;cF003;cF004;cF005;cF006;cF007;cF008;cF009;cF010;cF011",
   "cF012;cF013;cF013A;cF014;cF015;cF016;cF017;cF018;cF019;cF020;cF021;cF021A;cF022;cF023",
   "cF024;cF025;cF026;cF027;cF028;cF029;cF030;cF031;cF031A;cF032;cF033;cF034;cF035;cF036;cF037",
   "cF037A;cF038;cF038A;cF039;cF040;cF041;cF042;cF043;cF044;cF045;cF045A;cF046;cF046A;cF047",
   "cF047A;cF048;cF049;cF050;cF051;cF051A;cF051B;cF051C;cF052;cF053;cG001;cG002;cG003;cG004",
   "cG005;cG006;cG006A;cG007;cG007A;cG007B;cG008;cG009;cG010;cG011;cG011A;cG012;cG013;cG014",
   "cG015;cG016;cG017;cG018;cG019;cG020;cG020A;cG021;cG022;cG023;cG024;cG025;cG026;cG026A",
   "cG027;cG028;cG029;cG030;cG031;cG032;cG033;cG034;cG035;cG036;cG036A;cG037;cG037A;cG038",
   "cG039;cG040;cG041;cG042;cG043;cG043A;cG044;cG045;cG045A;cG046;cG047;cG048;cG049;cG050",
   "cG051;cG052;cG053;cG054;cH001;cH002;cH003;cH004;cH005;cH006;cH006A;cH007;cH008;cI001;cI002",
   "cI003;cI004;cI005;cI005A;cI006;cI007;cI008;cI009;cI009A;cI010;cI010A;cI011;cI011A;cI012",
   "cI013;cI014;cI015;cK001;cK002;cK003;cK004;cK005;cK006;cK007;cK008;cL001;cL002;cL002A;cL003",
   "cL004;cL005;cL006;cL006A;cL007;cL008;cM001;cM001A;cM001B;cM002;cM003;cM003A;cM004;cM005",
   "cM006;cM007;cM008;cM009;cM010;cM010A;cM011;cM012;cM012A;cM012B;cM012C;cM012D;cM012E;cM012F",
   "cM012G;cM012H;cM013;cM014;cM015;cM015A;cM016;cM016A;cM017;cM017A;cM018;cM019;cM020;cM021",
   "cM022;cM022A;cM023;cM024;cM024A;cM025;cM026;cM027;cM028;cM028A;cM029;cM030;cM031;cM031A",
   "cM032;cM033;cM033A;cM033B;cM034;cM035;cM036;cM037;cM038;cM039;cM040;cM040A;cM041;cM042",
   "cM043;cM044;cN001;cN002;cN003;cN004;cN005;cN006;cN007;cN008;cN009;cN010;cN011;cN012;cN013",
   "cN014;cN015;cN016;cN017;cN018;cN018A;cN018B;cN019;cN020;cN021;cN022;cN023;cN024;cN025",
   "cN025A;cN026;cN027;cN028;cN029;cN030;cN031;cN032;cN033;cN033A;cN034;cN034A;cN035;cN035A",
   "cN036;cN037;cN037A;cN038;cN039;cN040;cN041;cN042;cNL001;cNL002;cNL003;cNL004;cNL005",
   "cNL005A;cNL006;cNL007;cNL008;cNL009;cNL010;cNL011;cNL012;cNL013;cNL014;cNL015;cNL016",
   "cNL017;cNL017A;cNL018;cNL019;cNL020;cNU001;cNU002;cNU003;cNU004;cNU005;cNU006;cNU007",
   "cNU008;cNU009;cNU010;cNU010A;cNU011;cNU011A;cNU012;cNU013;cNU014;cNU015;cNU016;cNU017",
   "cNU018;cNU018A;cNU019;cNU020;cNU021;cNU022;cNU022A;cO001;cO001A;cO002;cO003;cO004;cO005",
   "cO005A;cO006;cO006A;cO006B;cO006C;cO006D;cO006E;cO006F;cO007;cO008;cO009;cO010;cO010A",
   "cO010B;cO010C;cO011;cO012;cO013;cO014;cO015;cO016;cO017;cO018;cO019;cO019A;cO020;cO020A",
   "cO021;cO022;cO023;cO024;cO024A;cO025;cO025A;cO026;cO027;cO028;cO029;cO029A;cO030;cO030A",
   "cO031;cO032;cO033;cO033A;cO034;cO035;cO036;cO036A;cO036B;cO036C;cO036D;cO037;cO038;cO039",
   "cO040;cO041;cO042;cO043;cO044;cO045;cO046;cO047;cO048;cO049;cO050;cO050A;cO050B;cO051",
   "cP001;cP001A;cP002;cP003;cP003A;cP004;cP005;cP006;cP007;cP008;cP009;cP010;cP011;cQ001",
   "cQ002;cQ003;cQ004;cQ005;cQ006;cQ007;cR001;cR002;cR002A;cR003;cR003A;cR003B;cR004;cR005",
   "cR006;cR007;cR008;cR009;cR010;cR010A;cR011;cR012;cR013;cR014;cR015;cR016;cR016A;cR017",
   "cR018;cR019;cR020;cR021;cR022;cR023;cR024;cR025;cR026;cR027;cR028;cR029;cS001;cS002;cS002A",
   "cS003;cS004;cS005;cS006;cS006A;cS007;cS008;cS009;cS010;cS011;cS012;cS013;cS014;cS014A",
   "cS014B;cS015;cS016;cS017;cS017A;cS018;cS019;cS020;cS021;cS022;cS023;cS024;cS025;cS026",
   "cS026A;cS026B;cS027;cS028;cS029;cS030;cS031;cS032;cS033;cS034;cS035;cS035A;cS036;cS037",
   "cS038;cS039;cS040;cS041;cS042;cS043;cS044;cS045;cS046;cT001;cT002;cT003;cT003A;cT004;cT005",
   "cT006;cT007;cT007A;cT008;cT008A;cT009;cT009A;cT010;cT011;cT011A;cT012;cT013;cT014;cT015",
   "cT016;cT016A;cT017;cT018;cT019;cT020;cT021;cT022;cT023;cT024;cT025;cT026;cT027;cT028;cT029",
   "cT030;cT031;cT032;cT032A;cT033;cT033A;cT034;cT035;cT036;cU001;cU002;cU003;cU004;cU005",
   "cU006;cU006A;cU006B;cU007;cU008;cU009;cU010;cU011;cU012;cU013;cU014;cU015;cU016;cU017",
   "cU018;cU019;cU020;cU021;cU022;cU023;cU023A;cU024;cU025;cU026;cU027;cU028;cU029;cU029A",
   "cU030;cU031;cU032;cU032A;cU033;cU034;cU035;cU036;cU037;cU038;cU039;cU040;cU041;cU042;cV001",
   "cV001A;cV001B;cV001C;cV001D;cV001E;cV001F;cV001G;cV001H;cV001I;cV002;cV002A;cV003;cV004",
   "cV005;cV006;cV007;cV007A;cV007B;cV008;cV009;cV010;cV011;cV011A;cV011B;cV011C;cV012;cV012A",
   "cV012B;cV013;cV014;cV015;cV016;cV017;cV018;cV019;cV020;cV020A;cV020B;cV020C;cV020D;cV020E",
   "cV020F;cV020G;cV020H;cV020I;cV020J;cV020K;cV020L;cV021;cV022;cV023;cV023A;cV024;cV025",
   "cV026;cV027;cV028;cV028A;cV029;cV029A;cV030;cV030A;cV031;cV031A;cV032;cV033;cV033A;cV034",
   "cV035;cV036;cV037;cV037A;cV038;cV039;cV040;cV040A;cW001;cW002;cW003;cW003A;cW004;cW005",
   "cW006;cW007;cW008;cW009;cW009A;cW010;cW010A;cW011;cW012;cW013;cW014;cW014A;cW015;cW016",
   "cW017;cW017A;cW018;cW018A;cW019;cW020;cW021;cW022;cW023;cW024;cW024A;cW025;cX001;cX002",
   "cX003;cX004;cX004A;cX004B;cX005;cX006;cX006A;cX007;cX008;cX008A;cY001;cY001A;cY002;cY003",
   "cY004;cY005;cY006;cY007;cY008;cZ001;cZ002;cZ002A;cZ002B;cZ002C;cZ002D;cZ003;cZ003A;cZ003B",
   "cZ004;cZ004A;cZ005;cZ005A;cZ006;cZ007;cZ008;cZ009;cZ010;cZ011;cZ012;cZ013;cZ014;cZ015",
   "cZ015A;cZ015B;cZ015C;cZ015D;cZ015E;cZ015F;cZ015G;cZ015H;cZ015I;cZ016;cZ016A;cZ016B;cZ016C",
   "cZ016D;cZ016E;cZ016F;cZ016G;cZ016H;cAA001;cAA002;cAA003;cAA004;cAA005;cAA006;cAA007",
   "cAA007A;cAA007B;cAA008;cAA009;cAA010;cAA011;cAA012;cAA013;cAA014;cAA015;cAA016;cAA017",
   "cAA018;cAA019;cAA020;cAA021;cAA022;cAA023;cAA024;cAA025;cAA026;cAA027;cAA028;cAA029;cAA030",
   "cAA031;cAA032;13430:cVERTICAL JOINER;cHORIZONTAL JOINER;cINSERT AT TOP START;eBOTTOM START",
   "eTOP END;eBOTTOM END;cOVERLAY MIDDLE;cBEGIN SEGMENT;cEND SEGMENT",
   "14400:aANATOLIAN HIEROGLYPH A001;cA002;cA003;cA004;cA005;cA006;cA007;cA008;cA009;cA010",
   "cA010A;cA011;cA012;cA013;cA014;cA015;cA016;cA017;cA018;cA019;cA020;cA021;cA022;cA023;cA024",
   "cA025;cA026;cA026A;cA027;cA028;cA029;cA030;cA031;cA032;cA033;cA034;cA035;cA036;cA037;cA038",
   "cA039;cA039A;cA040;cA041;cA041A;cA042;cA043;cA044;cA045;cA045A;cA046;cA046A;cA046B;cA047",
   "cA048;cA049;cA050;cA051;cA052;cA053;cA054;cA055;cA056;cA057;cA058;cA059;cA060;cA061;cA062",
   "cA063;cA064;cA065;cA066;cA066A;cA066B;cA066C;cA067;cA068;cA069;cA070;cA071;cA072;cA073",
   "cA074;cA075;cA076;cA077;cA078;cA079;cA080;cA081;cA082;cA083;cA084;cA085;cA086;cA087;cA088",
   "cA089;cA090;cA091;cA092;cA093;cA094;cA095;cA096;cA097;cA097A;cA098;cA098A;cA099;cA100",
   "cA100A;cA101;cA101A;cA102;cA102A;cA103;cA104;cA104A;cA104B;cA104C;cA105;cA105A;cA105B",
   "cA106;cA107;cA107A;cA107B;cA107C;cA108;cA109;cA110;cA110A;cA110B;cA111;cA112;cA113;cA114",
   "cA115;cA115A;cA116;cA117;cA118;cA119;cA120;cA121;cA122;cA123;cA124;cA125;cA125A;cA126",
   "cA127;cA128;cA129;cA130;cA131;cA132;cA133;cA134;cA135;cA135A;cA136;cA137;cA138;cA139;cA140",
   "cA141;cA142;cA143;cA144;cA145;cA146;cA147;cA148;cA149;cA150;cA151;cA152;cA153;cA154;cA155",
   "cA156;cA157;cA158;cA159;cA160;cA161;cA162;cA163;cA164;cA165;cA166;cA167;cA168;cA169;cA170",
   "cA171;cA172;cA173;cA174;cA175;cA176;cA177;cA178;cA179;cA180;cA181;cA182;cA183;cA184;cA185",
   "cA186;cA187;cA188;cA189;cA190;cA191;cA192;cA193;cA194;cA195;cA196;cA197;cA198;cA199;cA200",
   "cA201;cA202;cA202A;cA202B;cA203;cA204;cA205;cA206;cA207;cA207A;cA208;cA209;cA209A;cA210",
   "cA211;cA212;cA213;cA214;cA215;cA215A;cA216;cA216A;cA217;cA218;cA219;cA220;cA221;cA222",
   "cA223;cA224;cA225;cA226;cA227;cA227A;cA228;cA229;cA230;cA231;cA232;cA233;cA234;cA235;cA236",
   "cA237;cA238;cA239;cA240;cA241;cA242;cA243;cA244;cA245;cA246;cA247;cA248;cA249;cA250;cA251",
   "cA252;cA253;cA254;cA255;cA256;cA257;cA258;cA259;cA260;cA261;cA262;cA263;cA264;cA265;cA266",
   "cA267;cA267A;cA268;cA269;cA270;cA271;cA272;cA273;cA274;cA275;cA276;cA277;cA278;cA279;cA280",
   "cA281;cA282;cA283;cA284;cA285;cA286;cA287;cA288;cA289;cA289A;cA290;cA291;cA292;cA293;cA294",
   "cA294A;cA295;cA296;cA297;cA298;cA299;cA299A;cA300;cA301;cA302;cA303;cA304;cA305;cA306",
   "cA307;cA308;cA309;cA309A;cA310;cA311;cA312;cA313;cA314;cA315;cA316;cA317;cA318;cA319;cA320",
   "cA321;cA322;cA323;cA324;cA325;cA326;cA327;cA328;cA329;cA329A;cA330;cA331;cA332A;cA332B",
   "cA332C;cA333;cA334;cA335;cA336;cA336A;cA336B;cA336C;cA337;cA338;cA339;cA340;cA341;cA342",
   "cA343;cA344;cA345;cA346;cA347;cA348;cA349;cA350;cA351;cA352;cA353;cA354;cA355;cA356;cA357",
   "cA358;cA359;cA359A;cA360;cA361;cA362;cA363;cA364;cA364A;cA365;cA366;cA367;cA368;cA368A",
   "cA369;cA370;cA371;cA371A;cA372;cA373;cA374;cA375;cA376;cA377;cA378;cA379;cA380;cA381",
   "cA381A;cA382;cA383 RA OR RI;cA383A;cA384;cA385;cA386;cA386A;cA387;cA388;cA389;cA390;cA391",
   "cA392;cA393 EIGHT;cA394;cA395;cA396;cA397;cA398;cA399;cA400;cA401;cA402;cA403;cA404;cA405",
   "cA406;cA407;cA408;cA409;cA410 BEGIN LOGOGRAM MARK;cA410A END LOGOGRAM MARK;cA411;cA412",
   "cA413;cA414;cA415;cA416;cA417;cA418;cA419;cA420;cA421;cA422;cA423;cA424;cA425;cA426;cA427",
   "cA428;cA429;cA430;cA431;cA432;cA433;cA434;cA435;cA436;cA437;cA438;cA439;cA440;cA441;cA442",
   "cA443;cA444;cA445;cA446;cA447;cA448;cA449;cA450;cA450A;cA451;cA452;cA453;cA454;cA455;cA456",
   "cA457;cA457A;cA458;cA459;cA460;cA461;cA462;cA463;cA464;cA465;cA466;cA467;cA468;cA469;cA470",
   "cA471;cA472;cA473;cA474;cA475;cA476;cA477;cA478;cA479;cA480;cA481;cA482;cA483;cA484;cA485",
   "cA486;cA487;cA488;cA489;cA490;cA491;cA492;cA493;cA494;cA495;cA496;cA497;cA501;cA502;cA503",
   "cA504;cA505;cA506;cA507;cA508;cA509;cA510;cA511;cA512;cA513;cA514;cA515;cA516;cA517;cA518",
   "cA519;cA520;cA521;cA522;cA523;cA524;cA525;cA526;cA527;cA528;cA529;cA530",
   "16800:aBAMUM LETTER PHASE-A NGKUE MFON;dGBIEE FON;dPON MFON PIPAEMGBIEE;fPIPAEMBA",
   "dNAA MFON;dSHUENSHUET;dTITA MFON;dNZA MFON;dSHINDA PA NJI;dPON PA NJI PIPAEMGBIEE",
   "gPIPAEMBA;dMAEMBGBIEE;dTU MAEMBA;dNGANGU;dMAEMVEUX;dMANSUAE;dMVEUAENGAM;dSEUNYAM;dNTOQPEN",
   "dKEUKEUTNDA;dNKINDI;dSUU;dNGKUENZEUM;dLAPAQ;dLET KUT;dNTAP MFAA;dMAEKEUP;dPASHAE",
   "dGHEUAERAE;dPAMSHAE;dMON NGGEUAET;dNZUN MEUT;dU YUQ NAE;dGHEUAEGHEUAE;dNTAP NTAA;dSISA",
   "dMGBASA;dMEUNJOMNDEUQ;dMOOMPUQ;dKAFA;dPA LEERAEWA;dNDA LEERAEWA;dPET;dMAEMKPEN;dNIKA;dPUP",
   "dTUAEP;dLUAEP;dSONJAM;dTEUTEUWEN;dMAENYI;dKET;dNDAANGGEUAET;dKUOQ;dMOOMEUT;dSHUM;dLOMMAE",
   "dFIRI;dROM;dKPOQ;dSOQ;dMAP PIEET;dSHIRAE;dNTAP;dSHOQ NSHUT YUM;dNYIT MONGKEUAEQ;dPAARAE",
   "dNKAARAE;dUNKNOWN;dNGGEN;dMAESI;dNJAM;dMBANYI;dNYET;dTEUAEN;dSOT;dPAAM;dNSHIEE;dMAEM;dNYI",
   "dKAQ;dNSHA;dVEE;dLU;dNEN;dNAQ;dMBAQ;cPHASE-B NSHUET;dTU MAEMGBIEE;dSIEE;dSET TU;dLOM NTEUM",
   "dMBA MAELEE;dKIEEM;dYEURAE;dMBAARAE;dKAM;dPEESHI;dYAFU LEERAEWA;dLAM NSHUT NYAM",
   "dNTIEE SHEUOQ;dNDU NJAA;dGHEUGHEUAEM;dPIT;dTU NSIEE;dSHET NJAQ;dSHEUAEQTU;dMFON TEUAEQ",
   "dMBIT MBAAKET;dNYI NTEUM;dKEUPUQ;dGHEUGHEN;dKEUYEUX;dLAANAE;dPARUM;dVEUM;dNGKINDI MVOP",
   "dNGGEU MBU;dWUAET;dSAKEUAE;dTAAM;dMEUQ;dNGGUOQ;eLARGE;dMFIYAQ;dSUE;dMBEURI;dMONTIEEN",
   "dNYAEMAE;dPUNGAAM;dMEUT NGGEET;dFEUX;dMBUOQ;dFEE;dKEUAEM;dMA NJEUAENA;eNJUQA;dLET;dNGGAAM",
   "dNSEN;dMA;dKIQ;dNGOM;cPHASE-C NGKUE MAEMBA;dNZA;dYUM;dWANGKUOQ;dNGGEN;dNDEUAEREE;dNGKAQ",
   "dGHARAE;dMBEEKEET;dGBAYI;dNYIR MKPARAQ MEUN;dNTU MBIT;dMBEUM;dPIRIEEN;dNDOMBU",
   "dMBAA CABBAGE-TREE;dKEUSHEUAEP;dGHAP;dKEUKAQ;dYU MUOMAE;dNZEUM;dMBUE;dNSEUAEN;dMBIT;dYEUQ",
   "dKPARAQ;dKAA;dSEUX;dNDIDA;dTAASHAE;dNJUEQ;dTITA YUE;dSUAET;dNGGUAEN NYAM;dVEUX;dNANSANAQ",
   "dMA KEUAERI;dNTAA;dNGGUON;dLAP;dMBIRIEEN;dMGBASAQ;dNTEUNGBA;dTEUTEUX;dNGGUM;dFUE;dNDEUT",
   "dNSA;dNSHAQ;dBUNG;dVEUAEPEN;dMBERAE;dRU;dNJAEM;dLAM;dTITUAEP;dNSUOT NGOM;dNJEEEE;dKET",
   "dNGGU;dMAESI;dMBUAEM;dLU;dKUT;dNJAM;dNGOM;dWUP;dNGGUEET;dNSOM;dNTEN;dKUOP NKAARAE;dNSUN",
   "dNDAM;dMA NSIEE;dYAA;dNDAP;dSHUEQ;dSETFON;dMBI;dMAEMBA;dMBANYI;dKEUSEUX;dMBEUX;dKEUM",
   "dMBAA PICKET;dYUWOQ;dNJEUX;dMIEE;dMUAE;dSHIQ;dKEN LAW;eFATIGUE;dNGAQ;dNAQ;dLIQ;dPIN;dPEN",
   "dTET;cPHASE-D MBUO;dWAP;dNJI;dMFON;dNJIEE;dLIEE;dNJEUT;dNSHEE;dNGGAAMAE;dNYAM;dWUAEN",
   "dNGKUN;dSHEE;dNGKAP;dKEUAETMEUN;dTEUT;dSHEUAE;dNJAP;dSUE;dKET;dYAEMMAE;dKUOM;dSAP;dMFEUT",
   "dNDEUX;dMALEERI;dMEUT;dSEUAEQ;dYEN;dNJEUAEM;dKEUOT MBUAE;dNGKEURI;dTU;dGHAA;dNGKYEE",
   "dFEUFEUAET;dNDEE;dMGBOFUM;dLEUAEP;dNDON;dMONI;dMGBEUN;dPUUT;dMGBIEE;dMFO;dLUM;dNSIEEP",
   "dMBAA;dKWAET;dNYET;dTEUAEN;dSOT;dYUWOQ;dKEUM;dRAEM;dTEEEE;dNGKEUAEQ;dMFEUAE;dNSIEET;dKEUP",
   "dPIP;dPEUTAE;dNYUE;dLET;dNGGAAM;dMFIEE;dNGGWAEN;dYUOM;dPAP;dYUOP;dNDAM;dNTEUM;dSUAE;dKUN",
   "dNGGEUX;dNGKIEE;dTUOT;dMEUN;dKUQ;dNSUM;dTEUN;dMAENJET;dNGGAP;dLEUM;dNGGUOM;dNSHUT;dNJUEQ",
   "dGHEUAE;dKU;dREN OLD;dTAE;dTOQ;dNYI;dRII;dLEEEE;dMEEEE;dM;dSUU;dMU;dSHII;dSHEUX;dKYEE;dNU",
   "dSHU;dNTEE;dPEE;dNI;dSHOQ;dPUQ;dMVOP;dLOQ;dREN MUCH;dTI;dNTUU;dMBAA SEVEN;dSAQ;dFAA",
   "cPHASE-E NDAP;dTOON;dMBEUM;dLAP;dVOM;dLOON;dPAA;dSOM;dRAQ;dNSHUOP;dNDUN;dPUAE;dTAM;dNGKA",
   "dKPEUX;dWUO;dSEE;dNGGEUAET;dPAAM;dTOO;dKUOP;dLOM;dNSHIEE;dNGOP;dMAEM;dNGKEUX;dNGOQ;dNSHUE",
   "dRIMGBA;dNJEUX;dPEEM;dSAA;dNGGURAE;dMGBA;dGHEUX;dNGKEUAEM;dNJAEMLI;dMAP;dLOOT;dNGGEEEE",
   "dNDIQ;dTAEN NTEUM;dSET;dPUM;dNDAA SOFTNESS;dNGGUAESHAE NYAM;dYIEE;dGHEUN;dTUAE;dYEUAE;dPO",
   "dTUMAE;dKEUAE;dSUAEN;dTEUAEQ;dVEUAE;dWEUX;dLAAM;dPU;dTAAQ;dGHAAMAE;dNGEUREUT;dSHEUAEQ",
   "dMGBEN;dMBEE;dNZAQ;dNKOM;dGBET;dTUM;dKUET;dYAP;dNYI CLEAVER;dYIT;dMFEUQ;dNDIAQ;dPIEEQ",
   "dYUEQ;dLEUAEM;dFUE;dGBEUX;dNGKUP;dKET;dMAE;dNGKAAMI;dGHET;dFA;dNTUM;dPEUT;dYEUM;dNGGEUAE",
   "dNYI BETWEEN;dNZUQ;dPOON;dMIEE;dFUET;dNAE;dMUAE;dGHEUAE;dFU I;dMVI;dPUAQ;dNGKUM;dKUT;dPIET",
   "dNTAP;dYEUAET;dNGGUP;dPA PEOPLE;dFU CALL;dFOM;dNJEE;dA;dTOQ;dO;dI;dLAQ;dPA PLURAL;dTAA",
   "dTAQ;dNDAA MY HOUSE;dSHIQ;dYEUX;dNGUAE;dYUAEN;dYOQ SWIMMING;eCOVER;dYUQ;dYUN;dKEUX;dPEUX",
   "dNJEE EPOCH;dPUE;dWUE;dFEE;dVEE;dLU;dMI;dREUX;dRAE;dNGUAET;dNGA;dSHO;dSHOQ;dFU REMEDY;dNA",
   "dPI;dLOQ;dKO;dMEN;dMA;dMAQ;dTEU;dKI;dMON;dTEN;dFAQ;dGHOM;cPHASE-F KA;dU;dKU;dEE;dREE;dTAE",
   "dNYI;dLA;dRII;dRIEE;dMEEEE;dTAA;dNDAA;dNJAEM;dM;dSUU;dSHII;dSI;dSEUX;dKYEE;dKET;dNUAE;dNU",
   "dNJUAE;dYOQ;dSHU;dYA;dNSHA;dPEUX;dNTEE;dWUE;dPEE;dRU;dNI;dREUX;dKEN;dNGKWAEN;dNGGA;dSHO",
   "dPUAE;dFOM;dWA;dLI;dLOQ;dKO;dMBEN;dREN;dMA;dMO;dMBAA;dTET;dKPA;dSAMBA;dVUEQ",
   "16A40:aMRO LETTER TA;cNGI;cYO;cMIM;cBA;cDA;cA;cPHI;cKHAI;cHAO;cDAI;cCHU;cKEAAE;cOL;cMAEM",
   "cNIN;cPA;cOO;cO;cRO;cSHI;cTHEA;cEA;cWA;cE;cKO;cLAN;cLA;cHAI;cRI;cTEK;16A60:bDIGIT ZERO",
   "cONE;cTWO;cTHREE;cFOUR;cFIVE;cSIX;cSEVEN;cEIGHT;cNINE;16A6E:bDANDA;bDOUBLE DANDA",
   "aTANGSA LETTER OZ;cOC;cOQ;cOX;cAZ;cAC;cAQ;cAX;cVZ;cVC;cVQ;cVX;cEZ;cEC;cEQ;cEX;cIZ;cIC;cIQ",
   "cIX;cUZ;cUC;cUQ;cUX;cAWZ;cAWC;cAWQ;cAWX;cUIZ;cUIC;cUIQ;cUIX;cFINAL NG;cLONG UEX;cSHORT UEZ",
   "dAWX;cUEC;cUEZ;cUEQ;cUEX;cUIUZ;cUIUC;cUIUQ;cUIUX;cMZ;cMC;cMQ;cMX;cKA;cKHA;cGA;cNGA;cSA;cYA",
   "cWA;cPA;cNYA;cPHA;cBA;cMA;cNA;cHA;cLA;cHTA;cTA;cDA;cRA;cNHA;cSHA;cCA;cTSA;cGHA;cHTTA;cTHA",
   "cXA;cFA;cDHA;cCHA;cZA;16AC0:bDIGIT ZERO;cONE;cTWO;cTHREE;cFOUR;cFIVE;cSIX;cSEVEN;cEIGHT",
   "cNINE;16AD0:aBASSA VAH LETTER ENNI;dKA;dSE;dFA;dMBE;dYIE;dGAH;dDHII;dKPAH;dJO;dHWAH;dWA",
   "dZO;dGBU;dDO;dCE;dUWU;dTO;dBA;dVU;dYEIN;dPA;dWADDA;dA;dO;dOO;dU;dEE;dE;dI",
   "16AF0:cCOMBINING HIGH TONE;dLOW TONE;dMID TONE;dLOW-MID TONE;dHIGH-LOW TONE;cFULL STOP",
   "16B00:aPAHAWH HMONG VOWEL KEEB;dKEEV;dKIB;dKIV;dKAUB;dKAUV;dKUB;dKUV;dKEB;dKEV;dKAIB;dKAIV",
   "dKOOB;dKOOV;dKAWB;dKAWV;dKUAB;dKUAV;dKOB;dKOV;dKIAB;dKIAV;dKAB;dKAV;dKWB;dKWV;dKAAB;dKAAV",
   "cCONSONANT VAU;dNTSAU;dLAU;dHAU;dNLAU;dRAU;dNKAU;dQHAU;dYAU;dHLAU;dMAU;dCHAU;dNCHAU;dHNAU",
   "dPLHAU;dNTHAU;dNAU;dAU;dXAU;dCAU;cMARK CIM TUB;eSO;eKES;eKHAV;eSUAM;eHOM;eTAUM",
   "cSIGN VOS THOM;eTSHAB CEEB;dCIM CHEEM;dVOS THIAB;eFEEM;dXYEEM NTXIV;eRHO;eTOV;eFAIB",
   "dVOS SEEV;dMEEJ SUAB;dVOS NRUA;dIB YAM;dXAUS;dCIM TSOV ROG;16B50:cDIGIT ZERO;dONE;dTWO",
   "dTHREE;dFOUR;dFIVE;dSIX;dSEVEN;dEIGHT;dNINE;16B5B:cNUMBER TENS;dHUNDREDS;dTEN THOUSANDS",
   "dMILLIONS;dHUNDRED MILLIONS;dTEN BILLIONS;dTRILLIONS;16B63:cSIGN VOS LUB;dXYOO;dHLI",
   "dTHIRD-STAGE HLI;dZWJ THAJ;dHNUB;dNQIG;dXIAB;dNTUJ;dAV;dTXHEEJ CEEV;dMEEJ TSEEB;dTAU;dLOS",
   "dMUS;dCIM HAIS LUS NTOG NTOG;eCUAM TSHOOJ;eTXWV;fCHWV;ePUB DAWB;eNRES TOS",
   "16B7D:cCLAN SIGN TSHEEJ;eYEEG;eLIS;eLAUJ;eXYOOJ;eKOO;eHAWJ;eMUAS;eTHOJ;eTSAB;ePHAB;eKHAB",
   "eHAM;eVAJ;eFAJ;eYAJ;eTSWB;eKWM;eVWJ;16E40:aMEDEFAIDRIN CAPITAL LETTER M;dS;dV;dW;dATIU;dZ",
   "dKP;dP;dT;dG;dF;dI;dK;dA;dJ;dE;dB;dC;dU;dYU;dL;dQ;dHP;dNY;dX;dD;dOE;dN;dR;dO;dAI;dY",
   "bSMALL LETTER M;dS;dV;dW;dATIU;dZ;dKP;dP;dT;dG;dF;dI;dK;dA;dJ;dE;dB;dC;dU;dYU;dL;dQ;dHP",
   "dNY;dX;dD;dOE;dN;dR;dO;dAI;dY;bDIGIT ZERO;cONE;cTWO;cTHREE;cFOUR;cFIVE;cSIX;cSEVEN;cEIGHT",
   "cNINE;bNUMBER TEN;cELEVEN;cTWELVE;cTHIRTEEN;cFOURTEEN;cFIFTEEN;cSIXTEEN;cSEVENTEEN",
   "cEIGHTEEN;cNINETEEN;bDIGIT ONE ALTERNATE FORM;cTWO ALTERNATE FORM;cTHREE ALTERNATE FORM",
   "bCOMMA;bFULL STOP;bSYMBOL AIVA;bEXCLAMATION OH;16F00:aMIAO LETTER PA;cBA;cYI PA;cPLA;cMA",
   "cMHA;cARCHAIC MA;cFA;cVA;cVFA;cTA;cDA;cYI TTA;dTA;cTTA;cDDA;cNA;cNHA;cYI NNA;cARCHAIC NA",
   "cNNA;cNNHA;cLA;cLYA;cLHA;cLHYA;cTLHA;cDLHA;cTLHYA;cDLHYA;cKA;cGA;cYI KA;cQA;cQGA;cNGA",
   "cNGHA;cARCHAIC NGA;cHA;cXA;cGHA;cGHHA;cTSSA;cDZZA;cNYA;cNYHA;cTSHA;cDZHA;cYI TSHA;dDZHA",
   "cREFORMED TSHA;cSHA;cSSA;cZHA;cZSHA;cTSA;cDZA;cYI TSA;cSA;cZA;cZSA;cZZA;cZZSA;cARCHAIC ZZA",
   "cZZYA;cZZSYA;cWA;cAH;cHHA;cBRI;cSYI;cDZYI;cTE;cTSE;cRTE;16F4F:bSIGN CONSONANT MODIFIER BAR",
   "bLETTER NASALIZATION;bSIGN ASPIRATION;cREFORMED VOICING;dASPIRATION;bVOWEL SIGN A;dAA;dAHH",
   "dAN;dANG;dO;dOO;dWO;dW;dE;dEN;dENG;dOEY;dI;dIA;dIAN;dIANG;dIO;dIE;dII;dIU;dING;dU;dUA;dUAN",
   "dUANG;dUU;dUEI;dUNG;dY;dYI;dAE;dAEE;dERR;dROUNDED ERR;dER;dROUNDED ER;dAI;dEI;dAU;dOU;dN",
   "dNG;dUOG;dYUI;dOG;dOER;dVW;dIG;dEA;dIONG;dUI;16F8F:bTONE RIGHT;cTOP RIGHT;cABOVE;cBELOW",
   "bLETTER TONE-2;cTONE-3;cTONE-4;cTONE-5;cTONE-6;cTONE-7;cTONE-8;cREFORMED TONE-1;dTONE-2",
   "dTONE-4;dTONE-5;dTONE-6;dTONE-8;16FE0:aTANGUT ITERATION MARK;aNUSHU ITERATION MARK",
   "aOLD CHINESE HOOK MARK;cITERATION MARK;aKHITAN SMALL SCRIPT FILLER",
   "16FF0:aVIETNAMESE ALTERNATE READING MARK CA;eNHAY;18800:aTANGUT COMPONENT-001",
   "bCOMPONENT-002;bCOMPONENT-003;bCOMPONENT-004;bCOMPONENT-005;bCOMPONENT-006;bCOMPONENT-007",
   "bCOMPONENT-008;bCOMPONENT-009;bCOMPONENT-010;bCOMPONENT-011;bCOMPONENT-012;bCOMPONENT-013",
   "bCOMPONENT-014;bCOMPONENT-015;bCOMPONENT-016;bCOMPONENT-017;bCOMPONENT-018;bCOMPONENT-019",
   "bCOMPONENT-020;bCOMPONENT-021;bCOMPONENT-022;bCOMPONENT-023;bCOMPONENT-024;bCOMPONENT-025",
   "bCOMPONENT-026;bCOMPONENT-027;bCOMPONENT-028;bCOMPONENT-029;bCOMPONENT-030;bCOMPONENT-031",
   "bCOMPONENT-032;bCOMPONENT-033;bCOMPONENT-034;bCOMPONENT-035;bCOMPONENT-036;bCOMPONENT-037",
   "bCOMPONENT-038;bCOMPONENT-039;bCOMPONENT-040;bCOMPONENT-041;bCOMPONENT-042;bCOMPONENT-043",
   "bCOMPONENT-044;bCOMPONENT-045;bCOMPONENT-046;bCOMPONENT-047;bCOMPONENT-048;bCOMPONENT-049",
   "bCOMPONENT-050;bCOMPONENT-051;bCOMPONENT-052;bCOMPONENT-053;bCOMPONENT-054;bCOMPONENT-055",
   "bCOMPONENT-056;bCOMPONENT-057;bCOMPONENT-058;bCOMPONENT-059;bCOMPONENT-060;bCOMPONENT-061",
   "bCOMPONENT-062;bCOMPONENT-063;bCOMPONENT-064;bCOMPONENT-065;bCOMPONENT-066;bCOMPONENT-067",
   "bCOMPONENT-068;bCOMPONENT-069;bCOMPONENT-070;bCOMPONENT-071;bCOMPONENT-072;bCOMPONENT-073",
   "bCOMPONENT-074;bCOMPONENT-075;bCOMPONENT-076;bCOMPONENT-077;bCOMPONENT-078;bCOMPONENT-079",
   "bCOMPONENT-080;bCOMPONENT-081;bCOMPONENT-082;bCOMPONENT-083;bCOMPONENT-084;bCOMPONENT-085",
   "bCOMPONENT-086;bCOMPONENT-087;bCOMPONENT-088;bCOMPONENT-089;bCOMPONENT-090;bCOMPONENT-091",
   "bCOMPONENT-092;bCOMPONENT-093;bCOMPONENT-094;bCOMPONENT-095;bCOMPONENT-096;bCOMPONENT-097",
   "bCOMPONENT-098;bCOMPONENT-099;bCOMPONENT-100;bCOMPONENT-101;bCOMPONENT-102;bCOMPONENT-103",
   "bCOMPONENT-104;bCOMPONENT-105;bCOMPONENT-106;bCOMPONENT-107;bCOMPONENT-108;bCOMPONENT-109",
   "bCOMPONENT-110;bCOMPONENT-111;bCOMPONENT-112;bCOMPONENT-113;bCOMPONENT-114;bCOMPONENT-115",
   "bCOMPONENT-116;bCOMPONENT-117;bCOMPONENT-118;bCOMPONENT-119;bCOMPONENT-120;bCOMPONENT-121",
   "bCOMPONENT-122;bCOMPONENT-123;bCOMPONENT-124;bCOMPONENT-125;bCOMPONENT-126;bCOMPONENT-127",
   "bCOMPONENT-128;bCOMPONENT-129;bCOMPONENT-130;bCOMPONENT-131;bCOMPONENT-132;bCOMPONENT-133",
   "bCOMPONENT-134;bCOMPONENT-135;bCOMPONENT-136;bCOMPONENT-137;bCOMPONENT-138;bCOMPONENT-139",
   "bCOMPONENT-140;bCOMPONENT-141;bCOMPONENT-142;bCOMPONENT-143;bCOMPONENT-144;bCOMPONENT-145",
   "bCOMPONENT-146;bCOMPONENT-147;bCOMPONENT-148;bCOMPONENT-149;bCOMPONENT-150;bCOMPONENT-151",
   "bCOMPONENT-152;bCOMPONENT-153;bCOMPONENT-154;bCOMPONENT-155;bCOMPONENT-156;bCOMPONENT-157",
   "bCOMPONENT-158;bCOMPONENT-159;bCOMPONENT-160;bCOMPONENT-161;bCOMPONENT-162;bCOMPONENT-163",
   "bCOMPONENT-164;bCOMPONENT-165;bCOMPONENT-166;bCOMPONENT-167;bCOMPONENT-168;bCOMPONENT-169",
   "bCOMPONENT-170;bCOMPONENT-171;bCOMPONENT-172;bCOMPONENT-173;bCOMPONENT-174;bCOMPONENT-175",
   "bCOMPONENT-176;bCOMPONENT-177;bCOMPONENT-178;bCOMPONENT-179;bCOMPONENT-180;bCOMPONENT-181",
   "bCOMPONENT-182;bCOMPONENT-183;bCOMPONENT-184;bCOMPONENT-185;bCOMPONENT-186;bCOMPONENT-187",
   "bCOMPONENT-188;bCOMPONENT-189;bCOMPONENT-190;bCOMPONENT-191;bCOMPONENT-192;bCOMPONENT-193",
   "bCOMPONENT-194;bCOMPONENT-195;bCOMPONENT-196;bCOMPONENT-197;bCOMPONENT-198;bCOMPONENT-199",
   "bCOMPONENT-200;bCOMPONENT-201;bCOMPONENT-202;bCOMPONENT-203;bCOMPONENT-204;bCOMPONENT-205",
   "bCOMPONENT-206;bCOMPONENT-207;bCOMPONENT-208;bCOMPONENT-209;bCOMPONENT-210;bCOMPONENT-211",
   "bCOMPONENT-212;bCOMPONENT-213;bCOMPONENT-214;bCOMPONENT-215;bCOMPONENT-216;bCOMPONENT-217",
   "bCOMPONENT-218;bCOMPONENT-219;bCOMPONENT-220;bCOMPONENT-221;bCOMPONENT-222;bCOMPONENT-223",
   "bCOMPONENT-224;bCOMPONENT-225;bCOMPONENT-226;bCOMPONENT-227;bCOMPONENT-228;bCOMPONENT-229",
   "bCOMPONENT-230;bCOMPONENT-231;bCOMPONENT-232;bCOMPONENT-233;bCOMPONENT-234;bCOMPONENT-235",
   "bCOMPONENT-236;bCOMPONENT-237;bCOMPONENT-238;bCOMPONENT-239;bCOMPONENT-240;bCOMPONENT-241",
   "bCOMPONENT-242;bCOMPONENT-243;bCOMPONENT-244;bCOMPONENT-245;bCOMPONENT-246;bCOMPONENT-247",
   "bCOMPONENT-248;bCOMPONENT-249;bCOMPONENT-250;bCOMPONENT-251;bCOMPONENT-252;bCOMPONENT-253",
   "bCOMPONENT-254;bCOMPONENT-255;bCOMPONENT-256;bCOMPONENT-257;bCOMPONENT-258;bCOMPONENT-259",
   "bCOMPONENT-260;bCOMPONENT-261;bCOMPONENT-262;bCOMPONENT-263;bCOMPONENT-264;bCOMPONENT-265",
   "bCOMPONENT-266;bCOMPONENT-267;bCOMPONENT-268;bCOMPONENT-269;bCOMPONENT-270;bCOMPONENT-271",
   "bCOMPONENT-272;bCOMPONENT-273;bCOMPONENT-274;bCOMPONENT-275;bCOMPONENT-276;bCOMPONENT-277",
   "bCOMPONENT-278;bCOMPONENT-279;bCOMPONENT-280;bCOMPONENT-281;bCOMPONENT-282;bCOMPONENT-283",
   "bCOMPONENT-284;bCOMPONENT-285;bCOMPONENT-286;bCOMPONENT-287;bCOMPONENT-288;bCOMPONENT-289",
   "bCOMPONENT-290;bCOMPONENT-291;bCOMPONENT-292;bCOMPONENT-293;bCOMPONENT-294;bCOMPONENT-295",
   "bCOMPONENT-296;bCOMPONENT-297;bCOMPONENT-298;bCOMPONENT-299;bCOMPONENT-300;bCOMPONENT-301",
   "bCOMPONENT-302;bCOMPONENT-303;bCOMPONENT-304;bCOMPONENT-305;bCOMPONENT-306;bCOMPONENT-307",
   "bCOMPONENT-308;bCOMPONENT-309;bCOMPONENT-310;bCOMPONENT-311;bCOMPONENT-312;bCOMPONENT-313",
   "bCOMPONENT-314;bCOMPONENT-315;bCOMPONENT-316;bCOMPONENT-317;bCOMPONENT-318;bCOMPONENT-319",
   "bCOMPONENT-320;bCOMPONENT-321;bCOMPONENT-322;bCOMPONENT-323;bCOMPONENT-324;bCOMPONENT-325",
   "bCOMPONENT-326;bCOMPONENT-327;bCOMPONENT-328;bCOMPONENT-329;bCOMPONENT-330;bCOMPONENT-331",
   "bCOMPONENT-332;bCOMPONENT-333;bCOMPONENT-334;bCOMPONENT-335;bCOMPONENT-336;bCOMPONENT-337",
   "bCOMPONENT-338;bCOMPONENT-339;bCOMPONENT-340;bCOMPONENT-341;bCOMPONENT-342;bCOMPONENT-343",
   "bCOMPONENT-344;bCOMPONENT-345;bCOMPONENT-346;bCOMPONENT-347;bCOMPONENT-348;bCOMPONENT-349",
   "bCOMPONENT-350;bCOMPONENT-351;bCOMPONENT-352;bCOMPONENT-353;bCOMPONENT-354;bCOMPONENT-355",
   "bCOMPONENT-356;bCOMPONENT-357;bCOMPONENT-358;bCOMPONENT-359;bCOMPONENT-360;bCOMPONENT-361",
   "bCOMPONENT-362;bCOMPONENT-363;bCOMPONENT-364;bCOMPONENT-365;bCOMPONENT-366;bCOMPONENT-367",
   "bCOMPONENT-368;bCOMPONENT-369;bCOMPONENT-370;bCOMPONENT-371;bCOMPONENT-372;bCOMPONENT-373",
   "bCOMPONENT-374;bCOMPONENT-375;bCOMPONENT-376;bCOMPONENT-377;bCOMPONENT-378;bCOMPONENT-379",
   "bCOMPONENT-380;bCOMPONENT-381;bCOMPONENT-382;bCOMPONENT-383;bCOMPONENT-384;bCOMPONENT-385",
   "bCOMPONENT-386;bCOMPONENT-387;bCOMPONENT-388;bCOMPONENT-389;bCOMPONENT-390;bCOMPONENT-391",
   "bCOMPONENT-392;bCOMPONENT-393;bCOMPONENT-394;bCOMPONENT-395;bCOMPONENT-396;bCOMPONENT-397",
   "bCOMPONENT-398;bCOMPONENT-399;bCOMPONENT-400;bCOMPONENT-401;bCOMPONENT-402;bCOMPONENT-403",
   "bCOMPONENT-404;bCOMPONENT-405;bCOMPONENT-406;bCOMPONENT-407;bCOMPONENT-408;bCOMPONENT-409",
   "bCOMPONENT-410;bCOMPONENT-411;bCOMPONENT-412;bCOMPONENT-413;bCOMPONENT-414;bCOMPONENT-415",
   "bCOMPONENT-416;bCOMPONENT-417;bCOMPONENT-418;bCOMPONENT-419;bCOMPONENT-420;bCOMPONENT-421",
   "bCOMPONENT-422;bCOMPONENT-423;bCOMPONENT-424;bCOMPONENT-425;bCOMPONENT-426;bCOMPONENT-427",
   "bCOMPONENT-428;bCOMPONENT-429;bCOMPONENT-430;bCOMPONENT-431;bCOMPONENT-432;bCOMPONENT-433",
   "bCOMPONENT-434;bCOMPONENT-435;bCOMPONENT-436;bCOMPONENT-437;bCOMPONENT-438;bCOMPONENT-439",
   "bCOMPONENT-440;bCOMPONENT-441;bCOMPONENT-442;bCOMPONENT-443;bCOMPONENT-444;bCOMPONENT-445",
   "bCOMPONENT-446;bCOMPONENT-447;bCOMPONENT-448;bCOMPONENT-449;bCOMPONENT-450;bCOMPONENT-451",
   "bCOMPONENT-452;bCOMPONENT-453;bCOMPONENT-454;bCOMPONENT-455;bCOMPONENT-456;bCOMPONENT-457",
   "bCOMPONENT-458;bCOMPONENT-459;bCOMPONENT-460;bCOMPONENT-461;bCOMPONENT-462;bCOMPONENT-463",
   "bCOMPONENT-464;bCOMPONENT-465;bCOMPONENT-466;bCOMPONENT-467;bCOMPONENT-468;bCOMPONENT-469",
   "bCOMPONENT-470;bCOMPONENT-471;bCOMPONENT-472;bCOMPONENT-473;bCOMPONENT-474;bCOMPONENT-475",
   "bCOMPONENT-476;bCOMPONENT-477;bCOMPONENT-478;bCOMPONENT-479;bCOMPONENT-480;bCOMPONENT-481",
   "bCOMPONENT-482;bCOMPONENT-483;bCOMPONENT-484;bCOMPONENT-485;bCOMPONENT-486;bCOMPONENT-487",
   "bCOMPONENT-488;bCOMPONENT-489;bCOMPONENT-490;bCOMPONENT-491;bCOMPONENT-492;bCOMPONENT-493",
   "bCOMPONENT-494;bCOMPONENT-495;bCOMPONENT-496;bCOMPONENT-497;bCOMPONENT-498;bCOMPONENT-499",
   "bCOMPONENT-500;bCOMPONENT-501;bCOMPONENT-502;bCOMPONENT-503;bCOMPONENT-504;bCOMPONENT-505",
   "bCOMPONENT-506;bCOMPONENT-507;bCOMPONENT-508;bCOMPONENT-509;bCOMPONENT-510;bCOMPONENT-511",
   "bCOMPONENT-512;bCOMPONENT-513;bCOMPONENT-514;bCOMPONENT-515;bCOMPONENT-516;bCOMPONENT-517",
   "bCOMPONENT-518;bCOMPONENT-519;bCOMPONENT-520;bCOMPONENT-521;bCOMPONENT-522;bCOMPONENT-523",
   "bCOMPONENT-524;bCOMPONENT-525;bCOMPONENT-526;bCOMPONENT-527;bCOMPONENT-528;bCOMPONENT-529",
   "bCOMPONENT-530;bCOMPONENT-531;bCOMPONENT-532;bCOMPONENT-533;bCOMPONENT-534;bCOMPONENT-535",
   "bCOMPONENT-536;bCOMPONENT-537;bCOMPONENT-538;bCOMPONENT-539;bCOMPONENT-540;bCOMPONENT-541",
   "bCOMPONENT-542;bCOMPONENT-543;bCOMPONENT-544;bCOMPONENT-545;bCOMPONENT-546;bCOMPONENT-547",
   "bCOMPONENT-548;bCOMPONENT-549;bCOMPONENT-550;bCOMPONENT-551;bCOMPONENT-552;bCOMPONENT-553",
   "bCOMPONENT-554;bCOMPONENT-555;bCOMPONENT-556;bCOMPONENT-557;bCOMPONENT-558;bCOMPONENT-559",
   "bCOMPONENT-560;bCOMPONENT-561;bCOMPONENT-562;bCOMPONENT-563;bCOMPONENT-564;bCOMPONENT-565",
   "bCOMPONENT-566;bCOMPONENT-567;bCOMPONENT-568;bCOMPONENT-569;bCOMPONENT-570;bCOMPONENT-571",
   "bCOMPONENT-572;bCOMPONENT-573;bCOMPONENT-574;bCOMPONENT-575;bCOMPONENT-576;bCOMPONENT-577",
   "bCOMPONENT-578;bCOMPONENT-579;bCOMPONENT-580;bCOMPONENT-581;bCOMPONENT-582;bCOMPONENT-583",
   "bCOMPONENT-584;bCOMPONENT-585;bCOMPONENT-586;bCOMPONENT-587;bCOMPONENT-588;bCOMPONENT-589",
   "bCOMPONENT-590;bCOMPONENT-591;bCOMPONENT-592;bCOMPONENT-593;bCOMPONENT-594;bCOMPONENT-595",
   "bCOMPONENT-596;bCOMPONENT-597;bCOMPONENT-598;bCOMPONENT-599;bCOMPONENT-600;bCOMPONENT-601",
   "bCOMPONENT-602;bCOMPONENT-603;bCOMPONENT-604;bCOMPONENT-605;bCOMPONENT-606;bCOMPONENT-607",
   "bCOMPONENT-608;bCOMPONENT-609;bCOMPONENT-610;bCOMPONENT-611;bCOMPONENT-612;bCOMPONENT-613",
   "bCOMPONENT-614;bCOMPONENT-615;bCOMPONENT-616;bCOMPONENT-617;bCOMPONENT-618;bCOMPONENT-619",
   "bCOMPONENT-620;bCOMPONENT-621;bCOMPONENT-622;bCOMPONENT-623;bCOMPONENT-624;bCOMPONENT-625",
   "bCOMPONENT-626;bCOMPONENT-627;bCOMPONENT-628;bCOMPONENT-629;bCOMPONENT-630;bCOMPONENT-631",
   "bCOMPONENT-632;bCOMPONENT-633;bCOMPONENT-634;bCOMPONENT-635;bCOMPONENT-636;bCOMPONENT-637",
   "bCOMPONENT-638;bCOMPONENT-639;bCOMPONENT-640;bCOMPONENT-641;bCOMPONENT-642;bCOMPONENT-643",
   "bCOMPONENT-644;bCOMPONENT-645;bCOMPONENT-646;bCOMPONENT-647;bCOMPONENT-648;bCOMPONENT-649",
   "bCOMPONENT-650;bCOMPONENT-651;bCOMPONENT-652;bCOMPONENT-653;bCOMPONENT-654;bCOMPONENT-655",
   "bCOMPONENT-656;bCOMPONENT-657;bCOMPONENT-658;bCOMPONENT-659;bCOMPONENT-660;bCOMPONENT-661",
   "bCOMPONENT-662;bCOMPONENT-663;bCOMPONENT-664;bCOMPONENT-665;bCOMPONENT-666;bCOMPONENT-667",
   "bCOMPONENT-668;bCOMPONENT-669;bCOMPONENT-670;bCOMPONENT-671;bCOMPONENT-672;bCOMPONENT-673",
   "bCOMPONENT-674;bCOMPONENT-675;bCOMPONENT-676;bCOMPONENT-677;bCOMPONENT-678;bCOMPONENT-679",
   "bCOMPONENT-680;bCOMPONENT-681;bCOMPONENT-682;bCOMPONENT-683;bCOMPONENT-684;bCOMPONENT-685",
   "bCOMPONENT-686;bCOMPONENT-687;bCOMPONENT-688;bCOMPONENT-689;bCOMPONENT-690;bCOMPONENT-691",
   "bCOMPONENT-692;bCOMPONENT-693;bCOMPONENT-694;bCOMPONENT-695;bCOMPONENT-696;bCOMPONENT-697",
   "bCOMPONENT-698;bCOMPONENT-699;bCOMPONENT-700;bCOMPONENT-701;bCOMPONENT-702;bCOMPONENT-703",
   "bCOMPONENT-704;bCOMPONENT-705;bCOMPONENT-706;bCOMPONENT-707;bCOMPONENT-708;bCOMPONENT-709",
   "bCOMPONENT-710;bCOMPONENT-711;bCOMPONENT-712;bCOMPONENT-713;bCOMPONENT-714;bCOMPONENT-715",
   "bCOMPONENT-716;bCOMPONENT-717;bCOMPONENT-718;bCOMPONENT-719;bCOMPONENT-720;bCOMPONENT-721",
   "bCOMPONENT-722;bCOMPONENT-723;bCOMPONENT-724;bCOMPONENT-725;bCOMPONENT-726;bCOMPONENT-727",
   "bCOMPONENT-728;bCOMPONENT-729;bCOMPONENT-730;bCOMPONENT-731;bCOMPONENT-732;bCOMPONENT-733",
   "bCOMPONENT-734;bCOMPONENT-735;bCOMPONENT-736;bCOMPONENT-737;bCOMPONENT-738;bCOMPONENT-739",
   "bCOMPONENT-740;bCOMPONENT-741;bCOMPONENT-742;bCOMPONENT-743;bCOMPONENT-744;bCOMPONENT-745",
   "bCOMPONENT-746;bCOMPONENT-747;bCOMPONENT-748;bCOMPONENT-749;bCOMPONENT-750;bCOMPONENT-751",
   "bCOMPONENT-752;bCOMPONENT-753;bCOMPONENT-754;bCOMPONENT-755;bCOMPONENT-756;bCOMPONENT-757",
   "bCOMPONENT-758;bCOMPONENT-759;bCOMPONENT-760;bCOMPONENT-761;bCOMPONENT-762;bCOMPONENT-763",
   "bCOMPONENT-764;bCOMPONENT-765;bCOMPONENT-766;bCOMPONENT-767;bCOMPONENT-768",
   "1AFF0:aKATAKANA LETTER MINNAN TONE-2;dTONE-3;dTONE-4;dTONE-5;1AFF5:dTONE-7;dTONE-8",
   "dNASALIZED TONE-1;eTONE-2;eTONE-3;eTONE-4;eTONE-5;1AFFD:eTONE-7;eTONE-8"]

end SchemaMigration.Text
