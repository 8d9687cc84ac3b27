/-!
# Names of characters below U+2000

One part of the table of names of characters of Unicode 14, without those that a rule gives.

## Main Definitions

* `Text.namesBelowU2000` - the names in order of code points

## Design Notes

The entries of a line are divided by semicolons. An entry is its code point in hexadecimal
digits and a colon, unless it is next to the one before; then a letter that tells how many
words the name shares with the one before, `a` for none and `b` for one; and then the other
words.
-/

namespace SchemaMigration.Text

/-- The names of the characters below U+2000. -/
def namesBelowU2000 : List String :=
  ["20:aSPACE;aEXCLAMATION MARK;aQUOTATION MARK;aNUMBER SIGN;aDOLLAR SIGN;aPERCENT SIGN",
   "aAMPERSAND;aAPOSTROPHE;aLEFT PARENTHESIS;aRIGHT PARENTHESIS;aASTERISK;aPLUS SIGN;aCOMMA",
   "aHYPHEN-MINUS;aFULL STOP;aSOLIDUS;aDIGIT ZERO;bONE;bTWO;bTHREE;bFOUR;bFIVE;bSIX;bSEVEN",
   "bEIGHT;bNINE;aCOLON;aSEMICOLON;aLESS-THAN SIGN;aEQUALS SIGN;aGREATER-THAN SIGN",
   "aQUESTION MARK;aCOMMERCIAL AT;aLATIN CAPITAL LETTER A;dB;dC;dD;dE;dF;dG;dH;dI;dJ;dK;dL;dM",
   "dN;dO;dP;dQ;dR;dS;dT;dU;dV;dW;dX;dY;dZ;aLEFT SQUARE BRACKET;aREVERSE SOLIDUS",
   "aRIGHT SQUARE BRACKET;aCIRCUMFLEX ACCENT;aLOW LINE;aGRAVE ACCENT;aLATIN SMALL LETTER A;dB",
   "dC;dD;dE;dF;dG;dH;dI;dJ;dK;dL;dM;dN;dO;dP;dQ;dR;dS;dT;dU;dV;dW;dX;dY;dZ",
   "aLEFT CURLY BRACKET;aVERTICAL LINE;aRIGHT CURLY BRACKET;aTILDE;A0:aNO-BREAK SPACE",
   "aINVERTED EXCLAMATION MARK;aCENT SIGN;aPOUND SIGN;aCURRENCY SIGN;aYEN SIGN;aBROKEN BAR",
   "aSECTION SIGN;aDIAERESIS;aCOPYRIGHT SIGN;aFEMININE ORDINAL INDICATOR",
   "aLEFT-POINTING DOUBLE ANGLE QUOTATION MARK;aNOT SIGN;aSOFT HYPHEN;aREGISTERED SIGN;aMACRON",
   "aDEGREE SIGN;aPLUS-MINUS SIGN;aSUPERSCRIPT TWO;bTHREE;aACUTE ACCENT;aMICRO SIGN",
   "aPILCROW SIGN;aMIDDLE DOT;aCEDILLA;aSUPERSCRIPT ONE;aMASCULINE ORDINAL INDICATOR",
   "aRIGHT-POINTING DOUBLE ANGLE QUOTATION MARK;aVULGAR FRACTION ONE QUARTER;dHALF",
   "cTHREE QUARTERS;aINVERTED QUESTION MARK;aLATIN CAPITAL LETTER A WITH GRAVE;fACUTE",
   "fCIRCUMFLEX;fTILDE;fDIAERESIS;fRING ABOVE;dAE;dC WITH CEDILLA;dE WITH GRAVE;fACUTE",
   "fCIRCUMFLEX;fDIAERESIS;dI WITH GRAVE;fACUTE;fCIRCUMFLEX;fDIAERESIS;dETH;dN WITH TILDE",
   "dO WITH GRAVE;fACUTE;fCIRCUMFLEX;fTILDE;fDIAERESIS;aMULTIPLICATION SIGN",
   "aLATIN CAPITAL LETTER O WITH STROKE;dU WITH GRAVE;fACUTE;fCIRCUMFLEX;fDIAERESIS",
   "dY WITH ACUTE;dTHORN;bSMALL LETTER SHARP S;dA WITH GRAVE;fACUTE;fCIRCUMFLEX;fTILDE",
   "fDIAERESIS;fRING ABOVE;dAE;dC WITH CEDILLA;dE WITH GRAVE;fACUTE;fCIRCUMFLEX;fDIAERESIS",
   "dI WITH GRAVE;fACUTE;fCIRCUMFLEX;fDIAERESIS;dETH;dN WITH TILDE;dO WITH GRAVE;fACUTE",
   "fCIRCUMFLEX;fTILDE;fDIAERESIS;aDIVISION SIGN;aLATIN SMALL LETTER O WITH STROKE",
   "dU WITH GRAVE;fACUTE;fCIRCUMFLEX;fDIAERESIS;dY WITH ACUTE;dTHORN;dY WITH DIAERESIS",
   "bCAPITAL LETTER A WITH MACRON;bSMALL LETTER A WITH MACRON;bCAPITAL LETTER A WITH BREVE",
   "bSMALL LETTER A WITH BREVE;bCAPITAL LETTER A WITH OGONEK;bSMALL LETTER A WITH OGONEK",
   "bCAPITAL LETTER C WITH ACUTE;bSMALL LETTER C WITH ACUTE;bCAPITAL LETTER C WITH CIRCUMFLEX",
   "bSMALL LETTER C WITH CIRCUMFLEX;bCAPITAL LETTER C WITH DOT ABOVE",
   "bSMALL LETTER C WITH DOT ABOVE;bCAPITAL LETTER C WITH CARON;bSMALL LETTER C WITH CARON",
   "bCAPITAL LETTER D WITH CARON;bSMALL LETTER D WITH CARON;bCAPITAL LETTER D WITH STROKE",
   "bSMALL LETTER D WITH STROKE;bCAPITAL LETTER E WITH MACRON;bSMALL LETTER E WITH MACRON",
   "bCAPITAL LETTER E WITH BREVE;bSMALL LETTER E WITH BREVE;bCAPITAL LETTER E WITH DOT ABOVE",
   "bSMALL LETTER E WITH DOT ABOVE;bCAPITAL LETTER E WITH OGONEK;bSMALL LETTER E WITH OGONEK",
   "bCAPITAL LETTER E WITH CARON;bSMALL LETTER E WITH CARON;bCAPITAL LETTER G WITH CIRCUMFLEX",
   "bSMALL LETTER G WITH CIRCUMFLEX;bCAPITAL LETTER G WITH BREVE;bSMALL LETTER G WITH BREVE",
   "bCAPITAL LETTER G WITH DOT ABOVE;bSMALL LETTER G WITH DOT ABOVE",
   "bCAPITAL LETTER G WITH CEDILLA;bSMALL LETTER G WITH CEDILLA",
   "bCAPITAL LETTER H WITH CIRCUMFLEX;bSMALL LETTER H WITH CIRCUMFLEX",
   "bCAPITAL LETTER H WITH STROKE;bSMALL LETTER H WITH STROKE;bCAPITAL LETTER I WITH TILDE",
   "bSMALL LETTER I WITH TILDE;bCAPITAL LETTER I WITH MACRON;bSMALL LETTER I WITH MACRON",
   "bCAPITAL LETTER I WITH BREVE;bSMALL LETTER I WITH BREVE;bCAPITAL LETTER I WITH OGONEK",
   "bSMALL LETTER I WITH OGONEK;bCAPITAL LETTER I WITH DOT ABOVE;bSMALL LETTER DOTLESS I",
   "bCAPITAL LIGATURE IJ;bSMALL LIGATURE IJ;bCAPITAL LETTER J WITH CIRCUMFLEX",
   "bSMALL LETTER J WITH CIRCUMFLEX;bCAPITAL LETTER K WITH CEDILLA",
   "bSMALL LETTER K WITH CEDILLA;dKRA;bCAPITAL LETTER L WITH ACUTE;bSMALL LETTER L WITH ACUTE",
   "bCAPITAL LETTER L WITH CEDILLA;bSMALL LETTER L WITH CEDILLA;bCAPITAL LETTER L WITH CARON",
   "bSMALL LETTER L WITH CARON;bCAPITAL LETTER L WITH MIDDLE DOT",
   "bSMALL LETTER L WITH MIDDLE DOT;bCAPITAL LETTER L WITH STROKE;bSMALL LETTER L WITH STROKE",
   "bCAPITAL LETTER N WITH ACUTE;bSMALL LETTER N WITH ACUTE;bCAPITAL LETTER N WITH CEDILLA",
   "bSMALL LETTER N WITH CEDILLA;bCAPITAL LETTER N WITH CARON;bSMALL LETTER N WITH CARON",
   "ePRECEDED BY APOSTROPHE;bCAPITAL LETTER ENG;bSMALL LETTER ENG",
   "bCAPITAL LETTER O WITH MACRON;bSMALL LETTER O WITH MACRON;bCAPITAL LETTER O WITH BREVE",
   "bSMALL LETTER O WITH BREVE;bCAPITAL LETTER O WITH DOUBLE ACUTE",
   "bSMALL LETTER O WITH DOUBLE ACUTE;bCAPITAL LIGATURE OE;bSMALL LIGATURE OE",
   "bCAPITAL LETTER R WITH ACUTE;bSMALL LETTER R WITH ACUTE;bCAPITAL LETTER R WITH CEDILLA",
   "bSMALL LETTER R WITH CEDILLA;bCAPITAL LETTER R WITH CARON;bSMALL LETTER R WITH CARON",
   "bCAPITAL LETTER S WITH ACUTE;bSMALL LETTER S WITH ACUTE;bCAPITAL LETTER S WITH CIRCUMFLEX",
   "bSMALL LETTER S WITH CIRCUMFLEX;bCAPITAL LETTER S WITH CEDILLA",
   "bSMALL LETTER S WITH CEDILLA;bCAPITAL LETTER S WITH CARON;bSMALL LETTER S WITH CARON",
   "bCAPITAL LETTER T WITH CEDILLA;bSMALL LETTER T WITH CEDILLA;bCAPITAL LETTER T WITH CARON",
   "bSMALL LETTER T WITH CARON;bCAPITAL LETTER T WITH STROKE;bSMALL LETTER T WITH STROKE",
   "bCAPITAL LETTER U WITH TILDE;bSMALL LETTER U WITH TILDE;bCAPITAL LETTER U WITH MACRON",
   "bSMALL LETTER U WITH MACRON;bCAPITAL LETTER U WITH BREVE;bSMALL LETTER U WITH BREVE",
   "bCAPITAL LETTER U WITH RING ABOVE;bSMALL LETTER U WITH RING ABOVE",
   "bCAPITAL LETTER U WITH DOUBLE ACUTE;bSMALL LETTER U WITH DOUBLE ACUTE",
   "bCAPITAL LETTER U WITH OGONEK;bSMALL LETTER U WITH OGONEK",
   "bCAPITAL LETTER W WITH CIRCUMFLEX;bSMALL LETTER W WITH CIRCUMFLEX",
   "bCAPITAL LETTER Y WITH CIRCUMFLEX;bSMALL LETTER Y WITH CIRCUMFLEX",
   "bCAPITAL LETTER Y WITH DIAERESIS;dZ WITH ACUTE;bSMALL LETTER Z WITH ACUTE",
   "bCAPITAL LETTER Z WITH DOT ABOVE;bSMALL LETTER Z WITH DOT ABOVE",
   "bCAPITAL LETTER Z WITH CARON;bSMALL LETTER Z WITH CARON;dLONG S;dB WITH STROKE",
   "bCAPITAL LETTER B WITH HOOK;fTOPBAR;bSMALL LETTER B WITH TOPBAR;bCAPITAL LETTER TONE SIX",
   "bSMALL LETTER TONE SIX;bCAPITAL LETTER OPEN O;dC WITH HOOK;bSMALL LETTER C WITH HOOK",
   "bCAPITAL LETTER AFRICAN D;dD WITH HOOK;fTOPBAR;bSMALL LETTER D WITH TOPBAR;dTURNED DELTA",
   "bCAPITAL LETTER REVERSED E;dSCHWA;dOPEN E;dF WITH HOOK;bSMALL LETTER F WITH HOOK",
   "bCAPITAL LETTER G WITH HOOK;dGAMMA;bSMALL LETTER HV;bCAPITAL LETTER IOTA;dI WITH STROKE",
   "dK WITH HOOK;bSMALL LETTER K WITH HOOK;dL WITH BAR;dLAMBDA WITH STROKE",
   "bCAPITAL LETTER TURNED M;dN WITH LEFT HOOK;bSMALL LETTER N WITH LONG RIGHT LEG",
   "bCAPITAL LETTER O WITH MIDDLE TILDE;fHORN;bSMALL LETTER O WITH HORN;bCAPITAL LETTER OI",
   "bSMALL LETTER OI;bCAPITAL LETTER P WITH HOOK;bSMALL LETTER P WITH HOOK;bLETTER YR",
   "bCAPITAL LETTER TONE TWO;bSMALL LETTER TONE TWO;bCAPITAL LETTER ESH",
   "bLETTER REVERSED ESH LOOP;bSMALL LETTER T WITH PALATAL HOOK;bCAPITAL LETTER T WITH HOOK",
   "bSMALL LETTER T WITH HOOK;bCAPITAL LETTER T WITH RETROFLEX HOOK;dU WITH HORN",
   "bSMALL LETTER U WITH HORN;bCAPITAL LETTER UPSILON;dV WITH HOOK;dY WITH HOOK",
   "bSMALL LETTER Y WITH HOOK;bCAPITAL LETTER Z WITH STROKE;bSMALL LETTER Z WITH STROKE",
   "bCAPITAL LETTER EZH;eREVERSED;bSMALL LETTER EZH REVERSED;eWITH TAIL",
   "bLETTER TWO WITH STROKE;bCAPITAL LETTER TONE FIVE;bSMALL LETTER TONE FIVE",
   "bLETTER INVERTED GLOTTAL STOP WITH STROKE;cWYNN;cDENTAL CLICK;cLATERAL CLICK",
   "cALVEOLAR CLICK;cRETROFLEX CLICK;bCAPITAL LETTER DZ WITH CARON",
   "dD WITH SMALL LETTER Z WITH CARON;bSMALL LETTER DZ WITH CARON;bCAPITAL LETTER LJ",
   "dL WITH SMALL LETTER J;bSMALL LETTER LJ;bCAPITAL LETTER NJ;dN WITH SMALL LETTER J",
   "bSMALL LETTER NJ;bCAPITAL LETTER A WITH CARON;bSMALL LETTER A WITH CARON",
   "bCAPITAL LETTER I WITH CARON;bSMALL LETTER I WITH CARON;bCAPITAL LETTER O WITH CARON",
   "bSMALL LETTER O WITH CARON;bCAPITAL LETTER U WITH CARON;bSMALL LETTER U WITH CARON",
   "bCAPITAL LETTER U WITH DIAERESIS AND MACRON;bSMALL LETTER U WITH DIAERESIS AND MACRON",
   "bCAPITAL LETTER U WITH DIAERESIS AND ACUTE;bSMALL LETTER U WITH DIAERESIS AND ACUTE",
   "bCAPITAL LETTER U WITH DIAERESIS AND CARON;bSMALL LETTER U WITH DIAERESIS AND CARON",
   "bCAPITAL LETTER U WITH DIAERESIS AND GRAVE;bSMALL LETTER U WITH DIAERESIS AND GRAVE",
   "dTURNED E;bCAPITAL LETTER A WITH DIAERESIS AND MACRON",
   "bSMALL LETTER A WITH DIAERESIS AND MACRON;bCAPITAL LETTER A WITH DOT ABOVE AND MACRON",
   "bSMALL LETTER A WITH DOT ABOVE AND MACRON;bCAPITAL LETTER AE WITH MACRON",
   "bSMALL LETTER AE WITH MACRON;bCAPITAL LETTER G WITH STROKE;bSMALL LETTER G WITH STROKE",
   "bCAPITAL LETTER G WITH CARON;bSMALL LETTER G WITH CARON;bCAPITAL LETTER K WITH CARON",
   "bSMALL LETTER K WITH CARON;bCAPITAL LETTER O WITH OGONEK;bSMALL LETTER O WITH OGONEK",
   "bCAPITAL LETTER O WITH OGONEK AND MACRON;bSMALL LETTER O WITH OGONEK AND MACRON",
   "bCAPITAL LETTER EZH WITH CARON;bSMALL LETTER EZH WITH CARON;dJ WITH CARON",
   "bCAPITAL LETTER DZ;dD WITH SMALL LETTER Z;bSMALL LETTER DZ;bCAPITAL LETTER G WITH ACUTE",
   "bSMALL LETTER G WITH ACUTE;bCAPITAL LETTER HWAIR;dWYNN;dN WITH GRAVE",
   "bSMALL LETTER N WITH GRAVE;bCAPITAL LETTER A WITH RING ABOVE AND ACUTE",
   "bSMALL LETTER A WITH RING ABOVE AND ACUTE;bCAPITAL LETTER AE WITH ACUTE",
   "bSMALL LETTER AE WITH ACUTE;bCAPITAL LETTER O WITH STROKE AND ACUTE",
   "bSMALL LETTER O WITH STROKE AND ACUTE;bCAPITAL LETTER A WITH DOUBLE GRAVE",
   "bSMALL LETTER A WITH DOUBLE GRAVE;bCAPITAL LETTER A WITH INVERTED BREVE",
   "bSMALL LETTER A WITH INVERTED BREVE;bCAPITAL LETTER E WITH DOUBLE GRAVE",
   "bSMALL LETTER E WITH DOUBLE GRAVE;bCAPITAL LETTER E WITH INVERTED BREVE",
   "bSMALL LETTER E WITH INVERTED BREVE;bCAPITAL LETTER I WITH DOUBLE GRAVE",
   "bSMALL LETTER I WITH DOUBLE GRAVE;bCAPITAL LETTER I WITH INVERTED BREVE",
   "bSMALL LETTER I WITH INVERTED BREVE;bCAPITAL LETTER O WITH DOUBLE GRAVE",
   "bSMALL LETTER O WITH DOUBLE GRAVE;bCAPITAL LETTER O WITH INVERTED BREVE",
   "bSMALL LETTER O WITH INVERTED BREVE;bCAPITAL LETTER R WITH DOUBLE GRAVE",
   "bSMALL LETTER R WITH DOUBLE GRAVE;bCAPITAL LETTER R WITH INVERTED BREVE",
   "bSMALL LETTER R WITH INVERTED BREVE;bCAPITAL LETTER U WITH DOUBLE GRAVE",
   "bSMALL LETTER U WITH DOUBLE GRAVE;bCAPITAL LETTER U WITH INVERTED BREVE",
   "bSMALL LETTER U WITH INVERTED BREVE;bCAPITAL LETTER S WITH COMMA BELOW",
   "bSMALL LETTER S WITH COMMA BELOW;bCAPITAL LETTER T WITH COMMA BELOW",
   "bSMALL LETTER T WITH COMMA BELOW;bCAPITAL LETTER YOGH;bSMALL LETTER YOGH",
   "bCAPITAL LETTER H WITH CARON;bSMALL LETTER H WITH CARON",
   "bCAPITAL LETTER N WITH LONG RIGHT LEG;bSMALL LETTER D WITH CURL;bCAPITAL LETTER OU",
   "bSMALL LETTER OU;bCAPITAL LETTER Z WITH HOOK;bSMALL LETTER Z WITH HOOK",
   "bCAPITAL LETTER A WITH DOT ABOVE;bSMALL LETTER A WITH DOT ABOVE",
   "bCAPITAL LETTER E WITH CEDILLA;bSMALL LETTER E WITH CEDILLA",
   "bCAPITAL LETTER O WITH DIAERESIS AND MACRON;bSMALL LETTER O WITH DIAERESIS AND MACRON",
   "bCAPITAL LETTER O WITH TILDE AND MACRON;bSMALL LETTER O WITH TILDE AND MACRON",
   "bCAPITAL LETTER O WITH DOT ABOVE;bSMALL LETTER O WITH DOT ABOVE",
   "bCAPITAL LETTER O WITH DOT ABOVE AND MACRON;bSMALL LETTER O WITH DOT ABOVE AND MACRON",
   "bCAPITAL LETTER Y WITH MACRON;bSMALL LETTER Y WITH MACRON;dL WITH CURL;dN WITH CURL",
   "dT WITH CURL;dDOTLESS J;dDB DIGRAPH;dQP DIGRAPH;bCAPITAL LETTER A WITH STROKE",
   "dC WITH STROKE;bSMALL LETTER C WITH STROKE;bCAPITAL LETTER L WITH BAR",
   "dT WITH DIAGONAL STROKE;bSMALL LETTER S WITH SWASH TAIL;dZ WITH SWASH TAIL",
   "bCAPITAL LETTER GLOTTAL STOP;bSMALL LETTER GLOTTAL STOP;bCAPITAL LETTER B WITH STROKE",
   "dU BAR;dTURNED V;dE WITH STROKE;bSMALL LETTER E WITH STROKE;bCAPITAL LETTER J WITH STROKE",
   "bSMALL LETTER J WITH STROKE;bCAPITAL LETTER SMALL Q WITH HOOK TAIL",
   "bSMALL LETTER Q WITH HOOK TAIL;bCAPITAL LETTER R WITH STROKE;bSMALL LETTER R WITH STROKE",
   "bCAPITAL LETTER Y WITH STROKE;bSMALL LETTER Y WITH STROKE;dTURNED A;dALPHA;dTURNED ALPHA",
   "dB WITH HOOK;dOPEN O;dC WITH CURL;dD WITH TAIL;fHOOK;dREVERSED E;dSCHWA;eWITH HOOK;dOPEN E",
   "dREVERSED OPEN E;gWITH HOOK;dCLOSED REVERSED OPEN E;dDOTLESS J WITH STROKE;dG WITH HOOK",
   "dSCRIPT G;bLETTER SMALL CAPITAL G;bSMALL LETTER GAMMA;dRAMS HORN;dTURNED H;dH WITH HOOK",
   "dHENG WITH HOOK;dI WITH STROKE;dIOTA;bLETTER SMALL CAPITAL I",
   "bSMALL LETTER L WITH MIDDLE TILDE;fBELT;fRETROFLEX HOOK;dLEZH;dTURNED M;fWITH LONG LEG",
   "dM WITH HOOK;dN WITH LEFT HOOK;fRETROFLEX HOOK;bLETTER SMALL CAPITAL N",
   "bSMALL LETTER BARRED O;bLETTER SMALL CAPITAL OE;bSMALL LETTER CLOSED OMEGA;dPHI;dTURNED R",
   "fWITH LONG LEG;gHOOK;dR WITH LONG LEG;fTAIL;fFISHHOOK;dREVERSED R WITH FISHHOOK",
   "bLETTER SMALL CAPITAL R;eINVERTED R;bSMALL LETTER S WITH HOOK;dESH",
   "dDOTLESS J WITH STROKE AND HOOK;dSQUAT REVERSED ESH;dESH WITH CURL;dTURNED T",
   "dT WITH RETROFLEX HOOK;dU BAR;dUPSILON;dV WITH HOOK;dTURNED V;eW;eY",
   "bLETTER SMALL CAPITAL Y;bSMALL LETTER Z WITH RETROFLEX HOOK;fCURL;dEZH;eWITH CURL",
   "bLETTER GLOTTAL STOP;cPHARYNGEAL VOICED FRICATIVE;cINVERTED GLOTTAL STOP;cSTRETCHED C",
   "cBILABIAL CLICK;cSMALL CAPITAL B;bSMALL LETTER CLOSED OPEN E",
   "bLETTER SMALL CAPITAL G WITH HOOK;eH;bSMALL LETTER J WITH CROSSED-TAIL;dTURNED K",
   "bLETTER SMALL CAPITAL L;bSMALL LETTER Q WITH HOOK;bLETTER GLOTTAL STOP WITH STROKE",
   "cREVERSED GLOTTAL STOP WITH STROKE;bSMALL LETTER DZ DIGRAPH;dDEZH DIGRAPH",
   "dDZ DIGRAPH WITH CURL;dTS DIGRAPH;dTESH DIGRAPH;dTC DIGRAPH WITH CURL;dFENG DIGRAPH",
   "dLS DIGRAPH;dLZ DIGRAPH;bLETTER BILABIAL PERCUSSIVE;cBIDENTAL PERCUSSIVE",
   "bSMALL LETTER TURNED H WITH FISHHOOK;hAND TAIL;aMODIFIER LETTER SMALL H;eWITH HOOK;dJ;dR",
   "dTURNED R;fWITH HOOK;dCAPITAL INVERTED R;dW;dY;cPRIME;cDOUBLE PRIME;cTURNED COMMA",
   "cAPOSTROPHE;cREVERSED COMMA;cRIGHT HALF RING;cLEFT HALF RING;cGLOTTAL STOP",
   "cREVERSED GLOTTAL STOP;cLEFT ARROWHEAD;cRIGHT ARROWHEAD;cUP ARROWHEAD;cDOWN ARROWHEAD",
   "cCIRCUMFLEX ACCENT;aCARON;aMODIFIER LETTER VERTICAL LINE;cMACRON;cACUTE ACCENT",
   "cGRAVE ACCENT;cLOW VERTICAL LINE;dMACRON;dGRAVE ACCENT;dACUTE ACCENT;cTRIANGULAR COLON",
   "cHALF TRIANGULAR COLON;cCENTRED RIGHT HALF RING;dLEFT HALF RING;cUP TACK;cDOWN TACK",
   "cPLUS SIGN;cMINUS SIGN;aBREVE;aDOT ABOVE;aRING ABOVE;aOGONEK;aSMALL TILDE",
   "aDOUBLE ACUTE ACCENT;aMODIFIER LETTER RHOTIC HOOK;cCROSS ACCENT;cSMALL GAMMA;dL;dS;dX",
   "dREVERSED GLOTTAL STOP;cEXTRA-HIGH TONE BAR;cHIGH TONE BAR;cMID TONE BAR;cLOW TONE BAR",
   "cEXTRA-LOW TONE BAR;cYIN DEPARTING TONE MARK;cYANG DEPARTING TONE MARK;cVOICING",
   "cUNASPIRATED;cDOUBLE APOSTROPHE;cLOW DOWN ARROWHEAD;dUP ARROWHEAD;dLEFT ARROWHEAD",
   "dRIGHT ARROWHEAD;dRING;cMIDDLE GRAVE ACCENT;dDOUBLE GRAVE ACCENT;eACUTE ACCENT;cLOW TILDE",
   "cRAISED COLON;cBEGIN HIGH TONE;cEND HIGH TONE;cBEGIN LOW TONE;cEND LOW TONE;cSHELF",
   "cOPEN SHELF;cLOW LEFT ARROW;aCOMBINING GRAVE ACCENT;bACUTE ACCENT;bCIRCUMFLEX ACCENT",
   "bTILDE;bMACRON;bOVERLINE;bBREVE;bDOT ABOVE;bDIAERESIS;bHOOK ABOVE;bRING ABOVE",
   "bDOUBLE ACUTE ACCENT;bCARON;bVERTICAL LINE ABOVE;bDOUBLE VERTICAL LINE ABOVE;cGRAVE ACCENT",
   "bCANDRABINDU;bINVERTED BREVE;bTURNED COMMA ABOVE;bCOMMA ABOVE;bREVERSED COMMA ABOVE",
   "bCOMMA ABOVE RIGHT;bGRAVE ACCENT BELOW;bACUTE ACCENT BELOW;bLEFT TACK BELOW",
   "bRIGHT TACK BELOW;bLEFT ANGLE ABOVE;bHORN;bLEFT HALF RING BELOW;bUP TACK BELOW",
   "bDOWN TACK BELOW;bPLUS SIGN BELOW;bMINUS SIGN BELOW;bPALATALIZED HOOK BELOW",
   "bRETROFLEX HOOK BELOW;bDOT BELOW;bDIAERESIS BELOW;bRING BELOW;bCOMMA BELOW;bCEDILLA",
   "bOGONEK;bVERTICAL LINE BELOW;bBRIDGE BELOW;bINVERTED DOUBLE ARCH BELOW;bCARON BELOW",
   "bCIRCUMFLEX ACCENT BELOW;bBREVE BELOW;bINVERTED BREVE BELOW;bTILDE BELOW;bMACRON BELOW",
   "bLOW LINE;bDOUBLE LOW LINE;bTILDE OVERLAY;bSHORT STROKE OVERLAY;bLONG STROKE OVERLAY",
   "bSHORT SOLIDUS OVERLAY;bLONG SOLIDUS OVERLAY;bRIGHT HALF RING BELOW;bINVERTED BRIDGE BELOW",
   "bSQUARE BELOW;bSEAGULL BELOW;bX ABOVE;bVERTICAL TILDE;bDOUBLE OVERLINE;bGRAVE TONE MARK",
   "bACUTE TONE MARK;bGREEK PERISPOMENI;cKORONIS;cDIALYTIKA TONOS;cYPOGEGRAMMENI;bBRIDGE ABOVE",
   "bEQUALS SIGN BELOW;bDOUBLE VERTICAL LINE BELOW;bLEFT ANGLE BELOW;bNOT TILDE ABOVE",
   "bHOMOTHETIC ABOVE;bALMOST EQUAL TO ABOVE;bLEFT RIGHT ARROW BELOW;bUPWARDS ARROW BELOW",
   "bGRAPHEME JOINER;bRIGHT ARROWHEAD ABOVE;bLEFT HALF RING ABOVE;bFERMATA;bX BELOW",
   "bLEFT ARROWHEAD BELOW;bRIGHT ARROWHEAD BELOW;dAND UP ARROWHEAD BELOW;cHALF RING ABOVE",
   "bDOT ABOVE RIGHT;bASTERISK BELOW;bDOUBLE RING BELOW;bZIGZAG ABOVE;bDOUBLE BREVE BELOW;d",
   "cMACRON;dBELOW;cTILDE;cINVERTED BREVE;cRIGHTWARDS ARROW BELOW;bLATIN SMALL LETTER A;eE;eI",
   "eO;eU;eC;eD;eH;eM;eR;eT;eV;eX;aGREEK CAPITAL LETTER HETA;bSMALL LETTER HETA",
   "bCAPITAL LETTER ARCHAIC SAMPI;bSMALL LETTER ARCHAIC SAMPI;bNUMERAL SIGN",
   "bLOWER NUMERAL SIGN;bCAPITAL LETTER PAMPHYLIAN DIGAMMA;bSMALL LETTER PAMPHYLIAN DIGAMMA",
   "37A:bYPOGEGRAMMENI;bSMALL REVERSED LUNATE SIGMA SYMBOL;cDOTTED LUNATE SIGMA SYMBOL",
   "cREVERSED DOTTED LUNATE SIGMA SYMBOL;bQUESTION MARK;bCAPITAL LETTER YOT;384:bTONOS",
   "bDIALYTIKA TONOS;bCAPITAL LETTER ALPHA WITH TONOS;bANO TELEIA",
   "bCAPITAL LETTER EPSILON WITH TONOS;dETA WITH TONOS;dIOTA WITH TONOS",
   "38C:dOMICRON WITH TONOS;38E:dUPSILON WITH TONOS;dOMEGA WITH TONOS",
   "bSMALL LETTER IOTA WITH DIALYTIKA AND TONOS;bCAPITAL LETTER ALPHA;dBETA;dGAMMA;dDELTA",
   "dEPSILON;dZETA;dETA;dTHETA;dIOTA;dKAPPA;dLAMDA;dMU;dNU;dXI;dOMICRON;dPI;dRHO;3A3:dSIGMA",
   "dTAU;dUPSILON;dPHI;dCHI;dPSI;dOMEGA;dIOTA WITH DIALYTIKA;dUPSILON WITH DIALYTIKA",
   "bSMALL LETTER ALPHA WITH TONOS;dEPSILON WITH TONOS;dETA WITH TONOS;dIOTA WITH TONOS",
   "dUPSILON WITH DIALYTIKA AND TONOS;dALPHA;dBETA;dGAMMA;dDELTA;dEPSILON;dZETA;dETA;dTHETA",
   "dIOTA;dKAPPA;dLAMDA;dMU;dNU;dXI;dOMICRON;dPI;dRHO;dFINAL SIGMA;dSIGMA;dTAU;dUPSILON;dPHI",
   "dCHI;dPSI;dOMEGA;dIOTA WITH DIALYTIKA;dUPSILON WITH DIALYTIKA;dOMICRON WITH TONOS",
   "dUPSILON WITH TONOS;dOMEGA WITH TONOS;bCAPITAL KAI SYMBOL;bBETA SYMBOL;bTHETA SYMBOL",
   "bUPSILON WITH HOOK SYMBOL;dACUTE AND HOOK SYMBOL;dDIAERESIS AND HOOK SYMBOL;bPHI SYMBOL",
   "bPI SYMBOL;bKAI SYMBOL;bLETTER ARCHAIC KOPPA;bSMALL LETTER ARCHAIC KOPPA;bLETTER STIGMA",
   "bSMALL LETTER STIGMA;bLETTER DIGAMMA;bSMALL LETTER DIGAMMA;bLETTER KOPPA",
   "bSMALL LETTER KOPPA;bLETTER SAMPI;bSMALL LETTER SAMPI;aCOPTIC CAPITAL LETTER SHEI",
   "bSMALL LETTER SHEI;bCAPITAL LETTER FEI;bSMALL LETTER FEI;bCAPITAL LETTER KHEI",
   "bSMALL LETTER KHEI;bCAPITAL LETTER HORI;bSMALL LETTER HORI;bCAPITAL LETTER GANGIA",
   "bSMALL LETTER GANGIA;bCAPITAL LETTER SHIMA;bSMALL LETTER SHIMA;bCAPITAL LETTER DEI",
   "bSMALL LETTER DEI;aGREEK KAPPA SYMBOL;bRHO SYMBOL;bLUNATE SIGMA SYMBOL;bLETTER YOT",
   "bCAPITAL THETA SYMBOL;bLUNATE EPSILON SYMBOL;bREVERSED LUNATE EPSILON SYMBOL",
   "bCAPITAL LETTER SHO;bSMALL LETTER SHO;bCAPITAL LUNATE SIGMA SYMBOL;cLETTER SAN",
   "bSMALL LETTER SAN;bRHO WITH STROKE SYMBOL;bCAPITAL REVERSED LUNATE SIGMA SYMBOL",
   "cDOTTED LUNATE SIGMA SYMBOL;cREVERSED DOTTED LUNATE SIGMA SYMBOL",
   "aCYRILLIC CAPITAL LETTER IE WITH GRAVE;dIO;dDJE;dGJE;dUKRAINIAN IE;dDZE",
   "dBYELORUSSIAN-UKRAINIAN I;dYI;dJE;dLJE;dNJE;dTSHE;dKJE;dI WITH GRAVE;dSHORT U;dDZHE;dA;dBE",
   "dVE;dGHE;dDE;dIE;dZHE;dZE;dI;dSHORT I;dKA;dEL;dEM;dEN;dO;dPE;dER;dES;dTE;dU;dEF;dHA;dTSE",
   "dCHE;dSHA;dSHCHA;dHARD SIGN;dYERU;dSOFT SIGN;dE;dYU;dYA;bSMALL LETTER A;dBE;dVE;dGHE;dDE",
   "dIE;dZHE;dZE;dI;dSHORT I;dKA;dEL;dEM;dEN;dO;dPE;dER;dES;dTE;dU;dEF;dHA;dTSE;dCHE;dSHA",
   "dSHCHA;dHARD SIGN;dYERU;dSOFT SIGN;dE;dYU;dYA;dIE WITH GRAVE;dIO;dDJE;dGJE;dUKRAINIAN IE",
   "dDZE;dBYELORUSSIAN-UKRAINIAN I;dYI;dJE;dLJE;dNJE;dTSHE;dKJE;dI WITH GRAVE;dSHORT U;dDZHE",
   "bCAPITAL LETTER OMEGA;bSMALL LETTER OMEGA;bCAPITAL LETTER YAT;bSMALL LETTER YAT",
   "bCAPITAL LETTER IOTIFIED E;bSMALL LETTER IOTIFIED E;bCAPITAL LETTER LITTLE YUS",
   "bSMALL LETTER LITTLE YUS;bCAPITAL LETTER IOTIFIED LITTLE YUS",
   "bSMALL LETTER IOTIFIED LITTLE YUS;bCAPITAL LETTER BIG YUS;bSMALL LETTER BIG YUS",
   "bCAPITAL LETTER IOTIFIED BIG YUS;bSMALL LETTER IOTIFIED BIG YUS;bCAPITAL LETTER KSI",
   "bSMALL LETTER KSI;bCAPITAL LETTER PSI;bSMALL LETTER PSI;bCAPITAL LETTER FITA",
   "bSMALL LETTER FITA;bCAPITAL LETTER IZHITSA;bSMALL LETTER IZHITSA",
   "bCAPITAL LETTER IZHITSA WITH DOUBLE GRAVE ACCENT",
   "bSMALL LETTER IZHITSA WITH DOUBLE GRAVE ACCENT;bCAPITAL LETTER UK;bSMALL LETTER UK",
   "bCAPITAL LETTER ROUND OMEGA;bSMALL LETTER ROUND OMEGA;bCAPITAL LETTER OMEGA WITH TITLO",
   "bSMALL LETTER OMEGA WITH TITLO;bCAPITAL LETTER OT;bSMALL LETTER OT;bCAPITAL LETTER KOPPA",
   "bSMALL LETTER KOPPA;bTHOUSANDS SIGN;aCOMBINING CYRILLIC TITLO;cPALATALIZATION",
   "cDASIA PNEUMATA;cPSILI PNEUMATA;cPOKRYTIE;cHUNDRED THOUSANDS SIGN;cMILLIONS SIGN",
   "aCYRILLIC CAPITAL LETTER SHORT I WITH TAIL;bSMALL LETTER SHORT I WITH TAIL",
   "bCAPITAL LETTER SEMISOFT SIGN;bSMALL LETTER SEMISOFT SIGN;bCAPITAL LETTER ER WITH TICK",
   "bSMALL LETTER ER WITH TICK;bCAPITAL LETTER GHE WITH UPTURN;bSMALL LETTER GHE WITH UPTURN",
   "bCAPITAL LETTER GHE WITH STROKE;bSMALL LETTER GHE WITH STROKE",
   "bCAPITAL LETTER GHE WITH MIDDLE HOOK;bSMALL LETTER GHE WITH MIDDLE HOOK",
   "bCAPITAL LETTER ZHE WITH DESCENDER;bSMALL LETTER ZHE WITH DESCENDER",
   "bCAPITAL LETTER ZE WITH DESCENDER;bSMALL LETTER ZE WITH DESCENDER",
   "bCAPITAL LETTER KA WITH DESCENDER;bSMALL LETTER KA WITH DESCENDER",
   "bCAPITAL LETTER KA WITH VERTICAL STROKE;bSMALL LETTER KA WITH VERTICAL STROKE",
   "bCAPITAL LETTER KA WITH STROKE;bSMALL LETTER KA WITH STROKE;bCAPITAL LETTER BASHKIR KA",
   "bSMALL LETTER BASHKIR KA;bCAPITAL LETTER EN WITH DESCENDER;bSMALL LETTER EN WITH DESCENDER",
   "bCAPITAL LIGATURE EN GHE;bSMALL LIGATURE EN GHE;bCAPITAL LETTER PE WITH MIDDLE HOOK",
   "bSMALL LETTER PE WITH MIDDLE HOOK;bCAPITAL LETTER ABKHASIAN HA;bSMALL LETTER ABKHASIAN HA",
   "bCAPITAL LETTER ES WITH DESCENDER;bSMALL LETTER ES WITH DESCENDER",
   "bCAPITAL LETTER TE WITH DESCENDER;bSMALL LETTER TE WITH DESCENDER",
   "bCAPITAL LETTER STRAIGHT U;bSMALL LETTER STRAIGHT U;bCAPITAL LETTER STRAIGHT U WITH STROKE",
   "bSMALL LETTER STRAIGHT U WITH STROKE;bCAPITAL LETTER HA WITH DESCENDER",
   "bSMALL LETTER HA WITH DESCENDER;bCAPITAL LIGATURE TE TSE;bSMALL LIGATURE TE TSE",
   "bCAPITAL LETTER CHE WITH DESCENDER;bSMALL LETTER CHE WITH DESCENDER",
   "bCAPITAL LETTER CHE WITH VERTICAL STROKE;bSMALL LETTER CHE WITH VERTICAL STROKE",
   "bCAPITAL LETTER SHHA;bSMALL LETTER SHHA;bCAPITAL LETTER ABKHASIAN CHE",
   "bSMALL LETTER ABKHASIAN CHE;bCAPITAL LETTER ABKHASIAN CHE WITH DESCENDER",
   "bSMALL LETTER ABKHASIAN CHE WITH DESCENDER;bLETTER PALOCHKA;bCAPITAL LETTER ZHE WITH BREVE",
   "bSMALL LETTER ZHE WITH BREVE;bCAPITAL LETTER KA WITH HOOK;bSMALL LETTER KA WITH HOOK",
   "bCAPITAL LETTER EL WITH TAIL;bSMALL LETTER EL WITH TAIL;bCAPITAL LETTER EN WITH HOOK",
   "bSMALL LETTER EN WITH HOOK;bCAPITAL LETTER EN WITH TAIL;bSMALL LETTER EN WITH TAIL",
   "bCAPITAL LETTER KHAKASSIAN CHE;bSMALL LETTER KHAKASSIAN CHE;bCAPITAL LETTER EM WITH TAIL",
   "bSMALL LETTER EM WITH TAIL;dPALOCHKA;bCAPITAL LETTER A WITH BREVE",
   "bSMALL LETTER A WITH BREVE;bCAPITAL LETTER A WITH DIAERESIS;bSMALL LETTER A WITH DIAERESIS",
   "bCAPITAL LIGATURE A IE;bSMALL LIGATURE A IE;bCAPITAL LETTER IE WITH BREVE",
   "bSMALL LETTER IE WITH BREVE;bCAPITAL LETTER SCHWA;bSMALL LETTER SCHWA",
   "bCAPITAL LETTER SCHWA WITH DIAERESIS;bSMALL LETTER SCHWA WITH DIAERESIS",
   "bCAPITAL LETTER ZHE WITH DIAERESIS;bSMALL LETTER ZHE WITH DIAERESIS",
   "bCAPITAL LETTER ZE WITH DIAERESIS;bSMALL LETTER ZE WITH DIAERESIS",
   "bCAPITAL LETTER ABKHASIAN DZE;bSMALL LETTER ABKHASIAN DZE;bCAPITAL LETTER I WITH MACRON",
   "bSMALL LETTER I WITH MACRON;bCAPITAL LETTER I WITH DIAERESIS",
   "bSMALL LETTER I WITH DIAERESIS;bCAPITAL LETTER O WITH DIAERESIS",
   "bSMALL LETTER O WITH DIAERESIS;bCAPITAL LETTER BARRED O;bSMALL LETTER BARRED O",
   "bCAPITAL LETTER BARRED O WITH DIAERESIS;bSMALL LETTER BARRED O WITH DIAERESIS",
   "bCAPITAL LETTER E WITH DIAERESIS;bSMALL LETTER E WITH DIAERESIS",
   "bCAPITAL LETTER U WITH MACRON;bSMALL LETTER U WITH MACRON;bCAPITAL LETTER U WITH DIAERESIS",
   "bSMALL LETTER U WITH DIAERESIS;bCAPITAL LETTER U WITH DOUBLE ACUTE",
   "bSMALL LETTER U WITH DOUBLE ACUTE;bCAPITAL LETTER CHE WITH DIAERESIS",
   "bSMALL LETTER CHE WITH DIAERESIS;bCAPITAL LETTER GHE WITH DESCENDER",
   "bSMALL LETTER GHE WITH DESCENDER;bCAPITAL LETTER YERU WITH DIAERESIS",
   "bSMALL LETTER YERU WITH DIAERESIS;bCAPITAL LETTER GHE WITH STROKE AND HOOK",
   "bSMALL LETTER GHE WITH STROKE AND HOOK;bCAPITAL LETTER HA WITH HOOK",
   "bSMALL LETTER HA WITH HOOK;bCAPITAL LETTER HA WITH STROKE;bSMALL LETTER HA WITH STROKE",
   "bCAPITAL LETTER KOMI DE;bSMALL LETTER KOMI DE;bCAPITAL LETTER KOMI DJE",
   "bSMALL LETTER KOMI DJE;bCAPITAL LETTER KOMI ZJE;bSMALL LETTER KOMI ZJE",
   "bCAPITAL LETTER KOMI DZJE;bSMALL LETTER KOMI DZJE;bCAPITAL LETTER KOMI LJE",
   "bSMALL LETTER KOMI LJE;bCAPITAL LETTER KOMI NJE;bSMALL LETTER KOMI NJE",
   "bCAPITAL LETTER KOMI SJE;bSMALL LETTER KOMI SJE;bCAPITAL LETTER KOMI TJE",
   "bSMALL LETTER KOMI TJE;bCAPITAL LETTER REVERSED ZE;bSMALL LETTER REVERSED ZE",
   "bCAPITAL LETTER EL WITH HOOK;bSMALL LETTER EL WITH HOOK;bCAPITAL LETTER LHA",
   "bSMALL LETTER LHA;bCAPITAL LETTER RHA;bSMALL LETTER RHA;bCAPITAL LETTER YAE",
   "bSMALL LETTER YAE;bCAPITAL LETTER QA;bSMALL LETTER QA;bCAPITAL LETTER WE;bSMALL LETTER WE",
   "bCAPITAL LETTER ALEUT KA;bSMALL LETTER ALEUT KA;bCAPITAL LETTER EL WITH MIDDLE HOOK",
   "bSMALL LETTER EL WITH MIDDLE HOOK;bCAPITAL LETTER EN WITH MIDDLE HOOK",
   "bSMALL LETTER EN WITH MIDDLE HOOK;bCAPITAL LETTER PE WITH DESCENDER",
   "bSMALL LETTER PE WITH DESCENDER;bCAPITAL LETTER SHHA WITH DESCENDER",
   "bSMALL LETTER SHHA WITH DESCENDER;bCAPITAL LETTER EN WITH LEFT HOOK",
   "bSMALL LETTER EN WITH LEFT HOOK;bCAPITAL LETTER DZZHE;bSMALL LETTER DZZHE",
   "bCAPITAL LETTER DCHE;bSMALL LETTER DCHE;bCAPITAL LETTER EL WITH DESCENDER",
   "bSMALL LETTER EL WITH DESCENDER;531:aARMENIAN CAPITAL LETTER AYB;dBEN;dGIM;dDA;dECH;dZA",
   "dEH;dET;dTO;dZHE;dINI;dLIWN;dXEH;dCA;dKEN;dHO;dJA;dGHAD;dCHEH;dMEN;dYI;dNOW;dSHA;dVO;dCHA",
   "dPEH;dJHEH;dRA;dSEH;dVEW;dTIWN;dREH;dCO;dYIWN;dPIWR;dKEH;dOH;dFEH",
   "559:bMODIFIER LETTER LEFT HALF RING;bAPOSTROPHE;bEMPHASIS MARK;bEXCLAMATION MARK;bCOMMA",
   "bQUESTION MARK;bABBREVIATION MARK;bSMALL LETTER TURNED AYB;dAYB;dBEN;dGIM;dDA;dECH;dZA;dEH",
   "dET;dTO;dZHE;dINI;dLIWN;dXEH;dCA;dKEN;dHO;dJA;dGHAD;dCHEH;dMEN;dYI;dNOW;dSHA;dVO;dCHA;dPEH",
   "dJHEH;dRA;dSEH;dVEW;dTIWN;dREH;dCO;dYIWN;dPIWR;dKEH;dOH;dFEH;cLIGATURE ECH YIWN",
   "cLETTER YI WITH STROKE;bFULL STOP;bHYPHEN;58D:aRIGHT-FACING ARMENIAN ETERNITY SIGN",
   "aLEFT-FACING ARMENIAN ETERNITY SIGN;aARMENIAN DRAM SIGN;591:aHEBREW ACCENT ETNAHTA;cSEGOL",
   "cSHALSHELET;cZAQEF QATAN;dGADOL;cTIPEHA;cREVIA;cZARQA;cPASHTA;cYETIV;cTEVIR;cGERESH",
   "dMUQDAM;cGERSHAYIM;cQARNEY PARA;cTELISHA GEDOLA;cPAZER;cATNAH HAFUKH;cMUNAH;cMAHAPAKH",
   "cMERKHA;dKEFULA;cDARGA;cQADMA;cTELISHA QETANA;cYERAH BEN YOMO;cOLE;cILUY;cDEHI;cZINOR",
   "bMARK MASORA CIRCLE;bPOINT SHEVA;cHATAF SEGOL;dPATAH;dQAMATS;cHIRIQ;cTSERE;cSEGOL;cPATAH",
   "cQAMATS;cHOLAM;dHASER FOR VAV;cQUBUTS;cDAGESH OR MAPIQ;cMETEG;bPUNCTUATION MAQAF",
   "bPOINT RAFE;bPUNCTUATION PASEQ;bPOINT SHIN DOT;cSIN DOT;bPUNCTUATION SOF PASUQ",
   "bMARK UPPER DOT;cLOWER DOT;bPUNCTUATION NUN HAFUKHA;bPOINT QAMATS QATAN;5D0:bLETTER ALEF",
   "cBET;cGIMEL;cDALET;cHE;cVAV;cZAYIN;cHET;cTET;cYOD;cFINAL KAF;cKAF;cLAMED;cFINAL MEM;cMEM",
   "cFINAL NUN;cNUN;cSAMEKH;cAYIN;cFINAL PE;cPE;cFINAL TSADI;cTSADI;cQOF;cRESH;cSHIN;cTAV",
   "5EF:bYOD TRIANGLE;bLIGATURE YIDDISH DOUBLE VAV;dVAV YOD;dDOUBLE YOD;bPUNCTUATION GERESH",
   "cGERSHAYIM;600:aARABIC NUMBER SIGN;bSIGN SANAH;bFOOTNOTE MARKER;bSIGN SAFHA;cSAMVAT",
   "bNUMBER MARK ABOVE;aARABIC-INDIC CUBE ROOT;bFOURTH ROOT;aARABIC RAY",
   "aARABIC-INDIC PER MILLE SIGN;cTEN THOUSAND SIGN;aAFGHANI SIGN;aARABIC COMMA",
   "bDATE SEPARATOR;bPOETIC VERSE SIGN;bSIGN MISRA;cSALLALLAHOU ALAYHE WASSALLAM",
   "cALAYHE ASSALLAM;cRAHMATULLAH ALAYHE;cRADI ALLAHOU ANHU;cTAKHALLUS;bSMALL HIGH TAH",
   "dLIGATURE ALEF WITH LAM WITH YEH;dZAIN;cFATHA;cDAMMA;cKASRA;bSEMICOLON;bLETTER MARK",
   "bEND OF TEXT MARK;bTRIPLE DOT PUNCTUATION MARK;bQUESTION MARK;bLETTER KASHMIRI YEH;cHAMZA",
   "cALEF WITH MADDA ABOVE;eHAMZA ABOVE;cWAW WITH HAMZA ABOVE;cALEF WITH HAMZA BELOW",
   "cYEH WITH HAMZA ABOVE;cALEF;cBEH;cTEH MARBUTA;d;cTHEH;cJEEM;cHAH;cKHAH;cDAL;cTHAL;cREH",
   "cZAIN;cSEEN;cSHEEN;cSAD;cDAD;cTAH;cZAH;cAIN;cGHAIN;cKEHEH WITH TWO DOTS ABOVE",
   "eTHREE DOTS BELOW;cFARSI YEH WITH INVERTED V;fTWO DOTS ABOVE;fTHREE DOTS ABOVE;bTATWEEL",
   "bLETTER FEH;cQAF;cKAF;cLAM;cMEEM;cNOON;cHEH;cWAW;cALEF MAKSURA;cYEH;bFATHATAN;bDAMMATAN",
   "bKASRATAN;bFATHA;bDAMMA;bKASRA;bSHADDA;bSUKUN;bMADDAH ABOVE;bHAMZA ABOVE;cBELOW",
   "bSUBSCRIPT ALEF;bINVERTED DAMMA;bMARK NOON GHUNNA;bZWARAKAY;bVOWEL SIGN SMALL V ABOVE",
   "dINVERTED SMALL V ABOVE;dDOT BELOW;bREVERSED DAMMA;bFATHA WITH TWO DOTS;bWAVY HAMZA BELOW",
   "aARABIC-INDIC DIGIT ZERO;cONE;cTWO;cTHREE;cFOUR;cFIVE;cSIX;cSEVEN;cEIGHT;cNINE",
   "aARABIC PERCENT SIGN;bDECIMAL SEPARATOR;bTHOUSANDS SEPARATOR;bFIVE POINTED STAR",
   "bLETTER DOTLESS BEH;dQAF;cSUPERSCRIPT ALEF;cALEF WASLA;dWITH WAVY HAMZA ABOVE;gBELOW",
   "cHIGH HAMZA;eALEF;eWAW;cU WITH HAMZA ABOVE;cHIGH HAMZA YEH;cTTEH;cTTEHEH;cBEEH",
   "cTEH WITH RING;eTHREE DOTS ABOVE DOWNWARDS;cPEH;cTEHEH;cBEHEH;cHAH WITH HAMZA ABOVE",
   "eTWO DOTS VERTICAL ABOVE;cNYEH;cDYEH;cHAH WITH THREE DOTS ABOVE;cTCHEH;cTCHEHEH;cDDAL",
   "cDAL WITH RING;eDOT BELOW;gAND SMALL TAH;cDAHAL;cDDAHAL;cDUL",
   "cDAL WITH THREE DOTS ABOVE DOWNWARDS;eFOUR DOTS ABOVE;cRREH;cREH WITH SMALL V;eRING",
   "eDOT BELOW;eSMALL V BELOW;eDOT BELOW AND DOT ABOVE;eTWO DOTS ABOVE;cJEH",
   "cREH WITH FOUR DOTS ABOVE;cSEEN WITH DOT BELOW AND DOT ABOVE;eTHREE DOTS BELOW",
   "hAND THREE DOTS ABOVE;cSAD WITH TWO DOTS BELOW;eTHREE DOTS ABOVE",
   "cTAH WITH THREE DOTS ABOVE;cAIN WITH THREE DOTS ABOVE;cDOTLESS FEH",
   "cFEH WITH DOT MOVED BELOW;fBELOW;cVEH;cFEH WITH THREE DOTS BELOW;cPEHEH",
   "cQAF WITH DOT ABOVE;eTHREE DOTS ABOVE;cKEHEH;cSWASH KAF;cKAF WITH RING;eDOT ABOVE;cNG",
   "cKAF WITH THREE DOTS BELOW;cGAF;dWITH RING;cNGOEH;cGAF WITH TWO DOTS BELOW;cGUEH",
   "cGAF WITH THREE DOTS ABOVE;cLAM WITH SMALL V;eDOT ABOVE;eTHREE DOTS ABOVE;gBELOW",
   "cNOON WITH DOT BELOW;dGHUNNA;cRNOON;cNOON WITH RING;eTHREE DOTS ABOVE;cHEH DOACHASHMEE",
   "cTCHEH WITH DOT ABOVE;cHEH WITH YEH ABOVE;dGOAL;eWITH HAMZA ABOVE;cTEH MARBUTA GOAL",
   "cWAW WITH RING;cKIRGHIZ OE;cOE;cU;cYU;cKIRGHIZ YU;cWAW WITH TWO DOTS ABOVE;cVE;cFARSI YEH",
   "cYEH WITH TAIL;eSMALL V;cWAW WITH DOT ABOVE;cE;cYEH WITH THREE DOTS BELOW;dBARREE",
   "eWITH HAMZA ABOVE;bFULL STOP;bLETTER AE",
   "bSMALL HIGH LIGATURE SAD WITH LAM WITH ALEF MAKSURA;eQAF WITH LAM WITH ALEF MAKSURA",
   "dMEEM INITIAL FORM;dLAM ALEF;dJEEM;dTHREE DOTS;dSEEN;bEND OF AYAH;bSTART OF RUB EL HIZB",
   "bSMALL HIGH ROUNDED ZERO;dUPRIGHT RECTANGULAR ZERO;dDOTLESS HEAD OF KHAH",
   "dMEEM ISOLATED FORM;cLOW SEEN;cHIGH MADDA;cWAW;cYEH;cHIGH YEH;dNOON;bPLACE OF SAJDAH",
   "bEMPTY CENTRE LOW STOP;dHIGH STOP;bROUNDED HIGH STOP WITH FILLED CENTRE;bSMALL LOW MEEM",
   "bLETTER DAL WITH INVERTED V;cREH WITH INVERTED V;aEXTENDED ARABIC-INDIC DIGIT ZERO;dONE",
   "dTWO;dTHREE;dFOUR;dFIVE;dSIX;dSEVEN;dEIGHT;dNINE;aARABIC LETTER SHEEN WITH DOT BELOW",
   "cDAD WITH DOT BELOW;cGHAIN WITH DOT BELOW;bSIGN SINDHI AMPERSAND;dPOSTPOSITION MEN",
   "bLETTER HEH WITH INVERTED V;aSYRIAC END OF PARAGRAPH;bSUPRALINEAR FULL STOP",
   "bSUBLINEAR FULL STOP;bSUPRALINEAR COLON;bSUBLINEAR COLON;bHORIZONTAL COLON",
   "bCOLON SKEWED LEFT;dRIGHT;bSUPRALINEAR COLON SKEWED LEFT;bSUBLINEAR COLON SKEWED RIGHT",
   "bCONTRACTION;bHARKLEAN OBELUS;cMETOBELUS;cASTERISCUS;70F:bABBREVIATION MARK;bLETTER ALAPH",
   "cSUPERSCRIPT ALAPH;cBETH;cGAMAL;dGARSHUNI;cDALATH;cDOTLESS DALATH RISH;cHE;cWAW;cZAIN",
   "cHETH;cTETH;dGARSHUNI;cYUDH;dHE;cKAPH;cLAMADH;cMIM;cNUN;cSEMKATH;cFINAL SEMKATH;cE;cPE",
   "cREVERSED PE;cSADHE;cQAPH;cRISH;cSHIN;cTAW;cPERSIAN BHETH;dGHAMAL;dDHALATH;bPTHAHA ABOVE",
   "cBELOW;cDOTTED;bZQAPHA ABOVE;cBELOW;cDOTTED;bRBASA ABOVE;cBELOW;bDOTTED ZLAMA HORIZONTAL",
   "dANGULAR;bHBASA ABOVE;cBELOW;bHBASA-ESASA DOTTED;bESASA ABOVE;cBELOW;bRWAHA;bFEMININE DOT",
   "bQUSHSHAYA;bRUKKAKHA;bTWO VERTICAL DOTS ABOVE;eBELOW;bTHREE DOTS ABOVE;dBELOW",
   "bOBLIQUE LINE ABOVE;dBELOW;bMUSIC;bBARREKH;74D:bLETTER SOGDIAN ZHAIN;dKHAPH;dFE",
   "aARABIC LETTER BEH WITH THREE DOTS HORIZONTALLY BELOW;eDOT BELOW AND THREE DOTS ABOVE",
   "eTHREE DOTS POINTING UPWARDS BELOW;jAND TWO DOTS ABOVE;eTWO DOTS BELOW AND DOT ABOVE",
   "eINVERTED SMALL V BELOW;eSMALL V;cHAH WITH TWO DOTS ABOVE",
   "eTHREE DOTS POINTING UPWARDS BELOW;cDAL WITH TWO DOTS VERTICALLY BELOW AND SMALL TAH",
   "eINVERTED SMALL V BELOW;cREH WITH STROKE;cSEEN WITH FOUR DOTS ABOVE",
   "cAIN WITH TWO DOTS ABOVE;eTHREE DOTS POINTING DOWNWARDS ABOVE;eTWO DOTS VERTICALLY ABOVE",
   "cFEH WITH TWO DOTS BELOW;eTHREE DOTS POINTING UPWARDS BELOW;cKEHEH WITH DOT ABOVE",
   "eTHREE DOTS ABOVE;gPOINTING UPWARDS BELOW;cMEEM WITH DOT ABOVE;fBELOW",
   "cNOON WITH TWO DOTS BELOW;eSMALL TAH;fV;cLAM WITH BAR;cREH WITH TWO DOTS VERTICALLY ABOVE",
   "eHAMZA ABOVE;cSEEN WITH TWO DOTS VERTICALLY ABOVE;cHAH WITH SMALL ARABIC LETTER TAH BELOW",
   "iAND TWO DOTS;cSEEN WITH SMALL ARABIC LETTER TAH AND TWO DOTS",
   "cREH WITH SMALL ARABIC LETTER TAH AND TWO DOTS;cHAH WITH SMALL ARABIC LETTER TAH ABOVE",
   "cALEF WITH EXTENDED ARABIC-INDIC DIGIT TWO ABOVE;hTHREE ABOVE",
   "cFARSI YEH WITH EXTENDED ARABIC-INDIC DIGIT TWO ABOVE;iTHREE ABOVE;iFOUR BELOW",
   "cWAW WITH EXTENDED ARABIC-INDIC DIGIT TWO ABOVE;hTHREE ABOVE",
   "cYEH BARREE WITH EXTENDED ARABIC-INDIC DIGIT TWO ABOVE;iTHREE ABOVE",
   "cHAH WITH EXTENDED ARABIC-INDIC DIGIT FOUR BELOW",
   "cSEEN WITH EXTENDED ARABIC-INDIC DIGIT FOUR ABOVE;eINVERTED V;cKAF WITH TWO DOTS ABOVE",
   "aTHAANA LETTER HAA;cSHAVIYANI;cNOONU;cRAA;cBAA;cLHAVIYANI;cKAAFU;cALIFU;cVAAVU;cMEEMU",
   "cFAAFU;cDHAALU;cTHAA;cLAAMU;cGAAFU;cGNAVIYANI;cSEENU;cDAVIYANI;cZAVIYANI;cTAVIYANI;cYAA",
   "cPAVIYANI;cJAVIYANI;cCHAVIYANI;cTTAA;cHHAA;cKHAA;cTHAALU;cZAA;cSHEENU;cSAADHU;cDAADHU;cTO",
   "cZO;cAINU;cGHAINU;cQAAFU;cWAAVU;bABAFILI;bAABAAFILI;bIBIFILI;bEEBEEFILI;bUBUFILI",
   "bOOBOOFILI;bEBEFILI;bEYBEYFILI;bOBOFILI;bOABOAFILI;bSUKUN;bLETTER NAA;7C0:aNKO DIGIT ZERO",
   "cONE;cTWO;cTHREE;cFOUR;cFIVE;cSIX;cSEVEN;cEIGHT;cNINE;bLETTER A;cEE;cI;cE;cU;cOO;cO",
   "cDAGBASINNA;cN;cBA;cPA;cTA;cJA;cCHA;cDA;cRA;cRRA;cSA;cGBA;cFA;cKA;cLA;cNA WOLOSO;cMA;cNYA",
   "cNA;cHA;cWA;cYA;cNYA WOLOSO;cJONA JA;dCHA;dRA;bCOMBINING SHORT HIGH TONE;dLOW TONE",
   "dRISING TONE;cLONG DESCENDING TONE;dHIGH TONE;dLOW TONE;dRISING TONE;cNASALIZATION MARK",
   "cDOUBLE DOT ABOVE;bHIGH TONE APOSTROPHE;bLOW TONE APOSTROPHE;bSYMBOL OO DENNEN;cGBAKURUNEN",
   "bCOMMA;bEXCLAMATION MARK;bLAJANYALAN;7FD:bDANTAYALAN;bDOROME SIGN;bTAMAN SIGN",
   "aSAMARITAN LETTER ALAF;cBIT;cGAMAN;cDALAT;cIY;cBAA;cZEN;cIT;cTIT;cYUT;cKAAF;cLABAT;cMIM",
   "cNUN;cSINGAAT;cIN;cFI;cTSAADIY;cQUF;cRISH;cSHAN;cTAAF;bMARK IN;cIN-ALAF;cOCCLUSION;cDAGESH",
   "bMODIFIER LETTER EPENTHETIC YUT;bMARK EPENTHETIC YUT;bVOWEL SIGN LONG E;dE;dOVERLONG AA",
   "dLONG AA;dAA;dOVERLONG A;dLONG A;dA;bMODIFIER LETTER SHORT A;bVOWEL SIGN SHORT A;dLONG U",
   "dU;bMODIFIER LETTER I;bVOWEL SIGN LONG I;dI;dO;dSUKUN;bMARK NEQUDAA",
   "830:bPUNCTUATION NEQUDAA;cAFSAAQ;cANGED;cBAU;cATMAAU;cSHIYYAALAA;bABBREVIATION MARK",
   "bPUNCTUATION MELODIC QITSA;cZIQAA;cQITSA;cZAEF;cTURU;cARKAANU;cSOF MASHFAAT;cANNAAU",
   "840:aMANDAIC LETTER HALQA;cAB;cAG;cAD;cAH;cUSHENNA;cAZ;cIT;cATT;cAKSA;cAK;cAL;cAM;cAN;cAS",
   "cIN;cAP;cASZ;cAQ;cAR;cASH;cAT;cDUSHENNA;cKAD;cAIN;bAFFRICATION MARK;bVOCALIZATION MARK",
   "bGEMINATION MARK;85E:bPUNCTUATION;860:aSYRIAC LETTER MALAYALAM NGA;dJA;dNYA;dTTA;dNNA",
   "dNNNA;dBHA;dRA;dLLA;dLLLA;dSSA;870:aARABIC LETTER ALEF WITH ATTACHED FATHA",
   "fTOP RIGHT FATHA;eRIGHT MIDDLE STROKE;eLEFT MIDDLE STROKE;eATTACHED KASRA",
   "fBOTTOM RIGHT KASRA;fROUND DOT ABOVE;fRIGHT ROUND DOT;fLEFT ROUND DOT;fROUND DOT BELOW",
   "eDOT ABOVE;eATTACHED TOP RIGHT FATHA AND DOT ABOVE;eRIGHT MIDDLE STROKE AND DOT ABOVE",
   "eATTACHED BOTTOM RIGHT KASRA AND DOT ABOVE;fTOP RIGHT FATHA AND LEFT RING",
   "eRIGHT MIDDLE STROKE AND LEFT RING;eATTACHED BOTTOM RIGHT KASRA AND LEFT RING;fRIGHT HAMZA",
   "fLEFT HAMZA;bTATWEEL WITH OVERSTRUCK HAMZA;eWAW;dTWO DOTS BELOW;bLETTER THIN YEH",
   "bBASELINE ROUND DOT;bRAISED ROUND DOT;bLETTER NOON WITH INVERTED SMALL V",
   "cHAH WITH INVERTED SMALL V BELOW;cTAH WITH DOT BELOW;eTHREE DOTS BELOW",
   "cKEHEH WITH TWO DOTS VERTICALLY BELOW;bVERTICAL TAIL;890:bPOUND MARK ABOVE",
   "bPIASTRE MARK ABOVE;898:bSMALL HIGH WORD AL-JUZ;cLOW WORD ISHMAAM;eIMAALA;eTASHEEL",
   "bMADDA WAAJIB;bSUPERSCRIPT ALEF MOKHASSAS;bDOUBLED MADDA;bHALF MADDA OVER MADDA",
   "bLETTER BEH WITH SMALL V BELOW;eHAMZA ABOVE;cJEEM WITH TWO DOTS ABOVE",
   "cTAH WITH TWO DOTS ABOVE;cFEH WITH DOT BELOW AND THREE DOTS ABOVE;cQAF WITH DOT BELOW",
   "cLAM WITH DOUBLE BAR;cMEEM WITH THREE DOTS ABOVE;cYEH WITH TWO DOTS BELOW AND HAMZA ABOVE",
   "iDOT ABOVE;cREH WITH LOOP;cWAW WITH DOT WITHIN;cROHINGYA YEH;cLOW ALEF",
   "cDAL WITH THREE DOTS BELOW;cSAD WITH THREE DOTS BELOW;cGAF WITH INVERTED STROKE",
   "cSTRAIGHT WAW;cZAIN WITH INVERTED V ABOVE;cAIN WITH THREE DOTS BELOW;cKAF WITH DOT BELOW",
   "cQAF WITH DOT BELOW AND NO DOTS ABOVE;cBEH WITH SMALL MEEM ABOVE",
   "cPEH WITH SMALL MEEM ABOVE;cTEH WITH SMALL TEH ABOVE;cREH WITH SMALL NOON ABOVE",
   "cYEH WITH TWO DOTS BELOW AND SMALL NOON ABOVE;cAFRICAN FEH;dQAF;dNOON;cPEH WITH SMALL V",
   "cTEH WITH SMALL V;cTTEH WITH SMALL V;cTCHEH WITH SMALL V;cKEHEH WITH SMALL V",
   "cGHAIN WITH THREE DOTS ABOVE;cAFRICAN QAF WITH THREE DOTS ABOVE",
   "cJEEM WITH THREE DOTS ABOVE;gBELOW;cLAM WITH SMALL ARABIC LETTER TAH ABOVE;cGRAF",
   "bSMALL FARSI YEH;cHIGH FARSI YEH;dYEH BARREE WITH TWO DOTS BELOW;dWORD SAH;dZAH",
   "bLARGE ROUND DOT ABOVE;eBELOW;bSUKUN BELOW;bLARGE CIRCLE BELOW",
   "cROUND DOT INSIDE CIRCLE BELOW;bSMALL LOW WAW;cHIGH WORD AR-RUB;dSAD;dAIN;dQAF",
   "dNOON WITH KASRA;cLOW NOON WITH KASRA;cHIGH WORD ATH-THALATHA;eAS-SAJDA;eAN-NISF;eSAKTA",
   "eQIF;eWAQFA;dFOOTNOTE MARKER;dSIGN SAFHA;bDISPUTED END OF AYAH;bTURNED DAMMA BELOW",
   "bCURLY FATHA;cDAMMA;cKASRA;cFATHATAN;cDAMMATAN;cKASRATAN;bTONE ONE DOT ABOVE",
   "cTWO DOTS ABOVE;cLOOP ABOVE;cONE DOT BELOW;cTWO DOTS BELOW;cLOOP BELOW;bOPEN FATHATAN",
   "cDAMMATAN;cKASRATAN;bSMALL HIGH WAW;bFATHA WITH RING;dDOT ABOVE;bKASRA WITH DOT BELOW",
   "bLEFT ARROWHEAD ABOVE;bRIGHT ARROWHEAD ABOVE;bLEFT ARROWHEAD BELOW;bRIGHT ARROWHEAD BELOW",
   "bDOUBLE RIGHT ARROWHEAD ABOVE;fWITH DOT;bRIGHT ARROWHEAD ABOVE WITH DOT;bDAMMA WITH DOT",
   "bMARK SIDEWAYS NOON GHUNNA;aDEVANAGARI SIGN INVERTED CANDRABINDU;cCANDRABINDU;cANUSVARA",
   "cVISARGA;bLETTER SHORT A;cA;cAA;cI;cII;cU;cUU;cVOCALIC R;dL;cCANDRA E;cSHORT E;cE;cAI",
   "cCANDRA O;cSHORT O;cO;cAU;cKA;cKHA;cGA;cGHA;cNGA;cCA;cCHA;cJA;cJHA;cNYA;cTTA;cTTHA;cDDA",
   "cDDHA;cNNA;cTA;cTHA;cDA;cDHA;cNA;cNNNA;cPA;cPHA;cBA;cBHA;cMA;cYA;cRA;cRRA;cLA;cLLA;cLLLA",
   "cVA;cSHA;cSSA;cSA;cHA;bVOWEL SIGN OE;dOOE;bSIGN NUKTA;cAVAGRAHA;bVOWEL SIGN AA;dI;dII;dU",
   "dUU;dVOCALIC R;eRR;dCANDRA E;dSHORT E;dE;dAI;dCANDRA O;dSHORT O;dO;dAU;bSIGN VIRAMA",
   "bVOWEL SIGN PRISHTHAMATRA E;dAW;bOM;bSTRESS SIGN UDATTA;dANUDATTA;bGRAVE ACCENT",
   "bACUTE ACCENT;bVOWEL SIGN CANDRA LONG E;dUE;dUUE;bLETTER QA;cKHHA;cGHHA;cZA;cDDDHA;cRHA",
   "cFA;cYYA;cVOCALIC RR;dLL;bVOWEL SIGN VOCALIC L;eLL;bDANDA;bDOUBLE DANDA;bDIGIT ZERO;cONE",
   "cTWO;cTHREE;cFOUR;cFIVE;cSIX;cSEVEN;cEIGHT;cNINE;bABBREVIATION SIGN;bSIGN HIGH SPACING DOT",
   "bLETTER CANDRA A;cOE;cOOE;cAW;cUE;cUUE;cMARWARI DDA;cZHA;cHEAVY YA;cGGA;cJJA;cGLOTTAL STOP",
   "cDDDA;cBBA;aBENGALI ANJI;bSIGN CANDRABINDU;cANUSVARA;cVISARGA;985:bLETTER A;cAA;cI;cII;cU",
   "cUU;cVOCALIC R;dL;98F:cE;cAI;993:cO;cAU;cKA;cKHA;cGA;cGHA;cNGA;cCA;cCHA;cJA;cJHA;cNYA;cTTA",
   "cTTHA;cDDA;cDDHA;cNNA;cTA;cTHA;cDA;cDHA;cNA;9AA:cPA;cPHA;cBA;cBHA;cMA;cYA;cRA;9B2:cLA",
   "9B6:cSHA;cSSA;cSA;cHA;9BC:bSIGN NUKTA;cAVAGRAHA;bVOWEL SIGN AA;dI;dII;dU;dUU;dVOCALIC R",
   "eRR;9C7:dE;dAI;9CB:dO;dAU;bSIGN VIRAMA;bLETTER KHANDA TA;9D7:bAU LENGTH MARK",
   "9DC:bLETTER RRA;cRHA;9DF:cYYA;cVOCALIC RR;dLL;bVOWEL SIGN VOCALIC L;eLL;9E6:bDIGIT ZERO",
   "cONE;cTWO;cTHREE;cFOUR;cFIVE;cSIX;cSEVEN;cEIGHT;cNINE;bLETTER RA WITH MIDDLE DIAGONAL",
   "eLOWER DIAGONAL;bRUPEE MARK;cSIGN;bCURRENCY NUMERATOR ONE;dTWO;dTHREE;dFOUR",
   "dONE LESS THAN THE DENOMINATOR;cDENOMINATOR SIXTEEN;bISSHAR;bGANDA MARK",
   "bLETTER VEDIC ANUSVARA;bABBREVIATION SIGN;bSANDHI MARK;A01:aGURMUKHI SIGN ADAK BINDI",
   "cBINDI;cVISARGA;A05:bLETTER A;cAA;cI;cII;cU;cUU;A0F:cEE;cAI;A13:cOO;cAU;cKA;cKHA;cGA;cGHA",
   "cNGA;cCA;cCHA;cJA;cJHA;cNYA;cTTA;cTTHA;cDDA;cDDHA;cNNA;cTA;cTHA;cDA;cDHA;cNA;A2A:cPA;cPHA",
   "cBA;cBHA;cMA;cYA;cRA;A32:cLA;cLLA;A35:cVA;cSHA;A38:cSA;cHA;A3C:bSIGN NUKTA",
   "A3E:bVOWEL SIGN AA;dI;dII;dU;dUU;A47:dEE;dAI;A4B:dOO;dAU;bSIGN VIRAMA;A51:cUDAAT",
   "A59:bLETTER KHHA;cGHHA;cZA;cRRA;A5E:cFA;A66:bDIGIT ZERO;cONE;cTWO;cTHREE;cFOUR;cFIVE;cSIX",
   "cSEVEN;cEIGHT;cNINE;bTIPPI;bADDAK;bIRI;bURA;bEK ONKAR;bSIGN YAKASH;bABBREVIATION SIGN",
   "A81:aGUJARATI SIGN CANDRABINDU;cANUSVARA;cVISARGA;A85:bLETTER A;cAA;cI;cII;cU;cUU",
   "cVOCALIC R;dL;bVOWEL CANDRA E;A8F:bLETTER E;cAI;bVOWEL CANDRA O;A93:bLETTER O;cAU;cKA;cKHA",
   "cGA;cGHA;cNGA;cCA;cCHA;cJA;cJHA;cNYA;cTTA;cTTHA;cDDA;cDDHA;cNNA;cTA;cTHA;cDA;cDHA;cNA",
   "AAA:cPA;cPHA;cBA;cBHA;cMA;cYA;cRA;AB2:cLA;cLLA;AB5:cVA;cSHA;cSSA;cSA;cHA;ABC:bSIGN NUKTA",
   "cAVAGRAHA;bVOWEL SIGN AA;dI;dII;dU;dUU;dVOCALIC R;eRR;dCANDRA E;AC7:dE;dAI;dCANDRA O",
   "ACB:dO;dAU;bSIGN VIRAMA;AD0:bOM;AE0:bLETTER VOCALIC RR;dLL;bVOWEL SIGN VOCALIC L;eLL",
   "AE6:bDIGIT ZERO;cONE;cTWO;cTHREE;cFOUR;cFIVE;cSIX;cSEVEN;cEIGHT;cNINE;bABBREVIATION SIGN",
   "bRUPEE SIGN;AF9:bLETTER ZHA;bSIGN SUKUN;cSHADDA;cMADDAH;cTHREE-DOT NUKTA ABOVE",
   "cCIRCLE NUKTA ABOVE;cTWO-CIRCLE NUKTA ABOVE;B01:aORIYA SIGN CANDRABINDU;cANUSVARA;cVISARGA",
   "B05:bLETTER A;cAA;cI;cII;cU;cUU;cVOCALIC R;dL;B0F:cE;cAI;B13:cO;cAU;cKA;cKHA;cGA;cGHA;cNGA",
   "cCA;cCHA;cJA;cJHA;cNYA;cTTA;cTTHA;cDDA;cDDHA;cNNA;cTA;cTHA;cDA;cDHA;cNA;B2A:cPA;cPHA;cBA",
   "cBHA;cMA;cYA;cRA;B32:cLA;cLLA;B35:cVA;cSHA;cSSA;cSA;cHA;B3C:bSIGN NUKTA;cAVAGRAHA",
   "bVOWEL SIGN AA;dI;dII;dU;dUU;dVOCALIC R;eRR;B47:dE;dAI;B4B:dO;dAU;bSIGN VIRAMA",
   "B55:cOVERLINE;bAI LENGTH MARK;bAU LENGTH MARK;B5C:bLETTER RRA;cRHA;B5F:cYYA;cVOCALIC RR",
   "dLL;bVOWEL SIGN VOCALIC L;eLL;B66:bDIGIT ZERO;cONE;cTWO;cTHREE;cFOUR;cFIVE;cSIX;cSEVEN",
   "cEIGHT;cNINE;bISSHAR;bLETTER WA;bFRACTION ONE QUARTER;dHALF;cTHREE QUARTERS;cONE SIXTEENTH",
   "dEIGHTH;cTHREE SIXTEENTHS;B82:aTAMIL SIGN ANUSVARA;cVISARGA;B85:bLETTER A;cAA;cI;cII;cU",
   "cUU;B8E:cE;cEE;cAI;B92:cO;cOO;cAU;cKA;B99:cNGA;cCA;B9C:cJA;B9E:cNYA;cTTA;BA3:cNNA;cTA",
   "BA8:cNA;cNNNA;cPA;BAE:cMA;cYA;cRA;cRRA;cLA;cLLA;cLLLA;cVA;cSHA;cSSA;cSA;cHA",
   "BBE:bVOWEL SIGN AA;dI;dII;dU;dUU;BC6:dE;dEE;dAI;BCA:dO;dOO;dAU;bSIGN VIRAMA;BD0:bOM",
   "BD7:bAU LENGTH MARK;BE6:bDIGIT ZERO;cONE;cTWO;cTHREE;cFOUR;cFIVE;cSIX;cSEVEN;cEIGHT;cNINE",
   "bNUMBER TEN;cONE HUNDRED;dTHOUSAND;bDAY SIGN;bMONTH SIGN;bYEAR SIGN;bDEBIT SIGN",
   "bCREDIT SIGN;bAS ABOVE SIGN;bRUPEE SIGN;bNUMBER SIGN",
   "C00:aTELUGU SIGN COMBINING CANDRABINDU ABOVE;cCANDRABINDU;cANUSVARA;cVISARGA",
   "cCOMBINING ANUSVARA ABOVE;bLETTER A;cAA;cI;cII;cU;cUU;cVOCALIC R;dL;C0E:cE;cEE;cAI;C12:cO",
   "cOO;cAU;cKA;cKHA;cGA;cGHA;cNGA;cCA;cCHA;cJA;cJHA;cNYA;cTTA;cTTHA;cDDA;cDDHA;cNNA;cTA;cTHA",
   "cDA;cDHA;cNA;C2A:cPA;cPHA;cBA;cBHA;cMA;cYA;cRA;cRRA;cLA;cLLA;cLLLA;cVA;cSHA;cSSA;cSA;cHA",
   "C3C:bSIGN NUKTA;cAVAGRAHA;bVOWEL SIGN AA;dI;dII;dU;dUU;dVOCALIC R;eRR;C46:dE;dEE;dAI",
   "C4A:dO;dOO;dAU;bSIGN VIRAMA;C55:bLENGTH MARK;bAI LENGTH MARK;C58:bLETTER TSA;cDZA;cRRRA",
   "C5D:cNAKAARA POLLU;C60:cVOCALIC RR;dLL;bVOWEL SIGN VOCALIC L;eLL;C66:bDIGIT ZERO;cONE;cTWO",
   "cTHREE;cFOUR;cFIVE;cSIX;cSEVEN;cEIGHT;cNINE;C77:bSIGN SIDDHAM",
   "bFRACTION DIGIT ZERO FOR ODD POWERS OF FOUR;dONE FOR ODD POWERS OF FOUR",
   "dTWO FOR ODD POWERS OF FOUR;dTHREE FOR ODD POWERS OF FOUR;dONE FOR EVEN POWERS OF FOUR",
   "dTWO FOR EVEN POWERS OF FOUR;dTHREE FOR EVEN POWERS OF FOUR;bSIGN TUUMU",
   "aKANNADA SIGN SPACING CANDRABINDU;cCANDRABINDU;cANUSVARA;cVISARGA;cSIDDHAM;bLETTER A;cAA",
   "cI;cII;cU;cUU;cVOCALIC R;dL;C8E:cE;cEE;cAI;C92:cO;cOO;cAU;cKA;cKHA;cGA;cGHA;cNGA;cCA;cCHA",
   "cJA;cJHA;cNYA;cTTA;cTTHA;cDDA;cDDHA;cNNA;cTA;cTHA;cDA;cDHA;cNA;CAA:cPA;cPHA;cBA;cBHA;cMA",
   "cYA;cRA;cRRA;cLA;cLLA;CB5:cVA;cSHA;cSSA;cSA;cHA;CBC:bSIGN NUKTA;cAVAGRAHA;bVOWEL SIGN AA",
   "dI;dII;dU;dUU;dVOCALIC R;eRR;CC6:dE;dEE;dAI;CCA:dO;dOO;dAU;bSIGN VIRAMA;CD5:bLENGTH MARK",
   "bAI LENGTH MARK;CDD:bLETTER NAKAARA POLLU;cFA;CE0:cVOCALIC RR;dLL;bVOWEL SIGN VOCALIC L",
   "eLL;CE6:bDIGIT ZERO;cONE;cTWO;cTHREE;cFOUR;cFIVE;cSIX;cSEVEN;cEIGHT;cNINE",
   "CF1:bSIGN JIHVAMULIYA;cUPADHMANIYA;D00:aMALAYALAM SIGN COMBINING ANUSVARA ABOVE",
   "cCANDRABINDU;cANUSVARA;cVISARGA;bLETTER VEDIC ANUSVARA;cA;cAA;cI;cII;cU;cUU;cVOCALIC R;dL",
   "D0E:cE;cEE;cAI;D12:cO;cOO;cAU;cKA;cKHA;cGA;cGHA;cNGA;cCA;cCHA;cJA;cJHA;cNYA;cTTA;cTTHA",
   "cDDA;cDDHA;cNNA;cTA;cTHA;cDA;cDHA;cNA;cNNNA;cPA;cPHA;cBA;cBHA;cMA;cYA;cRA;cRRA;cLA;cLLA",
   "cLLLA;cVA;cSHA;cSSA;cSA;cHA;cTTTA;bSIGN VERTICAL BAR VIRAMA;cCIRCULAR VIRAMA;cAVAGRAHA",
   "bVOWEL SIGN AA;dI;dII;dU;dUU;dVOCALIC R;eRR;D46:dE;dEE;dAI;D4A:dO;dOO;dAU;bSIGN VIRAMA",
   "bLETTER DOT REPH;bSIGN PARA;D54:bLETTER CHILLU M;dY;dLLL;bAU LENGTH MARK",
   "bFRACTION ONE ONE-HUNDRED-AND-SIXTIETH;dFORTIETH;cTHREE EIGHTIETHS;cONE TWENTIETH;dTENTH",
   "cTHREE TWENTIETHS;cONE FIFTH;bLETTER ARCHAIC II;cVOCALIC RR;dLL;bVOWEL SIGN VOCALIC L;eLL",
   "D66:bDIGIT ZERO;cONE;cTWO;cTHREE;cFOUR;cFIVE;cSIX;cSEVEN;cEIGHT;cNINE;bNUMBER TEN",
   "cONE HUNDRED;dTHOUSAND;bFRACTION ONE QUARTER;dHALF;cTHREE QUARTERS;cONE SIXTEENTH;dEIGHTH",
   "cTHREE SIXTEENTHS;bDATE MARK;bLETTER CHILLU NN;dN;dRR;dL;dLL;dK",
   "D81:aSINHALA SIGN CANDRABINDU;cANUSVARAYA;cVISARGAYA;D85:bLETTER AYANNA;cAAYANNA;cAEYANNA",
   "cAEEYANNA;cIYANNA;cIIYANNA;cUYANNA;cUUYANNA;cIRUYANNA;cIRUUYANNA;cILUYANNA;cILUUYANNA",
   "cEYANNA;cEEYANNA;cAIYANNA;cOYANNA;cOOYANNA;cAUYANNA;D9A:cALPAPRAANA KAYANNA",
   "cMAHAAPRAANA KAYANNA;cALPAPRAANA GAYANNA;cMAHAAPRAANA GAYANNA;cKANTAJA NAASIKYAYA",
   "cSANYAKA GAYANNA;cALPAPRAANA CAYANNA;cMAHAAPRAANA CAYANNA;cALPAPRAANA JAYANNA",
   "cMAHAAPRAANA JAYANNA;cTAALUJA NAASIKYAYA;dSANYOOGA NAAKSIKYAYA;cSANYAKA JAYANNA",
   "cALPAPRAANA TTAYANNA;cMAHAAPRAANA TTAYANNA;cALPAPRAANA DDAYANNA;cMAHAAPRAANA DDAYANNA",
   "cMUURDHAJA NAYANNA;cSANYAKA DDAYANNA;cALPAPRAANA TAYANNA;cMAHAAPRAANA TAYANNA",
   "cALPAPRAANA DAYANNA;cMAHAAPRAANA DAYANNA;cDANTAJA NAYANNA;DB3:cSANYAKA DAYANNA",
   "cALPAPRAANA PAYANNA;cMAHAAPRAANA PAYANNA;cALPAPRAANA BAYANNA;cMAHAAPRAANA BAYANNA;cMAYANNA",
   "cAMBA BAYANNA;cYAYANNA;cRAYANNA;DBD:cDANTAJA LAYANNA;DC0:cVAYANNA;cTAALUJA SAYANNA",
   "cMUURDHAJA SAYANNA;cDANTAJA SAYANNA;cHAYANNA;cMUURDHAJA LAYANNA;cFAYANNA",
   "DCA:bSIGN AL-LAKUNA;DCF:bVOWEL SIGN AELA-PILLA;dKETTI AEDA-PILLA;dDIGA AEDA-PILLA",
   "dKETTI IS-PILLA;dDIGA IS-PILLA;dKETTI PAA-PILLA;DD6:dDIGA PAA-PILLA;DD8:dGAETTA-PILLA",
   "dKOMBUVA;dDIGA KOMBUVA;dKOMBU DEKA;dKOMBUVA HAA AELA-PILLA;fDIGA AELA-PILLA;fGAYANUKITTA",
   "dGAYANUKITTA;DE6:bLITH DIGIT ZERO;dONE;dTWO;dTHREE;dFOUR;dFIVE;dSIX;dSEVEN;dEIGHT;dNINE",
   "DF2:bVOWEL SIGN DIGA GAETTA-PILLA;eGAYANUKITTA;bPUNCTUATION KUNDDALIYA",
   "E01:aTHAI CHARACTER KO KAI;cKHO KHAI;dKHUAT;dKHWAI;dKHON;dRAKHANG;cNGO NGU;cCHO CHAN",
   "dCHING;dCHANG;cSO SO;cCHO CHOE;cYO YING;cDO CHADA;cTO PATAK;cTHO THAN;dNANGMONTHO;dPHUTHAO",
   "cNO NEN;cDO DEK;cTO TAO;cTHO THUNG;dTHAHAN;dTHONG;cNO NU;cBO BAIMAI;cPO PLA;cPHO PHUNG",
   "cFO FA;cPHO PHAN;cFO FAN;cPHO SAMPHAO;cMO MA;cYO YAK;cRO RUA;cRU;cLO LING;cLU;cWO WAEN",
   "cSO SALA;dRUSI;dSUA;cHO HIP;cLO CHULA;cO ANG;cHO NOKHUK;cPAIYANNOI;cSARA A;cMAI HAN-AKAT",
   "cSARA AA;dAM;dI;dII;dUE;dUEE;dU;dUU;cPHINTHU;E3F:bCURRENCY SYMBOL BAHT;bCHARACTER SARA E",
   "dAE;dO;dAI MAIMUAN;eMAIMALAI;cLAKKHANGYAO;cMAIYAMOK;cMAITAIKHU;cMAI EK;dTHO;dTRI;dCHATTAWA",
   "cTHANTHAKHAT;cNIKHAHIT;cYAMAKKAN;cFONGMAN;bDIGIT ZERO;cONE;cTWO;cTHREE;cFOUR;cFIVE;cSIX",
   "cSEVEN;cEIGHT;cNINE;bCHARACTER ANGKHANKHU;cKHOMUT;E81:aLAO LETTER KO;cKHO SUNG;E84:dTAM",
   "E86:cPALI GHA;cNGO;cCO;cPALI CHA;cSO TAM;E8C:cPALI JHA;cNYO;cPALI NYA;dTTA;dTTHA;dDDA",
   "dDDHA;dNNA;cDO;cTO;cTHO SUNG;dTAM;cPALI DHA;cNO;cBO;cPO;cPHO SUNG;cFO TAM;cPHO TAM",
   "cFO SUNG;cPALI BHA;cMO;cYO;cLO LING;EA5:dLOOT;EA7:cWO;cSANSKRIT SHA;dSSA;cSO SUNG;cHO SUNG",
   "cPALI LLA;cO;cHO TAM;bELLIPSIS;bVOWEL SIGN A;dMAI KAN;dAA;dAM;dI;dII;dY;dYY;dU;dUU",
   "bSIGN PALI VIRAMA;bVOWEL SIGN MAI KON;bSEMIVOWEL SIGN LO;dNYO;EC0:bVOWEL SIGN E;dEI;dO;dAY",
   "dAI;EC6:bKO LA;EC8:bTONE MAI EK;dTHO;dTI;dCATAWA;bCANCELLATION MARK;bNIGGAHITA",
   "ED0:bDIGIT ZERO;cONE;cTWO;cTHREE;cFOUR;cFIVE;cSIX;cSEVEN;cEIGHT;cNINE;EDC:bHO NO;cMO",
   "bLETTER KHMU GO;dNYO;F00:aTIBETAN SYLLABLE OM;bMARK GTER YIG MGO TRUNCATED A",
   "f-UM RNAM BCAD MA;gGTER TSHEG MA;cINITIAL YIG MGO MDUN MA;cCLOSING YIG MGO SGAB MA",
   "cCARET YIG MGO PHUR SHAD MA;cYIG MGO TSHEG SHAD MA;cSBRUL SHAD;cBSKUR YIG MGO",
   "cBKA- SHOG YIG MGO;cINTERSYLLABIC TSHEG;cDELIMITER TSHEG BSTAR;cSHAD;cNYIS SHAD",
   "cTSHEG SHAD;cNYIS TSHEG SHAD;cRIN CHEN SPUNGS SHAD;cRGYA GRAM SHAD",
   "cCARET -DZUD RTAGS ME LONG CAN;cGTER TSHEG;bLOGOTYPE SIGN CHAD RTAGS;dLHAG RTAGS",
   "bASTROLOGICAL SIGN SGRA GCAN -CHAR RTAGS;d-KHYUD PA;dSDONG TSHUGS;bSIGN RDEL DKAR GCIG",
   "eGNYIS;eGSUM;dNAG GCIG;eGNYIS;dDKAR RDEL NAG;bDIGIT ZERO;cONE;cTWO;cTHREE;cFOUR;cFIVE;cSIX",
   "cSEVEN;cEIGHT;cNINE;cHALF ONE;dTWO;dTHREE;dFOUR;dFIVE;dSIX;dSEVEN;dEIGHT;dNINE;dZERO",
   "bMARK BSDUS RTAGS;cNGAS BZUNG NYI ZLA;cCARET -DZUD RTAGS BZHI MIG CAN",
   "cNGAS BZUNG SGOR RTAGS;cCHE MGO;cTSA -PHRU;cGUG RTAGS GYON;eGYAS;cANG KHANG GYON;eGYAS",
   "bSIGN YAR TSHES;cMAR TSHES;bLETTER KA;cKHA;cGA;cGHA;cNGA;cCA;cCHA;cJA;F49:cNYA;cTTA;cTTHA",
   "cDDA;cDDHA;cNNA;cTA;cTHA;cDA;cDHA;cNA;cPA;cPHA;cBA;cBHA;cMA;cTSA;cTSHA;cDZA;cDZHA;cWA;cZHA",
   "cZA;c-A;cYA;cRA;cLA;cSHA;cSSA;cSA;cHA;cA;cKSSA;cFIXED-FORM RA;cKKA;cRRA;F71:bVOWEL SIGN AA",
   "dI;dII;dU;dUU;dVOCALIC R;eRR;eL;eLL;dE;dEE;dO;dOO;bSIGN RJES SU NGA RO;cRNAM BCAD",
   "bVOWEL SIGN REVERSED I;eII;bSIGN NYI ZLA NAA DA;cSNA LDAN;bMARK HALANTA;cPALUTA",
   "bSIGN LCI RTAGS;cYANG RTAGS;cLCE TSA CAN;cMCHU CAN;cGRU CAN RGYINGS;dMED RGYINGS",
   "cINVERTED MCHU CAN;bSUBJOINED SIGN LCE TSA CAN;dMCHU CAN;dINVERTED MCHU CAN;cLETTER KA",
   "dKHA;dGA;dGHA;dNGA;dCA;dCHA;dJA;F99:dNYA;dTTA;dTTHA;dDDA;dDDHA;dNNA;dTA;dTHA;dDA;dDHA;dNA",
   "dPA;dPHA;dBA;dBHA;dMA;dTSA;dTSHA;dDZA;dDZHA;dWA;dZHA;dZA;d-A;dYA;dRA;dLA;dSHA;dSSA;dSA;dHA",
   "dA;dKSSA;dFIXED-FORM WA;eYA;eRA;FBE:bKU RU KHA;eBZHI MIG CAN;bCANTILLATION SIGN HEAVY BEAT",
   "dLIGHT BEAT;dCANG TE-U;dSBUB -CHAL;bSYMBOL DRIL BU;cRDO RJE;cPADMA GDAN;cRDO RJE RGYA GRAM",
   "cPHUR PA;cNOR BU;eNYIS -KHYIL;eGSUM -KHYIL;eBZHI -KHYIL;FCE:bSIGN RDEL NAG RDEL DKAR;eGSUM",
   "bMARK BSKA- SHOG GI MGO RGYAN;cMNYAM YIG GI MGO RGYAN;cNYIS TSHEG",
   "cINITIAL BRDA RNYING YIG MGO MDUN MA;cCLOSING BRDA RNYING YIG MGO SGAB MA",
   "aRIGHT-FACING SVASTI SIGN;aLEFT-FACING SVASTI SIGN;aRIGHT-FACING SVASTI SIGN WITH DOTS",
   "aLEFT-FACING SVASTI SIGN WITH DOTS;aTIBETAN MARK LEADING MCHAN RTAGS;cTRAILING MCHAN RTAGS",
   "1000:aMYANMAR LETTER KA;cKHA;cGA;cGHA;cNGA;cCA;cCHA;cJA;cJHA;cNYA;cNNYA;cTTA;cTTHA;cDDA",
   "cDDHA;cNNA;cTA;cTHA;cDA;cDHA;cNA;cPA;cPHA;cBA;cBHA;cMA;cYA;cRA;cLA;cWA;cSA;cHA;cLLA;cA",
   "cSHAN A;cI;cII;cU;cUU;cE;cMON E;cO;cAU;bVOWEL SIGN TALL AA;dAA;dI;dII;dU;dUU;dE;dAI",
   "dMON II;eO;dE ABOVE;bSIGN ANUSVARA;cDOT BELOW;cVISARGA;cVIRAMA;cASAT",
   "bCONSONANT SIGN MEDIAL YA;eRA;eWA;eHA;bLETTER GREAT SA;bDIGIT ZERO;cONE;cTWO;cTHREE;cFOUR",
   "cFIVE;cSIX;cSEVEN;cEIGHT;cNINE;bSIGN LITTLE SECTION;cSECTION;bSYMBOL LOCATIVE;cCOMPLETED",
   "cAFOREMENTIONED;cGENITIVE;bLETTER SHA;cSSA;cVOCALIC R;dRR;dL;dLL;bVOWEL SIGN VOCALIC R;eRR",
   "eL;eLL;bLETTER MON NGA;dJHA;dBBA;dBBE;bCONSONANT SIGN MON MEDIAL NA;fMA;fLA",
   "bLETTER SGAW KAREN SHA;bVOWEL SIGN SGAW KAREN EU;bTONE MARK SGAW KAREN HATHI;fKE PHO",
   "bLETTER WESTERN PWO KAREN THA;fPWA;bVOWEL SIGN WESTERN PWO KAREN EU;gUE",
   "bSIGN WESTERN PWO KAREN TONE-1;fTONE-2;fTONE-3;fTONE-4;fTONE-5",
   "bLETTER EASTERN PWO KAREN NNA;fYWA;fGHWA;bVOWEL SIGN GEBA KAREN I;dKAYAH OE;eU;eEE",
   "bLETTER SHAN KA;dKHA;dGA;dCA;dZA;dNYA;dDA;dNA;dPHA;dFA;dBA;dTHA;dHA",
   "bCONSONANT SIGN SHAN MEDIAL WA;bVOWEL SIGN SHAN AA;eE;fABOVE;eFINAL Y;bSIGN SHAN TONE-2",
   "dTONE-3;dTONE-5;dTONE-6;dCOUNCIL TONE-2;eTONE-3;eEMPHATIC TONE;bLETTER RUMAI PALAUNG FA",
   "bSIGN RUMAI PALAUNG TONE-5;bSHAN DIGIT ZERO;dONE;dTWO;dTHREE;dFOUR;dFIVE;dSIX;dSEVEN",
   "dEIGHT;dNINE;bSIGN KHAMTI TONE-1;dTONE-3;bVOWEL SIGN AITON A;eAI;bSYMBOL SHAN ONE",
   "dEXCLAMATION;aGEORGIAN CAPITAL LETTER AN;dBAN;dGAN;dDON;dEN;dVIN;dZEN;dTAN;dIN;dKAN;dLAS",
   "dMAN;dNAR;dON;dPAR;dZHAR;dRAE;dSAN;dTAR;dUN;dPHAR;dKHAR;dGHAN;dQAR;dSHIN;dCHIN;dCAN;dJIL",
   "dCIL;dCHAR;dXAN;dJHAN;dHAE;dHE;dHIE;dWE;dHAR;dHOE;10C7:dYN;10CD:dAEN;10D0:bLETTER AN;cBAN",
   "cGAN;cDON;cEN;cVIN;cZEN;cTAN;cIN;cKAN;cLAS;cMAN;cNAR;cON;cPAR;cZHAR;cRAE;cSAN;cTAR;cUN",
   "cPHAR;cKHAR;cGHAN;cQAR;cSHIN;cCHIN;cCAN;cJIL;cCIL;cCHAR;cXAN;cJHAN;cHAE;cHE;cHIE;cWE;cHAR",
   "cHOE;cFI;cYN;cELIFI;cTURNED GAN;cAIN;bPARAGRAPH SEPARATOR;aMODIFIER LETTER GEORGIAN NAR",
   "aGEORGIAN LETTER AEN;cHARD SIGN;cLABIAL SIGN;aHANGUL CHOSEONG KIYEOK;cSSANGKIYEOK;cNIEUN",
   "cTIKEUT;cSSANGTIKEUT;cRIEUL;cMIEUM;cPIEUP;cSSANGPIEUP;cSIOS;cSSANGSIOS;cIEUNG;cCIEUC",
   "cSSANGCIEUC;cCHIEUCH;cKHIEUKH;cTHIEUTH;cPHIEUPH;cHIEUH;cNIEUN-KIYEOK;cSSANGNIEUN",
   "cNIEUN-TIKEUT;cNIEUN-PIEUP;cTIKEUT-KIYEOK;cRIEUL-NIEUN;cSSANGRIEUL;cRIEUL-HIEUH",
   "cKAPYEOUNRIEUL;cMIEUM-PIEUP;cKAPYEOUNMIEUM;cPIEUP-KIYEOK;cPIEUP-NIEUN;cPIEUP-TIKEUT",
   "cPIEUP-SIOS;cPIEUP-SIOS-KIYEOK;cPIEUP-SIOS-TIKEUT;cPIEUP-SIOS-PIEUP;cPIEUP-SSANGSIOS",
   "cPIEUP-SIOS-CIEUC;cPIEUP-CIEUC;cPIEUP-CHIEUCH;cPIEUP-THIEUTH;cPIEUP-PHIEUPH;cKAPYEOUNPIEUP",
   "cKAPYEOUNSSANGPIEUP;cSIOS-KIYEOK;cSIOS-NIEUN;cSIOS-TIKEUT;cSIOS-RIEUL;cSIOS-MIEUM",
   "cSIOS-PIEUP;cSIOS-PIEUP-KIYEOK;cSIOS-SSANGSIOS;cSIOS-IEUNG;cSIOS-CIEUC;cSIOS-CHIEUCH",
   "cSIOS-KHIEUKH;cSIOS-THIEUTH;cSIOS-PHIEUPH;cSIOS-HIEUH;cCHITUEUMSIOS;cCHITUEUMSSANGSIOS",
   "cCEONGCHIEUMSIOS;cCEONGCHIEUMSSANGSIOS;cPANSIOS;cIEUNG-KIYEOK;cIEUNG-TIKEUT;cIEUNG-MIEUM",
   "cIEUNG-PIEUP;cIEUNG-SIOS;cIEUNG-PANSIOS;cSSANGIEUNG;cIEUNG-CIEUC;cIEUNG-CHIEUCH",
   "cIEUNG-THIEUTH;cIEUNG-PHIEUPH;cYESIEUNG;cCIEUC-IEUNG;cCHITUEUMCIEUC;cCHITUEUMSSANGCIEUC",
   "cCEONGCHIEUMCIEUC;cCEONGCHIEUMSSANGCIEUC;cCHIEUCH-KHIEUKH;cCHIEUCH-HIEUH;cCHITUEUMCHIEUCH",
   "cCEONGCHIEUMCHIEUCH;cPHIEUPH-PIEUP;cKAPYEOUNPHIEUPH;cSSANGHIEUH;cYEORINHIEUH",
   "cKIYEOK-TIKEUT;cNIEUN-SIOS;cNIEUN-CIEUC;cNIEUN-HIEUH;cTIKEUT-RIEUL;cFILLER",
   "bJUNGSEONG FILLER;cA;cAE;cYA;cYAE;cEO;cE;cYEO;cYE;cO;cWA;cWAE;cOE;cYO;cU;cWEO;cWE;cWI;cYU",
   "cEU;cYI;cI;cA-O;cA-U;cYA-O;cYA-YO;cEO-O;cEO-U;cEO-EU;cYEO-O;cYEO-U;cO-EO;cO-E;cO-YE;cO-O",
   "cO-U;cYO-YA;cYO-YAE;cYO-YEO;cYO-O;cYO-I;cU-A;cU-AE;cU-EO-EU;cU-YE;cU-U;cYU-A;cYU-EO;cYU-E",
   "cYU-YEO;cYU-YE;cYU-U;cYU-I;cEU-U;cEU-EU;cYI-U;cI-A;cI-YA;cI-O;cI-U;cI-EU;cI-ARAEA;cARAEA",
   "cARAEA-EO;cARAEA-U;cARAEA-I;cSSANGARAEA;cA-EU;cYA-U;cYEO-YA;cO-YA;cO-YAE;bJONGSEONG KIYEOK",
   "cSSANGKIYEOK;cKIYEOK-SIOS;cNIEUN;cNIEUN-CIEUC;cNIEUN-HIEUH;cTIKEUT;cRIEUL;cRIEUL-KIYEOK",
   "cRIEUL-MIEUM;cRIEUL-PIEUP;cRIEUL-SIOS;cRIEUL-THIEUTH;cRIEUL-PHIEUPH;cRIEUL-HIEUH;cMIEUM",
   "cPIEUP;cPIEUP-SIOS;cSIOS;cSSANGSIOS;cIEUNG;cCIEUC;cCHIEUCH;cKHIEUKH;cTHIEUTH;cPHIEUPH",
   "cHIEUH;cKIYEOK-RIEUL;cKIYEOK-SIOS-KIYEOK;cNIEUN-KIYEOK;cNIEUN-TIKEUT;cNIEUN-SIOS",
   "cNIEUN-PANSIOS;cNIEUN-THIEUTH;cTIKEUT-KIYEOK;cTIKEUT-RIEUL;cRIEUL-KIYEOK-SIOS;cRIEUL-NIEUN",
   "cRIEUL-TIKEUT;cRIEUL-TIKEUT-HIEUH;cSSANGRIEUL;cRIEUL-MIEUM-KIYEOK;cRIEUL-MIEUM-SIOS",
   "cRIEUL-PIEUP-SIOS;cRIEUL-PIEUP-HIEUH;cRIEUL-KAPYEOUNPIEUP;cRIEUL-SSANGSIOS;cRIEUL-PANSIOS",
   "cRIEUL-KHIEUKH;cRIEUL-YEORINHIEUH;cMIEUM-KIYEOK;cMIEUM-RIEUL;cMIEUM-PIEUP;cMIEUM-SIOS",
   "cMIEUM-SSANGSIOS;cMIEUM-PANSIOS;cMIEUM-CHIEUCH;cMIEUM-HIEUH;cKAPYEOUNMIEUM;cPIEUP-RIEUL",
   "cPIEUP-PHIEUPH;cPIEUP-HIEUH;cKAPYEOUNPIEUP;cSIOS-KIYEOK;cSIOS-TIKEUT;cSIOS-RIEUL",
   "cSIOS-PIEUP;cPANSIOS;cIEUNG-KIYEOK;cIEUNG-SSANGKIYEOK;cSSANGIEUNG;cIEUNG-KHIEUKH;cYESIEUNG",
   "cYESIEUNG-SIOS;cYESIEUNG-PANSIOS;cPHIEUPH-PIEUP;cKAPYEOUNPHIEUPH;cHIEUH-NIEUN;cHIEUH-RIEUL",
   "cHIEUH-MIEUM;cHIEUH-PIEUP;cYEORINHIEUH;cKIYEOK-NIEUN;cKIYEOK-PIEUP;cKIYEOK-CHIEUCH",
   "cKIYEOK-KHIEUKH;cKIYEOK-HIEUH;cSSANGNIEUN;aETHIOPIC SYLLABLE HA;cHU;cHI;cHAA;cHEE;cHE;cHO",
   "cHOA;cLA;cLU;cLI;cLAA;cLEE;cLE;cLO;cLWA;cHHA;cHHU;cHHI;cHHAA;cHHEE;cHHE;cHHO;cHHWA;cMA;cMU",
   "cMI;cMAA;cMEE;cME;cMO;cMWA;cSZA;cSZU;cSZI;cSZAA;cSZEE;cSZE;cSZO;cSZWA;cRA;cRU;cRI;cRAA",
   "cREE;cRE;cRO;cRWA;cSA;cSU;cSI;cSAA;cSEE;cSE;cSO;cSWA;cSHA;cSHU;cSHI;cSHAA;cSHEE;cSHE;cSHO",
   "cSHWA;cQA;cQU;cQI;cQAA;cQEE;cQE;cQO;cQOA;cQWA;124A:cQWI;cQWAA;cQWEE;cQWE;1250:cQHA;cQHU",
   "cQHI;cQHAA;cQHEE;cQHE;cQHO;1258:cQHWA;125A:cQHWI;cQHWAA;cQHWEE;cQHWE;1260:cBA;cBU;cBI;cBAA",
   "cBEE;cBE;cBO;cBWA;cVA;cVU;cVI;cVAA;cVEE;cVE;cVO;cVWA;cTA;cTU;cTI;cTAA;cTEE;cTE;cTO;cTWA",
   "cCA;cCU;cCI;cCAA;cCEE;cCE;cCO;cCWA;cXA;cXU;cXI;cXAA;cXEE;cXE;cXO;cXOA;cXWA;128A:cXWI;cXWAA",
   "cXWEE;cXWE;1290:cNA;cNU;cNI;cNAA;cNEE;cNE;cNO;cNWA;cNYA;cNYU;cNYI;cNYAA;cNYEE;cNYE;cNYO",
   "cNYWA;cGLOTTAL A;dU;dI;dAA;dEE;dE;dO;dWA;cKA;cKU;cKI;cKAA;cKEE;cKE;cKO;cKOA;cKWA;12B2:cKWI",
   "cKWAA;cKWEE;cKWE;12B8:cKXA;cKXU;cKXI;cKXAA;cKXEE;cKXE;cKXO;12C0:cKXWA;12C2:cKXWI;cKXWAA",
   "cKXWEE;cKXWE;12C8:cWA;cWU;cWI;cWAA;cWEE;cWE;cWO;cWOA;cPHARYNGEAL A;dU;dI;dAA;dEE;dE;dO",
   "12D8:cZA;cZU;cZI;cZAA;cZEE;cZE;cZO;cZWA;cZHA;cZHU;cZHI;cZHAA;cZHEE;cZHE;cZHO;cZHWA;cYA;cYU",
   "cYI;cYAA;cYEE;cYE;cYO;cYOA;cDA;cDU;cDI;cDAA;cDEE;cDE;cDO;cDWA;cDDA;cDDU;cDDI;cDDAA;cDDEE",
   "cDDE;cDDO;cDDWA;cJA;cJU;cJI;cJAA;cJEE;cJE;cJO;cJWA;cGA;cGU;cGI;cGAA;cGEE;cGE;cGO;cGOA;cGWA",
   "1312:cGWI;cGWAA;cGWEE;cGWE;1318:cGGA;cGGU;cGGI;cGGAA;cGGEE;cGGE;cGGO;cGGWAA;cTHA;cTHU;cTHI",
   "cTHAA;cTHEE;cTHE;cTHO;cTHWA;cCHA;cCHU;cCHI;cCHAA;cCHEE;cCHE;cCHO;cCHWA;cPHA;cPHU;cPHI",
   "cPHAA;cPHEE;cPHE;cPHO;cPHWA;cTSA;cTSU;cTSI;cTSAA;cTSEE;cTSE;cTSO;cTSWA;cTZA;cTZU;cTZI",
   "cTZAA;cTZEE;cTZE;cTZO;cTZOA;cFA;cFU;cFI;cFAA;cFEE;cFE;cFO;cFWA;cPA;cPU;cPI;cPAA;cPEE;cPE",
   "cPO;cPWA;cRYA;cMYA;cFYA;135D:bCOMBINING GEMINATION AND VOWEL LENGTH MARK",
   "cVOWEL LENGTH MARK;cGEMINATION MARK;bSECTION MARK;bWORDSPACE;bFULL STOP;bCOMMA;bSEMICOLON",
   "bCOLON;bPREFACE COLON;bQUESTION MARK;bPARAGRAPH SEPARATOR;bDIGIT ONE;cTWO;cTHREE;cFOUR",
   "cFIVE;cSIX;cSEVEN;cEIGHT;cNINE;bNUMBER TEN;cTWENTY;cTHIRTY;cFORTY;cFIFTY;cSIXTY;cSEVENTY",
   "cEIGHTY;cNINETY;cHUNDRED;cTEN THOUSAND;1380:bSYLLABLE SEBATBEIT MWA;cMWI;cMWEE;cMWE",
   "cSEBATBEIT BWA;cBWI;cBWEE;cBWE;cSEBATBEIT FWA;cFWI;cFWEE;cFWE;cSEBATBEIT PWA;cPWI;cPWEE",
   "cPWE;bTONAL MARK YIZET;dDERET;dRIKRIK;dSHORT RIKRIK;dDIFAT;dKENAT;dCHIRET;dHIDET",
   "dDERET-HIDET;dKURT;13A0:aCHEROKEE LETTER A;cE;cI;cO;cU;cV;cGA;cKA;cGE;cGI;cGO;cGU;cGV;cHA",
   "cHE;cHI;cHO;cHU;cHV;cLA;cLE;cLI;cLO;cLU;cLV;cMA;cME;cMI;cMO;cMU;cNA;cHNA;cNAH;cNE;cNI;cNO",
   "cNU;cNV;cQUA;cQUE;cQUI;cQUO;cQUU;cQUV;cSA;cS;cSE;cSI;cSO;cSU;cSV;cDA;cTA;cDE;cTE;cDI;cTI",
   "cDO;cDU;cDV;cDLA;cTLA;cTLE;cTLI;cTLO;cTLU;cTLV;cTSA;cTSE;cTSI;cTSO;cTSU;cTSV;cWA;cWE;cWI",
   "cWO;cWU;cWV;cYA;cYE;cYI;cYO;cYU;cYV;cMV;13F8:bSMALL LETTER YE;dYI;dYO;dYU;dYV;dMV",
   "1400:aCANADIAN SYLLABICS HYPHEN;cE;cAAI;cI;cII;cO;cOO;cY-CREE OO;cCARRIER EE;dI;cA;cAA;cWE",
   "cWEST-CREE WE;cWI;cWEST-CREE WI;cWII;cWEST-CREE WII;cWO;cWEST-CREE WO;cWOO;cWEST-CREE WOO",
   "cNASKAPI WOO;cWA;cWEST-CREE WA;cWAA;cWEST-CREE WAA;cNASKAPI WAA;cAI;cY-CREE W",
   "cGLOTTAL STOP;cFINAL ACUTE;dGRAVE;dBOTTOM HALF RING;dTOP HALF RING;dRIGHT HALF RING;dRING",
   "dDOUBLE ACUTE;eSHORT VERTICAL STROKES;dMIDDLE DOT;dSHORT HORIZONTAL STROKE;dPLUS",
   "dDOWN TACK;cEN;cIN;cON;cAN;cPE;cPAAI;cPI;cPII;cPO;cPOO;cY-CREE POO;cCARRIER HEE;dHI;cPA",
   "cPAA;cPWE;cWEST-CREE PWE;cPWI;cWEST-CREE PWI;cPWII;cWEST-CREE PWII;cPWO;cWEST-CREE PWO",
   "cPWOO;cWEST-CREE PWOO;cPWA;cWEST-CREE PWA;cPWAA;cWEST-CREE PWAA;cY-CREE PWAA;cP",
   "cWEST-CREE P;cCARRIER H;cTE;cTAAI;cTI;cTII;cTO;cTOO;cY-CREE TOO;cCARRIER DEE;dDI;cTA;cTAA",
   "cTWE;cWEST-CREE TWE;cTWI;cWEST-CREE TWI;cTWII;cWEST-CREE TWII;cTWO;cWEST-CREE TWO;cTWOO",
   "cWEST-CREE TWOO;cTWA;cWEST-CREE TWA;cTWAA;cWEST-CREE TWAA;cNASKAPI TWAA;cT;cTTE;cTTI;cTTO",
   "cTTA;cKE;cKAAI;cKI;cKII;cKO;cKOO;cY-CREE KOO;cKA;cKAA;cKWE;cWEST-CREE KWE;cKWI",
   "cWEST-CREE KWI;cKWII;cWEST-CREE KWII;cKWO;cWEST-CREE KWO;cKWOO;cWEST-CREE KWOO;cKWA",
   "cWEST-CREE KWA;cKWAA;cWEST-CREE KWAA;cNASKAPI KWAA;cK;cKW;cSOUTH-SLAVEY KEH;dKIH;dKOH;dKAH",
   "cCE;cCAAI;cCI;cCII;cCO;cCOO;cY-CREE COO;cCA;cCAA;cCWE;cWEST-CREE CWE;cCWI;cWEST-CREE CWI",
   "cCWII;cWEST-CREE CWII;cCWO;cWEST-CREE CWO;cCWOO;cWEST-CREE CWOO;cCWA;cWEST-CREE CWA;cCWAA",
   "cWEST-CREE CWAA;cNASKAPI CWAA;cC;cSAYISI TH;cME;cMAAI;cMI;cMII;cMO;cMOO;cY-CREE MOO;cMA",
   "cMAA;cMWE;cWEST-CREE MWE;cMWI;cWEST-CREE MWI;cMWII;cWEST-CREE MWII;cMWO;cWEST-CREE MWO",
   "cMWOO;cWEST-CREE MWOO;cMWA;cWEST-CREE MWA;cMWAA;cWEST-CREE MWAA;cNASKAPI MWAA;cM",
   "cWEST-CREE M;cMH;cATHAPASCAN M;cSAYISI M;cNE;cNAAI;cNI;cNII;cNO;cNOO;cY-CREE NOO;cNA;cNAA",
   "cNWE;cWEST-CREE NWE;cNWA;cWEST-CREE NWA;cNWAA;cWEST-CREE NWAA;cNASKAPI NWAA;cN;cCARRIER NG",
   "cNH;cLE;cLAAI;cLI;cLII;cLO;cLOO;cY-CREE LOO;cLA;cLAA;cLWE;cWEST-CREE LWE;cLWI",
   "cWEST-CREE LWI;cLWII;cWEST-CREE LWII;cLWO;cWEST-CREE LWO;cLWOO;cWEST-CREE LWOO;cLWA",
   "cWEST-CREE LWA;cLWAA;cWEST-CREE LWAA;cL;cWEST-CREE L;cMEDIAL L;cSE;cSAAI;cSI;cSII;cSO;cSOO",
   "cY-CREE SOO;cSA;cSAA;cSWE;cWEST-CREE SWE;cSWI;cWEST-CREE SWI;cSWII;cWEST-CREE SWII;cSWO",
   "cWEST-CREE SWO;cSWOO;cWEST-CREE SWOO;cSWA;cWEST-CREE SWA;cSWAA;cWEST-CREE SWAA",
   "cNASKAPI SWAA;cS;cATHAPASCAN S;cSW;cBLACKFOOT S;cMOOSE-CREE SK;cNASKAPI SKW;dS-W;dSPWA",
   "dSTWA;dSKWA;dSCWA;cSHE;cSHI;cSHII;cSHO;cSHOO;cSHA;cSHAA;cSHWE;cWEST-CREE SHWE;cSHWI",
   "cWEST-CREE SHWI;cSHWII;cWEST-CREE SHWII;cSHWO;cWEST-CREE SHWO;cSHWOO;cWEST-CREE SHWOO",
   "cSHWA;cWEST-CREE SHWA;cSHWAA;cWEST-CREE SHWAA;cSH;cYE;cYAAI;cYI;cYII;cYO;cYOO;cY-CREE YOO",
   "cYA;cYAA;cYWE;cWEST-CREE YWE;cYWI;cWEST-CREE YWI;cYWII;cWEST-CREE YWII;cYWO;cWEST-CREE YWO",
   "cYWOO;cWEST-CREE YWOO;cYWA;cWEST-CREE YWA;cYWAA;cWEST-CREE YWAA;cNASKAPI YWAA;cY",
   "cBIBLE-CREE Y;cWEST-CREE Y;cSAYISI YI;cRE;cR-CREE RE;cWEST-CREE LE;cRAAI;cRI;cRII;cRO;cROO",
   "cWEST-CREE LO;cRA;cRAA;cWEST-CREE LA;cRWAA;cWEST-CREE RWAA;cR;cWEST-CREE R;cMEDIAL R;cFE",
   "cFAAI;cFI;cFII;cFO;cFOO;cFA;cFAA;cFWAA;cWEST-CREE FWAA;cF;cTHE;cN-CREE THE;cTHI",
   "cN-CREE THI;cTHII;cN-CREE THII;cTHO;cTHOO;cTHA;cTHAA;cTHWAA;cWEST-CREE THWAA;cTH;cTTHE",
   "cTTHI;cTTHO;cTTHA;cTTH;cTYE;cTYI;cTYO;cTYA;cNUNAVIK HE;dHI;dHII;dHO;dHOO;dHA;dHAA;dH",
   "cNUNAVUT H;cHK;cQAAI;cQI;cQII;cQO;cQOO;cQA;cQAA;cQ;cTLHE;cTLHI;cTLHO;cTLHA;cWEST-CREE RE",
   "dRI;dRO;dRA;cNGAAI;cNGI;cNGII;cNGO;cNGOO;cNGA;cNGAA;cNG;cNNG;cSAYISI SHE;dSHI;dSHO;dSHA",
   "cWOODS-CREE THE;dTHI;dTHO;dTHA;dTH;cLHI;cLHII;cLHO;cLHOO;cLHA;cLHAA;cLH;cTH-CREE THE;dTHI",
   "dTHII;dTHO;dTHOO;dTHA;dTHAA;dTH;cAIVILIK B;cBLACKFOOT E;dI;dO;dA;dWE;dWI;dWO;dWA;dNE;dNI",
   "dNO;dNA;dKE;dKI;dKO;dKA;cSAYISI HE;dHI;dHO;dHA;cCARRIER GHU;dGHO;dGHE;dGHEE;dGHI;dGHA;dRU",
   "dRO;dRE;dREE;dRI;dRA;dWU;dWO;dWE;dWEE;dWI;dWA;dHWU;dHWO;dHWE;dHWEE;dHWI;dHWA;dTHU;dTHO",
   "dTHE;dTHEE;dTHI;dTHA;dTTU;dTTO;dTTE;dTTEE;dTTI;dTTA;dPU;dPO;dPE;dPEE;dPI;dPA;dP;dGU;dGO",
   "dGE;dGEE;dGI;dGA;dKHU;dKHO;dKHE;dKHEE;dKHI;dKHA;dKKU;dKKO;dKKE;dKKEE;dKKI;dKKA;dKK;dNU;dNO",
   "dNE;dNEE;dNI;dNA;dMU;dMO;dME;dMEE;dMI;dMA;dYU;dYO;dYE;dYEE;dYI;dYA;dJU;cSAYISI JU",
   "cCARRIER JO;dJE;dJEE;dJI;cSAYISI JI;cCARRIER JA;dJJU;dJJO;dJJE;dJJEE;dJJI;dJJA;dLU;dLO;dLE",
   "dLEE;dLI;dLA;dDLU;dDLO;dDLE;dDLEE;dDLI;dDLA;dLHU;dLHO;dLHE;dLHEE;dLHI;dLHA;dTLHU;dTLHO",
   "dTLHE;dTLHEE;dTLHI;dTLHA;dTLU;dTLO;dTLE;dTLEE;dTLI;dTLA;dZU;dZO;dZE;dZEE;dZI;dZA;dZ",
   "dINITIAL Z;dDZU;dDZO;dDZE;dDZEE;dDZI;dDZA;dSU;dSO;dSE;dSEE;dSI;dSA;dSHU;dSHO;dSHE;dSHEE",
   "dSHI;dSHA;dSH;dTSU;dTSO;dTSE;dTSEE;dTSI;dTSA;dCHU;dCHO;dCHE;dCHEE;dCHI;dCHA;dTTSU;dTTSO",
   "dTTSE;dTTSEE;dTTSI;dTTSA;cCHI SIGN;cFULL STOP;cQAI;cNGAI;cNNGI;cNNGII;cNNGO;cNNGOO;cNNGA",
   "cNNGAA;cWOODS-CREE THWEE;dTHWI;dTHWII;dTHWO;dTHWOO;dTHWA;dTHWAA;dFINAL TH;cBLACKFOOT W",
   "aOGHAM SPACE MARK;bLETTER BEITH;cLUIS;cFEARN;cSAIL;cNION;cUATH;cDAIR;cTINNE;cCOLL;cCEIRT",
   "cMUIN;cGORT;cNGEADAL;cSTRAIF;cRUIS;cAILM;cONN;cUR;cEADHADH;cIODHADH;cEABHADH;cOR;cUILLEANN",
   "cIFIN;cEAMHANCHOLL;cPEITH;bFEATHER MARK;bREVERSED FEATHER MARK",
   "16A0:aRUNIC LETTER FEHU FEOH FE F;cV;cURUZ UR U;cYR;cY;cW;cTHURISAZ THURS THORN;cETH",
   "cANSUZ A;cOS O;cAC A;cAESC;cLONG-BRANCH-OSS O;cSHORT-TWIG-OSS O;cO;cOE;cON",
   "cRAIDO RAD REID R;cKAUNA;cCEN;cKAUN K;cG;cENG;cGEBO GYFU G;cGAR;cWUNJO WYNN W;cHAGLAZ H",
   "cHAEGL H;cLONG-BRANCH-HAGALL H;cSHORT-TWIG-HAGALL H;cNAUDIZ NYD NAUD N;cSHORT-TWIG-NAUD N",
   "cDOTTED-N;cISAZ IS ISS I;cE;cJERAN J;cGER;cLONG-BRANCH-AR AE;cSHORT-TWIG-AR A;cIWAZ EOH",
   "cPERTHO PEORTH P;cALGIZ EOLHX;cSOWILO S;cSIGEL LONG-BRANCH-SOL S;cSHORT-TWIG-SOL S;cC;cZ",
   "cTIWAZ TIR TYR T;cSHORT-TWIG-TYR T;cD;cBERKANAN BEORC BJARKAN B;cSHORT-TWIG-BJARKAN B",
   "cDOTTED-P;cOPEN-P;cEHWAZ EH E;cMANNAZ MAN M;cLONG-BRANCH-MADR M;cSHORT-TWIG-MADR M",
   "cLAUKAZ LAGU LOGR L;cDOTTED-L;cINGWAZ;cING;cDAGAZ DAEG D;cOTHALAN ETHEL O;cEAR;cIOR",
   "cCWEORTH;cCALC;cCEALC;cSTAN;cLONG-BRANCH-YR;cSHORT-TWIG-YR;cICELANDIC-YR;cQ;cX",
   "bSINGLE PUNCTUATION;bMULTIPLE PUNCTUATION;bCROSS PUNCTUATION;bARLAUG SYMBOL",
   "bTVIMADUR SYMBOL;bBELGTHOR SYMBOL;bLETTER K;cSH;cOO;cFRANKS CASKET OS;eIS;eEH;eAC;eAESC",
   "1700:aTAGALOG LETTER A;cI;cU;cKA;cGA;cNGA;cTA;cDA;cNA;cPA;cBA;cMA;cYA;cRA;cLA;cWA;cSA;cHA",
   "bVOWEL SIGN I;dU;bSIGN VIRAMA;cPAMUDPOD;171F:bLETTER ARCHAIC RA;aHANUNOO LETTER A;cI;cU",
   "cKA;cGA;cNGA;cTA;cDA;cNA;cPA;cBA;cMA;cYA;cRA;cLA;cWA;cSA;cHA;bVOWEL SIGN I;dU",
   "bSIGN PAMUDPOD;aPHILIPPINE SINGLE PUNCTUATION;bDOUBLE PUNCTUATION;1740:aBUHID LETTER A;cI",
   "cU;cKA;cGA;cNGA;cTA;cDA;cNA;cPA;cBA;cMA;cYA;cRA;cLA;cWA;cSA;cHA;bVOWEL SIGN I;dU",
   "1760:aTAGBANWA LETTER A;cI;cU;cKA;cGA;cNGA;cTA;cDA;cNA;cPA;cBA;cMA;cYA;176E:cLA;cWA;cSA",
   "1772:bVOWEL SIGN I;dU;1780:aKHMER LETTER KA;cKHA;cKO;cKHO;cNGO;cCA;cCHA;cCO;cCHO;cNYO;cDA",
   "cTTHA;cDO;cTTHO;cNNO;cTA;cTHA;cTO;cTHO;cNO;cBA;cPHA;cPO;cPHO;cMO;cYO;cRO;cLO;cVO;cSHA;cSSO",
   "cSA;cHA;cLA;cQA;bINDEPENDENT VOWEL QAQ;dQAA;dQI;dQII;dQU;dQUK;dQUU;dQUUV;dRY;dRYY;dLY;dLYY",
   "dQE;dQAI;dQOO TYPE ONE;fTWO;dQAU;bVOWEL INHERENT AQ;dAA;cSIGN AA;dI;dII;dY;dYY;dU;dUU;dUA",
   "dOE;dYA;dIE;dE;dAE;dAI;dOO;dAU;bSIGN NIKAHIT;cREAHMUK;cYUUKALEAPINTU;cMUUSIKATOAN;cTRIISAP",
   "cBANTOC;cROBAT;cTOANDAKHIAT;cKAKABAT;cAHSDA;cSAMYOK SANNYA;cVIRIAM;cCOENG;cBATHAMASAT",
   "cKHAN;cBARIYOOSAN;cCAMNUC PII KUUH;cLEK TOO;cBEYYAL;cPHNAEK MUAN;cKOOMUUT",
   "bCURRENCY SYMBOL RIEL;bSIGN AVAKRAHASANYA;cATTHACAN;17E0:bDIGIT ZERO;cONE;cTWO;cTHREE",
   "cFOUR;cFIVE;cSIX;cSEVEN;cEIGHT;cNINE;17F0:bSYMBOL LEK ATTAK SON;eMUOY;ePII;eBEI;eBUON",
   "ePRAM;ePRAM-MUOY;ePRAM-PII;ePRAM-BEI;ePRAM-BUON;1800:aMONGOLIAN BIRGA;bELLIPSIS;bCOMMA",
   "bFULL STOP;bCOLON;bFOUR DOTS;bTODO SOFT HYPHEN;bSIBE SYLLABLE BOUNDARY MARKER",
   "bMANCHU COMMA;cFULL STOP;bNIRUGU;bFREE VARIATION SELECTOR ONE;eTWO;eTHREE;bVOWEL SEPARATOR",
   "bFREE VARIATION SELECTOR FOUR;bDIGIT ZERO;cONE;cTWO;cTHREE;cFOUR;cFIVE;cSIX;cSEVEN;cEIGHT",
   "cNINE;1820:bLETTER A;cE;cI;cO;cU;cOE;cUE;cEE;cNA;cANG;cBA;cPA;cQA;cGA;cMA;cLA;cSA;cSHA;cTA",
   "cDA;cCHA;cJA;cYA;cRA;cWA;cFA;cKA;cKHA;cTSA;cZA;cHAA;cZRA;cLHA;cZHI;cCHI",
   "cTODO LONG VOWEL SIGN;dE;dI;dO;dU;dOE;dUE;dANG;dBA;dPA;dQA;dGA;dMA;dTA;dDA;dCHA;dJA;dTSA",
   "dYA;dWA;dKA;dGAA;dHAA;dJIA;dNIA;dDZA;cSIBE E;dI;dIY;dUE;dU;dANG;dKA;dGA;dHA;dPA;dSHA;dTA",
   "dDA;dJA;dFA;dGAA;dHAA;dTSA;dZA;dRAA;dCHA;dZHA;cMANCHU I;dKA;dRA;dFA;dZHA",
   "cCHA WITH TWO DOTS;1880:cALI GALI ANUSVARA ONE;eVISARGA ONE;eDAMARU;eUBADAMA",
   "eINVERTED UBADAMA;eBALUDA;eTHREE BALUDA;eA;eI;eKA;eNGA;eCA;eTTA;eTTHA;eDDA;eNNA;eTA;eDA",
   "ePA;ePHA;eSSA;eZHA;eZA;eAH;cTODO ALI GALI TA;fZHA;cMANCHU ALI GALI GHA;fNGA;fCA;fJHA;fTTA",
   "fDDHA;fTA;fDHA;fSSA;fCYA;fZHA;fZA;cALI GALI HALF U;fYA;cMANCHU ALI GALI BHA",
   "cALI GALI DAGALGA;cMANCHU ALI GALI LHA;18B0:aCANADIAN SYLLABICS OY;cAY;cAAY;cWAY;cPOY;cPAY",
   "cPWOY;cTAY;cKAY;cKWAY;cMAY;cNOY;cNAY;cLAY;cSOY;cSAY;cSHOY;cSHAY;cSHWOY;cYOY;cYAY;cRAY;cNWI",
   "cOJIBWAY NWI;cNWII;cOJIBWAY NWII;cNWO;cOJIBWAY NWO;cNWOO;cOJIBWAY NWOO;cRWEE;cRWI;cRWII",
   "cRWO;cRWOO;cRWA;cOJIBWAY P;dT;dK;dC;dM;dN;dS;dSH;cEASTERN W;cWESTERN W;cFINAL SMALL RING",
   "dRAISED DOT;cR-CREE RWE;cWEST-CREE LOO;dLAA;cTHWE;cTHWA;cTTHWE;cTTHOO;cTTHAA;cTLHWE;cTLHOO",
   "cSAYISI SHWE;dSHOO;dHOO;cCARRIER GWU;dDENE GEE;dGAA;dGWA;cSAYISI JUU;cCARRIER JWA",
   "cBEAVER DENE L;eR;cCARRIER DENTAL S;1900:aLIMBU VOWEL-CARRIER LETTER;bLETTER KA;cKHA;cGA",
   "cGHA;cNGA;cCA;cCHA;cJA;cJHA;cYAN;cTA;cTHA;cDA;cDHA;cNA;cPA;cPHA;cBA;cBHA;cMA;cYA;cRA;cLA",
   "cWA;cSHA;cSSA;cSA;cHA;cGYAN;cTRA;1920:bVOWEL SIGN A;dI;dU;dEE;dAI;dOO;dAU;dE;dO",
   "bSUBJOINED LETTER YA;dRA;dWA;1930:bSMALL LETTER KA;dNGA;dANUSVARA;dTA;dNA;dPA;dMA;dRA;dLA",
   "bSIGN MUKPHRENG;cKEMPHRENG;cSA-I;1940:cLOO;1944:bEXCLAMATION MARK;bQUESTION MARK",
   "bDIGIT ZERO;cONE;cTWO;cTHREE;cFOUR;cFIVE;cSIX;cSEVEN;cEIGHT;cNINE;aTAI LE LETTER KA;dXA",
   "dNGA;dTSA;dSA;dYA;dTA;dTHA;dLA;dPA;dPHA;dMA;dFA;dVA;dHA;dQA;dKHA;dTSHA;dNA;dA;dI;dEE;dEH",
   "dU;dOO;dO;dUE;dE;dAUE;dAI;1970:dTONE-2;dTONE-3;dTONE-4;dTONE-5;dTONE-6",
   "1980:aNEW TAI LUE LETTER HIGH QA;eLOW QA;eHIGH KA;fXA;fNGA;eLOW KA;fXA;fNGA;eHIGH TSA;fSA",
   "fYA;eLOW TSA;fSA;fYA;eHIGH TA;fTHA;fNA;eLOW TA;fTHA;fNA;eHIGH PA;fPHA;fMA;eLOW PA;fPHA;fMA",
   "eHIGH FA;fVA;fLA;eLOW FA;fVA;fLA;eHIGH HA;fDA;fBA;eLOW HA;fDA;fBA;eHIGH KVA;fXVA;eLOW KVA",
   "fXVA;eHIGH SUA;eLOW SUA;19B0:dVOWEL SIGN VOWEL SHORTENER;fAA;fII;fU;fUU;fE;fAE;fO;fOA;fUE",
   "fAY;fAAY;fUY;fOY;fOAY;fUEY;fIY;dLETTER FINAL V;fNG;fN;fM;fK;fD;fB;dTONE MARK-1;eMARK-2",
   "19D0:dDIGIT ZERO;eONE;eTWO;eTHREE;eFOUR;eFIVE;eSIX;eSEVEN;eEIGHT;eNINE;dTHAM DIGIT ONE",
   "19DE:dSIGN LAE;eLAEV;aKHMER SYMBOL PATHAMASAT;cMUOY KOET;cPII KOET;cBEI KOET;cBUON KOET",
   "cPRAM KOET;cPRAM-MUOY KOET;cPRAM-PII KOET;cPRAM-BEI KOET;cPRAM-BUON KOET;cDAP KOET",
   "cDAP-MUOY KOET;cDAP-PII KOET;cDAP-BEI KOET;cDAP-BUON KOET;cDAP-PRAM KOET;cTUTEYASAT",
   "cMUOY ROC;cPII ROC;cBEI ROC;cBUON ROC;cPRAM ROC;cPRAM-MUOY ROC;cPRAM-PII ROC;cPRAM-BEI ROC",
   "cPRAM-BUON ROC;cDAP ROC;cDAP-MUOY ROC;cDAP-PII ROC;cDAP-BEI ROC;cDAP-BUON ROC",
   "cDAP-PRAM ROC;aBUGINESE LETTER KA;cGA;cNGA;cNGKA;cPA;cBA;cMA;cMPA;cTA;cDA;cNA;cNRA;cCA;cJA",
   "cNYA;cNYCA;cYA;cRA;cLA;cVA;cSA;cA;cHA;bVOWEL SIGN I;dU;dE;dO;dAE;1A1E:bPALLAWA",
   "bEND OF SECTION;aTAI THAM LETTER HIGH KA;eKHA;eKXA;dLOW KA;eKXA;eKHA;dNGA;dHIGH CA;eCHA",
   "dLOW CA;eSA;eCHA;dNYA;dRATA;dHIGH RATHA;dDA;dLOW RATHA;dRANA;dHIGH TA;eTHA;dLOW TA;eTHA",
   "dNA;dBA;dHIGH PA;ePHA;eFA;dLOW PA;eFA;ePHA;dMA;dLOW YA;dHIGH YA;dRA;dRUE;dLA;dLUE;dWA",
   "dHIGH SHA;eSSA;eSA;eHA;dLLA;dA;dLOW HA;dI;dII;dU;dUU;dEE;dOO;dLAE;dGREAT SA",
   "cCONSONANT SIGN MEDIAL RA;fLA;eLA TANG LAI;cSIGN MAI KANG LAI;cCONSONANT SIGN FINAL NGA",
   "eLOW PA;eHIGH RATHA OR LOW PA;eMA;eBA;eSA;1A60:cSIGN SAKOT;cVOWEL SIGN A;eMAI SAT;eAA",
   "eTALL AA;eI;eII;eUE;eUUE;eU;eUU;eO;eOA BELOW;eOY;eE;eAE;eOO;eAI;eTHAM AI;eOA ABOVE",
   "cSIGN MAI KANG;dTONE-1;dTONE-2;dKHUEN TONE-3;eTONE-4;eTONE-5;dRA HAAM;dMAI SAM",
   "dKHUEN-LUE KARAN;1A7F:cCOMBINING CRYPTOGRAMMIC DOT;cHORA DIGIT ZERO;eONE;eTWO;eTHREE;eFOUR",
   "eFIVE;eSIX;eSEVEN;eEIGHT;eNINE;1A90:cTHAM DIGIT ZERO;eONE;eTWO;eTHREE;eFOUR;eFIVE;eSIX",
   "eSEVEN;eEIGHT;eNINE;1AA0:cSIGN WIANG;dWIANGWAAK;dSAWAN;dKEOW;dHOY;dDOKMAI",
   "dREVERSED ROTATED RANA;dMAI YAMOK;dKAAN;dKAANKUU;dSATKAAN;dSATKAANKUU;dHANG;dCAANG",
   "1AB0:aCOMBINING DOUBLED CIRCUMFLEX ACCENT;bDIAERESIS-RING;bINFINITY;bDOWNWARDS ARROW",
   "bTRIPLE DOT;bX-X BELOW;bWIGGLY LINE BELOW;bOPEN MARK BELOW;bDOUBLE OPEN MARK BELOW",
   "bLIGHT CENTRALIZATION STROKE BELOW;bSTRONG CENTRALIZATION STROKE BELOW;bPARENTHESES ABOVE",
   "bDOUBLE PARENTHESES ABOVE;bPARENTHESES BELOW;cOVERLAY;bLATIN SMALL LETTER W BELOW",
   "eTURNED W BELOW;bLEFT PARENTHESIS ABOVE LEFT;bRIGHT PARENTHESIS ABOVE RIGHT",
   "bLEFT PARENTHESIS BELOW LEFT;bRIGHT PARENTHESIS BELOW RIGHT;bSQUARE BRACKETS ABOVE",
   "bNUMBER SIGN ABOVE;bINVERTED DOUBLE ARCH ABOVE;bPLUS SIGN ABOVE;bDOUBLE PLUS SIGN ABOVE",
   "eBELOW;bTRIPLE ACUTE ACCENT;bLATIN SMALL LETTER INSULAR G;fR;fT",
   "1B00:aBALINESE SIGN ULU RICEM;dCANDRA;cCECEK;cSURANG;cBISAH;bLETTER AKARA;dTEDUNG;cIKARA",
   "dTEDUNG;cUKARA;dTEDUNG;cRA REPA;eTEDUNG;cLA LENGA;eTEDUNG;cEKARA;cAIKARA;cOKARA;dTEDUNG",
   "cKA;dMAHAPRANA;cGA;dGORA;cNGA;cCA;dLACA;cJA;dJERA;cNYA;cTA LATIK;dMURDA MAHAPRANA",
   "cDA MURDA ALPAPRANA;eMAHAPRANA;cNA RAMBAT;cTA;dTAWA;cDA;dMADU;cNA;cPA;dKAPAL;cBA;dKEMBANG",
   "cMA;cYA;cRA;cLA;cWA;cSA SAGA;dSAPA;d;cHA;bSIGN REREKAN;bVOWEL SIGN TEDUNG;dULU;eSARI;dSUKU",
   "eILUT;dRA REPA;fTEDUNG;dLA LENGA;fTEDUNG;dTALING;eREPA;eTEDUNG;eREPA TEDUNG;dPEPET;eTEDUNG",
   "bADEG ADEG;bLETTER KAF SASAK;cKHOT SASAK;cTZIR SASAK;cEF SASAK;cVE SASAK;cZAL SASAK",
   "cASYURA SASAK;cARCHAIC JNYA;1B50:bDIGIT ZERO;cONE;cTWO;cTHREE;cFOUR;cFIVE;cSIX;cSEVEN",
   "cEIGHT;cNINE;bPANTI;bPAMADA;bWINDU;bCARIK PAMUNGKAH;cSIKI;cPAREREN;bPAMENENG",
   "bMUSICAL SYMBOL DONG;dDENG;dDUNG;dDANG;eSURANG;dDING;dDAENG;dDEUNG;dDAING;dDANG GEDE",
   "dCOMBINING TEGEH;eENDEP;eKEMPUL;eKEMPLI;eJEGOGAN;eKEMPUL WITH JEGOGAN;eKEMPLI WITH JEGOGAN",
   "eBENDE;eGONG;dRIGHT-HAND OPEN DUG;fDAG;eCLOSED TUK;fTAK;dLEFT-HAND OPEN PANG;fPUNG",
   "eCLOSED PLAK;fPLUK;eOPEN PING;bPANTI LANTANG;bPAMADA LANTANG;1B80:aSUNDANESE SIGN PANYECEK",
   "cPANGLAYAR;cPANGWISAD;bLETTER A;cI;cU;cAE;cO;cE;cEU;cKA;cQA;cGA;cNGA;cCA;cJA;cZA;cNYA;cTA",
   "cDA;cNA;cPA;cFA;cVA;cBA;cMA;cYA;cRA;cLA;cWA;cSA;cXA;cHA;bCONSONANT SIGN PAMINGKAL",
   "dPANYAKRA;dPANYIKU;bVOWEL SIGN PANGHULU;dPANYUKU;dPANAELAENG;dPANOLONG;dPAMEPET",
   "dPANEULEUNG;bSIGN PAMAAEH;cVIRAMA;bCONSONANT SIGN PASANGAN MA;eWA;bLETTER KHA;cSYA",
   "bDIGIT ZERO;cONE;cTWO;cTHREE;cFOUR;cFIVE;cSIX;cSEVEN;cEIGHT;cNINE;bAVAGRAHA;bLETTER REU",
   "cLEU;cBHA;cFINAL K;dM;aBATAK LETTER A;cSIMALUNGUN A;cHA;cSIMALUNGUN HA;cMANDAILING HA;cBA",
   "cKARO BA;cPA;cSIMALUNGUN PA;cNA;cMANDAILING NA;cWA;cSIMALUNGUN WA;cPAKPAK WA;cGA",
   "cSIMALUNGUN GA;cJA;cDA;cRA;cSIMALUNGUN RA;cMA;cSIMALUNGUN MA;cSOUTHERN TA;cNORTHERN TA;cSA",
   "cSIMALUNGUN SA;cMANDAILING SA;cYA;cSIMALUNGUN YA;cNGA;cLA;cSIMALUNGUN LA;cNYA;cCA;cNDA",
   "cMBA;cI;cU;bSIGN TOMPI;bVOWEL SIGN E;dPAKPAK E;dEE;dI;dKARO I;dO;dKARO O;dU",
   "eFOR SIMALUNGUN SA;bCONSONANT SIGN NG;dH;bPANGOLAT;bPANONGONAN;1BFC:bSYMBOL BINDU NA METEK",
   "dPINARBORAS;dJUDUL;dPANGOLAT;aLEPCHA LETTER KA;cKLA;cKHA;cGA;cGLA;cNGA;cCA;cCHA;cJA;cNYA",
   "cTA;cTHA;cDA;cNA;cPA;cPLA;cPHA;cFA;cFLA;cBA;cBLA;cMA;cMLA;cTSA;cTSHA;cDZA;cYA;cRA;cLA;cHA",
   "cHLA;cVA;cSA;cSHA;cWA;cA;bSUBJOINED LETTER YA;dRA;bVOWEL SIGN AA;dI;dO;dOO;dU;dUU;dE",
   "bCONSONANT SIGN K;dM;dL;dN;dP;dR;dT;dNYIN-DO;dKANG;bSIGN RAN;cNUKTA",
   "1C3B:bPUNCTUATION TA-ROL;cNYET THYOOM TA-ROL;cCER-WA;cTSHOOK CER-WA;d;bDIGIT ZERO;cONE",
   "cTWO;cTHREE;cFOUR;cFIVE;cSIX;cSEVEN;cEIGHT;cNINE;1C4D:bLETTER TTA;cTTHA;cDDA",
   "aOL CHIKI DIGIT ZERO;dONE;dTWO;dTHREE;dFOUR;dFIVE;dSIX;dSEVEN;dEIGHT;dNINE;cLETTER LA;dAT",
   "dAG;dANG;dAL;dLAA;dAAK;dAAJ;dAAM;dAAW;dLI;dIS;dIH;dINY;dIR;dLU;dUC;dUD;dUNN;dUY;dLE;dEP",
   "dEDD;dEN;dERR;dLO;dOTT;dOB;dOV;dOH;cMU TTUDDAG;cGAAHLAA TTUDDAAG;cMU-GAAHLAA TTUDDAAG",
   "cRELAA;cPHAARKAA;cAHAD;cPUNCTUATION MUCAAD;dDOUBLE MUCAAD",
   "aCYRILLIC SMALL LETTER ROUNDED VE;dLONG-LEGGED DE;dNARROW O;dWIDE ES;dTALL TE",
   "dTHREE-LEGGED TE;dTALL HARD SIGN;eYAT;dUNBLENDED UK",
   "1C90:aGEORGIAN MTAVRULI CAPITAL LETTER AN;eBAN;eGAN;eDON;eEN;eVIN;eZEN;eTAN;eIN;eKAN;eLAS",
   "eMAN;eNAR;eON;ePAR;eZHAR;eRAE;eSAN;eTAR;eUN;ePHAR;eKHAR;eGHAN;eQAR;eSHIN;eCHIN;eCAN;eJIL",
   "eCIL;eCHAR;eXAN;eJHAN;eHAE;eHE;eHIE;eWE;eHAR;eHOE;eFI;eYN;eELIFI;eTURNED GAN;eAIN",
   "1CBD:eAEN;eHARD SIGN;eLABIAL SIGN;aSUNDANESE PUNCTUATION BINDU SURYA;dPANGLONG;dPURNAMA",
   "dCAKRA;dLEU SATANGA;dKA SATANGA;dDA SATANGA;dBA SATANGA;1CD0:aVEDIC TONE KARSHANA;cSHARA",
   "cPRENKHA;bSIGN NIHSHVASA;cYAJURVEDIC MIDLINE SVARITA",
   "bTONE YAJURVEDIC AGGRAVATED INDEPENDENT SVARITA;dINDEPENDENT SVARITA",
   "dKATHAKA INDEPENDENT SVARITA;cCANDRA BELOW",
   "cYAJURVEDIC KATHAKA INDEPENDENT SVARITA SCHROEDER;cDOUBLE SVARITA;cTRIPLE SVARITA",
   "cKATHAKA ANUDATTA;cDOT BELOW;cTWO DOTS BELOW;cTHREE DOTS BELOW",
   "cRIGVEDIC KASHMIRI INDEPENDENT SVARITA;cATHARVAVEDIC INDEPENDENT SVARITA",
   "bSIGN VISARGA SVARITA;dUDATTA;cREVERSED VISARGA UDATTA;cVISARGA ANUDATTA",
   "cREVERSED VISARGA ANUDATTA;cVISARGA UDATTA WITH TAIL;dANUDATTA WITH TAIL",
   "cANUSVARA ANTARGOMUKHA;dBAHIRGOMUKHA;dVAMAGOMUKHA;eWITH TAIL;cTIRYAK",
   "cHEXIFORM LONG ANUSVARA;cLONG ANUSVARA;cRTHANG LONG ANUSVARA;cANUSVARA UBHAYATO MUKHA",
   "cARDHAVISARGA;cROTATED ARDHAVISARGA;bTONE CANDRA ABOVE;bSIGN JIHVAMULIYA;cUPADHMANIYA",
   "cATIKRAMA;bTONE RING ABOVE;cDOUBLE RING ABOVE;bSIGN DOUBLE ANUSVARA ANTARGOMUKHA",
   "1D00:aLATIN LETTER SMALL CAPITAL A;eAE;bSMALL LETTER TURNED AE",
   "bLETTER SMALL CAPITAL BARRED B;eC;eD;eETH;eE;bSMALL LETTER TURNED OPEN E;eI",
   "bLETTER SMALL CAPITAL J;eK;eL WITH STROKE;eM;eREVERSED N;eO;eOPEN O",
   "bSMALL LETTER SIDEWAYS O;eOPEN O;eO WITH STROKE;dTURNED OE;bLETTER SMALL CAPITAL OU",
   "bSMALL LETTER TOP HALF O;dBOTTOM HALF O;bLETTER SMALL CAPITAL P;eREVERSED R;eTURNED R;eT",
   "eU;bSMALL LETTER SIDEWAYS U;eDIAERESIZED U;eTURNED M;bLETTER SMALL CAPITAL V;eW;eZ;eEZH",
   "cVOICED LARYNGEAL SPIRANT;cAIN;aGREEK LETTER SMALL CAPITAL GAMMA;eLAMDA;ePI;eRHO;ePSI",
   "aCYRILLIC LETTER SMALL CAPITAL EL;aMODIFIER LETTER CAPITAL A;dAE;dB;dBARRED B;dD;dE",
   "dREVERSED E;dG;dH;dI;dJ;dK;dL;dM;dN;dREVERSED N;dO;dOU;dP;dR;dT;dU;dW;cSMALL A;dTURNED A",
   "dALPHA;dTURNED AE;dB;dD;dE;dSCHWA;dOPEN E;dTURNED OPEN E;dG;dTURNED I;dK;dM;dENG;dO",
   "dOPEN O;dTOP HALF O;dBOTTOM HALF O;dP;dT;dU;dSIDEWAYS U;dTURNED M;dV;dAIN;dBETA",
   "dGREEK GAMMA;dDELTA;dGREEK PHI;dCHI;aLATIN SUBSCRIPT SMALL LETTER I;eR;eU;eV",
   "aGREEK SUBSCRIPT SMALL LETTER BETA;eGAMMA;eRHO;ePHI;eCHI;aLATIN SMALL LETTER UE",
   "dB WITH MIDDLE TILDE;dD WITH MIDDLE TILDE;dF WITH MIDDLE TILDE;dM WITH MIDDLE TILDE",
   "dN WITH MIDDLE TILDE;dP WITH MIDDLE TILDE;dR WITH MIDDLE TILDE;fFISHHOOK AND MIDDLE TILDE",
   "dS WITH MIDDLE TILDE;dT WITH MIDDLE TILDE;dZ WITH MIDDLE TILDE;dTURNED G",
   "aMODIFIER LETTER CYRILLIC EN;aLATIN SMALL LETTER INSULAR G;dTH WITH STRIKETHROUGH",
   "cCAPITAL LETTER I WITH STROKE;cLETTER IOTA WITH STROKE;dP WITH STROKE",
   "cCAPITAL LETTER U WITH STROKE;cLETTER UPSILON WITH STROKE;dB WITH PALATAL HOOK",
   "dD WITH PALATAL HOOK;dF WITH PALATAL HOOK;dG WITH PALATAL HOOK;dK WITH PALATAL HOOK",
   "dL WITH PALATAL HOOK;dM WITH PALATAL HOOK;dN WITH PALATAL HOOK;dP WITH PALATAL HOOK",
   "dR WITH PALATAL HOOK;dS WITH PALATAL HOOK;dESH WITH PALATAL HOOK;dV WITH PALATAL HOOK",
   "dX WITH PALATAL HOOK;dZ WITH PALATAL HOOK;dA WITH RETROFLEX HOOK",
   "dALPHA WITH RETROFLEX HOOK;dD WITH HOOK AND TAIL;dE WITH RETROFLEX HOOK",
   "dOPEN E WITH RETROFLEX HOOK;dREVERSED OPEN E WITH RETROFLEX HOOK",
   "dSCHWA WITH RETROFLEX HOOK;dI WITH RETROFLEX HOOK;dOPEN O WITH RETROFLEX HOOK",
   "dESH WITH RETROFLEX HOOK;dU WITH RETROFLEX HOOK;dEZH WITH RETROFLEX HOOK",
   "aMODIFIER LETTER SMALL TURNED ALPHA;dC;eWITH CURL;dETH;dREVERSED OPEN E;dF",
   "dDOTLESS J WITH STROKE;dSCRIPT G;dTURNED H;dI WITH STROKE;dIOTA;dCAPITAL I;fWITH STROKE",
   "dJ WITH CROSSED-TAIL;dL WITH RETROFLEX HOOK;fPALATAL HOOK;dCAPITAL L;dM WITH HOOK",
   "dTURNED M WITH LONG LEG;dN WITH LEFT HOOK;fRETROFLEX HOOK;dCAPITAL N;dBARRED O;dPHI",
   "dS WITH HOOK;dESH;dT WITH PALATAL HOOK;dU BAR;dUPSILON;dCAPITAL U;dV WITH HOOK;dTURNED V",
   "dZ;eWITH RETROFLEX HOOK;fCURL;dEZH;dTHETA;aCOMBINING DOTTED GRAVE ACCENT;cACUTE ACCENT",
   "bSNAKE BELOW;bSUSPENSION MARK;bMACRON-ACUTE;bGRAVE-MACRON;bMACRON-GRAVE;bACUTE-MACRON",
   "bGRAVE-ACUTE-GRAVE;bACUTE-GRAVE-ACUTE;bLATIN SMALL LETTER R BELOW;bBREVE-MACRON",
   "bMACRON-BREVE;bDOUBLE CIRCUMFLEX ABOVE;bOGONEK ABOVE;bZIGZAG BELOW;bIS BELOW;bUR ABOVE",
   "bUS ABOVE;bLATIN SMALL LETTER FLATTENED OPEN A ABOVE;eAE;eAO;eAV;eC CEDILLA;eINSULAR D",
   "eETH;eG;cLETTER SMALL CAPITAL G;cSMALL LETTER K;eL;cLETTER SMALL CAPITAL L;fM",
   "cSMALL LETTER N;cLETTER SMALL CAPITAL N;fR;cSMALL LETTER R ROTUNDA;eS;eLONG S;eZ;eALPHA;eB",
   "eBETA;eSCHWA;eF;eL WITH DOUBLE MIDDLE TILDE;eO WITH LIGHT CENTRALIZATION STROKE;eP;eESH",
   "eU WITH LIGHT CENTRALIZATION STROKE;eW;eA WITH DIAERESIS;eO WITH DIAERESIS",
   "eU WITH DIAERESIS;bUP TACK ABOVE;bKAVYKA ABOVE RIGHT;dLEFT;bDOT ABOVE LEFT",
   "bWIDE INVERTED BRIDGE BELOW;bDOT BELOW LEFT;bDELETION MARK;bDOUBLE INVERTED BREVE BELOW",
   "bALMOST EQUAL TO BELOW;bLEFT ARROWHEAD ABOVE;bRIGHT ARROWHEAD AND DOWN ARROWHEAD BELOW",
   "aLATIN CAPITAL LETTER A WITH RING BELOW;bSMALL LETTER A WITH RING BELOW",
   "bCAPITAL LETTER B WITH DOT ABOVE;bSMALL LETTER B WITH DOT ABOVE",
   "bCAPITAL LETTER B WITH DOT BELOW;bSMALL LETTER B WITH DOT BELOW",
   "bCAPITAL LETTER B WITH LINE BELOW;bSMALL LETTER B WITH LINE BELOW",
   "bCAPITAL LETTER C WITH CEDILLA AND ACUTE;bSMALL LETTER C WITH CEDILLA AND ACUTE",
   "bCAPITAL LETTER D WITH DOT ABOVE;bSMALL LETTER D WITH DOT ABOVE",
   "bCAPITAL LETTER D WITH DOT BELOW;bSMALL LETTER D WITH DOT BELOW",
   "bCAPITAL LETTER D WITH LINE BELOW;bSMALL LETTER D WITH LINE BELOW",
   "bCAPITAL LETTER D WITH CEDILLA;bSMALL LETTER D WITH CEDILLA",
   "bCAPITAL LETTER D WITH CIRCUMFLEX BELOW;bSMALL LETTER D WITH CIRCUMFLEX BELOW",
   "bCAPITAL LETTER E WITH MACRON AND GRAVE;bSMALL LETTER E WITH MACRON AND GRAVE",
   "bCAPITAL LETTER E WITH MACRON AND ACUTE;bSMALL LETTER E WITH MACRON AND ACUTE",
   "bCAPITAL LETTER E WITH CIRCUMFLEX BELOW;bSMALL LETTER E WITH CIRCUMFLEX BELOW",
   "bCAPITAL LETTER E WITH TILDE BELOW;bSMALL LETTER E WITH TILDE BELOW",
   "bCAPITAL LETTER E WITH CEDILLA AND BREVE;bSMALL LETTER E WITH CEDILLA AND BREVE",
   "bCAPITAL LETTER F WITH DOT ABOVE;bSMALL LETTER F WITH DOT ABOVE",
   "bCAPITAL LETTER G WITH MACRON;bSMALL LETTER G WITH MACRON;bCAPITAL LETTER H WITH DOT ABOVE",
   "bSMALL LETTER H WITH DOT ABOVE;bCAPITAL LETTER H WITH DOT BELOW",
   "bSMALL LETTER H WITH DOT BELOW;bCAPITAL LETTER H WITH DIAERESIS",
   "bSMALL LETTER H WITH DIAERESIS;bCAPITAL LETTER H WITH CEDILLA;bSMALL LETTER H WITH CEDILLA",
   "bCAPITAL LETTER H WITH BREVE BELOW;bSMALL LETTER H WITH BREVE BELOW",
   "bCAPITAL LETTER I WITH TILDE BELOW;bSMALL LETTER I WITH TILDE BELOW",
   "bCAPITAL LETTER I WITH DIAERESIS AND ACUTE;bSMALL LETTER I WITH DIAERESIS AND ACUTE",
   "bCAPITAL LETTER K WITH ACUTE;bSMALL LETTER K WITH ACUTE;bCAPITAL LETTER K WITH DOT BELOW",
   "bSMALL LETTER K WITH DOT BELOW;bCAPITAL LETTER K WITH LINE BELOW",
   "bSMALL LETTER K WITH LINE BELOW;bCAPITAL LETTER L WITH DOT BELOW",
   "bSMALL LETTER L WITH DOT BELOW;bCAPITAL LETTER L WITH DOT BELOW AND MACRON",
   "bSMALL LETTER L WITH DOT BELOW AND MACRON;bCAPITAL LETTER L WITH LINE BELOW",
   "bSMALL LETTER L WITH LINE BELOW;bCAPITAL LETTER L WITH CIRCUMFLEX BELOW",
   "bSMALL LETTER L WITH CIRCUMFLEX BELOW;bCAPITAL LETTER M WITH ACUTE",
   "bSMALL LETTER M WITH ACUTE;bCAPITAL LETTER M WITH DOT ABOVE;bSMALL LETTER M WITH DOT ABOVE",
   "bCAPITAL LETTER M WITH DOT BELOW;bSMALL LETTER M WITH DOT BELOW",
   "bCAPITAL LETTER N WITH DOT ABOVE;bSMALL LETTER N WITH DOT ABOVE",
   "bCAPITAL LETTER N WITH DOT BELOW;bSMALL LETTER N WITH DOT BELOW",
   "bCAPITAL LETTER N WITH LINE BELOW;bSMALL LETTER N WITH LINE BELOW",
   "bCAPITAL LETTER N WITH CIRCUMFLEX BELOW;bSMALL LETTER N WITH CIRCUMFLEX BELOW",
   "bCAPITAL LETTER O WITH TILDE AND ACUTE;bSMALL LETTER O WITH TILDE AND ACUTE",
   "bCAPITAL LETTER O WITH TILDE AND DIAERESIS;bSMALL LETTER O WITH TILDE AND DIAERESIS",
   "bCAPITAL LETTER O WITH MACRON AND GRAVE;bSMALL LETTER O WITH MACRON AND GRAVE",
   "bCAPITAL LETTER O WITH MACRON AND ACUTE;bSMALL LETTER O WITH MACRON AND ACUTE",
   "bCAPITAL LETTER P WITH ACUTE;bSMALL LETTER P WITH ACUTE;bCAPITAL LETTER P WITH DOT ABOVE",
   "bSMALL LETTER P WITH DOT ABOVE;bCAPITAL LETTER R WITH DOT ABOVE",
   "bSMALL LETTER R WITH DOT ABOVE;bCAPITAL LETTER R WITH DOT BELOW",
   "bSMALL LETTER R WITH DOT BELOW;bCAPITAL LETTER R WITH DOT BELOW AND MACRON",
   "bSMALL LETTER R WITH DOT BELOW AND MACRON;bCAPITAL LETTER R WITH LINE BELOW",
   "bSMALL LETTER R WITH LINE BELOW;bCAPITAL LETTER S WITH DOT ABOVE",
   "bSMALL LETTER S WITH DOT ABOVE;bCAPITAL LETTER S WITH DOT BELOW",
   "bSMALL LETTER S WITH DOT BELOW;bCAPITAL LETTER S WITH ACUTE AND DOT ABOVE",
   "bSMALL LETTER S WITH ACUTE AND DOT ABOVE;bCAPITAL LETTER S WITH CARON AND DOT ABOVE",
   "bSMALL LETTER S WITH CARON AND DOT ABOVE;bCAPITAL LETTER S WITH DOT BELOW AND DOT ABOVE",
   "bSMALL LETTER S WITH DOT BELOW AND DOT ABOVE;bCAPITAL LETTER T WITH DOT ABOVE",
   "bSMALL LETTER T WITH DOT ABOVE;bCAPITAL LETTER T WITH DOT BELOW",
   "bSMALL LETTER T WITH DOT BELOW;bCAPITAL LETTER T WITH LINE BELOW",
   "bSMALL LETTER T WITH LINE BELOW;bCAPITAL LETTER T WITH CIRCUMFLEX BELOW",
   "bSMALL LETTER T WITH CIRCUMFLEX BELOW;bCAPITAL LETTER U WITH DIAERESIS BELOW",
   "bSMALL LETTER U WITH DIAERESIS BELOW;bCAPITAL LETTER U WITH TILDE BELOW",
   "bSMALL LETTER U WITH TILDE BELOW;bCAPITAL LETTER U WITH CIRCUMFLEX BELOW",
   "bSMALL LETTER U WITH CIRCUMFLEX BELOW;bCAPITAL LETTER U WITH TILDE AND ACUTE",
   "bSMALL LETTER U WITH TILDE AND ACUTE;bCAPITAL LETTER U WITH MACRON AND DIAERESIS",
   "bSMALL LETTER U WITH MACRON AND DIAERESIS;bCAPITAL LETTER V WITH TILDE",
   "bSMALL LETTER V WITH TILDE;bCAPITAL LETTER V WITH DOT BELOW;bSMALL LETTER V WITH DOT BELOW",
   "bCAPITAL LETTER W WITH GRAVE;bSMALL LETTER W WITH GRAVE;bCAPITAL LETTER W WITH ACUTE",
   "bSMALL LETTER W WITH ACUTE;bCAPITAL LETTER W WITH DIAERESIS;bSMALL LETTER W WITH DIAERESIS",
   "bCAPITAL LETTER W WITH DOT ABOVE;bSMALL LETTER W WITH DOT ABOVE",
   "bCAPITAL LETTER W WITH DOT BELOW;bSMALL LETTER W WITH DOT BELOW",
   "bCAPITAL LETTER X WITH DOT ABOVE;bSMALL LETTER X WITH DOT ABOVE",
   "bCAPITAL LETTER X WITH DIAERESIS;bSMALL LETTER X WITH DIAERESIS",
   "bCAPITAL LETTER Y WITH DOT ABOVE;bSMALL LETTER Y WITH DOT ABOVE",
   "bCAPITAL LETTER Z WITH CIRCUMFLEX;bSMALL LETTER Z WITH CIRCUMFLEX",
   "bCAPITAL LETTER Z WITH DOT BELOW;bSMALL LETTER Z WITH DOT BELOW",
   "bCAPITAL LETTER Z WITH LINE BELOW;bSMALL LETTER Z WITH LINE BELOW;dH WITH LINE BELOW",
   "dT WITH DIAERESIS;dW WITH RING ABOVE;dY WITH RING ABOVE;dA WITH RIGHT HALF RING",
   "dLONG S WITH DOT ABOVE;gDIAGONAL STROKE;gHIGH STROKE;bCAPITAL LETTER SHARP S",
   "bSMALL LETTER DELTA;bCAPITAL LETTER A WITH DOT BELOW;bSMALL LETTER A WITH DOT BELOW",
   "bCAPITAL LETTER A WITH HOOK ABOVE;bSMALL LETTER A WITH HOOK ABOVE",
   "bCAPITAL LETTER A WITH CIRCUMFLEX AND ACUTE;bSMALL LETTER A WITH CIRCUMFLEX AND ACUTE",
   "bCAPITAL LETTER A WITH CIRCUMFLEX AND GRAVE;bSMALL LETTER A WITH CIRCUMFLEX AND GRAVE",
   "bCAPITAL LETTER A WITH CIRCUMFLEX AND HOOK ABOVE",
   "bSMALL LETTER A WITH CIRCUMFLEX AND HOOK ABOVE;bCAPITAL LETTER A WITH CIRCUMFLEX AND TILDE",
   "bSMALL LETTER A WITH CIRCUMFLEX AND TILDE;bCAPITAL LETTER A WITH CIRCUMFLEX AND DOT BELOW",
   "bSMALL LETTER A WITH CIRCUMFLEX AND DOT BELOW;bCAPITAL LETTER A WITH BREVE AND ACUTE",
   "bSMALL LETTER A WITH BREVE AND ACUTE;bCAPITAL LETTER A WITH BREVE AND GRAVE",
   "bSMALL LETTER A WITH BREVE AND GRAVE;bCAPITAL LETTER A WITH BREVE AND HOOK ABOVE",
   "bSMALL LETTER A WITH BREVE AND HOOK ABOVE;bCAPITAL LETTER A WITH BREVE AND TILDE",
   "bSMALL LETTER A WITH BREVE AND TILDE;bCAPITAL LETTER A WITH BREVE AND DOT BELOW",
   "bSMALL LETTER A WITH BREVE AND DOT BELOW;bCAPITAL LETTER E WITH DOT BELOW",
   "bSMALL LETTER E WITH DOT BELOW;bCAPITAL LETTER E WITH HOOK ABOVE",
   "bSMALL LETTER E WITH HOOK ABOVE;bCAPITAL LETTER E WITH TILDE;bSMALL LETTER E WITH TILDE",
   "bCAPITAL LETTER E WITH CIRCUMFLEX AND ACUTE;bSMALL LETTER E WITH CIRCUMFLEX AND ACUTE",
   "bCAPITAL LETTER E WITH CIRCUMFLEX AND GRAVE;bSMALL LETTER E WITH CIRCUMFLEX AND GRAVE",
   "bCAPITAL LETTER E WITH CIRCUMFLEX AND HOOK ABOVE",
   "bSMALL LETTER E WITH CIRCUMFLEX AND HOOK ABOVE;bCAPITAL LETTER E WITH CIRCUMFLEX AND TILDE",
   "bSMALL LETTER E WITH CIRCUMFLEX AND TILDE;bCAPITAL LETTER E WITH CIRCUMFLEX AND DOT BELOW",
   "bSMALL LETTER E WITH CIRCUMFLEX AND DOT BELOW;bCAPITAL LETTER I WITH HOOK ABOVE",
   "bSMALL LETTER I WITH HOOK ABOVE;bCAPITAL LETTER I WITH DOT BELOW",
   "bSMALL LETTER I WITH DOT BELOW;bCAPITAL LETTER O WITH DOT BELOW",
   "bSMALL LETTER O WITH DOT BELOW;bCAPITAL LETTER O WITH HOOK ABOVE",
   "bSMALL LETTER O WITH HOOK ABOVE;bCAPITAL LETTER O WITH CIRCUMFLEX AND ACUTE",
   "bSMALL LETTER O WITH CIRCUMFLEX AND ACUTE;bCAPITAL LETTER O WITH CIRCUMFLEX AND GRAVE",
   "bSMALL LETTER O WITH CIRCUMFLEX AND GRAVE;bCAPITAL LETTER O WITH CIRCUMFLEX AND HOOK ABOVE",
   "bSMALL LETTER O WITH CIRCUMFLEX AND HOOK ABOVE;bCAPITAL LETTER O WITH CIRCUMFLEX AND TILDE",
   "bSMALL LETTER O WITH CIRCUMFLEX AND TILDE;bCAPITAL LETTER O WITH CIRCUMFLEX AND DOT BELOW",
   "bSMALL LETTER O WITH CIRCUMFLEX AND DOT BELOW;bCAPITAL LETTER O WITH HORN AND ACUTE",
   "bSMALL LETTER O WITH HORN AND ACUTE;bCAPITAL LETTER O WITH HORN AND GRAVE",
   "bSMALL LETTER O WITH HORN AND GRAVE;bCAPITAL LETTER O WITH HORN AND HOOK ABOVE",
   "bSMALL LETTER O WITH HORN AND HOOK ABOVE;bCAPITAL LETTER O WITH HORN AND TILDE",
   "bSMALL LETTER O WITH HORN AND TILDE;bCAPITAL LETTER O WITH HORN AND DOT BELOW",
   "bSMALL LETTER O WITH HORN AND DOT BELOW;bCAPITAL LETTER U WITH DOT BELOW",
   "bSMALL LETTER U WITH DOT BELOW;bCAPITAL LETTER U WITH HOOK ABOVE",
   "bSMALL LETTER U WITH HOOK ABOVE;bCAPITAL LETTER U WITH HORN AND ACUTE",
   "bSMALL LETTER U WITH HORN AND ACUTE;bCAPITAL LETTER U WITH HORN AND GRAVE",
   "bSMALL LETTER U WITH HORN AND GRAVE;bCAPITAL LETTER U WITH HORN AND HOOK ABOVE",
   "bSMALL LETTER U WITH HORN AND HOOK ABOVE;bCAPITAL LETTER U WITH HORN AND TILDE",
   "bSMALL LETTER U WITH HORN AND TILDE;bCAPITAL LETTER U WITH HORN AND DOT BELOW",
   "bSMALL LETTER U WITH HORN AND DOT BELOW;bCAPITAL LETTER Y WITH GRAVE",
   "bSMALL LETTER Y WITH GRAVE;bCAPITAL LETTER Y WITH DOT BELOW;bSMALL LETTER Y WITH DOT BELOW",
   "bCAPITAL LETTER Y WITH HOOK ABOVE;bSMALL LETTER Y WITH HOOK ABOVE",
   "bCAPITAL LETTER Y WITH TILDE;bSMALL LETTER Y WITH TILDE;bCAPITAL LETTER MIDDLE-WELSH LL",
   "bSMALL LETTER MIDDLE-WELSH LL;bCAPITAL LETTER MIDDLE-WELSH V;bSMALL LETTER MIDDLE-WELSH V",
   "bCAPITAL LETTER Y WITH LOOP;bSMALL LETTER Y WITH LOOP;aGREEK SMALL LETTER ALPHA WITH PSILI",
   "fDASIA;fPSILI AND VARIA;fDASIA AND VARIA;fPSILI AND OXIA;fDASIA AND OXIA",
   "fPSILI AND PERISPOMENI;fDASIA AND PERISPOMENI;bCAPITAL LETTER ALPHA WITH PSILI;fDASIA",
   "fPSILI AND VARIA;fDASIA AND VARIA;fPSILI AND OXIA;fDASIA AND OXIA;fPSILI AND PERISPOMENI",
   "fDASIA AND PERISPOMENI;bSMALL LETTER EPSILON WITH PSILI;fDASIA;fPSILI AND VARIA",
   "fDASIA AND VARIA;fPSILI AND OXIA;fDASIA AND OXIA;1F18:bCAPITAL LETTER EPSILON WITH PSILI",
   "fDASIA;fPSILI AND VARIA;fDASIA AND VARIA;fPSILI AND OXIA;fDASIA AND OXIA",
   "1F20:bSMALL LETTER ETA WITH PSILI;fDASIA;fPSILI AND VARIA;fDASIA AND VARIA;fPSILI AND OXIA",
   "fDASIA AND OXIA;fPSILI AND PERISPOMENI;fDASIA AND PERISPOMENI",
   "bCAPITAL LETTER ETA WITH PSILI;fDASIA;fPSILI AND VARIA;fDASIA AND VARIA;fPSILI AND OXIA",
   "fDASIA AND OXIA;fPSILI AND PERISPOMENI;fDASIA AND PERISPOMENI",
   "bSMALL LETTER IOTA WITH PSILI;fDASIA;fPSILI AND VARIA;fDASIA AND VARIA;fPSILI AND OXIA",
   "fDASIA AND OXIA;fPSILI AND PERISPOMENI;fDASIA AND PERISPOMENI",
   "bCAPITAL LETTER IOTA WITH PSILI;fDASIA;fPSILI AND VARIA;fDASIA AND VARIA;fPSILI AND OXIA",
   "fDASIA AND OXIA;fPSILI AND PERISPOMENI;fDASIA AND PERISPOMENI",
   "bSMALL LETTER OMICRON WITH PSILI;fDASIA;fPSILI AND VARIA;fDASIA AND VARIA;fPSILI AND OXIA",
   "fDASIA AND OXIA;1F48:bCAPITAL LETTER OMICRON WITH PSILI;fDASIA;fPSILI AND VARIA",
   "fDASIA AND VARIA;fPSILI AND OXIA;fDASIA AND OXIA;1F50:bSMALL LETTER UPSILON WITH PSILI",
   "fDASIA;fPSILI AND VARIA;fDASIA AND VARIA;fPSILI AND OXIA;fDASIA AND OXIA",
   "fPSILI AND PERISPOMENI;fDASIA AND PERISPOMENI;1F59:bCAPITAL LETTER UPSILON WITH DASIA",
   "1F5B:gAND VARIA;1F5D:hOXIA;1F5F:hPERISPOMENI;bSMALL LETTER OMEGA WITH PSILI;fDASIA",
   "fPSILI AND VARIA;fDASIA AND VARIA;fPSILI AND OXIA;fDASIA AND OXIA;fPSILI AND PERISPOMENI",
   "fDASIA AND PERISPOMENI;bCAPITAL LETTER OMEGA WITH PSILI;fDASIA;fPSILI AND VARIA",
   "fDASIA AND VARIA;fPSILI AND OXIA;fDASIA AND OXIA;fPSILI AND PERISPOMENI",
   "fDASIA AND PERISPOMENI;bSMALL LETTER ALPHA WITH VARIA;fOXIA;dEPSILON WITH VARIA;fOXIA",
   "dETA WITH VARIA;fOXIA;dIOTA WITH VARIA;fOXIA;dOMICRON WITH VARIA;fOXIA;dUPSILON WITH VARIA",
   "fOXIA;dOMEGA WITH VARIA;fOXIA;1F80:dALPHA WITH PSILI AND YPOGEGRAMMENI",
   "fDASIA AND YPOGEGRAMMENI;fPSILI AND VARIA AND YPOGEGRAMMENI",
   "fDASIA AND VARIA AND YPOGEGRAMMENI;fPSILI AND OXIA AND YPOGEGRAMMENI",
   "fDASIA AND OXIA AND YPOGEGRAMMENI;fPSILI AND PERISPOMENI AND YPOGEGRAMMENI",
   "fDASIA AND PERISPOMENI AND YPOGEGRAMMENI",
   "bCAPITAL LETTER ALPHA WITH PSILI AND PROSGEGRAMMENI;fDASIA AND PROSGEGRAMMENI",
   "fPSILI AND VARIA AND PROSGEGRAMMENI;fDASIA AND VARIA AND PROSGEGRAMMENI",
   "fPSILI AND OXIA AND PROSGEGRAMMENI;fDASIA AND OXIA AND PROSGEGRAMMENI",
   "fPSILI AND PERISPOMENI AND PROSGEGRAMMENI;fDASIA AND PERISPOMENI AND PROSGEGRAMMENI",
   "bSMALL LETTER ETA WITH PSILI AND YPOGEGRAMMENI;fDASIA AND YPOGEGRAMMENI",
   "fPSILI AND VARIA AND YPOGEGRAMMENI;fDASIA AND VARIA AND YPOGEGRAMMENI",
   "fPSILI AND OXIA AND YPOGEGRAMMENI;fDASIA AND OXIA AND YPOGEGRAMMENI",
   "fPSILI AND PERISPOMENI AND YPOGEGRAMMENI;fDASIA AND PERISPOMENI AND YPOGEGRAMMENI",
   "bCAPITAL LETTER ETA WITH PSILI AND PROSGEGRAMMENI;fDASIA AND PROSGEGRAMMENI",
   "fPSILI AND VARIA AND PROSGEGRAMMENI;fDASIA AND VARIA AND PROSGEGRAMMENI",
   "fPSILI AND OXIA AND PROSGEGRAMMENI;fDASIA AND OXIA AND PROSGEGRAMMENI",
   "fPSILI AND PERISPOMENI AND PROSGEGRAMMENI;fDASIA AND PERISPOMENI AND PROSGEGRAMMENI",
   "bSMALL LETTER OMEGA WITH PSILI AND YPOGEGRAMMENI;fDASIA AND YPOGEGRAMMENI",
   "fPSILI AND VARIA AND YPOGEGRAMMENI;fDASIA AND VARIA AND YPOGEGRAMMENI",
   "fPSILI AND OXIA AND YPOGEGRAMMENI;fDASIA AND OXIA AND YPOGEGRAMMENI",
   "fPSILI AND PERISPOMENI AND YPOGEGRAMMENI;fDASIA AND PERISPOMENI AND YPOGEGRAMMENI",
   "bCAPITAL LETTER OMEGA WITH PSILI AND PROSGEGRAMMENI;fDASIA AND PROSGEGRAMMENI",
   "fPSILI AND VARIA AND PROSGEGRAMMENI;fDASIA AND VARIA AND PROSGEGRAMMENI",
   "fPSILI AND OXIA AND PROSGEGRAMMENI;fDASIA AND OXIA AND PROSGEGRAMMENI",
   "fPSILI AND PERISPOMENI AND PROSGEGRAMMENI;fDASIA AND PERISPOMENI AND PROSGEGRAMMENI",
   "bSMALL LETTER ALPHA WITH VRACHY;fMACRON;fVARIA AND YPOGEGRAMMENI;fYPOGEGRAMMENI",
   "fOXIA AND YPOGEGRAMMENI;1FB6:fPERISPOMENI;gAND YPOGEGRAMMENI",
   "bCAPITAL LETTER ALPHA WITH VRACHY;fMACRON;fVARIA;fOXIA;fPROSGEGRAMMENI;bKORONIS",
   "bPROSGEGRAMMENI;bPSILI;bPERISPOMENI;bDIALYTIKA AND PERISPOMENI",
   "bSMALL LETTER ETA WITH VARIA AND YPOGEGRAMMENI;fYPOGEGRAMMENI;fOXIA AND YPOGEGRAMMENI",
   "1FC6:fPERISPOMENI;gAND YPOGEGRAMMENI;bCAPITAL LETTER EPSILON WITH VARIA;fOXIA",
   "dETA WITH VARIA;fOXIA;fPROSGEGRAMMENI;bPSILI AND VARIA;dOXIA;dPERISPOMENI",
   "bSMALL LETTER IOTA WITH VRACHY;fMACRON;fDIALYTIKA AND VARIA;hOXIA;1FD6:fPERISPOMENI",
   "fDIALYTIKA AND PERISPOMENI;bCAPITAL LETTER IOTA WITH VRACHY;fMACRON;fVARIA;fOXIA",
   "1FDD:bDASIA AND VARIA;dOXIA;dPERISPOMENI;bSMALL LETTER UPSILON WITH VRACHY;fMACRON",
   "fDIALYTIKA AND VARIA;hOXIA;dRHO WITH PSILI;fDASIA;dUPSILON WITH PERISPOMENI",
   "fDIALYTIKA AND PERISPOMENI;bCAPITAL LETTER UPSILON WITH VRACHY;fMACRON;fVARIA;fOXIA",
   "dRHO WITH DASIA;bDIALYTIKA AND VARIA;dOXIA;bVARIA",
   "1FF2:bSMALL LETTER OMEGA WITH VARIA AND YPOGEGRAMMENI;fYPOGEGRAMMENI",
   "fOXIA AND YPOGEGRAMMENI;1FF6:fPERISPOMENI;gAND YPOGEGRAMMENI",
   "bCAPITAL LETTER OMICRON WITH VARIA;fOXIA;dOMEGA WITH VARIA;fOXIA;fPROSGEGRAMMENI;bOXIA",
   "bDASIA"]

end SchemaMigration.Text
